/-
Step machines whose finite set of keys only grows.

`adds s o` is the key that operation `o` adds in state `s`, if any.
- `Growth`: a step adds that key, which is new, and drops none.
- `Growth.card_run`: a run ends with as many keys as it started with and has added.
- `Growth.free_run_iff`, `Growth.free_iff`: as long as the keys come from a finite range, the last state of a run, and so
  every state of it, has a free key of the range exactly if the run adds fewer keys than there are.
-/
import GameServer.Core.Run

namespace GameServer.Core

variable {σ ο κ : Type*} [DecidableEq κ]

structure Growth (step : σ → ο → σ) (keys : σ → Finset κ) (adds : σ → ο → Option κ) : Prop where
  same : ∀ s o, adds s o = none → keys (step s o) = keys s
  insert : ∀ s o k, adds s o = some k → keys (step s o) = Insert.insert k (keys s)
  fresh : ∀ s o k, adds s o = some k → k ∉ keys s

/-- the number of keys that a run adds -/
def added (step : σ → ο → σ) (adds : σ → ο → Option κ) : σ → List ο → ℕ
  | _, [] => 0
  | s, o :: ops => (if (adds s o).isSome then 1 else 0) + added step adds (step s o) ops

omit [DecidableEq κ] in
theorem added_append (step : σ → ο → σ) (adds : σ → ο → Option κ) (s : σ) (a b : List ο) :
    added step adds s (a ++ b) = added step adds s a + added step adds (run step s a) b := by
  induction a generalizing s with
  | nil => simp [added]
  | cons o a ih =>
    rw [List.cons_append, added, added, ih, run_cons]
    omega

omit [DecidableEq κ] in
theorem added_take_le (step : σ → ο → σ) (adds : σ → ο → Option κ) (s : σ) (ops : List ο) (n : ℕ) :
    added step adds s (ops.take n) ≤ added step adds s ops := by
  calc added step adds s (ops.take n)
      ≤ added step adds s (ops.take n) + added step adds (run step s (ops.take n)) (ops.drop n) := Nat.le_add_right _ _
    _ = added step adds s ops := by rw [← added_append, List.take_append_drop]

omit [DecidableEq κ] in
/-- a free key of a finite range is left exactly below its size -/
theorem exists_free_iff {keys range : Finset κ} (h : keys ⊆ range) :
    (∃ k ∈ range, k ∉ keys) ↔ keys.card < range.card := by
  constructor
  · intro ⟨k, hk, hfree⟩
    exact Finset.card_lt_card ((Finset.ssubset_iff_of_subset h).2 ⟨k, hk, hfree⟩)
  · exact Finset.exists_mem_notMem_of_card_lt_card

namespace Growth

variable {step : σ → ο → σ} {keys : σ → Finset κ} {adds : σ → ο → Option κ}

theorem card_step (h : Growth step keys adds) (s : σ) (o : ο) :
    (keys (step s o)).card = (keys s).card + if (adds s o).isSome then 1 else 0 := by
  cases ho : adds s o with
  | none =>
    rw [h.same s o ho]
    rfl
  | some k =>
    rw [h.insert s o k ho, Finset.card_insert_of_notMem (h.fresh s o k ho)]
    rfl

theorem card_run (h : Growth step keys adds) (s : σ) (ops : List ο) :
    (keys (run step s ops)).card = (keys s).card + added step adds s ops := by
  induction ops generalizing s with
  | nil => rfl
  | cons o ops ih =>
    rw [run_cons, ih, h.card_step, added]
    exact Nat.add_assoc _ _ _

theorem subset_step (h : Growth step keys adds) {range : Finset κ} (hrange : ∀ s o k, adds s o = some k → k ∈ range)
    (s : σ) (o : ο) (hs : keys s ⊆ range) : keys (step s o) ⊆ range := by
  cases ho : adds s o with
  | none =>
    rw [h.same s o ho]
    exact hs
  | some k =>
    rw [h.insert s o k ho]
    exact Finset.insert_subset (hrange s o k ho) hs

theorem subset_run (h : Growth step keys adds) {range : Finset κ} (hrange : ∀ s o k, adds s o = some k → k ∈ range)
    {s : σ} (hs : keys s ⊆ range) (ops : List ο) : keys (run step s ops) ⊆ range :=
  run_inv_all (h.subset_step hrange) hs ops

theorem free_run_iff (h : Growth step keys adds) {range : Finset κ} (hrange : ∀ s o k, adds s o = some k → k ∈ range)
    {s : σ} (hs : keys s ⊆ range) (ops : List ο) :
    (∃ k ∈ range, k ∉ keys (run step s ops)) ↔ (keys s).card + added step adds s ops < range.card := by
  rw [exists_free_iff (h.subset_run hrange hs ops), h.card_run]

/-- **A run always has a free key exactly if it adds fewer keys than the range has left.** -/
theorem free_iff (h : Growth step keys adds) {range : Finset κ} (hrange : ∀ s o k, adds s o = some k → k ∈ range)
    {s : σ} (hs : keys s ⊆ range) (ops : List ο) :
    (∀ n, ∃ k ∈ range, k ∉ keys (run step s (ops.take n))) ↔ (keys s).card + added step adds s ops < range.card := by
  constructor
  · intro hall
    have hlast := (h.free_run_iff hrange hs _).1 (hall ops.length)
    rwa [List.take_length] at hlast
  · intro hlt n
    have hle := added_take_le step adds s ops n
    exact (h.free_run_iff hrange hs _).2 (by omega)

end Growth

end GameServer.Core
