/-
Requests that read in one step and write in a later one, while other steps come in between.

- `Phase`, `phaseStep`: `read a` leaves an intent, `write i` carries out the i-th intent and drops it;
- `phase_inv`: the invariant rule. An intent is good for the store it was read from, and stays good whatever else is
  written in the meantime;
- `request`: both in one step.
-/
import Mathlib.Tactic
import GameServer.Core.Run

namespace GameServer.Core

variable {σ α ω ο : Type*}

/-- a store, and the intents read from it and not yet written -/
structure Open (σ ω : Type*) where
  store : σ
  pending : List ω

inductive Phase (α ο : Type*) where
  | read (a : α)
  | write (i : ℕ)
  | other (o : ο)

section

variable (read : σ → α → Option ω) (write : σ → ω → σ) (other : σ → ο → σ)

def phaseStep (h : Open σ ω) : Phase α ο → Open σ ω
  | .read a =>
    match read h.store a with
    | none => h
    | some w => { h with pending := h.pending ++ [w] }
  | .write i =>
    match h.pending[i]? with
    | none => h
    | some w => ⟨write h.store w, h.pending.eraseIdx i⟩
  | .other o => { h with store := other h.store o }

/-- a request in one step -/
def request (s : σ) (a : α) : σ :=
  match read s a with
  | none => s
  | some w => write s w

end

variable {read : σ → α → Option ω} {write : σ → ω → σ} {other : σ → ο → σ}

/-- the store is in order, and so are the intents -/
def InOrder (I : σ → Prop) (J : σ → ω → Prop) (h : Open σ ω) : Prop := I h.store ∧ ∀ w ∈ h.pending, J h.store w

theorem InOrder.step {I : σ → Prop} {J : σ → ω → Prop} (hread : ∀ s a w, I s → read s a = some w → J s w)
    (hwrite : ∀ s w, I s → J s w → I (write s w) ∧ ∀ w', J s w' → J (write s w) w')
    (hother : ∀ s o, I s → I (other s o) ∧ ∀ w', J s w' → J (other s o) w') {h : Open σ ω} (hI : InOrder I J h)
    (o : Phase α ο) : InOrder I J (phaseStep read write other h o) := by
  obtain ⟨hstore, hpending⟩ := hI
  cases o with
  | read a =>
    rw [phaseStep]
    cases hw : read h.store a with
    | none => exact ⟨hstore, hpending⟩
    | some w =>
      refine ⟨hstore, ?_⟩
      intro w' hw'
      rcases List.mem_append.1 hw' with hmem | hmem
      · exact hpending w' hmem
      · rw [List.mem_singleton.1 hmem]
        exact hread _ a w hstore hw
  | write i =>
    rw [phaseStep]
    cases hw : h.pending[i]? with
    | none => exact ⟨hstore, hpending⟩
    | some w =>
      obtain ⟨hI', hJ'⟩ := hwrite h.store w hstore (hpending w (List.mem_of_getElem? hw))
      exact ⟨hI', fun w' hw' => hJ' w' (hpending w' ((List.eraseIdx_sublist _ i).subset hw'))⟩
  | other o =>
    obtain ⟨hI', hJ'⟩ := hother h.store o hstore
    exact ⟨hI', fun w' hw' => hJ' w' (hpending w' hw')⟩

/-- **Invariant rule.** What every write keeps for intents that stay good, every interleaving keeps. -/
theorem phase_inv {I : σ → Prop} {J : σ → ω → Prop} (hread : ∀ s a w, I s → read s a = some w → J s w)
    (hwrite : ∀ s w, I s → J s w → I (write s w) ∧ ∀ w', J s w' → J (write s w) w')
    (hother : ∀ s o, I s → I (other s o) ∧ ∀ w', J s w' → J (other s o) w') {s : σ} (hs : I s)
    (ops : List (Phase α ο)) : InOrder I J (run (phaseStep read write other) ⟨s, []⟩ ops) :=
  run_inv_all (fun _ o hI => hI.step hread hwrite hother o) ⟨hs, by simp⟩ ops

end GameServer.Core
