/-
Heaps of several owners over the same objects, with a pool of the free ones.

An owner finds her objects under keys. What she does may write her objects, take objects out of the pool for new keys, and
give others back (`Heap.Moves`).
- `Depot.Parted`: the pool has no object twice, no object of the pool is anybody's, and no object is under two keys;
- `put_parted`, `put_held`: one owner's move keeps that, and neither loses an object nor makes one;
- `put_objs`: it does not touch the objects of the others.
-/
import Mathlib.Tactic
import GameServer.Core.Heap

namespace GameServer.Core

/-! ## What one owner does -/

namespace Heap

variable {κ μ : Type*} {h h' h'' : Heap κ μ}

/-- only owned objects are written -/
structure Writes (h h' : Heap κ μ) : Prop where
  cont : h'.cont = h.cont
  objs : ∀ a, (∀ k, h.cont k ≠ some a) → h'.objs a = h.objs a

/-- objects of `taken` come under new keys, those of `given` go, and only these and owned ones are written -/
structure Moves (h h' : Heap κ μ) (taken : List (κ × ℕ)) (given : List ℕ) : Prop where
  cont : ∀ k a, h'.cont k = some a ↔ h.cont k = some a ∧ a ∉ given ∨ (k, a) ∈ taken
  objs : ∀ a, (∀ k, h.cont k ≠ some a) → a ∉ taken.map Prod.snd → h'.objs a = h.objs a
  taken_nodup : (taken.map Prod.snd).Nodup
  given_nodup : given.Nodup
  given_own : ∀ a ∈ given, ∃ k, h.cont k = some a

theorem Writes.refl (h : Heap κ μ) : Writes h h := ⟨rfl, fun _ _ => rfl⟩

theorem Writes.trans (hw : Writes h h') (hw' : Writes h' h'') : Writes h h'' := by
  refine ⟨hw'.cont.trans hw.cont, fun a ha => ?_⟩
  have ha' : ∀ k, h'.cont k ≠ some a := by rwa [hw.cont]
  exact (hw'.objs a ha').trans (hw.objs a ha)

/-- one of the owned objects is written -/
theorem Writes.set {k : κ} {a : ℕ} (hk : h.cont k = some a) (w : μ) : Writes h ⟨h.cont, Function.update h.objs a w⟩ := by
  refine ⟨rfl, fun b hb => Function.update_of_ne ?_ _ _⟩
  rintro rfl
  exact hb k hk

/-- writes, and then a move -/
theorem Writes.moves (hw : Writes h h') {taken : List (κ × ℕ)} {given : List ℕ} (hm : Moves h' h'' taken given) :
    Moves h h'' taken given := by
  refine ⟨fun k a => ?_, fun a ha htaken => ?_, hm.taken_nodup, hm.given_nodup, fun a ha => ?_⟩
  · rw [hm.cont, hw.cont]
  · have ha' : ∀ k, h'.cont k ≠ some a := by rwa [hw.cont]
    exact (hm.objs a ha' htaken).trans (hw.objs a ha)
  · rw [← hw.cont]
    exact hm.given_own a ha

theorem Moves.refl (h : Heap κ μ) : Moves h h [] [] :=
  ⟨fun k a => by simp, fun _ _ _ => rfl, List.nodup_nil, List.nodup_nil, by simp⟩

/-- objects are given back one after another -/
theorem Moves.append {given given' : List ℕ} (hm : Moves h h' [] given) (hm' : Moves h' h'' [] given') :
    Moves h h'' [] (given ++ given') := by
  have hold : ∀ {k a}, h'.cont k = some a ↔ h.cont k = some a ∧ a ∉ given := fun {k a} => by simp [hm.cont]
  refine ⟨fun k a => ?_, fun a ha htaken => ?_, List.nodup_nil, ?_, fun a ha => ?_⟩
  · rw [hm'.cont, hold, List.mem_append, not_or, and_assoc]
  · have ha' : ∀ k, h'.cont k ≠ some a := fun k hk => ha k (hold.1 hk).1
    exact (hm'.objs a ha' htaken).trans (hm.objs a ha htaken)
  · refine hm.given_nodup.append hm'.given_nodup fun a ha ha' => ?_
    obtain ⟨k, hk⟩ := hm'.given_own a ha'
    exact (hold.1 hk).2 ha
  · rcases List.mem_append.1 ha with hfirst | hsecond
    · exact hm.given_own a hfirst
    · obtain ⟨k, hk⟩ := hm'.given_own a hsecond
      exact ⟨k, (hold.1 hk).1⟩

/-- new objects are filled -/
theorem Fresh.moves [DecidableEq κ] {cells : List (Cell κ μ)} (hf : Fresh h cells) :
    Moves h (h.addAll cells) (cells.map fun c => (c.key, c.addr)) [] := by
  have haddrs : (cells.map fun c => (c.key, c.addr)).map Prod.snd = cells.map Cell.addr := by
    rw [List.map_map]
    rfl
  refine ⟨fun k a => ?_, fun a _ htaken => addAll_objs (haddrs ▸ htaken), haddrs ▸ hf.addrs, List.nodup_nil, by simp⟩
  rw [addAll_cont hf]
  simp

/-- no object under two keys -/
def Single (h : Heap κ μ) : Prop := ∀ k k' a, h.cont k = some a → h.cont k' = some a → k = k'

/-- one object is given back -/
theorem Moves.erase [DecidableEq κ] (hone : Single h) {k : κ} {a : ℕ} (hk : h.cont k = some a) :
    Moves h ⟨Function.update h.cont k none, h.objs⟩ [] [a] := by
  refine ⟨fun k' b => ?_, fun _ _ _ => rfl, List.nodup_nil, List.nodup_singleton a, fun b hb => ?_⟩
  · rcases eq_or_ne k' k with rfl | hne
    · simp only [Function.update_self, reduceCtorEq, List.mem_singleton, List.not_mem_nil, or_false, false_iff, not_and,
        not_not]
      exact fun hb => Option.some.inj (hb.symm.trans hk)
    · have hother : h.cont k' = some b → b ≠ a := by
        rintro hb rfl
        exact hne (hone k' k b hb hk)
      simp only [Function.update_of_ne hne, List.mem_singleton, List.not_mem_nil, or_false]
      exact ⟨fun hb => ⟨hb, hother hb⟩, And.left⟩
  · obtain rfl := List.mem_singleton.1 hb
    exact ⟨k, hk⟩

/-- all objects are given back -/
theorem Moves.clear {keys : List κ} (hone : Single h) (hkeys : keys.Nodup) (hall : ∀ k, k ∈ keys ↔ h.cont k ≠ none) :
    Moves h ⟨fun _ => none, h.objs⟩ [] (keys.filterMap h.cont) := by
  refine ⟨fun k a => ?_, fun _ _ _ => rfl, List.nodup_nil, ?_, fun a ha => ?_⟩
  · have hgone : h.cont k = some a → a ∈ keys.filterMap h.cont := fun hk =>
      List.mem_filterMap.2 ⟨k, (hall k).2 (by simp [hk]), hk⟩
    simp only [reduceCtorEq, List.not_mem_nil, or_false, false_iff, not_and, not_not]
    exact hgone
  · refine hkeys.filterMap fun k k' a hk hk' => hone k k' a ?_ ?_
    · exact hk
    · exact hk'
  · obtain ⟨k, -, hk⟩ := List.mem_filterMap.1 ha
    exact ⟨k, hk⟩

end Heap

/-! ## All owners -/

/-- what each owner has under her keys, the objects, and the free ones among them -/
structure Depot (ν κ μ : Type*) where
  own : ν → κ → Option ℕ
  objs : ℕ → μ
  pool : List ℕ

namespace Depot

variable {ν κ μ : Type*}

/-- the heap of one owner -/
def heap (d : Depot ν κ μ) (v : ν) : Heap κ μ := ⟨d.own v, d.objs⟩

/-- the heap of `v` after a move -/
def put [DecidableEq ν] (d : Depot ν κ μ) (v : ν) (h : Heap κ μ) (taken : List (κ × ℕ)) (given : List ℕ) : Depot ν κ μ :=
  ⟨Function.update d.own v h.cont, h.objs, d.pool.filter (fun a => a ∉ taken.map Prod.snd) ++ given⟩

/-- the object is free or somebody's -/
def Held (d : Depot ν κ μ) (a : ℕ) : Prop := a ∈ d.pool ∨ ∃ v k, d.own v k = some a

structure Parted (d : Depot ν κ μ) : Prop where
  pool : d.pool.Nodup
  free : ∀ a ∈ d.pool, ∀ v k, d.own v k ≠ some a
  once : ∀ v v' k k' a, d.own v k = some a → d.own v' k' = some a → v = v' ∧ k = k'

variable {d : Depot ν κ μ} {v : ν} {h : Heap κ μ} {taken : List (κ × ℕ)} {given : List ℕ}

/-- an object of somebody is not taken -/
theorem Parted.not_taken (hp : d.Parted) (hfree : ∀ t ∈ taken, t.2 ∈ d.pool) {x : ν} {k : κ} {a : ℕ}
    (hx : d.own x k = some a) : a ∉ taken.map Prod.snd := by
  intro hmem
  obtain ⟨t, ht, rfl⟩ := List.mem_map.1 hmem
  exact hp.free t.2 (hfree t ht) x k hx

variable [DecidableEq ν]

@[simp] theorem put_own_self : (d.put v h taken given).own v = h.cont := Function.update_self ..

@[simp] theorem put_own_of_ne {x : ν} (hne : x ≠ v) : (d.put v h taken given).own x = d.own x :=
  Function.update_of_ne hne ..

theorem mem_put_pool {a : ℕ} : a ∈ (d.put v h taken given).pool ↔ a ∈ d.pool ∧ a ∉ taken.map Prod.snd ∨ a ∈ given := by
  rw [put, List.mem_append, List.mem_filter, decide_eq_true_eq]

/-- what an owner has after the move she had before, or has taken -/
theorem put_own (hm : (d.heap v).Moves h taken given) (hp : d.Parted) {x : ν} {k : κ} {a : ℕ} :
    (d.put v h taken given).own x k = some a ↔ d.own x k = some a ∧ a ∉ given ∨ x = v ∧ (k, a) ∈ taken := by
  rcases eq_or_ne x v with rfl | hne
  · rw [put_own_self, hm.cont]
    simp [heap]
  · rw [put_own_of_ne hne]
    have hgiven : d.own x k = some a → a ∉ given := by
      intro hx hmem
      obtain ⟨k', hk'⟩ := hm.given_own a hmem
      exact hne (hp.once x v k k' a hx hk').1
    constructor
    · intro hx
      exact Or.inl ⟨hx, hgiven hx⟩
    · rintro (⟨hx, -⟩ | ⟨heq, -⟩)
      · exact hx
      · exact absurd heq hne

/-- **A move keeps the objects apart.** -/
theorem put_parted (hm : (d.heap v).Moves h taken given) (hp : d.Parted) (hfree : ∀ t ∈ taken, t.2 ∈ d.pool) :
    (d.put v h taken given).Parted := by
  have hnew : ∀ {k a}, (k, a) ∈ taken → a ∈ taken.map Prod.snd := fun hmem => List.mem_map_of_mem (f := Prod.snd) hmem
  refine ⟨?_, ?_, ?_⟩
  · rw [put]
    refine (hp.pool.filter _).append hm.given_nodup fun a hpool hgiven => ?_
    obtain ⟨k, hk⟩ := hm.given_own a hgiven
    exact hp.free a (List.mem_filter.1 hpool).1 v k hk
  · intro a ha x k hx
    rcases mem_put_pool.1 ha with ⟨hpool, htaken⟩ | hgiven
    · rcases (put_own hm hp).1 hx with ⟨hold, -⟩ | ⟨-, hmem⟩
      · exact hp.free a hpool x k hold
      · exact htaken (hnew hmem)
    · rcases (put_own hm hp).1 hx with ⟨-, hnot⟩ | ⟨-, hmem⟩
      · exact hnot hgiven
      · obtain ⟨k', hk'⟩ := hm.given_own a hgiven
        exact hp.not_taken hfree (x := v) hk' (hnew hmem)
  · intro x x' k k' a hx hx'
    rcases (put_own hm hp).1 hx with ⟨hold, -⟩ | ⟨rfl, hmem⟩
    · rcases (put_own hm hp).1 hx' with ⟨hold', -⟩ | ⟨-, hmem'⟩
      · exact hp.once x x' k k' a hold hold'
      · exact absurd (hnew hmem') (hp.not_taken hfree hold)
    · rcases (put_own hm hp).1 hx' with ⟨hold', -⟩ | ⟨rfl, hmem'⟩
      · exact absurd (hnew hmem) (hp.not_taken hfree hold')
      · have heq : (k, a) = (k', a) := List.inj_on_of_nodup_map hm.taken_nodup hmem hmem' rfl
        exact ⟨rfl, congrArg Prod.fst heq⟩

/-- **No object is lost, and none is made.** -/
theorem put_held (hm : (d.heap v).Moves h taken given) (hp : d.Parted) (hfree : ∀ t ∈ taken, t.2 ∈ d.pool) (a : ℕ) :
    (d.put v h taken given).Held a ↔ d.Held a := by
  unfold Held
  constructor
  · rintro (hpool | ⟨x, k, hx⟩)
    · rcases mem_put_pool.1 hpool with ⟨hold, -⟩ | hgiven
      · exact Or.inl hold
      · exact Or.inr ⟨v, hm.given_own a hgiven⟩
    · rcases (put_own hm hp).1 hx with ⟨hold, -⟩ | ⟨rfl, hmem⟩
      · exact Or.inr ⟨x, k, hold⟩
      · exact Or.inl (hfree _ hmem)
  · rintro (hpool | ⟨x, k, hx⟩)
    · by_cases htaken : a ∈ taken.map Prod.snd
      · obtain ⟨⟨k, b⟩, ht, rfl⟩ := List.mem_map.1 htaken
        exact Or.inr ⟨v, k, (put_own hm hp).2 (Or.inr ⟨rfl, ht⟩)⟩
      · exact Or.inl (mem_put_pool.2 (Or.inl ⟨hpool, htaken⟩))
    · by_cases hgiven : a ∈ given
      · exact Or.inl (mem_put_pool.2 (Or.inr hgiven))
      · exact Or.inr ⟨x, k, (put_own hm hp).2 (Or.inl ⟨hx, hgiven⟩)⟩

/-- **The others keep their objects as they are.** -/
theorem put_objs (hm : (d.heap v).Moves h taken given) (hp : d.Parted) (hfree : ∀ t ∈ taken, t.2 ∈ d.pool) {x : ν}
    (hne : x ≠ v) {k : κ} {a : ℕ} (hx : d.own x k = some a) : (d.put v h taken given).objs a = d.objs a := by
  refine hm.objs a (fun k' hk' => ?_) (hp.not_taken hfree hx)
  exact hne (hp.once x v k k' a hx hk').1

end Depot

end GameServer.Core
