/-
Objects on a heap, found through a map of keys.

- `Heap.add`: a pooled object is filled and stored under a key; a key that is there keeps its object;
- `addAll_find`: new keys on unused objects are found as they were filled, and everything else as before; `addAll_objs`:
  no other object is written.
- `view`: what a heap says about its keys, whatever the addresses. `view_of_found` and `view_write` say what becomes of it, and
  `view_rebuild` that it can be had again on other objects.
-/
import Mathlib.Tactic

namespace GameServer.Core

/-- a map of keys to addresses, and the objects -/
structure Heap (κ ν : Type*) where
  cont : κ → Option ℕ
  objs : ℕ → ν

/-- an object to be stored -/
structure Cell (κ ν : Type*) where
  key : κ
  addr : ℕ
  value : ν

namespace Heap

variable {κ ν : Type*} [DecidableEq κ]

def add (h : Heap κ ν) (c : Cell κ ν) : Heap κ ν :=
  ⟨if h.cont c.key = none then Function.update h.cont c.key (some c.addr) else h.cont,
    Function.update h.objs c.addr c.value⟩

def addAll (h : Heap κ ν) (cells : List (Cell κ ν)) : Heap κ ν := cells.foldl add h

/-- a key on an object in use -/
def Found (h : Heap κ ν) (k : κ) (a : ℕ) (v : ν) : Prop := h.cont k = some a ∧ h.objs a = v

/-- new keys, one each, on unused objects, one each -/
structure Fresh (h : Heap κ ν) (cells : List (Cell κ ν)) : Prop where
  keys : (cells.map Cell.key).Nodup
  addrs : (cells.map Cell.addr).Nodup
  new : ∀ c ∈ cells, h.cont c.key = none
  unused : ∀ c ∈ cells, ∀ k, h.cont k ≠ some c.addr

variable {h : Heap κ ν} {c : Cell κ ν} {cells : List (Cell κ ν)} {k : κ} {a : ℕ} {v : ν}

theorem add_found (hnew : h.cont c.key = none) (hunused : ∀ k, h.cont k ≠ some c.addr) :
    (h.add c).Found k a v ↔ h.Found k a v ∨ c.key = k ∧ c.addr = a ∧ c.value = v := by
  unfold add Found
  rw [if_pos hnew]
  dsimp only
  rcases eq_or_ne k c.key with rfl | hk
  · rw [Function.update_self, Option.some.injEq, hnew]
    constructor
    · rintro ⟨rfl, hv⟩
      rw [Function.update_self] at hv
      exact Or.inr ⟨rfl, rfl, hv⟩
    · rintro (⟨hnone, -⟩ | ⟨-, rfl, hv⟩)
      · cases hnone
      · exact ⟨rfl, by rw [Function.update_self, hv]⟩
  · rw [Function.update_of_ne hk]
    have hne : h.cont k = some a → a ≠ c.addr := by
      rintro hka rfl
      exact hunused k hka
    constructor
    · rintro ⟨hka, hv⟩
      rw [Function.update_of_ne (hne hka)] at hv
      exact Or.inl ⟨hka, hv⟩
    · rintro (⟨hka, hv⟩ | ⟨hkey, -⟩)
      · exact ⟨hka, by rw [Function.update_of_ne (hne hka), hv]⟩
      · exact absurd hkey.symm hk

theorem Fresh.tail (hf : Fresh h (c :: cells)) : Fresh (h.add c) cells := by
  obtain ⟨hkey, hkeys⟩ := List.nodup_cons.1 hf.keys
  obtain ⟨haddr, haddrs⟩ := List.nodup_cons.1 hf.addrs
  have hcont : (h.add c).cont = Function.update h.cont c.key (some c.addr) := if_pos (hf.new c List.mem_cons_self)
  refine ⟨hkeys, haddrs, ?_, ?_⟩
  · intro d hd
    have hne : d.key ≠ c.key := fun heq => hkey (heq ▸ List.mem_map_of_mem hd)
    rw [hcont, Function.update_of_ne hne]
    exact hf.new d (List.mem_cons_of_mem c hd)
  · intro d hd k
    rw [hcont]
    rcases eq_or_ne k c.key with rfl | hne
    · rw [Function.update_self]
      intro heq
      exact haddr (Option.some.inj heq ▸ List.mem_map_of_mem hd)
    · rw [Function.update_of_ne hne]
      exact hf.unused d (List.mem_cons_of_mem c hd) k

/-- **Fresh objects are found as they were filled, everything else as before.** -/
theorem addAll_find (hf : Fresh h cells) :
    (h.addAll cells).Found k a v ↔ h.Found k a v ∨ ∃ c ∈ cells, c.key = k ∧ c.addr = a ∧ c.value = v := by
  induction cells generalizing h with
  | nil => simp [addAll]
  | cons c cells ih =>
    have hfirst := add_found (k := k) (a := a) (v := v) (hf.new c List.mem_cons_self) (hf.unused c List.mem_cons_self)
    calc (h.addAll (c :: cells)).Found k a v
        ↔ (h.add c).Found k a v ∨ ∃ d ∈ cells, d.key = k ∧ d.addr = a ∧ d.value = v := ih hf.tail
      _ ↔ h.Found k a v ∨ ∃ d ∈ c :: cells, d.key = k ∧ d.addr = a ∧ d.value = v := by
        rw [hfirst, or_assoc]
        simp

/-- so an address is found under a key if it was, or came with it -/
theorem addAll_cont (hf : Fresh h cells) :
    (h.addAll cells).cont k = some a ↔ h.cont k = some a ∨ (k, a) ∈ cells.map fun c => (c.key, c.addr) := by
  constructor
  · intro hk
    rcases (addAll_find hf).1 ⟨hk, rfl⟩ with ⟨hold, -⟩ | ⟨c, hc, rfl, rfl, -⟩
    · exact Or.inl hold
    · exact Or.inr (List.mem_map_of_mem hc)
  · rintro (hold | hnew)
    · exact ((addAll_find hf).2 (Or.inl ⟨hold, rfl⟩)).1
    · obtain ⟨c, hc, heq⟩ := List.mem_map.1 hnew
      obtain ⟨rfl, rfl⟩ := Prod.mk.inj heq
      exact ((addAll_find hf).2 (Or.inr ⟨c, hc, rfl, rfl, rfl⟩)).1

/-- objects that are not filled are left alone -/
theorem addAll_objs (ha : a ∉ cells.map Cell.addr) : (h.addAll cells).objs a = h.objs a := by
  induction cells generalizing h with
  | nil => rfl
  | cons c cells ih =>
    rw [List.map_cons, List.mem_cons, not_or] at ha
    calc (h.addAll (c :: cells)).objs a = (h.add c).objs a := ih ha.2
      _ = h.objs a := Function.update_of_ne ha.1 _ _

/-! ## Heaps up to addresses -/

section View

variable {μ : Type*} {h' : Heap κ ν} {f : ν → μ} {w : μ}

/-- what is found under a key, as far as `f` tells -/
def view (h : Heap κ ν) (f : ν → μ) (k : κ) : Option μ := (h.cont k).map fun a => f (h.objs a)

omit [DecidableEq κ] in
theorem view_eq_some : h.view f k = some w ↔ ∃ a v, h.Found k a v ∧ f v = w := by
  rw [view, Option.map_eq_some_iff]
  constructor
  · rintro ⟨a, hk, hw⟩
    exact ⟨a, h.objs a, ⟨hk, rfl⟩, hw⟩
  · rintro ⟨a, v, ⟨hk, rfl⟩, hw⟩
    exact ⟨a, hk, hw⟩

omit [DecidableEq κ] in
/-- what new cells add to the view -/
theorem view_of_found (hfound : ∀ k a v, h'.Found k a v ↔
      h.Found k a v ∨ ∃ c ∈ cells, c.key = k ∧ c.addr = a ∧ c.value = v) :
    h'.view f k = some w ↔ h.view f k = some w ∨ (k, w) ∈ cells.map fun c => (c.key, f c.value) := by
  rw [view_eq_some, view_eq_some, List.mem_map]
  constructor
  · rintro ⟨a, v, hnew, rfl⟩
    rcases (hfound k a v).1 hnew with hold | ⟨c, hc, rfl, -, rfl⟩
    · exact Or.inl ⟨a, v, hold, rfl⟩
    · exact Or.inr ⟨c, hc, rfl⟩
  · rintro (⟨a, v, hold, rfl⟩ | ⟨c, hc, heq⟩)
    · exact ⟨a, v, (hfound k a v).2 (Or.inl hold), rfl⟩
    · obtain ⟨rfl, rfl⟩ := Prod.mk.inj heq
      exact ⟨c.addr, c.value, (hfound _ _ _).2 (Or.inr ⟨c, hc, rfl, rfl, rfl⟩), rfl⟩

/-- **A heap is rebuilt from the list of what it holds**, on any objects. -/
theorem view_rebuild {objs : ℕ → ν} (hkeys : (cells.map Cell.key).Nodup) (haddrs : (cells.map Cell.addr).Nodup)
    (hall : ∀ k w, (k, w) ∈ cells.map (fun c => (c.key, f c.value)) ↔ h.view f k = some w) :
    ((Heap.mk (fun _ => none) objs).addAll cells).view f = h.view f := by
  have hf : Fresh (Heap.mk (fun _ : κ => none) objs) cells := ⟨hkeys, haddrs, by simp, by simp⟩
  funext k
  refine Option.ext fun w => ?_
  rw [view_of_found fun _ _ _ => addAll_find hf, hall]
  exact or_iff_right fun hnone => by cases hnone

/-- an object of one key is written -/
theorem view_write (hone : ∀ k k' a, h.cont k = some a → h.cont k' = some a → k = k') (hk : h.cont k = some a) :
    (Heap.mk h.cont (Function.update h.objs a v)).view f = Function.update (h.view f) k (some (f v)) := by
  funext k'
  rcases eq_or_ne k' k with rfl | hne
  · simp [view, hk]
  · rw [Function.update_of_ne hne, view, view]
    refine Option.map_congr fun a' hk' => ?_
    have ha : a' ≠ a := by
      rintro rfl
      exact hne (hone k' k a' hk' hk)
    dsimp only
    rw [Function.update_of_ne ha]

end View

end Heap

end GameServer.Core
