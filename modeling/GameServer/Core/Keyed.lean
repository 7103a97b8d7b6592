/-
Lists of records with a key, searched and updated through the first record of a key.

With distinct keys an update is a map over the whole list (`modify_eq_map`), and a search finds exactly the member with
the key (`find_eq_some`). Idempotent updates of a list of keys are one map (`foldl_modify_eq_map`).

What is made of some of the records, one each, has their keys in their order (`keys_filterMap`).

`SameBut`: a change that moves nothing and touches only records with a named key. An update is one (`sameBut_modify`), and
so are loops of such changes.
-/
import Mathlib.Tactic

namespace GameServer.Core.Keyed

variable {α κ : Type*} [DecidableEq κ] (key : α → κ)

/-- the first record of a key -/
def find (k : κ) (l : List α) : Option α := l.find? fun a => key a = k

/-- rewrite the first record of a key -/
def modify (k : κ) (f : α → α) : List α → List α
  | [] => []
  | a :: l => if key a = k then f a :: l else a :: modify k f l

variable {key}

theorem find_cons (k : κ) (a : α) (l : List α) : find key k (a :: l) = if key a = k then some a else find key k l := by
  by_cases h : key a = k <;> simp [find, h]

theorem find_some {l : List α} {k : κ} {a : α} (h : find key k l = some a) : a ∈ l ∧ key a = k :=
  ⟨List.mem_of_find?_eq_some h, by simpa using List.find?_some h⟩

theorem find_eq_some {l : List α} (hnd : (l.map key).Nodup) {k : κ} {a : α} :
    find key k l = some a ↔ a ∈ l ∧ key a = k := by
  refine ⟨find_some, ?_⟩
  rintro ⟨hmem, hkey⟩
  cases hfind : find key k l with
  | none => exact absurd (decide_eq_true hkey) (List.find?_eq_none.1 hfind a hmem)
  | some a' =>
    obtain ⟨hmem', hkey'⟩ := find_some hfind
    exact congrArg some (List.inj_on_of_nodup_map hnd hmem' hmem (hkey'.trans hkey.symm))

theorem find_eq_none {l : List α} {k : κ} : find key k l = none ↔ k ∉ l.map key := by
  simp [find, List.find?_eq_none]

theorem find_map {l : List α} (f : α → α) (hf : ∀ a, key (f a) = key a) (k : κ) :
    find key k (l.map f) = (find key k l).map f := by
  unfold find
  rw [List.find?_map]
  congr 1
  congr 1
  funext a
  simp [hf]

/-- what an update keeps of a record, it keeps of the list -/
theorem map_modify (key : α → κ) {β : Type*} {g : α → β} {f : α → α} (hf : ∀ a, g (f a) = g a) (k : κ) (l : List α) :
    (modify key k f l).map g = l.map g := by
  induction l with
  | nil => rfl
  | cons a l ih =>
    unfold modify
    split_ifs
    · rw [List.map_cons, List.map_cons, hf]
    · rw [List.map_cons, List.map_cons, ih]

/-- a search and a write of the found record -/
theorem modify_found {l : List α} {k : κ} {a : α} (h : find key k l = some a) (f : α → α) :
    modify key k (fun _ => f a) l = modify key k f l := by
  induction l with
  | nil => rfl
  | cons b l ih =>
    rw [find_cons] at h
    unfold modify
    split_ifs at h ⊢ with hb
    · rw [Option.some.inj h]
    · rw [ih h]

theorem modify_absent {l : List α} {k : κ} (h : find key k l = none) (f : α → α) : modify key k f l = l := by
  induction l with
  | nil => rfl
  | cons b l ih =>
    rw [find_cons] at h
    unfold modify
    split_ifs at h ⊢ with hb
    rw [ih h]

omit [DecidableEq κ] in
theorem keys_map (f : α → α) (hf : ∀ a, key (f a) = key a) (l : List α) : (l.map f).map key = l.map key := by
  rw [List.map_map]
  exact List.map_congr_left fun a _ => hf a

theorem keys_filterMap {β κ' : Type*} {key : α → κ'} {key' : β → κ'} {f : α → Option β}
    (h : ∀ a b, f a = some b → key' b = key a) (l : List α) : ((l.filterMap f).map key').Sublist (l.map key) := by
  induction l with
  | nil => exact List.Sublist.refl _
  | cons a l ih =>
    cases hf : f a with
    | none =>
      rw [List.filterMap_cons_none hf]
      exact ih.cons _
    | some b =>
      rw [List.filterMap_cons_some hf, List.map_cons, List.map_cons, h a b hf]
      exact ih.cons_cons _

theorem modify_eq_map {l : List α} (hnd : (l.map key).Nodup) (k : κ) (f : α → α) :
    modify key k f l = l.map fun a => if key a = k then f a else a := by
  induction l with
  | nil => rfl
  | cons a l ih =>
    obtain ⟨hnotin, hnd'⟩ := List.nodup_cons.1 hnd
    unfold modify
    split_ifs with h
    · -- no other record has this key
      rw [List.map_cons, if_pos h]
      have hrest : (l.map fun a => if key a = k then f a else a) = l.map id :=
        List.map_congr_left fun b hb => if_neg fun hb' => hnotin (List.mem_map.2 ⟨b, hb, hb'.trans h.symm⟩)
      rw [hrest, List.map_id]
    · rw [List.map_cons, if_neg h, ih hnd']

/-- a sum over all records after the record of one key has changed -/
theorem sum_map_update {l : List α} (hnd : (l.map key).Nodup) {a : α} (ha : a ∈ l) (f : α → α) (g : α → ℤ) :
    ((l.map fun b => if key b = key a then f b else b).map g).sum = (l.map g).sum - g a + g (f a) := by
  induction l with
  | nil => cases ha
  | cons b l ih =>
    obtain ⟨hnotin, hnd'⟩ := List.nodup_cons.1 hnd
    rcases List.mem_cons.1 ha with rfl | hmem
    · -- the other records keep what they add
      have hrest : (l.map fun b => if key b = key a then f b else b) = l.map id :=
        List.map_congr_left fun b hb => if_neg fun hkey => hnotin (List.mem_map.2 ⟨b, hb, hkey⟩)
      rw [List.map_cons, if_pos rfl, hrest, List.map_id]
      simp only [List.map_cons, List.sum_cons]
      ring
    · have hb : key b ≠ key a := fun hkey => hnotin (hkey ▸ List.mem_map_of_mem hmem)
      rw [List.map_cons, if_neg hb]
      simp only [List.map_cons, List.sum_cons, ih hnd' hmem]
      ring

/-- as many records as keys: every key has its record -/
theorem mem_keys_of_length {l : List α} (hnd : (l.map key).Nodup) {ks : List κ}
    (h : (l.filter fun a => key a ∈ ks).length = ks.length) : ∀ k ∈ ks, k ∈ l.map key := by
  have hfound : ((l.filter fun a => key a ∈ ks).map key).Nodup := hnd.sublist (List.filter_sublist.map key)
  have hsub : (l.filter fun a => key a ∈ ks).map key ⊆ ks := by
    intro k hk
    obtain ⟨a, ha, rfl⟩ := List.mem_map.1 hk
    simpa using (List.mem_filter.1 ha).2
  have hperm : ((l.filter fun a => key a ∈ ks).map key).Perm ks :=
    (hfound.subperm hsub).perm_of_length_le (by rw [List.length_map, h])
  intro k hk
  have hmem : k ∈ (l.filter fun a => key a ∈ ks).map key := hperm.mem_iff.2 hk
  exact (List.filter_sublist.map key).subset hmem

/-! ## A search after a change -/

theorem find_modify {l : List α} {f : α → α} (hf : ∀ a, key (f a) = key a) (k k' : κ) :
    find key k' (modify key k f l) = if k' = k then (find key k l).map f else find key k' l := by
  induction l with
  | nil => simp [modify, find]
  | cons a l ih =>
    unfold modify
    by_cases ha : key a = k
    · rw [if_pos ha, find_cons, find_cons, find_cons, hf, ha]
      by_cases hk : k' = k
      · simp [hk]
      · simp [hk, Ne.symm hk]
    · rw [if_neg ha, find_cons, ih, find_cons, find_cons, if_neg ha]
      by_cases hk : k' = k
      · subst hk
        simp [ha]
      · simp [hk]

theorem mem_modify {l : List α} {k : κ} {f : α → α} {b : α} (h : b ∈ modify key k f l) :
    b ∈ l ∨ ∃ a ∈ l, key a = k ∧ b = f a := by
  induction l with
  | nil => cases h
  | cons a l ih =>
    unfold modify at h
    split_ifs at h with ha
    · rcases List.mem_cons.1 h with rfl | hmem
      · exact Or.inr ⟨a, List.mem_cons_self, ha, rfl⟩
      · exact Or.inl (List.mem_cons_of_mem a hmem)
    · rcases List.mem_cons.1 h with rfl | hmem
      · exact Or.inl List.mem_cons_self
      · rcases ih hmem with hold | ⟨a', ha', hkey, hb⟩
        · exact Or.inl (List.mem_cons_of_mem a hold)
        · exact Or.inr ⟨a', List.mem_cons_of_mem a ha', hkey, hb⟩

theorem find_filter_ne (l : List α) (k k' : κ) :
    find key k' (l.filter fun a => key a ≠ k) = if k' = k then none else find key k' l := by
  induction l with
  | nil => simp [find]
  | cons a l ih =>
    rw [find_cons, List.filter_cons]
    by_cases ha : key a = k
    · have hdrop : decide (key a ≠ k) = false := by simp [ha]
      rw [hdrop, if_neg Bool.false_ne_true, ih, ha]
      split_ifs with hk hk'
      · rfl
      · exact absurd hk'.symm hk
      · rfl
    · have hkeep : decide (key a ≠ k) = true := by simp [ha]
      rw [hkeep, if_pos rfl, find_cons, ih]
      split_ifs with hak hk
      · exact absurd (hak.trans hk) ha
      · rfl
      · rfl
      · rfl

theorem find_append_singleton (l : List α) (a : α) (k : κ) :
    find key k (l ++ [a]) = (find key k l).or (if key a = k then some a else none) := by
  unfold find
  rw [List.find?_append, List.find?_singleton]
  simp

/-- idempotent updates of a list of keys, in any order and with repetitions -/
theorem foldl_modify_eq_map (f : α → α) (hkey : ∀ a, key (f a) = key a) (hf : ∀ a, f (f a) = f a) {l : List α}
    (hnd : (l.map key).Nodup) (ks : List κ) :
    ks.foldl (fun l k => modify key k f l) l = l.map fun a => if key a ∈ ks then f a else a := by
  induction ks generalizing l with
  | nil => simp
  | cons k ks ih =>
    have hkeys : (modify key k f l).map key = l.map key := map_modify key hkey k l
    rw [List.foldl_cons, ih (hkeys.symm ▸ hnd), modify_eq_map hnd, List.map_map]
    apply List.map_congr_left
    intro a _
    by_cases hk : key a = k
    · by_cases hks : k ∈ ks <;> simp [hk, hkey, hks, hf]
    · simp [hk]

/-! ## What a change leaves -/

/-- the same keys in the same places, and every record whose key is not named is the old one -/
structure SameBut (key : α → κ) (named : List κ) (l l' : List α) : Prop where
  keys : l'.map key = l.map key
  other : ∀ (i : ℕ) (a : α), l[i]? = some a → key a ∉ named → l'[i]? = some a

namespace SameBut

variable {named named' : List κ} {l l' l'' : List α}

omit [DecidableEq κ]

theorem refl (key : α → κ) (named : List κ) (l : List α) : SameBut key named l l := ⟨rfl, fun _ _ ha _ => ha⟩

theorem trans (h : SameBut key named l l') (h' : SameBut key named l' l'') : SameBut key named l l'' :=
  ⟨h'.keys.trans h.keys, fun i a ha hkey => h'.other i a (h.other i a ha hkey) hkey⟩

theorem mono (h : SameBut key named l l') (hsub : ∀ k ∈ named, k ∈ named') : SameBut key named' l l' :=
  ⟨h.keys, fun i a ha hkey => h.other i a ha fun hmem => hkey (hsub _ hmem)⟩

theorem of_mem {k : κ} (h : SameBut key [k] l l') (hk : k ∈ named) : SameBut key named l l' :=
  h.mono fun _ hk' => List.mem_singleton.1 hk' ▸ hk

/-- a loop of changes to a list inside a state -/
theorem foldl {σ β : Type*} (list : σ → List α) {step : σ → β → σ} (bs : List β)
    (hstep : ∀ b ∈ bs, ∀ s, SameBut key named (list s) (list (step s b))) (s : σ) :
    SameBut key named (list s) (list (bs.foldl step s)) := by
  induction bs generalizing s with
  | nil => exact refl key named (list s)
  | cons b bs ih =>
    have hrest := ih (fun b' hb' => hstep b' (List.mem_cons_of_mem b hb')) (step s b)
    exact (hstep b List.mem_cons_self s).trans hrest

end SameBut

theorem sameBut_modify {f : α → α} (hf : ∀ a, key (f a) = key a) (k : κ) (l : List α) :
    SameBut key [k] l (modify key k f l) := by
  refine ⟨map_modify key hf k l, ?_⟩
  induction l with
  | nil =>
    intro i a ha
    cases ha
  | cons b l ih =>
    intro i a ha hkey
    unfold modify
    cases i with
    | zero =>
      obtain rfl := Option.some.inj ha
      rw [if_neg fun hb => hkey (List.mem_singleton.2 hb)]
      rfl
    | succ i =>
      split_ifs
      · exact ha
      · exact ih i a ha hkey

end GameServer.Core.Keyed
