/-
The first entry of each key in a list.

`firstOf key seen l` keeps the entries of `l` whose key is not in `seen` and not the key of an earlier entry.
- `mem_map_firstOf`, `nodup_firstOf`: it shows every key once;
- `length_firstOf`, `countP_firstOf`: so it counts keys, and the keys of a kind of entry that the key decides;
- `firstOf_snoc`, `firstOf_filter`: what a new entry and the removal of a key do to it.
-/
import Mathlib.Tactic

namespace GameServer.Core

section

variable {α κ : Type*} [DecidableEq κ] (key : α → κ)

def firstOf (seen : List κ) : List α → List α
  | [] => []
  | a :: l => if key a ∈ seen then firstOf seen l else a :: firstOf (key a :: seen) l

variable {key} {seen : List κ} {l : List α}

theorem firstOf_sublist : (firstOf key seen l).Sublist l := by
  induction l generalizing seen with
  | nil => exact List.Sublist.refl _
  | cons a l ih =>
    rw [firstOf]
    split_ifs with hseen
    · exact ih.cons a
    · exact ih.cons_cons a

/-- only the keys of the list matter among those seen -/
theorem firstOf_congr_mem {seen' : List κ} (h : ∀ a ∈ l, key a ∈ seen ↔ key a ∈ seen') :
    firstOf key seen l = firstOf key seen' l := by
  induction l generalizing seen seen' with
  | nil => rfl
  | cons a l ih =>
    have hfirst := h a List.mem_cons_self
    by_cases hseen : key a ∈ seen
    · rw [firstOf, firstOf, if_pos hseen, if_pos (hfirst.1 hseen), ih fun b hb => h b (List.mem_cons_of_mem a hb)]
    · have hnext : ∀ b ∈ l, key b ∈ key a :: seen ↔ key b ∈ key a :: seen' := by
        intro b hb
        rw [List.mem_cons, List.mem_cons, h b (List.mem_cons_of_mem a hb)]
      rw [firstOf, firstOf, if_neg hseen, if_neg fun hseen' => hseen (hfirst.2 hseen'), ih hnext]

theorem firstOf_congr {seen' : List κ} (h : ∀ t, t ∈ seen ↔ t ∈ seen') : firstOf key seen l = firstOf key seen' l :=
  firstOf_congr_mem fun _ _ => h _

theorem mem_map_firstOf {t : κ} : t ∈ (firstOf key seen l).map key ↔ t ∉ seen ∧ t ∈ l.map key := by
  induction l generalizing seen with
  | nil => simp [firstOf]
  | cons a l ih =>
    rw [firstOf]
    split_ifs with hseen
    · rw [ih, List.map_cons, List.mem_cons]
      have hne : t ∉ seen → t ≠ key a := fun hnot heq => hnot (heq ▸ hseen)
      tauto
    · rw [List.map_cons, List.mem_cons, ih, List.mem_cons, List.map_cons, List.mem_cons]
      have heq : t = key a → t ∉ seen := fun heq => heq ▸ hseen
      tauto

/-- no key is shown twice -/
theorem nodup_firstOf : ((firstOf key seen l).map key).Nodup := by
  induction l generalizing seen with
  | nil => exact List.nodup_nil
  | cons a l ih =>
    rw [firstOf]
    split_ifs with hseen
    · exact ih
    · rw [List.map_cons, List.nodup_cons]
      refine ⟨fun hmem => ?_, ih⟩
      exact (mem_map_firstOf.1 hmem).1 List.mem_cons_self

/-- a new entry is shown if its key is new -/
theorem firstOf_snoc (a : α) : firstOf key seen (l ++ [a]) =
    firstOf key seen l ++ if key a ∈ seen ∨ key a ∈ l.map key then [] else [a] := by
  induction l generalizing seen with
  | nil => simp [firstOf]
  | cons b l ih =>
    rw [List.cons_append, firstOf, firstOf]
    split_ifs with hseen hnew hnew
    · rw [ih]
      have hor : key a ∈ seen ∨ key a ∈ l.map key := by
        rcases hnew with h | h
        · exact Or.inl h
        · rcases List.mem_cons.1 h with heq | h
          · exact Or.inl (heq ▸ hseen)
          · exact Or.inr h
      rw [if_pos hor]
    · rw [ih, if_neg fun hor => hnew (hor.imp_right fun h => List.mem_cons_of_mem _ h)]
    · rw [ih]
      have hor : key a ∈ key b :: seen ∨ key a ∈ l.map key := by
        rcases hnew with h | h
        · exact Or.inl (List.mem_cons_of_mem _ h)
        · rcases List.mem_cons.1 h with heq | h
          · exact Or.inl (heq ▸ List.mem_cons_self)
          · exact Or.inr h
      rw [if_pos hor, List.append_nil, List.append_nil]
    · have hor : ¬ (key a ∈ key b :: seen ∨ key a ∈ l.map key) := by
        rintro (h | h)
        · rcases List.mem_cons.1 h with heq | h
          · exact hnew (Or.inr (heq ▸ List.mem_cons_self))
          · exact hnew (Or.inl h)
        · exact hnew (Or.inr (List.mem_cons_of_mem _ h))
      rw [ih, if_neg hor]
      rfl

/-- a key that is removed is not shown any more, and the others are shown as before -/
theorem firstOf_filter (k : κ) : firstOf key seen (l.filter fun a => key a ≠ k) =
    (firstOf key seen l).filter fun a => key a ≠ k := by
  induction l generalizing seen with
  | nil => rfl
  | cons b l ih =>
    by_cases hb : key b = k
    · rw [List.filter_cons_of_neg (by simpa using hb), firstOf]
      split_ifs with hseen
      · exact ih
      · rw [List.filter_cons_of_neg (by simpa using hb), ← ih]
        -- one key more is seen, which no entry has
        refine firstOf_congr_mem fun a ha => ?_
        have hne : key a ≠ key b := by
          have hk : key a ≠ k := by simpa using (List.mem_filter.1 ha).2
          exact fun heq => hk (heq.trans hb)
        simp [hne]
    · rw [List.filter_cons_of_pos (by simpa using hb), firstOf, firstOf]
      split_ifs with hseen
      · exact ih
      · rw [List.filter_cons_of_pos (by simpa using hb), ih]

/-- as many entries as there are keys -/
theorem length_firstOf : (firstOf key [] l).length = (l.map key).toFinset.card := by
  rw [← List.length_map key, ← List.toFinset_card_of_nodup nodup_firstOf]
  congr 1
  ext t
  rw [List.mem_toFinset, List.mem_toFinset, mem_map_firstOf]
  simp

/-- as many entries of a kind as there are keys of the kind -/
theorem countP_firstOf {kind : α → Bool} (hkind : ∀ a ∈ l, ∀ b ∈ l, key a = key b → kind a = kind b) :
    (firstOf key [] l).countP kind = ((l.filter kind).map key).toFinset.card := by
  have hnodup : (((firstOf key [] l).filter kind).map key).Nodup := nodup_firstOf.sublist (List.filter_sublist.map key)
  rw [List.countP_eq_length_filter, ← List.length_map key, ← List.toFinset_card_of_nodup hnodup]
  congr 1
  ext t
  rw [List.mem_toFinset, List.mem_toFinset, List.mem_map, List.mem_map]
  constructor
  · rintro ⟨a, ha, rfl⟩
    obtain ⟨hmem, hka⟩ := List.mem_filter.1 ha
    exact ⟨a, List.mem_filter.2 ⟨firstOf_sublist.subset hmem, hka⟩, rfl⟩
  · rintro ⟨a, ha, rfl⟩
    obtain ⟨hmem, hka⟩ := List.mem_filter.1 ha
    -- the first entry of the key is of the same kind
    have hshown : key a ∈ (firstOf key [] l).map key :=
      mem_map_firstOf.2 ⟨List.not_mem_nil, List.mem_map_of_mem hmem⟩
    obtain ⟨b, hb, hba⟩ := List.mem_map.1 hshown
    refine ⟨b, List.mem_filter.2 ⟨hb, ?_⟩, hba⟩
    rw [hkind b (firstOf_sublist.subset hb) a hmem hba]
    exact hka

end

end GameServer.Core
