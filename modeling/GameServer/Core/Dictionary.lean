/-
Dictionaries with one type of values: what an insertion and a removal do to a lookup, the entry of a key, how many values
pass a test, and the sum of a quantity over all entries.
-/
import Mathlib.Data.List.AList
import Mathlib.Tactic

namespace GameServer.Core.Dictionary

variable {κ ν : Type*} [DecidableEq κ]

theorem lookup_insert (d : AList fun _ : κ => ν) (k k' : κ) (v : ν) :
    (d.insert k v).lookup k' = if k' = k then some v else d.lookup k' := by
  split_ifs with hk
  · subst hk
    exact AList.lookup_insert d
  · exact AList.lookup_insert_ne hk

theorem lookup_erase (d : AList fun _ : κ => ν) (k k' : κ) :
    (d.erase k).lookup k' = if k' = k then none else d.lookup k' := by
  split_ifs with hk
  · subst hk
    exact AList.lookup_erase k' d
  · exact AList.lookup_erase_ne hk

/-- a key has at most one entry -/
theorem filter_key {β : κ → Type*} (d : AList β) (k : κ) :
    (d.entries.filter fun e => e.1 = k) = (d.lookup k).toList.map (Sigma.mk k) := by
  obtain ⟨entries, hnodup⟩ := d
  show (entries.filter fun e => e.1 = k) = (entries.dlookup k).toList.map (Sigma.mk k)
  induction entries with
  | nil => rfl
  | cons e entries ih =>
    obtain ⟨hnot, hrest⟩ := List.nodupKeys_cons.1 hnodup
    obtain ⟨key, value⟩ := e
    by_cases heq : key = k
    · subst heq
      have hnone : entries.dlookup key = none := List.dlookup_eq_none.2 hnot
      rw [List.filter_cons_of_pos (by simp), ih hrest, hnone, List.dlookup_cons_eq]
      rfl
    · have hskip := List.dlookup_cons_ne entries (⟨key, value⟩ : Sigma β) (Ne.symm heq)
      rw [List.filter_cons_of_neg (by simpa using heq), ih hrest, hskip]

/-- the entries whose value passes a test are counted by their keys -/
theorem countP_eq_card (d : AList fun _ : κ => ν) {test : ν → Bool} {keys : Finset κ}
    (h : ∀ k, k ∈ keys ↔ ∃ v, d.lookup k = some v ∧ test v = true) : (d.entries.countP fun e => test e.2) = keys.card := by
  have hentry : ∀ e ∈ d.entries, (test e.2 = true ↔ decide (e.1 ∈ keys) = true) := by
    intro e he
    have hlookup : d.lookup e.1 = some e.2 := AList.mem_lookup_iff.2 he
    rw [decide_eq_true_iff, h, hlookup]
    simp
  have hkeys : (d.keys.filter fun k => k ∈ keys).toFinset = keys := by
    ext k
    rw [List.mem_toFinset, List.mem_filter, decide_eq_true_iff, and_iff_right_iff_imp]
    intro hk
    obtain ⟨v, hv, -⟩ := (h k).1 hk
    exact AList.mem_keys.1 (AList.lookup_isSome.1 (by rw [hv]; rfl))
  calc (d.entries.countP fun e => test e.2)
      = d.entries.countP fun e => decide (e.1 ∈ keys) := List.countP_congr hentry
    _ = (d.keys.filter fun k => k ∈ keys).length := by
        rw [← List.countP_eq_length_filter, AList.keys, List.keys, List.countP_map]
        rfl
    _ = (d.keys.filter fun k => k ∈ keys).toFinset.card := (List.toFinset_card_of_nodup (d.keys_nodup.filter _)).symm
    _ = keys.card := by rw [hkeys]

/-! ## Sums -/

/-- the sum of `f` over the entries -/
def total (f : κ → ν → ℤ) (d : AList fun _ : κ => ν) : ℤ := (d.entries.map fun e => f e.1 e.2).sum

/-- the share of one key -/
def share (f : κ → ν → ℤ) (d : AList fun _ : κ => ν) (k : κ) : ℤ :=
  match d.lookup k with
  | none => 0
  | some v => f k v

omit [DecidableEq κ] in
@[simp] theorem total_empty (f : κ → ν → ℤ) : total f (∅ : AList fun _ : κ => ν) = 0 := rfl

theorem total_erase (f : κ → ν → ℤ) (d : AList fun _ : κ => ν) (k : κ) :
    total f (d.erase k) = total f d - share f d k := by
  unfold total share
  by_cases hk : k ∈ d
  · obtain ⟨v, before, after, hbefore, hsplit, herase⟩ := List.exists_of_kerase hk
    have hlookup : d.lookup k = some v := by
      rw [← Option.mem_def, AList.mem_lookup_iff, hsplit]
      simp
    have hentries : (d.erase k).entries = before ++ after := herase
    rw [hentries, hlookup, hsplit]
    simp only [List.map_append, List.map_cons, List.sum_append, List.sum_cons]
    ring
  · have hentries : (d.erase k).entries = d.entries := List.kerase_of_notMem_keys hk
    rw [hentries, AList.lookup_eq_none.2 hk, sub_zero]

theorem total_insert (f : κ → ν → ℤ) (d : AList fun _ : κ => ν) (k : κ) (v : ν) :
    total f (d.insert k v) = total f d - share f d k + f k v := by
  calc total f (d.insert k v)
      = f k v + total f (d.erase k) := by
        unfold total
        rw [AList.entries_insert, List.map_cons, List.sum_cons]
        rfl
    _ = f k v + (total f d - share f d k) := by rw [total_erase]
    _ = total f d - share f d k + f k v := add_comm _ _

end GameServer.Core.Dictionary
