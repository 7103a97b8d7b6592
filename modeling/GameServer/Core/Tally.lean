/-
Counts by key, kept in insertion order, and sums of logs of (key, count) entries.

- `add`: `d[k] += n`, or a new entry at the end;
- `sumAt`: the sum of all entries of one key;
- `sumAt_add`, `sumAt_addAll`: collecting entries keeps every sum;
- `addAll_pos`: and counts of positive entries are positive;
- `sumAt_of_count_one`: the sum of a key with one entry;
- `sum_le_of_distinct`: a sum over distinct keys is at most the sum over a set that holds them.
-/
import Mathlib.Tactic

namespace GameServer.Core.Tally

variable {κ : Type*} [DecidableEq κ]

def add (d : List (κ × ℤ)) (k : κ) (n : ℤ) : List (κ × ℤ) :=
  match d with
  | [] => [(k, n)]
  | (k', n') :: d => if k' = k then (k', n' + n) :: d else (k', n') :: add d k n

def sumAt (k : κ) (d : List (κ × ℤ)) : ℤ := (d.map fun e => if e.1 = k then e.2 else 0).sum

@[simp] theorem sumAt_nil (k : κ) : sumAt k [] = 0 := rfl

@[simp] theorem sumAt_cons (k : κ) (e : κ × ℤ) (d : List (κ × ℤ)) :
    sumAt k (e :: d) = (if e.1 = k then e.2 else 0) + sumAt k d := by
  simp [sumAt]

@[simp] theorem sumAt_append (k : κ) (d d' : List (κ × ℤ)) : sumAt k (d ++ d') = sumAt k d + sumAt k d' := by
  simp [sumAt]

theorem sumAt_add (k k' : κ) (n : ℤ) (d : List (κ × ℤ)) :
    sumAt k (add d k' n) = sumAt k d + if k' = k then n else 0 := by
  induction d with
  | nil => simp [add]
  | cons e d ih =>
    by_cases hk : e.1 = k'
    · rw [add, if_pos hk, sumAt_cons, sumAt_cons]
      dsimp only
      rw [hk]
      split_ifs <;> ring
    · rw [add, if_neg hk, sumAt_cons, sumAt_cons, ih]
      ring

/-- collecting a list of entries -/
def addAll (d l : List (κ × ℤ)) : List (κ × ℤ) := l.foldl (fun d e => add d e.1 e.2) d

theorem sumAt_addAll (k : κ) (d l : List (κ × ℤ)) : sumAt k (addAll d l) = sumAt k d + sumAt k l := by
  induction l generalizing d with
  | nil => simp [addAll]
  | cons e l ih =>
    have hstep : addAll d (e :: l) = addAll (add d e.1 e.2) l := rfl
    rw [hstep, ih, sumAt_add, sumAt_cons]
    ring

theorem add_pos {d : List (κ × ℤ)} {n : ℤ} (h : ∀ e ∈ d, 0 < e.2) (hn : 0 < n) (k : κ) : ∀ e ∈ add d k n, 0 < e.2 := by
  induction d with
  | nil =>
    intro e he
    rw [List.mem_singleton.1 he]
    exact hn
  | cons e' d ih =>
    have hfirst := h e' List.mem_cons_self
    have hrest : ∀ e ∈ d, 0 < e.2 := fun e he => h e (List.mem_cons_of_mem _ he)
    rw [add]
    split_ifs
    · intro e he
      rcases List.mem_cons.1 he with rfl | he
      · dsimp only
        omega
      · exact hrest e he
    · intro e he
      rcases List.mem_cons.1 he with rfl | he
      · exact hfirst
      · exact ih hrest e he

/-- counts of positive entries are positive -/
theorem addAll_pos {d l : List (κ × ℤ)} (hd : ∀ e ∈ d, 0 < e.2) (hl : ∀ e ∈ l, 0 < e.2) : ∀ e ∈ addAll d l, 0 < e.2 := by
  induction l generalizing d with
  | nil => exact hd
  | cons e l ih =>
    exact ih (add_pos hd (hl e List.mem_cons_self) e.1) fun e' he' => hl e' (List.mem_cons_of_mem _ he')

theorem sumAt_of_not_mem {k : κ} {d : List (κ × ℤ)} (h : k ∉ d.map Prod.fst) : sumAt k d = 0 := by
  induction d with
  | nil => rfl
  | cons e d ih =>
    rw [List.map_cons, List.mem_cons, not_or] at h
    rw [sumAt_cons, if_neg (Ne.symm h.1), ih h.2, add_zero]

theorem sumAt_of_count_one {k : κ} {n : ℤ} {d : List (κ × ℤ)} (hcount : (d.map Prod.fst).count k = 1) (h : (k, n) ∈ d) :
    sumAt k d = n := by
  induction d with
  | nil => cases h
  | cons e d ih =>
    rw [List.map_cons, List.count_cons] at hcount
    by_cases he : e.1 = k
    · have hnot : k ∉ d.map Prod.fst := by
        rw [← List.count_eq_zero]
        simpa [he] using hcount
      have hne : (k, n) ∉ d := fun hmem => hnot (List.mem_map_of_mem hmem)
      obtain rfl := (List.mem_cons.1 h).resolve_right hne
      rw [sumAt_cons, if_pos rfl, sumAt_of_not_mem hnot, add_zero]
    · have hmem : (k, n) ∈ d := (List.mem_cons.1 h).resolve_left fun heq => he (heq ▸ rfl)
      rw [sumAt_cons, if_neg he, zero_add, ih (by simpa [he] using hcount) hmem]

theorem sumAt_nonneg_of {d : List (κ × ℤ)} (h : ∀ e ∈ d, 0 ≤ e.2) (k : κ) : 0 ≤ sumAt k d := by
  refine List.sum_nonneg ?_
  intro n hn
  obtain ⟨e, he, rfl⟩ := List.mem_map.1 hn
  split_ifs
  · exact h e he
  · exact le_rfl

/-- entries with distinct keys in a set come to no more than the whole set -/
theorem sum_le_of_distinct {α : Type*} {s : Finset κ} {g : κ → ℤ} (hg : ∀ k ∈ s, 0 ≤ g k) {l : List α} {key : α → κ}
    (hnd : (l.map key).Nodup) (hs : ∀ a ∈ l, key a ∈ s) : (l.map fun a => g (key a)).sum ≤ ∑ k ∈ s, g k := by
  have hsub : (l.map key).toFinset ⊆ s := by
    intro k hk
    obtain ⟨a, ha, rfl⟩ := List.mem_map.1 (List.mem_toFinset.1 hk)
    exact hs a ha
  calc (l.map fun a => g (key a)).sum
      = ((l.map key).map g).sum := by rw [List.map_map]; rfl
    _ = ∑ k ∈ (l.map key).toFinset, g k := (List.sum_toFinset g hnd).symm
    _ ≤ ∑ k ∈ s, g k := Finset.sum_le_sum_of_subset_of_nonneg hsub fun k hk _ => hg k hk

end GameServer.Core.Tally
