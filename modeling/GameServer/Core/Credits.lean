/-
Counts of things, credited entry by entry, where single credits may fail.

- `creditAll_apply`: a count grows by the sum of its entries;
- `creditAll_granted_eq_all`: if some credits fail, the counts are those of all entries exactly if none fails;
- `creditAll_granted_eq_self`: and they stay as they were exactly if all fail. Entries are positive in both.
-/
import Mathlib.Tactic
import GameServer.Core.Tally

namespace GameServer.Core

open Tally

/-! ## Credits that succeed, and the others -/

section

variable {κ : Type*} {ops : List (Bool × κ × ℤ)}

/-- the entries of the credits that succeed -/
def granted (ops : List (Bool × κ × ℤ)) : List (κ × ℤ) := (ops.filter Prod.fst).map Prod.snd

def refused (ops : List (Bool × κ × ℤ)) : List (κ × ℤ) := (ops.filter fun o => !o.1).map Prod.snd

theorem granted_eq_nil : granted ops = [] ↔ ∀ o ∈ ops, o.1 = false := by
  simp [granted]

theorem refused_eq_nil : refused ops = [] ↔ ∀ o ∈ ops, o.1 = true := by
  simp [refused]

theorem granted_pos (hpos : ∀ o ∈ ops, 0 < o.2.2) : ∀ e ∈ granted ops, 0 < e.2 := by
  intro e he
  obtain ⟨o, ho, rfl⟩ := List.mem_map.1 he
  exact hpos o (List.mem_filter.1 ho).1

theorem refused_pos (hpos : ∀ o ∈ ops, 0 < o.2.2) : ∀ e ∈ refused ops, 0 < e.2 := by
  intro e he
  obtain ⟨o, ho, rfl⟩ := List.mem_map.1 he
  exact hpos o (List.mem_filter.1 ho).1

end

/-! ## Counts -/

section

variable {κ : Type*} [DecidableEq κ]

def credit (s : κ → ℤ) (e : κ × ℤ) : κ → ℤ := Function.update s e.1 (s e.1 + e.2)

def creditAll (s : κ → ℤ) (l : List (κ × ℤ)) : κ → ℤ := l.foldl credit s

variable {s : κ → ℤ} {l : List (κ × ℤ)} {ops : List (Bool × κ × ℤ)}

theorem creditAll_apply (k : κ) : creditAll s l k = s k + sumAt k l := by
  induction l generalizing s with
  | nil => simp [creditAll]
  | cons e l ih =>
    have hstep : creditAll s (e :: l) = creditAll (credit s e) l := rfl
    rw [hstep, ih, sumAt_cons, credit]
    by_cases hkey : e.1 = k
    · rw [hkey, Function.update_self, if_pos rfl, add_assoc]
    · rw [Function.update_of_ne (Ne.symm hkey), if_neg hkey, zero_add]

theorem creditAll_eq_iff {l' : List (κ × ℤ)} : creditAll s l = creditAll s l' ↔ ∀ k, sumAt k l = sumAt k l' := by
  rw [funext_iff]
  exact forall_congr' fun k => by rw [creditAll_apply, creditAll_apply, add_right_inj]

theorem sumAt_nonneg (hpos : ∀ e ∈ l, 0 < e.2) (k : κ) : 0 ≤ sumAt k l := by
  apply List.sum_nonneg
  rintro n hn
  obtain ⟨e, he, rfl⟩ := List.mem_map.1 hn
  split_ifs
  · exact (hpos e he).le
  · exact le_rfl

/-- positive entries leave a sum -/
theorem sumAt_eq_zero_iff (hpos : ∀ e ∈ l, 0 < e.2) : (∀ k, sumAt k l = 0) ↔ l = [] := by
  constructor
  · intro hzero
    cases l with
    | nil => rfl
    | cons e l =>
      have hfirst := hzero e.1
      have hrest := sumAt_nonneg (fun e' he' => hpos e' (List.mem_cons_of_mem _ he')) e.1
      have he := hpos e List.mem_cons_self
      rw [sumAt_cons, if_pos rfl] at hfirst
      omega
  · rintro rfl k
    exact sumAt_nil k

theorem sumAt_granted_add_refused (k : κ) :
    sumAt k (granted ops) + sumAt k (refused ops) = sumAt k (ops.map Prod.snd) := by
  induction ops with
  | nil => simp [granted, refused]
  | cons o ops ih =>
    unfold granted refused at ih ⊢
    rw [List.map_cons, sumAt_cons, ← ih]
    cases hflag : o.1 with
    | true =>
      rw [List.filter_cons_of_pos hflag, List.filter_cons_of_neg (by simp [hflag]), List.map_cons, sumAt_cons]
      ring
    | false =>
      rw [List.filter_cons_of_neg (by simp [hflag]), List.filter_cons_of_pos (by simp [hflag]), List.map_cons, sumAt_cons]
      ring

/-- one credit, if it succeeds, and the others -/
theorem creditAll_granted_cons (o : Bool × κ × ℤ) (ops : List (Bool × κ × ℤ)) :
    creditAll s (granted (o :: ops)) = creditAll (if o.1 then credit s o.2 else s) (granted ops) := by
  unfold granted
  cases hflag : o.1 with
  | true =>
    rw [List.filter_cons_of_pos hflag, List.map_cons]
    rfl
  | false =>
    rw [List.filter_cons_of_neg (by simp [hflag])]
    rfl

/-- **Everything is credited exactly if no credit fails.** -/
theorem creditAll_granted_eq_all (hpos : ∀ o ∈ ops, 0 < o.2.2) :
    creditAll s (granted ops) = creditAll s (ops.map Prod.snd) ↔ ∀ o ∈ ops, o.1 = true := by
  rw [creditAll_eq_iff, ← refused_eq_nil, ← sumAt_eq_zero_iff (refused_pos hpos)]
  refine forall_congr' fun k => ?_
  have hsum : sumAt k (granted ops) + sumAt k (refused ops) = sumAt k (ops.map Prod.snd) := sumAt_granted_add_refused k
  omega

/-- **Nothing is credited exactly if every credit fails.** -/
theorem creditAll_granted_eq_self (hpos : ∀ o ∈ ops, 0 < o.2.2) :
    creditAll s (granted ops) = s ↔ ∀ o ∈ ops, o.1 = false := by
  have hself : creditAll s (granted ops) = s ↔ creditAll s (granted ops) = creditAll s [] := Iff.rfl
  rw [hself, creditAll_eq_iff, ← granted_eq_nil, ← sumAt_eq_zero_iff (granted_pos hpos)]
  simp

end

end GameServer.Core
