/-
A counter with a goal: it grows up to the goal and stops there, and a counter at or above its goal stays.

- `toward goal n k`: one step by k;
- `toward_eq`: a step in closed form, `max n (min goal (n + k))`;
- `toward_toward`: two steps are one step by the sum;
- `foldl_toward`: so are any number of steps. The order of the steps and the way they are batched make no difference.
-/
import Mathlib.Tactic

namespace GameServer.Core

variable {α : Type*} [AddCommMonoid α] [LinearOrder α] [IsOrderedAddMonoid α]

def toward (goal n k : α) : α := if n < goal then min goal (n + k) else n

variable {goal n j k : α}

theorem toward_eq (hk : 0 ≤ k) : toward goal n k = max n (min goal (n + k)) := by
  unfold toward
  split_ifs with h
  · rw [max_eq_right (le_min h.le (le_add_of_nonneg_right hk))]
  · rw [max_eq_left ((min_le_left _ _).trans (not_lt.1 h))]

theorem toward_zero (goal n : α) : toward goal n 0 = n := by
  rw [toward_eq le_rfl, add_zero, max_eq_left (min_le_right _ _)]

theorem toward_toward (hk : 0 ≤ k) : toward goal (toward goal n j) k = toward goal n (j + k) := by
  by_cases h : n < goal
  · have hsum : n + j ≤ n + (j + k) := by
      rw [← add_assoc]
      exact le_add_of_nonneg_right hk
    rw [toward, toward, toward, if_pos h, if_pos h, ← add_assoc]
    by_cases hreach : n + j < goal
    · rw [min_eq_right hreach.le, if_pos hreach]
    · have hgoal : goal ≤ n + j := not_lt.1 hreach
      rw [min_eq_left hgoal, if_neg (lt_irrefl goal), min_eq_left (hgoal.trans (by rw [add_assoc]; exact hsum))]
  · simp [toward, h]

/-- **Steps add up.** -/
theorem foldl_toward (goal n : α) {ks : List α} (hks : ∀ k ∈ ks, 0 ≤ k) :
    ks.foldl (toward goal) n = max n (min goal (n + ks.sum)) := by
  have hsum : 0 ≤ ks.sum := List.sum_nonneg hks
  rw [← toward_eq hsum]
  induction ks generalizing n with
  | nil => rw [List.foldl_nil, List.sum_nil, toward_zero]
  | cons k ks ih =>
    have htail : ∀ k' ∈ ks, 0 ≤ k' := fun k' hk' => hks k' (List.mem_cons_of_mem k hk')
    rw [List.foldl_cons, ih _ htail (List.sum_nonneg htail), toward_toward (List.sum_nonneg htail), List.sum_cons]

end GameServer.Core
