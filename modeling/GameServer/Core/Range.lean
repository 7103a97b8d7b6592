/-
Integer ranges `Int.range a b` (a inclusive, b exclusive), the ranges of counting loops.

A range is cut at any point between its ends (`append`), has no repetition (`nodup`), and is empty when it ends where it
starts (`self`). A counter that is behind a level goes through `Int.range (counter + 1) (level + 1)` and catches up; the
test whether it is behind makes no difference (`catch_up_steps`, `catch_up`).
-/
import Mathlib.Tactic

namespace GameServer.Core.Range

theorem self (a : ℤ) : Int.range a a = [] := by
  simp [Int.range]

theorem append {a b c : ℤ} (hab : a ≤ b) (hbc : b ≤ c) : Int.range a b ++ Int.range b c = Int.range a c := by
  unfold Int.range
  have hlen : (c - a).toNat = (b - a).toNat + (c - b).toNat := by omega
  rw [hlen, List.range_add, List.map_append, List.map_map]
  congr 1
  apply List.map_congr_left
  intro i _
  simp only [Function.comp]
  omega

/-- one more at the end -/
theorem succ {a b : ℤ} (hab : a ≤ b) : Int.range a (b + 1) = Int.range a b ++ [b] := by
  rw [← append hab (by omega : b ≤ b + 1)]
  simp [Int.range]

/-- one more at the start -/
theorem cons {a b : ℤ} (hab : a < b) : Int.range a b = a :: Int.range (a + 1) b := by
  rw [← append (by omega : a ≤ a + 1) (by omega : a + 1 ≤ b)]
  simp [Int.range]

theorem nodup (a b : ℤ) : (Int.range a b).Nodup := by
  unfold Int.range
  exact List.nodup_range.map fun i j hij => by simpa using hij

section CatchUp

variable {a b : ℤ} (h : a ≤ b) (p : Prop) [Decidable p]
include h

theorem catch_up_steps_and : (if a < b ∧ p then Int.range (a + 1) (b + 1) else []) =
    if p then Int.range (a + 1) (b + 1) else [] := by
  by_cases hlt : a < b
  · simp [hlt]
  · rw [if_neg fun hd => hlt hd.1, le_antisymm h (not_lt.1 hlt), self, ite_self]

theorem catch_up_and : (if a < b ∧ p then b else a) = if p then b else a := by
  by_cases hlt : a < b
  · simp [hlt]
  · rw [if_neg fun hd => hlt hd.1, le_antisymm h (not_lt.1 hlt), ite_self]

theorem catch_up_steps : (if a < b then Int.range (a + 1) (b + 1) else []) = Int.range (a + 1) (b + 1) := by
  simpa using catch_up_steps_and h True

theorem catch_up : (if a < b then b else a) = b := by
  simpa using catch_up_and h True

end CatchUp

end GameServer.Core.Range
