/-
Lengths of texts: the decimal digits of a number, and a text that a loop extends piece by piece.
-/
import Mathlib.Tactic

namespace GameServer.Core

/-- the number of decimal digits -/
def decimalWidth (n : ℕ) : ℕ := Nat.log 10 n + 1

theorem decimalWidth_pos (n : ℕ) : 1 ≤ decimalWidth n := Nat.le_add_left 1 _

theorem decimalWidth_le_iff {n k : ℕ} (hk : 0 < k) : decimalWidth n ≤ k ↔ n < 10 ^ k := by
  rw [decimalWidth, Nat.succ_le_iff]
  exact ⟨Nat.lt_pow_of_log_lt (by decide), Nat.log_lt_of_lt_pow' hk.ne'⟩

theorem length_toString (n : ℕ) : (toString n).length = decimalWidth n := by
  have hle : ∀ k, 0 < k → ((toString n).length ≤ k ↔ decimalWidth n ≤ k) := by
    intro k hk
    rw [decimalWidth_le_iff hk]
    exact Nat.length_repr_le_iff hk
  apply le_antisymm
  · exact (hle _ (decimalWidth_pos n)).2 le_rfl
  · exact (hle _ Nat.length_repr_pos).1 le_rfl

/-- `text += piece(a)` for every `a` -/
theorem length_foldl_append {α : Type*} (piece : α → String) (l : List α) (text : String) :
    (l.foldl (fun text a => text ++ piece a) text).length = text.length + (l.map fun a => (piece a).length).sum := by
  induction l generalizing text with
  | nil => rfl
  | cons a l ih =>
    rw [List.foldl_cons, ih, String.length_append, List.map_cons, List.sum_cons]
    exact Nat.add_assoc _ _ _

end GameServer.Core
