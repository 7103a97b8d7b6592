/-
Words as sets of flags, and read-modify-write on them.

- `turnOn`: a word with one more bit on.
- `Within`: every flag of one word is on in another.
- `within_turnOn_iff`: a writer adds its bit to a word that it has read earlier. What it writes keeps every flag that is
  on by now exactly when the word is still the one that was read, or has gained just that bit in the meantime.
-/
import Mathlib.Tactic
import Mathlib.Data.Nat.Bitwise

namespace GameServer.Core.Flags

/-- a word with bit i on -/
def turnOn (w i : ℕ) : ℕ := w ||| (1 <<< i)

/-- every flag of v is on in w -/
def Within (v w : ℕ) : Prop := ∀ i, v.testBit i = true → w.testBit i = true

variable {u v w c i j : ℕ}

theorem testBit_turnOn : (turnOn w i).testBit j = true ↔ w.testBit j = true ∨ j = i := by
  rw [turnOn, Nat.testBit_or, Nat.one_shiftLeft, Nat.testBit_two_pow, Bool.or_eq_true, decide_eq_true_eq]
  exact or_congr_right eq_comm

@[simp] theorem testBit_turnOn_self : (turnOn w i).testBit i = true := testBit_turnOn.2 (Or.inr rfl)

theorem Within.refl (w : ℕ) : Within w w := fun _ h => h

theorem Within.trans (huv : Within u v) (hvw : Within v w) : Within u w := fun i h => hvw i (huv i h)

theorem Within.antisymm (hvw : Within v w) (hwv : Within w v) : v = w :=
  Nat.eq_of_testBit_eq fun i => Bool.eq_iff_iff.2 ⟨hvw i, hwv i⟩

theorem within_turnOn (w i : ℕ) : Within w (turnOn w i) := fun _ h => testBit_turnOn.2 (Or.inl h)

theorem within_turnOn_iff (hvc : Within v c) : Within c (turnOn v i) ↔ c = v ∨ c = turnOn v i := by
  constructor
  · intro hcv
    by_cases hi : c.testBit i = true
    · -- the bit is on by now: nothing else can be
      right
      refine hcv.antisymm fun j hj => ?_
      rcases testBit_turnOn.1 hj with hj | rfl
      · exact hvc j hj
      · exact hi
    · left
      refine Within.antisymm (fun j hj => ?_) hvc
      rcases testBit_turnOn.1 (hcv j hj) with hj' | rfl
      · exact hj'
      · exact absurd hj hi
  · rintro (rfl | rfl)
    · exact within_turnOn c i
    · exact Within.refl _

end GameServer.Core.Flags
