/-
Signed numbers of a fixed width, and stacks that give back what they cannot hold.

- `narrow`: a number stored in a signed type of `w` bits;
- `narrow_fits`, `narrow_over`: it is the number itself, or a negative one when the number is too large by less than half;
- `returned_balance`: if every change conserves, a whole run does.
-/
import Mathlib.Tactic
import GameServer.Core.Run

namespace GameServer.Core

/-! ## Width -/

/-- a number stored in a signed type of `w` bits -/
def narrow (w : ℕ) (x : ℤ) : ℤ := x.bmod (2 ^ w)

section

variable {w : ℕ} {x : ℤ}

theorem two_pow_pred (hw : 1 ≤ w) : (2 : ℤ) ^ w = 2 * 2 ^ (w - 1) := by
  obtain ⟨k, rfl⟩ : ∃ k, w = k + 1 := ⟨w - 1, by omega⟩
  rw [Nat.add_sub_cancel, pow_succ, mul_comm]

theorem narrow_fits (hw : 1 ≤ w) (hlow : -2 ^ (w - 1) ≤ x) (hhigh : x < 2 ^ (w - 1)) : narrow w x = x := by
  have hpow := two_pow_pred hw
  have hpos : (0 : ℤ) < 2 ^ (w - 1) := by positivity
  rw [narrow, Int.bmod_def]
  push_cast
  rcases le_or_gt 0 x with hx | hx
  · rw [Int.emod_eq_of_lt hx (by omega), if_pos (by omega)]
  · have hmod : x % 2 ^ w = x + 2 ^ w := by
      rw [← Int.add_emod_right, Int.emod_eq_of_lt (by omega) (by omega)]
    rw [hmod, if_neg (by omega)]
    ring

theorem narrow_over (hw : 1 ≤ w) (hlow : 2 ^ (w - 1) ≤ x) (hhigh : x < 2 ^ w) : narrow w x = x - 2 ^ w := by
  have hpow := two_pow_pred hw
  have hpos : (0 : ℤ) < 2 ^ (w - 1) := by positivity
  rw [narrow, Int.bmod_def]
  push_cast
  rw [Int.emod_eq_of_lt (by omega) hhigh, if_neg (by omega)]

end

/-! ## Changes that give something back -/

section

variable {ι : Type*} (change : ℤ → ι → ℤ × ℤ) (amount : ι → ℤ)

/-- a stack, and all that it has given back -/
def giveBack (s : ℤ × ℤ) (d : ι) : ℤ × ℤ := ((change s.1 d).1, s.2 + (change s.1 d).2)

/-- **Balance.** Nothing is lost in a run of changes that each lose nothing. -/
theorem returned_balance {s : ℤ × ℤ} {ds : List ι}
    (h : LegalRun (fun n d => (change n d).1) (fun n d => (change n d).1 + (change n d).2 = n + amount d) s.1 ds) :
    (run (giveBack change) s ds).1 + (run (giveBack change) s ds).2 = s.1 + s.2 + (ds.map amount).sum := by
  induction ds generalizing s with
  | nil => simp
  | cons d ds ih =>
    obtain ⟨hstep, hrest⟩ := h
    have hrun : (run (giveBack change) (giveBack change s d) ds).1 + (run (giveBack change) (giveBack change s d) ds).2 =
        (change s.1 d).1 + (s.2 + (change s.1 d).2) + (ds.map amount).sum := ih hrest
    rw [run_cons, hrun, List.map_cons, List.sum_cons]
    omega

end

end GameServer.Core
