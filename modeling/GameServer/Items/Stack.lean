/-
The stack count of an item, `SetCount`, `ChangeCount` and `GetRemainStackCount` in `C++/Item.cpp`.

A change adds an `int16` to the stack, cuts the sum off at zero and at the maximum, and returns what is over the
maximum. The sum is stored in an `ItemCount` before it is cut off: a sum that does not fit is negative by then, so the
stack is emptied and nothing is returned. Every other change obeys its law (`ChangeLaw`), and a run of changes loses
items exactly if one of its sums does not fit (`changeCount_conserves_iff`).

`ItemCount` is not under src/: it is a signed type of `w` bits, and an assignment to it wraps around. Assertions are logs.
-/
import Mathlib.Tactic
import GameServer.Core.Run
import GameServer.Core.Signed

namespace GameServer.Items

open GameServer.Core

section

variable (w : ℕ) (maxStackCount : ℤ)

/-! ## Model -/

def MIN_ITEM_COUNT : ℤ := 0

/-- `std::clamp` -/
def clamp (v lo hi : ℤ) : ℤ := if v < lo then lo else if hi < v then hi else v

/-- `SetCount`: the new stack and what is over -/
def setCount (count : ℤ) : ℤ × ℤ :=
  let remainStackCount := if maxStackCount < count then narrow w (count - maxStackCount) else 0
  (clamp count 0 maxStackCount, remainStackCount)

/-- `ChangeCount`: the sum is stored in an `ItemCount` -/
def changeCount (mStackCount : ℤ) (delta : BitVec 16) : ℤ × ℤ :=
  setCount w maxStackCount (narrow w (mStackCount + delta.toInt))

/-- `GetRemainStackCount` -/
def getRemainStackCount (mStackCount : ℤ) : ℤ := max MIN_ITEM_COUNT (narrow w (maxStackCount - mStackCount))

/-- the stack after a change -/
def stackStep (mStackCount : ℤ) (delta : BitVec 16) : ℤ := (changeCount w maxStackCount mStackCount delta).1

/-! ## The law of a change -/

/-- a change keeps the sum: the stack takes what fits, and the rest is returned -/
structure ChangeLaw (mStackCount : ℤ) (delta : BitVec 16) : Prop where
  stack : 0 ≤ mStackCount + delta.toInt →
    (changeCount w maxStackCount mStackCount delta).1 = min maxStackCount (mStackCount + delta.toInt)
  conserved : 0 ≤ mStackCount + delta.toInt →
    (changeCount w maxStackCount mStackCount delta).1 + (changeCount w maxStackCount mStackCount delta).2 =
      mStackCount + delta.toInt
  nothing_over : 0 ≤ mStackCount + delta.toInt → ((changeCount w maxStackCount mStackCount delta).2 = 0 ↔
    delta.toInt ≤ getRemainStackCount w maxStackCount mStackCount)
  below_zero : mStackCount + delta.toInt < 0 → changeCount w maxStackCount mStackCount delta = (0, 0)

/-- the sum fits into an `ItemCount` -/
def SumFits (mStackCount : ℤ) (delta : BitVec 16) : Prop := mStackCount + delta.toInt < 2 ^ (w - 1)

/-- the change takes no more than there is -/
def NeverBelow (mStackCount : ℤ) (delta : BitVec 16) : Prop := 0 ≤ mStackCount + delta.toInt

/-- a stack between zero and its maximum -/
def StackOk (mStackCount : ℤ) : Prop := 0 ≤ mStackCount ∧ mStackCount ≤ maxStackCount

variable {w maxStackCount} {mStackCount : ℤ} {delta : BitVec 16}

theorem clamp_eq {v : ℤ} (hmax : 0 ≤ maxStackCount) : clamp v 0 maxStackCount = max 0 (min maxStackCount v) := by
  unfold clamp
  split_ifs <;> omega

theorem stackStep_ok (hmax : 0 ≤ maxStackCount) (mStackCount : ℤ) (delta : BitVec 16) :
    StackOk maxStackCount (stackStep w maxStackCount mStackCount delta) := by
  have heq : stackStep w maxStackCount mStackCount delta =
      max 0 (min maxStackCount (narrow w (mStackCount + delta.toInt))) := clamp_eq hmax
  rw [heq]
  exact ⟨le_max_left _ _, max_le hmax (min_le_left _ _)⟩

theorem toInt_int16 (delta : BitVec 16) : -2 ^ 15 ≤ delta.toInt ∧ delta.toInt < 2 ^ 15 := by
  have hle := @BitVec.le_toInt 16 delta
  have hlt := @BitVec.toInt_lt 16 delta
  exact ⟨hle, hlt⟩

section Width

variable (hw : 16 ≤ w)
include hw

/-- a sum that fits is cut off as it should be -/
theorem changeCount_fits (h : StackOk maxStackCount mStackCount) (hfits : SumFits w mStackCount delta) :
    changeCount w maxStackCount mStackCount delta =
      (max 0 (min maxStackCount (mStackCount + delta.toInt)), max 0 (mStackCount + delta.toInt - maxStackCount)) := by
  obtain ⟨h0, h1⟩ := h
  obtain ⟨hlow, -⟩ := toInt_int16 delta
  have hpow : (2 : ℤ) ^ 15 ≤ 2 ^ (w - 1) := pow_le_pow_right₀ (by norm_num) (by omega)
  have hsum : narrow w (mStackCount + delta.toInt) = mStackCount + delta.toInt :=
    narrow_fits (by omega) (by omega) hfits
  unfold SumFits at hfits
  rw [changeCount, hsum, setCount, clamp_eq (h0.trans h1)]
  refine Prod.ext rfl ?_
  dsimp only
  split_ifs with hover
  · rw [narrow_fits (by omega) (by omega) (by omega), max_eq_right (by omega)]
  · rw [max_eq_left (by omega)]

variable (hmax : maxStackCount ≤ 2 ^ (w - 1) - 1)
include hmax

theorem getRemainStackCount_eq (h : StackOk maxStackCount mStackCount) :
    getRemainStackCount w maxStackCount mStackCount = maxStackCount - mStackCount := by
  obtain ⟨h0, h1⟩ := h
  have hpos : (0 : ℤ) < 2 ^ (w - 1) := by positivity
  rw [getRemainStackCount, narrow_fits (by omega) (by omega) (by omega)]
  exact max_eq_right (Int.sub_nonneg_of_le h1)

/-- a sum that does not fit empties the stack and returns nothing -/
theorem changeCount_over (h : StackOk maxStackCount mStackCount) (hover : ¬ SumFits w mStackCount delta) :
    changeCount w maxStackCount mStackCount delta = (0, 0) := by
  obtain ⟨h0, h1⟩ := h
  obtain ⟨-, hhigh⟩ := toInt_int16 delta
  have hpow : (2 : ℤ) ^ 15 ≤ 2 ^ (w - 1) := pow_le_pow_right₀ (by norm_num) (by omega)
  have hdouble := two_pow_pred (w := w) (by omega)
  unfold SumFits at hover
  have hsum : narrow w (mStackCount + delta.toInt) < 0 := by
    rw [narrow_over (by omega) (by omega) (by omega)]
    omega
  rw [changeCount, setCount, clamp, if_pos hsum, if_neg (by omega)]

/-- **A change obeys its law exactly if the sum fits.** -/
theorem changeLaw_iff (h : StackOk maxStackCount mStackCount) :
    ChangeLaw w maxStackCount mStackCount delta ↔ SumFits w mStackCount delta := by
  constructor
  · intro hlaw
    by_contra hover
    have hpos : (0 : ℤ) < 2 ^ (w - 1) := by positivity
    have hsum : 0 < mStackCount + delta.toInt := by
      unfold SumFits at hover
      omega
    have hlost := hlaw.conserved hsum.le
    rw [changeCount_over hw hmax h hover] at hlost
    exact hsum.ne hlost
  · intro hfits
    have hremain := getRemainStackCount_eq hw hmax h
    have hchange := changeCount_fits hw h hfits
    obtain ⟨h0, h1⟩ := h
    refine ⟨fun hsum => ?_, fun hsum => ?_, fun hsum => ?_, fun hsum => ?_⟩
    · rw [hchange]
      dsimp only
      omega
    · rw [hchange]
      dsimp only
      omega
    · rw [hchange, hremain]
      dsimp only
      omega
    · rw [hchange, max_eq_left (by omega), max_eq_left (by omega)]

end Width

end

/-- **Stacks conserve items exactly in the runs whose sums all fit.** -/
theorem changeCount_conserves_iff {w : ℕ} (hw : 16 ≤ w) {maxStackCount : ℤ} (hpos : 1 ≤ maxStackCount)
    (hmax : maxStackCount ≤ 2 ^ (w - 1) - 1) {mStackCount : ℤ} (hs : StackOk maxStackCount mStackCount)
    (deltas : List (BitVec 16)) :
    (LegalRun (stackStep w maxStackCount) (ChangeLaw w maxStackCount) mStackCount deltas ∧
        (LegalRun (stackStep w maxStackCount) NeverBelow mStackCount deltas →
          (run (giveBack (changeCount w maxStackCount)) (mStackCount, 0) deltas).1 +
            (run (giveBack (changeCount w maxStackCount)) (mStackCount, 0) deltas).2 =
              mStackCount + (deltas.map BitVec.toInt).sum)) ↔
      LegalRun (stackStep w maxStackCount) (SumFits w) mStackCount deltas := by
  have hkeep : ∀ s d, StackOk maxStackCount (stackStep w maxStackCount s d) := stackStep_ok (by omega)
  constructor
  · intro ⟨hlaw, _⟩
    exact hlaw.imp_inv (fun s d _ _ => hkeep s d) (fun s d hok h => (changeLaw_iff hw hmax hok).1 h) hs
  · intro hfits
    have hlaw : LegalRun (stackStep w maxStackCount) (ChangeLaw w maxStackCount) mStackCount deltas :=
      hfits.imp_inv (fun s d _ _ => hkeep s d) (fun s d hok h => (changeLaw_iff hw hmax hok).2 h) hs
    refine ⟨hlaw, fun hnever => ?_⟩
    have hboth : LegalRun (stackStep w maxStackCount) (fun s d => (changeCount w maxStackCount s d).1 +
        (changeCount w maxStackCount s d).2 = s + d.toInt) mStackCount deltas :=
      (hlaw.and hnever).imp_inv (fun s d _ _ => hkeep s d) (fun s d _ h => h.1.conserved h.2) hs
    have hbalance := returned_balance (changeCount w maxStackCount) BitVec.toInt (s := (mStackCount, 0)) hboth
    rw [hbalance, add_zero]

/-- 16 bits, a maximum of 30000: a stack of 29000 takes 500 more, then gives back 1500 of 2000 -/
theorem changeCount_conserves_sample :
    (run (giveBack (changeCount 16 30000)) (29000, 0) [500, 2000]).1 +
      (run (giveBack (changeCount 16 30000)) (29000, 0) [500, 2000]).2 = 31500 := by
  have hfits : LegalRun (stackStep 16 30000) (SumFits 16) 29000 [500, 2000] :=
    ⟨by unfold SumFits; decide, by unfold SumFits; decide, trivial⟩
  have hnever : LegalRun (stackStep 16 30000) NeverBelow 29000 [500, 2000] :=
    ⟨by unfold NeverBelow; decide, by unfold NeverBelow; decide, trivial⟩
  exact ((changeCount_conserves_iff (by decide) (by decide) (by decide) ⟨by decide, by decide⟩ _).2 hfits).2 hnever

/-- **16 bits: 10000 more items on a stack of 29000 leave nothing.** -/
theorem changeCount_loses : StackOk 30000 29000 ∧ changeCount 16 30000 29000 10000 = (0, 0) ∧
    ¬ ChangeLaw 16 30000 29000 10000 := by
  refine ⟨⟨by decide, by decide⟩, by decide, fun hlaw => ?_⟩
  have hlost := hlaw.conserved (by decide)
  exact absurd hlost (by decide)

end GameServer.Items
