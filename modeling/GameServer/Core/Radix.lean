/-
Mixed-radix counters: digit i runs from 0 to `m i`, and one unit of digit i is worth `weight m i`, the product of the
radices `m j + 1` below it.

- `value`: the number that the digits below n stand for;
- `Carry m k j d d'`: digits k .. j-1 are full and become 0, digit j grows by one, all others stay;
- `Carry.value`: a carry from digit k on adds exactly `weight m k`, wherever it ends.
-/
import Mathlib.Tactic

namespace GameServer.Core

open Finset

/-- what one unit of digit `i` is worth -/
def weight (m : ℕ → ℤ) (i : ℕ) : ℤ := ∏ j ∈ range i, (m j + 1)

theorem weight_succ (m : ℕ → ℤ) (i : ℕ) : weight m (i + 1) = weight m i * (m i + 1) := by
  rw [weight, weight, prod_range_succ]

/-- the number that the digits below `n` stand for -/
def value (m d : ℕ → ℤ) (n : ℕ) : ℤ := ∑ i ∈ range n, d i * weight m i

/-- changing one digit -/
theorem value_update {m d : ℕ → ℤ} {n k : ℕ} (hk : k < n) (x : ℤ) :
    value m (Function.update d k x) n = value m d n + (x - d k) * weight m k := by
  have hmem : k ∈ range n := mem_range.2 hk
  unfold value
  rw [← add_sum_erase _ _ hmem, ← add_sum_erase (range n) (fun i => d i * weight m i) hmem]
  have hrest : ∑ i ∈ (range n).erase k, Function.update d k x i * weight m i =
      ∑ i ∈ (range n).erase k, d i * weight m i := by
    refine sum_congr rfl ?_
    intro i hi
    rw [Function.update_of_ne (ne_of_mem_erase hi)]
  rw [hrest, Function.update_self]
  ring

/-- digits k .. j-1 are full and become 0, digit j grows by one -/
structure Carry (m : ℕ → ℤ) (k j : ℕ) (d d' : ℕ → ℤ) : Prop where
  full : ∀ i, k ≤ i → i < j → d i = m i
  zero : ∀ i, k ≤ i → i < j → d' i = 0
  bump : d' j = d j + 1
  other : ∀ i, i < k ∨ j < i → d' i = d i

namespace Carry

variable {m d d' : ℕ → ℤ} {k j n : ℕ}

/-- the first digit of a carry is full, and the carry goes on from the next one -/
theorem tail (h : Carry m k j d d') (hk : k < j) : Carry m (k + 1) j (Function.update d k 0) d' := by
  refine ⟨?_, fun i hi hj => h.zero i (by omega) hj, ?_, ?_⟩
  · intro i hi hj
    rw [Function.update_of_ne (by omega)]
    exact h.full i (by omega) hj
  · rw [Function.update_of_ne (by omega)]
    exact h.bump
  · intro i hi
    rcases eq_or_ne i k with rfl | hne
    · rw [Function.update_self]
      exact h.zero i le_rfl hk
    · rw [Function.update_of_ne hne]
      exact h.other i (by omega)

/-- **A carry adds the weight of the digit where it starts.** -/
theorem value (h : Carry m k j d d') (hkj : k ≤ j) (hj : j < n) : value m d' n = value m d n + weight m k := by
  obtain ⟨r, hr⟩ := Nat.exists_eq_add_of_le hkj
  induction r generalizing k d with
  | zero =>
    have hjk : j = k := hr
    subst hjk
    have hd' : d' = Function.update d j (d j + 1) := by
      funext i
      rcases eq_or_ne i j with rfl | hne
      · rw [Function.update_self]
        exact h.bump
      · rw [Function.update_of_ne hne]
        exact h.other i (by omega)
    rw [hd', value_update hj]
    ring
  | succ r ih =>
    have hk : k < j := by omega
    -- the full digit is emptied, and the rest is a carry from the next digit on
    calc Core.value m d' n
        = Core.value m (Function.update d k 0) n + weight m (k + 1) := ih (h.tail hk) (by omega) (by omega)
      _ = Core.value m d n + (0 - d k) * weight m k + weight m k * (m k + 1) := by
          rw [value_update (by omega), weight_succ]
      _ = Core.value m d n + weight m k := by
          rw [h.full k le_rfl hk]
          ring

end Carry

end GameServer.Core
