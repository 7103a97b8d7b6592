/-
Filling two quotas in one pass, with one counter too few.

Tokens come in a fixed order, some of them special. `u` special tokens are wanted, and `c` more of any kind. A special
token is taken as long as special ones are missing. Any other token is taken as long as fewer than `c` tokens have been
taken in all: the counter does not tell the two kinds apart.
- `foldl_quotaStep_front`: the first `c` tokens are all taken;
- `foldl_quotaStep_back`: from then on only missing special tokens are;
- `quotaFill_iff`: so a pass over enough tokens takes `c + u` exactly if no special token is among the first `c`.
-/
import Mathlib.Tactic

namespace GameServer.Core

section

variable (c u : ℕ)

/-- the tokens taken and the special tokens among them, after one more token -/
def quotaStep (s : ℕ × ℕ) (special : Bool) : ℕ × ℕ :=
  if special = true ∧ s.2 < u then (s.1 + 1, s.2 + 1) else if s.1 < c then (s.1 + 1, s.2) else s

def quotaFill (l : List Bool) : ℕ × ℕ := l.foldl (quotaStep c u) (0, 0)

variable {c u} {k r : ℕ} {l : List Bool}

theorem foldl_quotaStep_front (hk : k + l.length ≤ c) (hr : r ≤ u) :
    l.foldl (quotaStep c u) (k, r) = (k + l.length, min u (r + l.count true)) := by
  induction l generalizing k r with
  | nil => simp [hr]
  | cons b l ih =>
    rw [List.length_cons] at hk
    have hkc : k < c := by omega
    rw [List.foldl_cons, List.length_cons]
    by_cases hspecial : b = true ∧ r < u
    · obtain ⟨rfl, hru⟩ := hspecial
      rw [quotaStep, if_pos ⟨rfl, hru⟩, ih (by omega) hru, List.count_cons_self]
      ext <;> dsimp only <;> omega
    · rw [quotaStep, if_neg hspecial, if_pos hkc, ih (by omega) hr]
      cases b with
      | false =>
        rw [List.count_cons_of_ne (by simp)]
        ext <;> dsimp only
        omega
      | true =>
        have hfull : r = u := by
          by_contra hne
          exact hspecial ⟨rfl, by omega⟩
        rw [List.count_cons_self]
        ext <;> dsimp only <;> omega

theorem foldl_quotaStep_back (hk : c ≤ k) (hr : r ≤ u) :
    l.foldl (quotaStep c u) (k, r) = (k + (min u (r + l.count true) - r), min u (r + l.count true)) := by
  induction l generalizing k r with
  | nil => simp [hr]
  | cons b l ih =>
    rw [List.foldl_cons]
    by_cases hspecial : b = true ∧ r < u
    · obtain ⟨rfl, hru⟩ := hspecial
      rw [quotaStep, if_pos ⟨rfl, hru⟩, ih (by omega) hru, List.count_cons_self]
      ext <;> dsimp only <;> omega
    · rw [quotaStep, if_neg hspecial, if_neg (by dsimp only; omega), ih hk hr]
      cases b with
      | false => rw [List.count_cons_of_ne (by simp)]
      | true =>
        have hfull : r = u := by
          by_contra hne
          exact hspecial ⟨rfl, by omega⟩
        rw [List.count_cons_self]
        ext <;> dsimp only <;> omega

/-- full quotas stay as they are -/
theorem foldl_quotaStep_full (hk : c ≤ k) : l.foldl (quotaStep c u) (k, u) = (k, u) := by
  rw [foldl_quotaStep_back hk le_rfl]
  ext <;> dsimp only <;> omega

/-- what a pass takes when there are tokens enough -/
theorem quotaFill_eq (hlen : c ≤ l.length) (hspecial : u ≤ l.count true) :
    quotaFill c u l = (c + (u - min u ((l.take c).count true)), u) := by
  have hfront : (l.take c).foldl (quotaStep c u) (0, 0) = (c, min u ((l.take c).count true)) := by
    rw [foldl_quotaStep_front (by rw [List.length_take]; omega) (Nat.zero_le u), List.length_take, min_eq_left hlen]
    simp
  have hcount : (l.take c).count true + (l.drop c).count true = l.count true := by
    rw [← List.count_append, List.take_append_drop]
  have hsplit : l.foldl (quotaStep c u) (0, 0) = (l.drop c).foldl (quotaStep c u) (c, min u ((l.take c).count true)) := by
    rw [← hfront, ← List.foldl_append, List.take_append_drop]
  rw [quotaFill, hsplit, foldl_quotaStep_back le_rfl (min_le_left _ _)]
  ext <;> dsimp only <;> omega

/-- what is taken is bounded by the quotas -/
theorem foldl_quotaStep_le (hk : k ≤ c + r) (hr : r ≤ u) :
    (l.foldl (quotaStep c u) (k, r)).1 ≤ c + (l.foldl (quotaStep c u) (k, r)).2 ∧
      (l.foldl (quotaStep c u) (k, r)).2 ≤ u := by
  induction l generalizing k r with
  | nil => exact ⟨hk, hr⟩
  | cons b l ih =>
    rw [List.foldl_cons, quotaStep]
    split_ifs with hspecial hroom
    · exact ih (by omega) hspecial.2
    · exact ih (by dsimp only at hroom; omega) hr
    · exact ih hk hr

/-- what is taken is bounded by the tokens -/
theorem foldl_quotaStep_tokens : (l.foldl (quotaStep c u) (k, r)).1 ≤ k + l.length ∧
    (l.foldl (quotaStep c u) (k, r)).2 ≤ r + l.count true := by
  induction l generalizing k r with
  | nil => simp
  | cons b l ih =>
    rw [List.foldl_cons, List.length_cons, quotaStep]
    split_ifs with hspecial hroom
    · obtain ⟨hfst, hsnd⟩ := ih (k := k + 1) (r := r + 1)
      dsimp only
      rw [hspecial.1, List.count_cons_self]
      exact ⟨by omega, by omega⟩
    · obtain ⟨hfst, hsnd⟩ := ih (k := k + 1) (r := r)
      dsimp only
      exact ⟨by omega, hsnd.trans (Nat.add_le_add_left List.count_le_count_cons _)⟩
    · obtain ⟨hfst, hsnd⟩ := ih (k := k) (r := r)
      exact ⟨by omega, hsnd.trans (Nat.add_le_add_left List.count_le_count_cons _)⟩

/-- **Both quotas are filled exactly if there are tokens enough and no special one comes too early.** -/
theorem quotaFill_iff : quotaFill c u l = (c + u, u) ↔
    (c + u ≤ l.length ∧ u ≤ l.count true) ∧ (u = 0 ∨ ∀ b ∈ l.take c, b = false) := by
  have hnone : (l.take c).count true = 0 ↔ ∀ b ∈ l.take c, b = false := by
    rw [List.count_eq_zero]
    constructor
    · intro h b hb
      cases b with
      | false => rfl
      | true => exact absurd hb h
    · intro h hmem
      cases h true hmem
  constructor
  · intro hfill
    obtain ⟨hlen, hspecial⟩ := foldl_quotaStep_tokens (c := c) (u := u) (k := 0) (r := 0) (l := l)
    rw [← quotaFill, hfill, Nat.zero_add] at hlen hspecial
    rw [quotaFill_eq (by omega) hspecial, Prod.mk.injEq] at hfill
    refine ⟨⟨hlen, hspecial⟩, ?_⟩
    rw [← hnone]
    omega
  · rintro ⟨⟨hlen, hspecial⟩, hearly⟩
    rw [← hnone] at hearly
    rw [quotaFill_eq (by omega) hspecial, Prod.mk.injEq, and_iff_left rfl]
    omega

end

end GameServer.Core
