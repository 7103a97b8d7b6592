/-
Levels with an experience threshold each: experience is carried one level at a time, and stays at the top level.

`Pos` is a level with the experience in it, `up` adds one point. The levels are 1..M and `next l` points lead from l to
l + 1.
- `up_total`: the total (everything below the level, plus the experience) grows by one;
- `up_normal`: below the top the experience stays under the threshold;
- `iterate_total`, `iterate_normal`, `iterate_level`: the same for any number of points.
-/
import Mathlib.Tactic
import GameServer.Core.Range

namespace GameServer.Core.Ladder

structure Pos where
  level : ℤ
  exp : ℤ
deriving DecidableEq, Repr

variable (next : ℤ → ℤ) (M : ℤ)

/-- one point of experience -/
def up (p : Pos) : Pos :=
  if next p.level ≤ p.exp + 1 ∧ p.level < M then ⟨p.level + 1, p.exp + 1 - next p.level⟩ else ⟨p.level, p.exp + 1⟩

/-- all points ever added -/
def total (p : Pos) : ℤ := ((Int.range 1 p.level).map next).sum + p.exp

structure Normal (p : Pos) : Prop where
  level_pos : 1 ≤ p.level
  level_le : p.level ≤ M
  exp_lt : p.level < M → p.exp < next p.level

variable {next M} {p : Pos}

theorem up_total (h : 1 ≤ p.level) : total next (up next M p) = total next p + 1 := by
  unfold up total
  split_ifs
  · dsimp only
    rw [Range.succ h, List.map_append, List.sum_append]
    simp only [List.map_cons, List.map_nil, List.sum_singleton]
    ring
  · dsimp only
    ring

theorem up_normal (hnext : ∀ l, 1 ≤ l → l ≤ M → 0 < next l) (h : Normal next M p) : Normal next M (up next M p) := by
  obtain ⟨h1, h2, h3⟩ := h
  unfold up
  split_ifs with hup
  · -- the threshold is met exactly, so nothing is left over
    have hexp := h3 hup.2
    have hpos := hnext (p.level + 1) (by omega) (by omega)
    exact ⟨by dsimp only; omega, by dsimp only; omega, fun _ => by dsimp only; omega⟩
  · exact ⟨h1, h2, fun hlt => by dsimp only at hlt ⊢; by_contra hge; exact hup ⟨by omega, hlt⟩⟩

theorem up_level (p : Pos) : p.level ≤ (up next M p).level := by
  unfold up
  split_ifs
  · dsimp only; omega
  · exact le_refl _

theorem up_level_le (h : p.level ≤ M) : (up next M p).level ≤ M := by
  unfold up
  split_ifs with hup
  · dsimp only; omega
  · exact h

/-- at the top level only the experience grows -/
theorem iterate_top (exp : ℤ) (n : ℕ) : (up next M)^[n] ⟨M, exp⟩ = ⟨M, exp + n⟩ := by
  induction n with
  | zero => simp
  | succ n ih =>
    rw [Function.iterate_succ_apply', ih, up, if_neg fun h => absurd h.2 (lt_irrefl M)]
    simp only [Nat.cast_add, Nat.cast_one, Pos.mk.injEq, true_and]
    ring

theorem up_exp_nonneg (h : 0 ≤ p.exp) : 0 ≤ (up next M p).exp := by
  unfold up
  split_ifs with hup
  · dsimp only; omega
  · dsimp only; omega

theorem iterate_normal (hnext : ∀ l, 1 ≤ l → l ≤ M → 0 < next l) (h : Normal next M p) (n : ℕ) :
    Normal next M ((up next M)^[n] p) := by
  induction n with
  | zero => exact h
  | succ n ih =>
    rw [Function.iterate_succ_apply']
    exact up_normal hnext ih

theorem iterate_total (hnext : ∀ l, 1 ≤ l → l ≤ M → 0 < next l) (h : Normal next M p) (n : ℕ) :
    total next ((up next M)^[n] p) = total next p + n := by
  induction n with
  | zero => simp
  | succ n ih =>
    calc total next ((up next M)^[n + 1] p)
        = total next (up next M ((up next M)^[n] p)) := by rw [Function.iterate_succ_apply']
      _ = total next ((up next M)^[n] p) + 1 := up_total (iterate_normal hnext h n).level_pos
      _ = total next p + (n + 1 : ℕ) := by
          rw [ih]
          push_cast
          ring

theorem iterate_level (n : ℕ) : p.level ≤ ((up next M)^[n] p).level := by
  induction n with
  | zero => exact le_refl _
  | succ n ih =>
    rw [Function.iterate_succ_apply']
    exact ih.trans (up_level _)

theorem iterate_exp_nonneg (h : 0 ≤ p.exp) (n : ℕ) : 0 ≤ ((up next M)^[n] p).exp := by
  induction n with
  | zero => exact h
  | succ n ih =>
    rw [Function.iterate_succ_apply']
    exact up_exp_nonneg ih

end GameServer.Core.Ladder
