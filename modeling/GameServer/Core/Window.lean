/-
Statistics over fixed windows of time. A window is (S, S + W], and the starts of any two windows are congruent modulo W.

- `window`: the entries of a log that lie in a window;
- `window_snoc`: a log in time order, read at its next entry. The entries of the last window count on if the last entry
  lies after the new start, and none does otherwise;
- `top`: the maximum of a list of non-negative numbers.
-/
import Mathlib.Tactic
import Mathlib.Data.Int.ModEq

namespace GameServer.Core

variable {γ : Type*}

def window (time : γ → ℤ) (W S : ℤ) (l : List γ) : List γ := l.filter fun g => decide (S < time g ∧ time g ≤ S + W)

/-- a time lies in one window only -/
theorem window_unique {W S S' t : ℤ} (hmod : S ≡ S' [ZMOD W]) (hS : S < t ∧ t ≤ S + W) (hS' : S' < t ∧ t ≤ S' + W) :
    S = S' := by
  have hdvd : W ∣ S' - S := hmod.dvd
  have hlt : |S' - S| < W := abs_lt.2 ⟨by omega, by omega⟩
  have hzero := Int.eq_zero_of_abs_lt_dvd hdvd hlt
  omega

theorem window_snoc {time : γ → ℤ} {W S S' last : ℤ} {l : List γ} {g : γ} (hl : ∀ g' ∈ l, time g' ≤ last)
    (hle : last ≤ time g) (hlast : S' < last ∧ last ≤ S' + W) (hg : S < time g ∧ time g ≤ S + W)
    (hmod : S ≡ S' [ZMOD W]) :
    window time W S (l ++ [g]) = (if S < last then window time W S' l else []) ++ [g] := by
  have hone : window time W S [g] = [g] := by simp [window, hg.1, hg.2]
  have hold : window time W S l = if S < last then window time W S' l else [] := by
    split_ifs with hS
    · rw [window_unique hmod ⟨hS, hle.trans hg.2⟩ hlast]
    · apply List.filter_eq_nil_iff.2
      intro g' hg'
      have hbefore := hl g' hg'
      simp only [decide_eq_true_eq, not_and, not_le]
      intro hlt
      omega
  calc window time W S (l ++ [g])
      = window time W S l ++ window time W S [g] := List.filter_append ..
    _ = (if S < last then window time W S' l else []) ++ [g] := by rw [hold, hone]

/-! ## Maxima -/

def top (l : List ℤ) : ℤ := l.foldl max 0

theorem top_snoc (l : List ℤ) (x : ℤ) : top (l ++ [x]) = max (top l) x := by
  simp [top, List.foldl_append]

theorem top_nonneg (l : List ℤ) : 0 ≤ top l := by
  induction l using List.reverseRecOn with
  | nil => exact le_rfl
  | append_singleton l x ih =>
    rw [top_snoc]
    exact ih.trans (le_max_left _ _)

theorem le_top {l : List ℤ} {x : ℤ} (hx : x ∈ l) : x ≤ top l := by
  induction l using List.reverseRecOn with
  | nil => cases hx
  | append_singleton l y ih =>
    rw [top_snoc]
    rcases List.mem_append.1 hx with hmem | hmem
    · exact (ih hmem).trans (le_max_left _ _)
    · exact (List.mem_singleton.1 hmem).le.trans (le_max_right _ _)

theorem top_mem {l : List ℤ} (hne : l ≠ []) (hl : ∀ x ∈ l, 0 ≤ x) : top l ∈ l := by
  induction l using List.reverseRecOn with
  | nil => exact absurd rfl hne
  | append_singleton l y ih =>
    have hy : 0 ≤ y := hl y (List.mem_append_right l (List.mem_singleton_self y))
    rw [top_snoc]
    by_cases hl0 : l = []
    · subst hl0
      simp [top, hy]
    · have hmem := ih hl0 fun x hx => hl x (List.mem_append_left [y] hx)
      rcases max_choice (top l) y with h | h
      · rw [h]
        exact List.mem_append_left [y] hmem
      · rw [h]
        exact List.mem_append_right l (List.mem_singleton_self y)

theorem top_isGreatest {l : List ℤ} (hne : l ≠ []) (hl : ∀ x ∈ l, 0 ≤ x) : IsGreatest {x | x ∈ l} (top l) :=
  ⟨top_mem hne hl, fun _ hx => le_top hx⟩

end GameServer.Core
