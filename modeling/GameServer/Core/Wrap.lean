/-
Counters of a fixed width: numbers are added modulo `m`, and the result is compared with a bound only at the end.

- `wrapSum_eq`: the counter is the exact sum modulo `m`;
- `narrow_le_iff`: a bound on the counter is a bound on the number exactly if the number fits;
- `min_mod_eq_iff`: the counter may be cut off at `cap` in place of the exact sum if the sum fits or the counter is over
  `cap` anyway.
-/
import Mathlib.Tactic

namespace GameServer.Core

/-- additions modulo `m` -/
def wrapSum (m a : ℕ) (l : List ℕ) : ℕ := l.foldl (fun n x => (n + x) % m) a

theorem wrapSum_eq {m a : ℕ} (ha : a < m) (l : List ℕ) : wrapSum m a l = (a + l.sum) % m := by
  induction l generalizing a with
  | nil => rw [List.sum_nil, Nat.add_zero, Nat.mod_eq_of_lt ha, wrapSum, List.foldl_nil]
  | cons x l ih =>
    have hlt : (a + x) % m < m := Nat.mod_lt _ (Nat.zero_lt_of_lt ha)
    calc wrapSum m a (x :: l) = wrapSum m ((a + x) % m) l := rfl
      _ = ((a + x) % m + l.sum) % m := ih hlt
      _ = (a + (x :: l).sum) % m := by rw [Nat.mod_add_mod, List.sum_cons, Nat.add_assoc]

theorem narrow_le_iff {m c n : ℕ} (hc : c < m) (h : n % m ≤ c) : n ≤ c ↔ n < m := by
  constructor
  · intro hn
    exact hn.trans_lt hc
  · intro hn
    rwa [Nat.mod_eq_of_lt hn] at h

theorem min_mod_eq_iff {m cap n : ℕ} (hcap : cap < m) : min cap (n % m) = min cap n ↔ n < m ∨ cap ≤ n % m := by
  rcases Nat.lt_or_ge n m with hn | hn
  · rw [Nat.mod_eq_of_lt hn]
    exact iff_of_true rfl (Or.inl hn)
  · rw [min_eq_left (hcap.le.trans hn), min_eq_left_iff]
    exact ⟨Or.inr, fun h => h.resolve_left (Nat.not_lt.2 hn)⟩

/-- a fold that may fail, followed by the fold of its successful steps -/
theorem foldlM_ok_eq {σ α ε : Type*} {f : σ → α → Except ε σ} {g : σ → α → σ}
    (hf : ∀ s a s', f s a = .ok s' → s' = g s a) {l : List α} {s s' : σ} (h : l.foldlM f s = .ok s') :
    s' = l.foldl g s := by
  induction l generalizing s with
  | nil =>
    obtain rfl := Except.ok.inj h
    rfl
  | cons a l ih =>
    rw [List.foldlM_cons] at h
    cases hstep : f s a with
    | error e =>
      rw [hstep] at h
      cases h
    | ok s₁ =>
      rw [hstep] at h
      rw [List.foldl_cons, ← hf s a s₁ hstep]
      exact ih h

end GameServer.Core
