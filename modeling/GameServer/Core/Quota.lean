/-
A quota per period: a counter with the period it belongs to, and the log of the periods of all grants.

`used` is the count of a period: a counter of another period counts nothing. `Quota.grant`: granting below the limit and
storing the new count with the period keeps every period within the limit, if periods never go back.
-/
import Mathlib.Tactic

namespace GameServer.Core

variable {τ : Type*} [LinearOrder τ]

/-- the count `n` of period `cur`, asked in period `t` -/
def used (n : ℤ) (cur t : τ) : ℤ := if cur = t then n else 0

structure Quota (limit n : ℤ) (cur : τ) (log : List τ) : Prop where
  counted : (log.count cur : ℤ) ≤ n
  past : ∀ t ∈ log, t ≤ cur
  bound : ∀ t ∈ log, (log.count t : ℤ) ≤ limit

namespace Quota

variable {limit n : ℤ} {cur t : τ} {log : List τ}

theorem nil (limit : ℤ) (hn : 0 ≤ n) (cur : τ) : Quota limit n cur ([] : List τ) := ⟨by simpa using hn, by simp, by simp⟩

theorem count_le_used (h : Quota limit n cur log) (hle : cur ≤ t) : (log.count t : ℤ) ≤ used n cur t := by
  unfold used
  split_ifs with heq
  · exact heq ▸ h.counted
  · have hnot : t ∉ log := fun hmem => heq (le_antisymm hle (h.past t hmem))
    rw [List.count_eq_zero_of_not_mem hnot]
    exact le_rfl

theorem grant (h : Quota limit n cur log) (hle : cur ≤ t) (hlt : used n cur t < limit) :
    Quota limit (used n cur t + 1) t (log ++ [t]) := by
  have hcount := h.count_le_used hle
  refine ⟨?_, ?_, ?_⟩
  · rw [List.count_append, List.count_singleton_self]
    push_cast
    omega
  · intro t' ht'
    rcases List.mem_append.1 ht' with hmem | hmem
    · exact (h.past t' hmem).trans hle
    · exact (List.mem_singleton.1 hmem).le
  · intro t' ht'
    rw [List.count_append]
    by_cases heq : t' = t
    · subst heq
      rw [List.count_singleton_self]
      push_cast
      omega
    · have hmem : t' ∈ log := by simpa [heq] using ht'
      rw [List.count_eq_zero_of_not_mem (l := [t]) (by simpa using heq)]
      simpa using h.bound t' hmem

end Quota

end GameServer.Core
