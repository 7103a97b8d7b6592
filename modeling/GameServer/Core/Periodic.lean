/-
At most once per period: a log of (key, period) entries with a mark for every key that was used in the current period.

`Once cur marked log`: no entry is repeated, none lies in the future, and the keys of the current period are marked. Marks
may be forgotten when the period changes, and only then.
- `Once.advance`: a later period starts, with any marks;
- `Once.keep`: marks are kept;
- `Once.pay`: unmarked keys are used once each, and marked.
-/
import Mathlib.Tactic

namespace GameServer.Core

variable {κ τ : Type*} [LinearOrder τ]

structure Once (cur : τ) (marked : κ → Prop) (log : List (κ × τ)) : Prop where
  nodup : log.Nodup
  past : ∀ e ∈ log, e.2 ≤ cur
  marked : ∀ k, (k, cur) ∈ log → marked k

namespace Once

variable {cur cur' : τ} {marked marked' : κ → Prop} {log : List (κ × τ)}

theorem nil (cur : τ) (marked : κ → Prop) : Once cur marked ([] : List (κ × τ)) :=
  ⟨List.nodup_nil, by simp, by simp⟩

theorem keep (h : Once cur marked log) (hk : ∀ k, marked k → marked' k) : Once cur marked' log :=
  ⟨h.nodup, h.past, fun k hm => hk k (h.marked k hm)⟩

/-- nothing has been used in a period that is yet to come -/
theorem advance (h : Once cur marked log) (hlt : cur < cur') (marked' : κ → Prop) : Once cur' marked' log :=
  ⟨h.nodup, fun e he => (h.past e he).trans hlt.le, fun _ hm => absurd (h.past _ hm) (not_le.2 hlt)⟩

/-- the period stays or a later one starts: what was marked in the old one need not be marked in the new one -/
theorem move (h : Once cur marked log) (hle : cur ≤ cur') (hm : cur = cur' → ∀ k, marked k → marked' k) :
    Once cur' marked' log := by
  rcases hle.lt_or_eq with hlt | rfl
  · exact h.advance hlt marked'
  · exact h.keep (hm rfl)

/-- unmarked keys are used, each once -/
theorem pay (h : Once cur marked log) {ks : List κ} (hnd : ks.Nodup) (hfree : ∀ k ∈ ks, ¬ marked k)
    (hkeep : ∀ k, marked k → marked' k) (hmark : ∀ k ∈ ks, marked' k) :
    Once cur marked' (log ++ ks.map fun k => (k, cur)) := by
  refine ⟨?_, ?_, ?_⟩
  · rw [List.nodup_append]
    refine ⟨h.nodup, hnd.map fun a b hab => (Prod.mk.inj hab).1, fun e he e' he' heq => ?_⟩
    obtain ⟨k, hk, rfl⟩ := List.mem_map.1 he'
    rw [heq] at he
    exact hfree k hk (h.marked k he)
  · intro e he
    rcases List.mem_append.1 he with he | he
    · exact h.past e he
    · obtain ⟨k, -, rfl⟩ := List.mem_map.1 he
      exact le_rfl
  · intro k hk
    rcases List.mem_append.1 hk with hk | hk
    · exact hkeep k (h.marked k hk)
    · obtain ⟨k', hk', heq⟩ := List.mem_map.1 hk
      rw [← (Prod.mk.inj heq).1]
      exact hmark k' hk'

end Once

end GameServer.Core
