/-
A table written by a list of assignments, one after the other: the last assignment of a key is its value.

Assignments may be dropped as long as no key loses its value with them (`overwrite_filter`).
-/
import Mathlib.Tactic

namespace GameServer.Core

variable {κ β : Type*} [DecidableEq κ]

def overwrite (f : κ → β) (ws : List (κ × β)) : κ → β := ws.foldl (fun f w => Function.update f w.1 w.2) f

@[simp] theorem overwrite_nil (f : κ → β) : overwrite f [] = f := rfl

@[simp] theorem overwrite_cons (f : κ → β) (w : κ × β) (ws : List (κ × β)) :
    overwrite f (w :: ws) = overwrite (Function.update f w.1 w.2) ws := rfl

theorem overwrite_append (f : κ → β) (a b : List (κ × β)) : overwrite f (a ++ b) = overwrite (overwrite f a) b := by
  simp [overwrite, List.foldl_append]

/-- only the old value of a key matters for its new value -/
theorem overwrite_congr {f g : κ → β} {k : κ} (h : f k = g k) (ws : List (κ × β)) : overwrite f ws k = overwrite g ws k := by
  induction ws generalizing f g with
  | nil => exact h
  | cons w ws ih =>
    rw [overwrite_cons, overwrite_cons]
    apply ih
    by_cases hk : k = w.1
    · rw [hk, Function.update_self, Function.update_self]
    · rw [Function.update_of_ne hk, Function.update_of_ne hk, h]

theorem overwrite_of_not_mem {f : κ → β} {ws : List (κ × β)} {k : κ} (h : ∀ w ∈ ws, w.1 ≠ k) : overwrite f ws k = f k := by
  induction ws generalizing f with
  | nil => rfl
  | cons w ws ih =>
    rw [overwrite_cons, ih fun w' hw' => h w' (List.mem_cons_of_mem w hw')]
    exact Function.update_of_ne (h w List.mem_cons_self).symm _ _

/-- all assignments of a key agree -/
theorem overwrite_of_forall {f : κ → β} {ws : List (κ × β)} {k : κ} {v : β} (h : ∀ w ∈ ws, w.1 = k → w.2 = v)
    (hmem : ∃ w ∈ ws, w.1 = k) : overwrite f ws k = v := by
  induction ws using List.reverseRecOn with
  | nil => simp at hmem
  | append_singleton ws w ih =>
    rw [overwrite_append, overwrite_cons, overwrite_nil]
    by_cases hw : w.1 = k
    · rw [← hw, Function.update_self]
      exact h w (by simp) hw
    · rw [Function.update_of_ne (Ne.symm hw)]
      obtain ⟨w', hw', hk⟩ := hmem
      rcases List.mem_append.1 hw' with hold | hlast
      · exact ih (fun w hw => h w (List.mem_append_left _ hw)) ⟨w', hold, hk⟩
      · exact absurd (List.mem_singleton.1 hlast ▸ hk) hw

/-- **Assignments of other values than the last one may be dropped.** -/
theorem overwrite_filter {f : κ → β} {P : κ × β → Bool} {ws : List (κ × β)} {k : κ}
    (h : ∀ w ∈ ws, w.1 = k → P w = false → w.2 ≠ overwrite f ws k) :
    overwrite f (ws.filter P) k = overwrite f ws k := by
  induction ws using List.reverseRecOn with
  | nil => rfl
  | append_singleton ws w ih =>
    simp only [overwrite_append, overwrite_cons, overwrite_nil] at h ⊢
    rw [List.filter_append, overwrite_append]
    by_cases hw : w.1 = k
    · -- the last assignment is one of the key, so it is kept
      rw [← hw, Function.update_self] at h ⊢
      have hkeep : P w = true := by
        by_contra hdrop
        exact h w (by simp) rfl (by simpa using hdrop) rfl
      simp [hkeep]
    · rw [Function.update_of_ne (Ne.symm hw)] at h ⊢
      rw [overwrite_of_not_mem, ih fun w' hw' => h w' (List.mem_append_left _ hw')]
      intro w' hw'
      rwa [List.mem_singleton.1 (List.mem_of_mem_filter hw')]

end GameServer.Core
