/-
Two fallible computations that succeed together.

`Matched Q v w`: both fail, or both succeed with results that `Q` relates; the errors may differ. A function is matched with
its copy check by check: `Matched.guard` for a check on both sides, `Matched.cases` for the results of a call.
-/
import Mathlib.Tactic

namespace GameServer.Core

variable {α β ε ε' : Type*}

def Matched (Q : α → β → Prop) : Except ε α → Except ε' β → Prop
  | .error _, .error _ => True
  | .ok x, .ok y => Q x y
  | _, _ => False

namespace Matched

variable {Q : α → β → Prop} {v : Except ε α} {w : Except ε' β}

/-- the results are equal -/
theorem of_eq {v w : Except ε α} (h : v = w) : Matched Eq v w := by
  subst h
  cases v with
  | error e => trivial
  | ok x => exact Eq.refl x

theorem cases (h : Matched Q v w) : (∃ e e', v = .error e ∧ w = .error e') ∨ ∃ x y, v = .ok x ∧ w = .ok y ∧ Q x y := by
  cases v with
  | error e =>
    cases w with
    | error e' => exact Or.inl ⟨e, e', rfl, rfl⟩
    | ok y => exact h.elim
  | ok x =>
    cases w with
    | error e' => exact h.elim
    | ok y => exact Or.inr ⟨x, y, rfl, rfl, h⟩

/-- both fail under the same condition -/
theorem guard {c : Prop} [Decidable c] {e : ε} {e' : ε'} (h : ¬ c → Matched Q v w) :
    Matched Q (if c then .error e else v) (if c then .error e' else w) := by
  split_ifs with hc
  · trivial
  · exact h hc

/-- both branches -/
theorem ite {c : Prop} [Decidable c] {v' : Except ε α} {w' : Except ε' β} (h : Matched Q v w) (h' : Matched Q v' w') :
    Matched Q (if c then v else v') (if c then w else w') := by
  split_ifs
  · exact h
  · exact h'

end Matched

end GameServer.Core
