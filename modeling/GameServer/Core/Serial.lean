/-
A counter that hands out its numbers in order, and the log of the numbers handed out.

- `serial c n`: the n numbers from c on;
- `Issues`: from `s` to `t` the counter hands out n numbers, and the log grows by exactly these;
- `Issues.refl`, `Issues.trans`: the ways in which issues are put together.
No number is handed out twice (`serial_nodup`), and none is left out.
-/
import Mathlib.Tactic

namespace GameServer.Core

/-- the n numbers from c on -/
def serial (c : ℤ) (n : ℕ) : List ℤ := (List.range n).map fun i : ℕ => c + i

@[simp] theorem serial_zero (c : ℤ) : serial c 0 = [] := rfl

theorem serial_one (c : ℤ) : serial c 1 = [c] := by simp [serial]

theorem serial_add (c : ℤ) (m n : ℕ) : serial c (m + n) = serial c m ++ serial (c + m) n := by
  have hshift : ∀ i : ℕ, c + ((m + i : ℕ) : ℤ) = c + m + i := by intro i; push_cast; ring
  simp only [serial, List.range_add, List.map_append, List.map_map, Function.comp_def, hshift]

theorem serial_nodup (c : ℤ) (n : ℕ) : (serial c n).Nodup := by
  refine List.nodup_range.map fun i j hij => ?_
  exact_mod_cast add_left_cancel hij

variable {σ : Type*} {count : σ → ℤ} {log : σ → List ℤ} {s t u : σ} {m n : ℕ}

/-- n numbers are handed out between `s` and `t` -/
structure Issues (count : σ → ℤ) (log : σ → List ℤ) (n : ℕ) (s t : σ) : Prop where
  log_eq : log t = log s ++ serial (count s) n
  count_eq : count t = count s + n

namespace Issues

theorem refl (s : σ) : Issues count log 0 s s := ⟨by simp, by simp⟩

theorem trans (h1 : Issues count log m s t) (h2 : Issues count log n t u) : Issues count log (m + n) s u := by
  constructor
  · calc log u = log t ++ serial (count t) n := h2.log_eq
      _ = log s ++ (serial (count s) m ++ serial (count s + m) n) := by
        rw [h1.log_eq, h1.count_eq, List.append_assoc]
      _ = log s ++ serial (count s) (m + n) := by rw [serial_add]
  · calc count u = count t + n := h2.count_eq
      _ = count s + m + n := by rw [h1.count_eq]
      _ = count s + (m + n : ℕ) := by push_cast; ring

/-- what is new in the log has no repetition -/
theorem new_nodup (h : Issues count log n s t) {new : List ℤ} (hnew : log t = log s ++ new) : new.Nodup := by
  have heq : new = serial (count s) n := List.append_cancel_left (hnew.symm.trans h.log_eq)
  rw [heq]
  exact serial_nodup _ _

end Issues

end GameServer.Core
