/-
A table changed by operations that are local: each one has a key, and changes the entry of that key by a function of
this entry.

- `applyAll_apply`: an entry changes by the operations of its key alone;
- `applyAll_eq_self_iff`: so the table is left as it was exactly if the operations of every key cancel, and, if no key
  comes twice, exactly if no operation changes its entry (`applyAll_eq_self_of_nodup`);
- `foldl_update`: a loop over one entry is one update of it.
-/
import Mathlib.Tactic

namespace GameServer.Core

section

variable {ι α β : Type*} [DecidableEq ι] (key : β → ι) (act : β → α → α)

def applyOne (s : ι → α) (o : β) : ι → α := Function.update s (key o) (act o (s (key o)))

def applyAll (s : ι → α) (ops : List β) : ι → α := ops.foldl (applyOne key act) s

/-- the operations of one key -/
def actAll (ops : List β) (i : ι) (a : α) : α := (ops.filter fun o => key o = i).foldl (fun a o => act o a) a

variable {key act} {s : ι → α} {ops : List β}

theorem applyAll_apply (i : ι) : applyAll key act s ops i = actAll key act ops i (s i) := by
  unfold applyAll actAll
  induction ops generalizing s with
  | nil => rfl
  | cons o ops ih =>
    rw [List.foldl_cons, ih]
    by_cases hkey : key o = i
    · rw [List.filter_cons_of_pos (by simpa using hkey), List.foldl_cons, applyOne, hkey, Function.update_self]
    · rw [List.filter_cons_of_neg (by simpa using hkey), applyOne, Function.update_of_ne (Ne.symm hkey)]

/-- a loop that works on one entry -/
theorem foldl_update {γ : Type*} (i : ι) (g : α → γ → α) (s : ι → α) (l : List γ) :
    l.foldl (fun s c => Function.update s i (g (s i) c)) s = Function.update s i (l.foldl g (s i)) := by
  induction l generalizing s with
  | nil => simp
  | cons c l ih =>
    rw [List.foldl_cons, ih, Function.update_self, Function.update_idem]
    rfl

theorem applyAll_eq_self_iff : applyAll key act s ops = s ↔ ∀ i, actAll key act ops i (s i) = s i := by
  rw [funext_iff]
  exact forall_congr' fun i => by rw [applyAll_apply]

/-- **Operations of different keys cannot cancel.** -/
theorem applyAll_eq_self_of_nodup (hkeys : (ops.map key).Nodup) :
    applyAll key act s ops = s ↔ ∀ o ∈ ops, act o (s (key o)) = s (key o) := by
  unfold applyAll
  induction ops generalizing s with
  | nil => simp
  | cons o ops ih =>
    rw [List.map_cons, List.nodup_cons] at hkeys
    rw [List.foldl_cons, List.forall_mem_cons]
    constructor
    · intro hsame
      have hfirst : act o (s (key o)) = s (key o) := by
        have hentry : applyAll key act (applyOne key act s o) ops (key o) = s (key o) := congrFun hsame (key o)
        have hother : ops.filter (fun o' => key o' = key o) = [] := by
          rw [List.filter_eq_nil_iff]
          intro o' ho' heq
          exact hkeys.1 (List.mem_map.2 ⟨o', ho', of_decide_eq_true heq⟩)
        rwa [applyAll_apply, actAll, hother, List.foldl_nil, applyOne, Function.update_self] at hentry
      have hstep : applyOne key act s o = s := by rw [applyOne, hfirst, Function.update_eq_self]
      rw [hstep] at hsame
      exact ⟨hfirst, (ih hkeys.2).1 hsame⟩
    · rintro ⟨hfirst, hrest⟩
      have hstep : applyOne key act s o = s := by rw [applyOne, hfirst, Function.update_eq_self]
      rw [hstep]
      exact (ih hkeys.2).2 hrest

end

end GameServer.Core
