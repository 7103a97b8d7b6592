/-
Two records of one fact: an occupancy table (position ↦ occupant) and the position each occupant claims.

`Agree occ pos` says that the two records describe the same partial bijection. The four ways in which a program updates
both sides keep it:
- `Agree.vacate`: an occupant leaves, and its position is emptied;
- `Agree.occupy`: an unplaced occupant takes a free position;
- `Agree.displace`: an unplaced occupant takes a position and its former holder becomes unplaced;
- `Agree.congr`: pointwise equal records.
`not_agree_of_stale` is the converse of interest: a claim that the table does not honour breaks agreement.
-/
import Mathlib.Tactic

namespace GameServer.Core

variable {P α : Type*}

/-- the table holds `a` at `p` exactly when `a` claims `p` -/
def Agree (occ : P → Option α) (pos : α → Option P) : Prop := ∀ p a, occ p = some a ↔ pos a = some p

namespace Agree

variable {occ occ' : P → Option α} {pos pos' : α → Option P}

theorem congr (h : Agree occ pos) (ho : ∀ p, occ' p = occ p) (hp : ∀ a, pos' a = pos a) : Agree occ' pos' := by
  intro p a
  rw [ho, hp]
  exact h p a

/-- no position is claimed twice -/
theorem unique_claim (h : Agree occ pos) {p : P} {a b : α} (ha : pos a = some p) (hb : pos b = some p) : a = b := by
  have h1 := (h p a).2 ha
  rw [(h p b).2 hb] at h1
  exact (Option.some.inj h1).symm

variable [DecidableEq P] [DecidableEq α]

/-- `a` leaves its position -/
theorem vacate (h : Agree occ pos) (a : α) :
    Agree (fun p => if pos a = some p then none else occ p) (Function.update pos a none) := by
  intro p b
  change (if pos a = some p then none else occ p) = some b ↔ _
  rcases eq_or_ne b a with rfl | hb
  · simp only [Function.update_self, reduceCtorEq, iff_false]
    split_ifs with hp
    · simp
    · exact fun ho => hp ((h p b).1 ho)
  · rw [Function.update_of_ne hb]
    split_ifs with hp
    · simp only [false_iff]
      exact fun hb' => hb (h.unique_claim hb' hp)
    · exact h p b

/-- an unplaced occupant takes a free position -/
theorem occupy (h : Agree occ pos) {a : α} {p : P} (ha : pos a = none) (hp : occ p = none) :
    Agree (Function.update occ p (some a)) (Function.update pos a (some p)) := by
  intro q b
  rcases eq_or_ne q p with rfl | hq
  · rw [Function.update_self]
    rcases eq_or_ne b a with rfl | hb
    · simp
    · rw [Function.update_of_ne hb, ← h q b, hp]
      simp [Ne.symm hb]
  · rw [Function.update_of_ne hq]
    rcases eq_or_ne b a with rfl | hb
    · rw [Function.update_self, h q b, ha]
      simp [Ne.symm hq]
    · rw [Function.update_of_ne hb]
      exact h q b

/-- an unplaced occupant takes the position of `b`, and `b` becomes unplaced -/
theorem displace (h : Agree occ pos) {a b : α} {p : P} (ha : pos a = none) (hp : occ p = some b) :
    Agree (Function.update occ p (some a)) (Function.update (Function.update pos b none) a (some p)) := by
  have hb : pos b = some p := (h p b).1 hp
  have hab : a ≠ b := by
    rintro rfl
    rw [ha] at hb
    cases hb
  have hv := (h.vacate b).occupy (a := a) (p := p) (by rw [Function.update_of_ne hab]; exact ha) (by simp [hb])
  refine hv.congr (fun q => ?_) (fun _ => rfl)
  rcases eq_or_ne q p with rfl | hq
  · simp
  · simp [Function.update_of_ne hq, hb, Ne.symm hq]

end Agree

/-- a claim that the table does not honour breaks agreement -/
theorem not_agree_of_stale {occ : P → Option α} {pos : α → Option P} {p : P} {a : α} (hp : pos a = some p)
    (ho : occ p ≠ some a) : ¬ Agree occ pos := fun h => ho ((h p a).2 hp)

end GameServer.Core
