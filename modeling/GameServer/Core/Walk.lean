/-
Walks along a partial function `next` from a point to the end, where `next` is undefined.

- `Walk next a l e`: from a through the points of l to the end e;
- `exists_walk`: if `next` cannot be followed for ever, every point has a walk;
- `Walk.mem_iff`, `Walk.reach_end`: the points on the walk are those reached that have a next one, and every point
  reached leads to the same end;
- `wellFounded_of_acyclic`: links from finitely many points that close no cycle cannot be followed for ever.
-/
import Mathlib.Tactic

namespace GameServer.Core

open Relation

variable {α : Type*}

inductive Walk (next : α → Option α) : α → List α → α → Prop where
  | done {a : α} : next a = none → Walk next a [] a
  | step {a b e : α} {l : List α} : next a = some b → Walk next b l e → Walk next a (a :: l) e

/-- b follows a -/
def Link (next : α → Option α) (a b : α) : Prop := next a = some b

variable {next : α → Option α} {a e x : α} {l : List α}

theorem exists_walk (hwf : WellFounded fun b a => Link next a b) (a : α) : ∃ l e, Walk next a l e := by
  induction a using hwf.induction with
  | _ a ih =>
    cases ha : next a with
    | none => exact ⟨[], a, .done ha⟩
    | some b =>
      obtain ⟨l, e, h⟩ := ih b ha
      exact ⟨a :: l, e, .step ha h⟩

namespace Walk

theorem next_end (h : Walk next a l e) : next e = none := by
  induction h with
  | done he => exact he
  | step _ _ ih => exact ih

theorem end_reached (h : Walk next a l e) : ReflTransGen (Link next) a e := by
  induction h with
  | done _ => exact .refl
  | step hab _ ih => exact .head hab ih

/-- every point reached leads to the end -/
theorem reach_end (h : Walk next a l e) (hx : ReflTransGen (Link next) a x) : ReflTransGen (Link next) x e := by
  induction h with
  | done he =>
    rcases ReflTransGen.cases_head hx with rfl | ⟨b, hb, -⟩
    · exact .refl
    · rw [Link, he] at hb
      cases hb
  | step hab hwalk ih =>
    rcases ReflTransGen.cases_head hx with rfl | ⟨b', hb', hbx⟩
    · exact .head hab hwalk.end_reached
    · obtain rfl := Option.some.inj (hab.symm.trans hb')
      exact ih hbx

/-- a point without a next one is the end -/
theorem eq_end (h : Walk next a l e) (hx : ReflTransGen (Link next) a x) (hnone : next x = none) : x = e := by
  rcases ReflTransGen.cases_head (h.reach_end hx) with rfl | ⟨b, hb, -⟩
  · rfl
  · rw [Link, hnone] at hb
    cases hb

/-- **The points on the walk** are those reached that have a next one. -/
theorem mem_iff (h : Walk next a l e) : x ∈ l ↔ ReflTransGen (Link next) a x ∧ next x ≠ none := by
  induction h with
  | done he =>
    simp only [List.not_mem_nil, false_iff, not_and, not_not]
    intro hx
    rcases ReflTransGen.cases_head hx with rfl | ⟨b, hb, -⟩
    · exact he
    · rw [Link, he] at hb
      cases hb
  | @step a b e l hab hwalk ih =>
    rw [List.mem_cons, ih]
    constructor
    · rintro (rfl | ⟨hbx, hx⟩)
      · exact ⟨.refl, by rw [hab]; exact Option.some_ne_none b⟩
      · exact ⟨.head hab hbx, hx⟩
    · rintro ⟨hax, hx⟩
      rcases ReflTransGen.cases_head hax with rfl | ⟨b', hb', hbx⟩
      · exact Or.inl rfl
      · obtain rfl := Option.some.inj (hab.symm.trans hb')
        exact Or.inr ⟨hbx, hx⟩

end Walk

/-- links that start in a finite set and close no cycle -/
theorem wellFounded_of_acyclic {r : α → α → Prop} {S : Set α} (hfin : S.Finite) (hstart : ∀ a b, r a b → a ∈ S)
    (hacyclic : ∀ a, ¬ TransGen r a a) : WellFounded fun b a => r a b := by
  have hfinite : Finite S := hfin
  have htrans : IsTrans S fun b a => TransGen r a.1 b.1 := ⟨fun _ _ _ hab hbc => hbc.trans hab⟩
  have hirrefl : Std.Irrefl fun b a : S => TransGen r a.1 b.1 := ⟨fun a => hacyclic a.1⟩
  have hwf : WellFounded fun b a : S => TransGen r a.1 b.1 := Finite.wellFounded_of_trans_of_irrefl _
  -- a point outside the set has no links
  have hout : ∀ b, b ∉ S → Acc (fun b a => r a b) b := fun b hb => ⟨b, fun c hbc => absurd (hstart b c hbc) hb⟩
  have hin : ∀ a : S, Acc (fun b a => r a b) a.1 := by
    intro a
    induction a using hwf.induction with
    | _ a ih =>
      refine ⟨a.1, fun b hab => ?_⟩
      by_cases hb : b ∈ S
      · exact ih ⟨b, hb⟩ (.single hab)
      · exact hout b hb
  refine ⟨fun a => ?_⟩
  by_cases ha : a ∈ S
  · exact hin ⟨a, ha⟩
  · exact hout a ha

end GameServer.Core
