/-
Parent pointers. `node a` is the parent of a, `none` if there is no a; the marker `root` stands for no parent.

- `Grounded`: the parents of a lead to the marker through existing nodes; `Forest`: those of every node do;
- `OnPath p a`: a is p or one of the ancestors of p;
- `attach_iff`, `remove_iff`: hanging a node below p, or removing it, keeps a forest exactly if the node does not lie on
  the path from p, or has no children.
-/
import Mathlib.Tactic

namespace GameServer.Core

variable {ι : Type*}

inductive Grounded (node : ι → Option ι) (root : ι) : ι → Prop where
  | root : Grounded node root root
  | up {a b : ι} : node a = some b → Grounded node root b → Grounded node root a

def Forest (node : ι → Option ι) (root : ι) : Prop := ∀ a b, node a = some b → Grounded node root b

inductive OnPath (node : ι → Option ι) (root : ι) : ι → ι → Prop where
  | here {a : ι} : a ≠ root → OnPath node root a a
  | up {a b c : ι} : a ≠ root → node a = some b → OnPath node root b c → OnPath node root a c

variable {node node' : ι → Option ι} {root : ι}

theorem OnPath.ne_root {a c : ι} (h : OnPath node root a c) : a ≠ root := by
  cases h with
  | here hne => exact hne
  | up hne _ _ => exact hne

/-- a node is on its own path, or on the one of its parent -/
theorem OnPath.parent {a b c : ι} (h : OnPath node root a c) (hac : a ≠ c) (hb : node a = some b) :
    OnPath node root b c := by
  cases h with
  | here _ => exact absurd rfl hac
  | up _ hb' hbc =>
    obtain rfl := Option.some.inj (hb.symm.trans hb')
    exact hbc

namespace Forest

theorem congr (h : Forest node root) (heq : ∀ a, node' a = node a) : Forest node' root := by
  have hfun : node' = node := funext heq
  rw [hfun]
  exact h

/-- links that cannot go down for ever, to existing nodes, make a forest -/
theorem of_wf {link : ι → ι → Prop} (hwf : WellFounded fun p c => link c p)
    (h : ∀ a b, node a = some b → b = root ∨ link a b ∧ (node b).isSome) : Forest node root := by
  have hground : ∀ a, (node a).isSome → Grounded node root a := by
    intro a
    induction a using hwf.induction with
    | _ a ih =>
      intro ha
      obtain ⟨b, hb⟩ := Option.isSome_iff_exists.1 ha
      rcases h a b hb with rfl | ⟨hlink, hsome⟩
      · exact Grounded.up hb Grounded.root
      · exact Grounded.up hb (ih b hlink hsome)
  intro a b hb
  rcases h a b hb with rfl | ⟨-, hsome⟩
  · exact Grounded.root
  · exact hground b hsome

theorem grounded (h : Forest node root) {a : ι} (ha : (node a).isSome) : Grounded node root a := by
  obtain ⟨b, hb⟩ := Option.isSome_iff_exists.1 ha
  exact Grounded.up hb (h a b hb)

/-- no node points to a missing parent -/
theorem parent_exists (h : Forest node root) {a b : ι} (hb : node a = some b) : b = root ∨ (node b).isSome := by
  cases h a b hb with
  | root => exact Or.inl rfl
  | up hup _ => exact Or.inr (by rw [hup]; rfl)

/-- a new node below the marker -/
theorem add (h : Forest node root) [DecidableEq ι] {n : ι} (hn : node n = none)
    (hnode : ∀ a, node' a = if a = n then some root else node a) : Forest node' root := by
  have hkeep : ∀ a, Grounded node root a → Grounded node' root a := by
    intro a ha
    induction ha with
    | root => exact Grounded.root
    | @up a b hb _ ih =>
      have hne : a ≠ n := by
        rintro rfl
        rw [hn] at hb
        cases hb
      exact Grounded.up ((hnode a).trans ((if_neg hne).trans hb)) ih
  intro a b hb
  rw [hnode] at hb
  split_ifs at hb
  · obtain rfl := Option.some.inj hb
    exact Grounded.root
  · exact hkeep b (h a b hb)

/-- hanging node c below p -/
theorem attach_iff (h : Forest node root) [DecidableEq ι] {c p : ι} (hp : Grounded node root p)
    (hnode : ∀ a, node' a = if a = c then some p else node a) : Forest node' root ↔ ¬ OnPath node root p c := by
  have hc : node' c = some p := (hnode c).trans (if_pos rfl)
  have hother : ∀ a, a ≠ c → node' a = node a := fun a ha => (hnode a).trans (if_neg ha)
  constructor
  · intro h' hpath
    -- whatever has c on its old path is caught in the loop from c to p to c
    have hloop : ∀ a, Grounded node' root a → ¬ OnPath node root a c := by
      intro a ha
      induction ha with
      | root => exact fun hroot => hroot.ne_root rfl
      | @up a b hb _ ih =>
        intro hac
        by_cases hne : a = c
        · subst hne
          obtain rfl := Option.some.inj (hc.symm.trans hb)
          exact ih hpath
        · rw [hother a hne] at hb
          exact ih (hac.parent hne hb)
    exact hloop p (h' c p hc) hpath
  · intro hpath
    -- paths without c are the old ones, so p is grounded, and then every node
    have hfree : ∀ a, Grounded node root a → ¬ OnPath node root a c → Grounded node' root a := by
      intro a ha
      induction ha with
      | root => exact fun _ => Grounded.root
      | @up a b hb _ ih =>
        intro hac
        by_cases hroot : a = root
        · subst hroot
          exact Grounded.root
        · have hne : a ≠ c := by
            rintro rfl
            exact hac (OnPath.here hroot)
          exact Grounded.up ((hother a hne).trans hb) (ih fun hbc => hac (OnPath.up hroot hb hbc))
    have hp' := hfree p hp hpath
    have hall : ∀ a, Grounded node root a → Grounded node' root a := by
      intro a ha
      induction ha with
      | root => exact Grounded.root
      | @up a b hb _ ih =>
        by_cases hne : a = c
        · subst hne
          exact Grounded.up hc hp'
        · exact Grounded.up ((hother a hne).trans hb) ih
    intro a b hb
    by_cases hne : a = c
    · subst hne
      obtain rfl := Option.some.inj (hc.symm.trans hb)
      exact hp'
    · rw [hother a hne] at hb
      exact hall b (h a b hb)

/-- no node is its own ancestor -/
theorem not_ancestor (h : Forest node root) {a b : ι} (hb : node a = some b) : ¬ OnPath node root b a := by
  classical
  have hsame : ∀ x, node x = if x = a then some b else node x := by
    intro x
    split_ifs with hx
    · rw [hx, hb]
    · rfl
  exact (h.attach_iff (h a b hb) hsame).1 h

/-- removing node d -/
theorem remove_iff (h : Forest node root) [DecidableEq ι] {d : ι}
    (hnode : ∀ a, node' a = if a = d then none else node a) :
    Forest node' root ↔ d = root ∨ ∀ a, node a ≠ some d := by
  have hother : ∀ a, a ≠ d → node' a = node a := fun a ha => (hnode a).trans (if_neg ha)
  constructor
  · intro h'
    by_cases hroot : d = root
    · exact Or.inl hroot
    · refine Or.inr fun a ha => ?_
      by_cases hne : a = d
      · subst hne
        exact h.not_ancestor ha (OnPath.here hroot)
      · rcases h'.parent_exists ((hother a hne).trans ha) with hd | hsome
        · exact hroot hd
        · rw [hnode, if_pos rfl] at hsome
          cases hsome
  · intro hd
    have hkeep : ∀ a, Grounded node root a → a ≠ d ∨ a = root → Grounded node' root a := by
      intro a ha
      induction ha with
      | root => exact fun _ => Grounded.root
      | @up a b hb _ ih =>
        intro hne
        by_cases hroot : a = root
        · subst hroot
          exact Grounded.root
        · have had : a ≠ d := hne.resolve_right hroot
          refine Grounded.up ((hother a had).trans hb) (ih ?_)
          by_cases hbd : b = d
          · subst hbd
            exact Or.inr (hd.resolve_right fun hall => hall a hb)
          · exact Or.inl hbd
    intro a b hb
    rw [hnode] at hb
    split_ifs at hb with had
    refine hkeep b (h a b hb) ?_
    by_cases hbd : b = d
    · subst hbd
      exact Or.inr (hd.resolve_right fun hall => hall a hb)
    · exact Or.inl hbd

end Forest

end GameServer.Core
