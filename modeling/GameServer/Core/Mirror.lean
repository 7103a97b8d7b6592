/-
A relation kept on two sides: `fwd a b` is what the side of a says, `bwd b a` what the side of b says.

`Mirror`: the two sides say the same. Linking one pair on both sides keeps it, and so does dropping one `b` from every `a`
that its own side names. Dropping some `b`s on one side only keeps it exactly if they had no partner
(`drop_side_iff`).
-/
import Mathlib.Tactic

namespace GameServer.Core

variable {α β : Type*}

def Mirror (fwd : α → β → Prop) (bwd : β → α → Prop) : Prop := ∀ a b, fwd a b ↔ bwd b a

namespace Mirror

variable {fwd fwd' : α → β → Prop} {bwd bwd' : β → α → Prop} {x : α} {y : β}

theorem congr (h : Mirror fwd bwd) (hf : ∀ a b, fwd' a b ↔ fwd a b) (hb : ∀ b a, bwd' b a ↔ bwd b a) :
    Mirror fwd' bwd' := by
  intro a b
  rw [hf, hb]
  exact h a b

theorem link (h : Mirror fwd bwd) (hf : ∀ a b, fwd' a b ↔ a = x ∧ b = y ∨ fwd a b)
    (hb : ∀ b a, bwd' b a ↔ a = x ∧ b = y ∨ bwd b a) : Mirror fwd' bwd' := by
  intro a b
  rw [hf, hb, h a b]

theorem drop (h : Mirror fwd bwd) (hf : ∀ a b, fwd' a b ↔ fwd a b ∧ ¬ (b = y ∧ bwd y a))
    (hb : ∀ b a, bwd' b a ↔ b ≠ y ∧ bwd b a) : Mirror fwd' bwd' := by
  intro a b
  rw [hf, hb, h a b]
  constructor
  · intro ⟨hba, hnot⟩
    refine ⟨?_, hba⟩
    intro hby
    subst hby
    exact hnot ⟨rfl, hba⟩
  · intro ⟨hne, hba⟩
    exact ⟨hba, fun hd => hne hd.1⟩

theorem drop_side_iff {dropped : β → Prop} (h : Mirror fwd bwd) (hf : ∀ a b, fwd' a b ↔ fwd a b)
    (hb : ∀ b a, bwd' b a ↔ ¬ dropped b ∧ bwd b a) :
    Mirror fwd' bwd' ↔ ∀ b, dropped b → ∀ a, ¬ bwd b a := by
  constructor
  · intro h' b hd a hba
    have hba' : bwd' b a := (h' a b).1 ((hf a b).2 ((h a b).2 hba))
    exact ((hb b a).1 hba').1 hd
  · intro hnone a b
    rw [hf, hb, h a b]
    constructor
    · intro hba
      exact ⟨fun hd => hnone b hd a hba, hba⟩
    · intro hba
      exact hba.2

end Mirror

end GameServer.Core
