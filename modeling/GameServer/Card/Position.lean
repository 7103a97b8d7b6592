/-
The two records of a card's position in `CardContents`, and what each operation does to them.

- `occ`: the slot index as a table over the real positions (`_NONE_ < kind < _MAX_`, slot below `_SLOT_MAX_`);
- `place`: the position an owned card claims in its own fields.
The slot index is consistent when the two agree (`Core.Agree`). The lemmas below say what each primitive does to `occ`
and to `place`, so that later proofs do not unfold slot vectors or the object store.
-/
import Mathlib.Tactic
import GameServer.Core.Placement
import GameServer.Card.Model

namespace GameServer.Card

open GameServer.Core

/-- kind, value, slot -/
abbrev Pos := ℕ × ℕ × ℕ

/-- a position that the slot index covers -/
def ValidPos (E : Env) (p : Pos) : Prop := E.kNone < p.1 ∧ p.1 < E.kMax ∧ p.2.2 < E.slotMax

instance (E : Env) (p : Pos) : Decidable (ValidPos E p) := by
  unfold ValidPos; infer_instance

def CardPiece.pos (c : CardPiece) : Pos := (c.posKind, c.posValue, c.posSlotNum)

/-- the pointer in slot `n` of the vector of (kind, value) -/
def slotAt (s : St) (k v n : ℕ) : Option Addr := (s.posCont k v).bind fun vec => vec n

def occ (E : Env) (s : St) (p : Pos) : Option Addr := if ValidPos E p then slotAt s p.1 p.2.1 p.2.2 else none

/-- the object is in `m_Cont` -/
def Owned (s : St) (a : Addr) : Prop := ∃ u, s.cont u = some a

open Classical in
/-- the position that an owned card claims -/
noncomputable def place (E : Env) (s : St) (a : Addr) : Option Pos :=
  if Owned s a ∧ ValidPos E (s.cards a).pos then some (s.cards a).pos else none

theorem place_eq_some {E : Env} {s : St} {a : Addr} {p : Pos} :
    place E s a = some p ↔ Owned s a ∧ ValidPos E p ∧ (s.cards a).pos = p := by
  unfold place
  split_ifs with h
  · constructor
    · rintro ⟨⟩
      exact ⟨h.1, h.2, rfl⟩
    · rintro ⟨-, -, hp⟩
      rw [hp]
  · simp only [false_iff]
    rintro ⟨ho, hv, rfl⟩
    exact h ⟨ho, hv⟩

theorem place_of_not_owned {E : Env} {s : St} {a : Addr} (h : ¬ Owned s a) : place E s a = none := by
  unfold place
  rw [if_neg fun hc => h hc.1]

/-- claims depend on ownership and on the position fields only -/
theorem place_congr {E : Env} {s t : St} {a : Addr} (ho : Owned t a ↔ Owned s a)
    (hp : Owned s a → (t.cards a).pos = (s.cards a).pos) : place E t a = place E s a := by
  unfold place
  by_cases h : Owned s a
  · simp only [ho, h, true_and, hp h]
  · simp only [ho, h, false_and, if_false]

/-! ## Frames -/

section Frame

variable (E : Env) (s : St) (p : Option Addr) (k v n : ℕ) (f : CardPiece → CardPiece)

theorem doAddPosValue_frame : ∃ g, doAddPosValue E s p k v n = { s with posCont := g } := by
  unfold doAddPosValue
  split_ifs
  · exact ⟨s.posCont, rfl⟩
  · exact ⟨_, rfl⟩
  · exact ⟨_, rfl⟩

theorem doDelPosValue_frame : ∃ g, doDelPosValue E s k v n = { s with posCont := g } := by
  unfold doDelPosValue
  split_ifs
  · exact ⟨s.posCont, rfl⟩
  · exact ⟨s.posCont, rfl⟩
  · split
    · exact ⟨s.posCont, rfl⟩
    · exact ⟨_, rfl⟩

@[simp] theorem doAddPosValue_cont : (doAddPosValue E s p k v n).cont = s.cont := by
  obtain ⟨g, hg⟩ := doAddPosValue_frame E s p k v n; rw [hg]

@[simp] theorem doAddPosValue_cards : (doAddPosValue E s p k v n).cards = s.cards := by
  obtain ⟨g, hg⟩ := doAddPosValue_frame E s p k v n; rw [hg]

@[simp] theorem doAddPosValue_msNullCard : (doAddPosValue E s p k v n).msNullCard = s.msNullCard := by
  obtain ⟨g, hg⟩ := doAddPosValue_frame E s p k v n; rw [hg]

@[simp] theorem doAddPosValue_msNullBook : (doAddPosValue E s p k v n).msNullBook = s.msNullBook := by
  obtain ⟨g, hg⟩ := doAddPosValue_frame E s p k v n; rw [hg]

@[simp] theorem doDelPosValue_cont : (doDelPosValue E s k v n).cont = s.cont := by
  obtain ⟨g, hg⟩ := doDelPosValue_frame E s k v n; rw [hg]

@[simp] theorem doDelPosValue_cards : (doDelPosValue E s k v n).cards = s.cards := by
  obtain ⟨g, hg⟩ := doDelPosValue_frame E s k v n; rw [hg]

@[simp] theorem doDelPosValue_msNullCard : (doDelPosValue E s k v n).msNullCard = s.msNullCard := by
  obtain ⟨g, hg⟩ := doDelPosValue_frame E s k v n; rw [hg]

@[simp] theorem doDelPosValue_msNullBook : (doDelPosValue E s k v n).msNullBook = s.msNullBook := by
  obtain ⟨g, hg⟩ := doDelPosValue_frame E s k v n; rw [hg]

@[simp] theorem setCard_cont : (s.setCard p f).cont = s.cont := by cases p <;> rfl

@[simp] theorem setCard_bookCont : (s.setCard p f).bookCont = s.bookCont := by cases p <;> rfl

@[simp] theorem setCard_posCont : (s.setCard p f).posCont = s.posCont := by cases p <;> rfl

@[simp] theorem setCard_some_cards (a : Addr) :
    (s.setCard (some a) f).cards = Function.update s.cards a (f (s.cards a)) := rfl

@[simp] theorem occ_setCard : occ E (s.setCard p f) = occ E s := by
  funext q; simp [occ, slotAt]

theorem owned_setCard (a : Addr) : Owned (s.setCard p f) a ↔ Owned s a := by simp [Owned]

end Frame

/-! ## The slot index -/

section Index

variable (E : Env) (s : St) (p : Option Addr) (k v n : ℕ)

theorem slotAt_setVec (vec : InstVec) (k' v' n' : ℕ) :
    slotAt (s.setVec k v vec) k' v' n' = if k' = k ∧ v' = v then vec n' else slotAt s k' v' n' := by
  unfold slotAt St.setVec
  rcases eq_or_ne k' k with rfl | hk
  · rcases eq_or_ne v' v with rfl | hv
    · simp
    · simp [hv]
  · simp [hk]

theorem occ_setVec (vec : InstVec) (q : Pos) :
    occ E (s.setVec k v vec) q = if ValidPos E q ∧ q.1 = k ∧ q.2.1 = v then vec q.2.2 else occ E s q := by
  unfold occ
  by_cases hq : ValidPos E q
  · simp only [hq, if_true, true_and, slotAt_setVec]
  · simp [hq]

/-- the slots of an absent vector are free -/
theorem slotAt_getD (k v n : ℕ) : (s.posCont k v).getD emptyVec n = slotAt s k v n := by
  unfold slotAt emptyVec
  cases s.posCont k v <;> rfl

/-- writing back the vector that is there (or a fresh one) changes no slot -/
theorem occ_setVec_self : occ E (s.setVec k v ((s.posCont k v).getD emptyVec)) = occ E s := by
  funext q
  rw [occ_setVec]
  split_ifs with h
  · obtain ⟨hq, rfl, rfl⟩ := h
    rw [slotAt_getD, occ, if_pos hq]
  · rfl

/-- writing one slot of the vector changes that position only, and none if it is not covered -/
theorem occ_setVec_update :
    occ E (s.setVec k v (Function.update ((s.posCont k v).getD emptyVec) n p)) =
      if ValidPos E (k, v, n) then Function.update (occ E s) (k, v, n) p else occ E s := by
  funext q
  obtain ⟨k', v', n'⟩ := q
  rw [occ_setVec]
  rcases eq_or_ne (k', v', n') (k, v, n) with heq | hne
  · rw [heq]
    by_cases hv : ValidPos E (k, v, n)
    · simp [hv]
    · simp [hv]
  · have hupd : (if ValidPos E (k, v, n) then Function.update (occ E s) (k, v, n) p else occ E s) (k', v', n') =
        occ E s (k', v', n') := by
      split_ifs
      · exact Function.update_of_ne hne _ _
      · rfl
    rw [hupd]
    split_ifs with h
    · obtain ⟨hq, rfl, rfl⟩ := h
      have hn : n' ≠ n := by rintro rfl; exact hne rfl
      rw [Function.update_of_ne hn, slotAt_getD, occ, if_pos hq]
    · rfl

theorem occ_doAddPosValue : occ E (doAddPosValue E s p k v n) =
    if ValidPos E (k, v, n) then Function.update (occ E s) (k, v, n) p else occ E s := by
  unfold doAddPosValue
  by_cases hk : E.kMax ≤ k
  · rw [if_pos hk, if_neg fun hv => absurd hv.2.1 (not_lt.2 hk)]
  · rw [if_neg hk]
    by_cases hn : E.slotMax ≤ n
    · have hv : ¬ ValidPos E (k, v, n) := fun hv => absurd hv.2.2 (not_lt.2 hn)
      simp only [hn, hv, if_true, if_false]
      exact occ_setVec_self E s k v
    · simp only [hn, if_false]
      exact occ_setVec_update E s p k v n

theorem occ_doDelPosValue : occ E (doDelPosValue E s k v n) =
    if ValidPos E (k, v, n) then Function.update (occ E s) (k, v, n) none else occ E s := by
  unfold doDelPosValue
  by_cases hn : E.slotMax ≤ n
  · rw [if_pos hn, if_neg fun hv => absurd hv.2.2 (not_lt.2 hn)]
  rw [if_neg hn]
  by_cases hk : k ≤ E.kNone ∨ E.kMax ≤ k
  · rw [if_pos hk, if_neg]
    rintro ⟨h1, h2, -⟩
    simp only at h1 h2
    omega
  rw [if_neg hk]
  cases hvec : s.posCont k v with
  | some vec =>
    have h := occ_setVec_update E s none k v n
    rw [hvec] at h
    exact h
  | none =>
    -- an absent vector has no occupant to remove
    have hfree : occ E s (k, v, n) = none := by simp [occ, slotAt, hvec]
    split_ifs
    · rw [← hfree, Function.update_eq_self]
    · rfl

end Index

/-! ## Claims -/

section Claim

variable (E : Env) (s : St) (p : Option Addr) (k v n : ℕ)

@[simp] theorem owned_doAddPosValue (a : Addr) : Owned (doAddPosValue E s p k v n) a ↔ Owned s a := by simp [Owned]

@[simp] theorem owned_doDelPosValue (a : Addr) : Owned (doDelPosValue E s k v n) a ↔ Owned s a := by simp [Owned]

@[simp] theorem place_doAddPosValue : place E (doAddPosValue E s p k v n) = place E s := by
  funext a; exact place_congr (by simp) (by simp)

@[simp] theorem place_doDelPosValue : place E (doDelPosValue E s k v n) = place E s := by
  funext a; exact place_congr (by simp) (by simp)

/-- rewriting an owned object moves its own claim only -/
theorem place_setCard {a : Addr} (ha : Owned s a) (f : CardPiece → CardPiece) :
    place E (s.setCard (some a) f) =
      Function.update (place E s) a (if ValidPos E (f (s.cards a)).pos then some (f (s.cards a)).pos else none) := by
  funext b
  rcases eq_or_ne b a with rfl | hb
  · have hb' : Owned (s.setCard (some b) f) b := by simpa [Owned] using ha
    simp [place, hb']
  · rw [Function.update_of_ne hb]
    exact place_congr (by simp [Owned]) (by simp [hb])

theorem not_validPos_reset (c : CardPiece) : ¬ ValidPos E (c.resetPosInfo E).pos :=
  fun h => lt_irrefl _ h.1

/-- a reset card claims nothing -/
theorem place_reset {a : Addr} (ha : Owned s a) :
    place E (s.setCard (some a) (·.resetPosInfo E)) = Function.update (place E s) a none := by
  rw [place_setCard E s ha, if_neg (not_validPos_reset E _)]

@[simp] theorem putAt_cont (p : Option Addr) (k v n : ℕ) : (putAt E s p k v n).cont = s.cont := by simp [putAt]

theorem occ_putAt : occ E (putAt E s p k v n) =
    if ValidPos E (k, v, n) then Function.update (occ E s) (k, v, n) p else occ E s := by
  rw [putAt, occ_setCard, occ_doAddPosValue]

theorem owned_putAt (a : Addr) : Owned (putAt E s p k v n) a ↔ Owned s a := by
  rw [putAt, owned_setCard, owned_doAddPosValue]

/-- a card put at a position claims that position -/
theorem place_putAt {a : Addr} (ha : Owned s a) : place E (putAt E s (some a) k v n) =
    Function.update (place E s) a (if ValidPos E (k, v, n) then some (k, v, n) else none) := by
  have ha' : Owned (doAddPosValue E s (some a) k v n) a := by simpa using ha
  rw [putAt, place_setCard E _ ha', place_doAddPosValue]
  rfl

end Claim

end GameServer.Card
