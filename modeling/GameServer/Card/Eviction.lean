/-
Which card a validated placement evicts.

`IsCanApplyPosCard` takes a slot for the moving card's own one, and an owner for the moving card's own owner, when the
position values agree; it does not look at the kinds. A character and a facility of one number are then one owner to it:
- if the slot numbers agree too, the requested slot is not looked at, and the card in it is not named;
- if they differ, the card that is named is sent to the moving card's slot number, as in a swap.
A card that is moved to another kind of owner of the same number therefore has to find its slot free. It may also come
from no owner at all, if the slot number it still carries is another one. In all other cases the packet is right
(`evicts_right_iff`).

If the slot is free, the validator leaves `oldCardChangeSlotNum_` as it is; what it says then is up to the request.
-/
import Mathlib.Tactic
import GameServer.Card.SlotIndex

namespace GameServer.Card

open GameServer.Core

/-! ## What the packet has to say -/

/-- the moving card is with the requested owner -/
def SameOwner (c : CardPiece) (pkt : ApplyPos) : Prop := c.posKind = pkt.posKind ∧ c.posValue = pkt.posValue

/-- the packet names the card in the requested slot and where it goes, and the apply step can follow it -/
structure EvictsRight (E : Env) (s : St) (pkt pkt' : ApplyPos) : Prop where
  named : ∀ b, slotAt s pkt.posKind pkt.posValue pkt.slotNum = some b → pkt'.oldCardUID = (s.cards b).cardUID
  unnamed : slotAt s pkt.posKind pkt.posValue pkt.slotNum = none → pkt'.oldCardUID = E.invalidUid
  /-- a swap -/
  swap : slotAt s pkt.posKind pkt.posValue pkt.slotNum ≠ none → SameOwner (s.card (s.getInst pkt.cardUID)) pkt →
    pkt'.oldCardChangeSlotNum = (s.card (s.getInst pkt.cardUID)).posSlotNum
  real : pkt'.oldCardChangeSlotNum < E.slotMax → SameOwner (s.card (s.getInst pkt.cardUID)) pkt ∧
    pkt'.oldCardChangeSlotNum = (s.card (s.getInst pkt.cardUID)).posSlotNum
  detach : E.slotMax ≤ pkt'.oldCardChangeSlotNum → pkt'.oldCardChangeSlotNum = E.slotMax
  agrees : SlotIndexOk E (doSetApplyPosCard E s pkt').2

/-- a card that meets another one under its own position value is with that owner, or unplaced with another slot number;
on a free slot the request already says what the packet has to say -/
def OwnerClear (E : Env) (s : St) (pkt : ApplyPos) : Prop :=
  let c := s.card (s.getInst pkt.cardUID)
  match slotAt s pkt.posKind pkt.posValue pkt.slotNum with
  | some _ => c.posValue = pkt.posValue → c.posKind = pkt.posKind ∨ c.posKind = E.kNone ∧ c.posSlotNum ≠ pkt.slotNum
  | none => pkt.oldCardChangeSlotNum = E.slotMax ∨ SameOwner c pkt ∧ pkt.oldCardChangeSlotNum = c.posSlotNum

/-! ## The two cases -/

section

variable {E : Env} {C : UserChecks} {s : St} {pkt pkt' : ApplyPos} {limit : ℕ} {a b : Addr}

theorem oldSeen_of_free (hfree : slotAt s pkt.posKind pkt.posValue pkt.slotNum = none) : oldSeen s pkt = none := by
  unfold oldSeen
  split_ifs
  · rfl
  · exact hfree

variable (h : Inv E s) (ha : s.cont pkt.cardUID = some a) (acc : Accepted E C s pkt pkt' (s.cards a) limit)

include h ha acc

/-- an accepted placement that is not confused leaves the slot index in order -/
theorem agrees_of_not_confused (hreq : pkt.oldCardUID = E.invalidUid) (hconf : ¬ KindConfused E s pkt) :
    SlotIndexOk E (doSetApplyPosCard E s pkt').2 := by
  rw [slotIndexOk_iff, doSetApplyPosCard_accepted h hreq ha acc]
  exact placed_agree h ha acc.toGuarded hconf

/-- the moving card's own slot is a real one -/
theorem SameOwner.slot_lt (hsame : SameOwner (s.cards a) pkt) : (s.cards a).posSlotNum < E.slotMax := by
  refine h.slots _ _ ha ?_
  rw [hsame.1]
  exact ne_of_gt acc.valid.1

/-- the slot is free: the packet is the request -/
theorem evicts_free_iff (hreq : pkt.oldCardUID = E.invalidUid)
    (hfree : slotAt s pkt.posKind pkt.posValue pkt.slotNum = none) :
    EvictsRight E s pkt pkt' ↔ pkt.oldCardChangeSlotNum = E.slotMax ∨
      SameOwner (s.cards a) pkt ∧ pkt.oldCardChangeSlotNum = (s.cards a).posSlotNum := by
  have hcard : s.card (s.getInst pkt.cardUID) = s.cards a := by rw [St.getInst, ha, St.card]
  have hpkt : pkt' = pkt := acc.packet_free h.toBase (oldSeen_of_free hfree)
  constructor
  · intro hev
    have hreal := hev.real
    have hdetach := hev.detach
    rw [hcard, hpkt] at hreal
    rw [hpkt] at hdetach
    rcases lt_or_ge pkt.oldCardChangeSlotNum E.slotMax with hlt | hge
    · exact Or.inr (hreal hlt)
    · exact Or.inl (hdetach hge)
  · intro hslot
    have hagrees := agrees_of_not_confused h ha acc hreq fun hconf => hconf.2.2.1 hfree
    subst hpkt
    refine ⟨by simp [hfree], fun _ => hreq, fun hne => absurd hfree hne, ?_, ?_, hagrees⟩
    · intro hlt
      rw [hcard]
      rcases hslot with hmax | hown
      · omega
      · exact hown
    · intro hge
      rcases hslot with hmax | ⟨hsame, hown⟩
      · exact hmax
      · have := hsame.slot_lt h ha acc
        omega

/-- a right packet for a taken slot: the kinds have not been mixed up -/
theorem clear_of_evicts (hreq : pkt.oldCardUID = E.invalidUid)
    (hb : slotAt s pkt.posKind pkt.posValue pkt.slotNum = some b) (hev : EvictsRight E s pkt pkt')
    (hvalue : (s.cards a).posValue = pkt.posValue) :
    (s.cards a).posKind = pkt.posKind ∨ (s.cards a).posKind = E.kNone ∧ (s.cards a).posSlotNum ≠ pkt.slotNum := by
  have hcard : s.card (s.getInst pkt.cardUID) = s.cards a := by rw [St.getInst, ha, St.card]
  by_cases hslot : (s.cards a).posSlotNum = pkt.slotNum
  · -- the slot has been skipped, so nobody is named
    have hskip : Skipped (s.card (s.getInst pkt.cardUID)) pkt pkt.slotNum := by
      rw [hcard]
      exact ⟨hvalue, hslot⟩
    have hpkt : pkt' = pkt := acc.packet_free h.toBase (if_pos hskip)
    obtain ⟨hown, -⟩ := owned_of_slot h acc.valid hb
    have hbu := (h.real _ _ (h.cont_of_owned hown)).2
    have hname := hev.named b hb
    rw [hpkt, hreq] at hname
    exact absurd hname.symm hbu
  · by_cases hnone : (s.cards a).posKind = E.kNone
    · exact Or.inr ⟨hnone, hslot⟩
    · -- the named card is sent to the moving card's slot number
      have hskip : ¬ Skipped (s.card (s.getInst pkt.cardUID)) pkt pkt.slotNum := by
        rw [hcard]
        exact fun hs => hslot hs.2
      have hreal := hev.real
      rw [hcard, acc.packet_taken h ha ((if_neg hskip).trans hb)] at hreal
      simp only [if_pos (And.intro (Ne.symm hnone) hvalue)] at hreal
      exact Or.inl (hreal (h.slots _ _ ha hnone)).1.1

variable (hclear : (s.cards a).posValue = pkt.posValue →
  (s.cards a).posKind = pkt.posKind ∨ (s.cards a).posKind = E.kNone ∧ (s.cards a).posSlotNum ≠ pkt.slotNum)

include hclear

omit h in
theorem oldSeen_of_clear (hb : slotAt s pkt.posKind pkt.posValue pkt.slotNum = some b) : oldSeen s pkt = some b := by
  refine (if_neg ?_).trans hb
  rw [St.getInst, ha]
  rintro ⟨hvalue, hslot⟩
  rcases hclear hvalue with hkind | ⟨-, hne⟩
  · exact acc.moved (by rw [CardPiece.pos, hkind, ← hvalue, ← hslot]; rfl)
  · exact hne hslot

omit h acc in
theorem not_kindConfused_of_clear : ¬ KindConfused E s pkt := by
  unfold KindConfused
  rw [St.getInst, ha]
  rintro ⟨hkind, hvalue, -, hslot⟩
  obtain ⟨hnone, hne⟩ := (hclear hvalue).resolve_left hkind
  rcases hslot with hslot | ⟨hplaced, -⟩
  · exact hne hslot
  · exact hplaced hnone

/-- the kinds have not been mixed up: the packet for a taken slot is right -/
theorem evicts_of_clear (hreq : pkt.oldCardUID = E.invalidUid)
    (hb : slotAt s pkt.posKind pkt.posValue pkt.slotNum = some b) : EvictsRight E s pkt pkt' := by
  have hcard : s.card (s.getInst pkt.cardUID) = s.cards a := by rw [St.getInst, ha, St.card]
  have hpkt := acc.packet_taken h ha (oldSeen_of_clear ha acc hclear hb)
  have hagrees := agrees_of_not_confused h ha acc hreq (not_kindConfused_of_clear ha hclear)
  have hnamed : ∀ b', slotAt s pkt.posKind pkt.posValue pkt.slotNum = some b' →
      pkt'.oldCardUID = (s.cards b').cardUID := by
    intro b' hb'
    rw [hpkt, Option.some.inj (hb.symm.trans hb')]
  have hunnamed : slotAt s pkt.posKind pkt.posValue pkt.slotNum = none → pkt'.oldCardUID = E.invalidUid := by
    simp [hb]
  by_cases hswap : E.kNone ≠ (s.cards a).posKind ∧ (s.cards a).posValue = pkt.posValue
  · have hsame : SameOwner (s.cards a) pkt :=
      ⟨(hclear hswap.2).resolve_right fun hno => hswap.1 hno.1.symm, hswap.2⟩
    have hchange : pkt'.oldCardChangeSlotNum = (s.cards a).posSlotNum := by rw [hpkt, if_pos hswap]
    have hlt := hsame.slot_lt h ha acc
    refine ⟨hnamed, hunnamed, ?_, ?_, ?_, hagrees⟩
    · intro _ _
      rw [hchange, hcard]
    · intro _
      rw [hchange, hcard]
      exact ⟨hsame, rfl⟩
    · intro hge
      omega
  · have hchange : pkt'.oldCardChangeSlotNum = E.slotMax := by rw [hpkt, if_neg hswap]
    refine ⟨hnamed, hunnamed, ?_, ?_, fun _ => hchange, hagrees⟩
    · intro _ hsame
      rw [hcard] at hsame
      exact absurd ⟨hsame.1 ▸ ne_of_lt acc.valid.1, hsame.2⟩ hswap
    · intro hlt
      omega

end

/-! ## Every accepted request -/

/-- **An accepted placement evicts the right card exactly when the moving card's owner is clear.** The state is any one
whose slot index agrees with the cards; the request is any accepted one without an old card. -/
theorem evicts_right_iff {E : Env} {C : UserChecks} {s : St} {pkt pkt' : ApplyPos} (hs : Base E s)
    (hindex : SlotIndexOk E s) (hreq : pkt.oldCardUID = E.invalidUid) (hok : isCanApplyPosCard E C s pkt = .ok pkt') :
    EvictsRight E s pkt pkt' ↔ OwnerClear E s pkt := by
  have h : Inv E s := ⟨hs, (slotIndexOk_iff E s).1 hindex⟩
  obtain ⟨limit, acc⟩ := isCanApplyPosCard_ok hs.null hok
  obtain ⟨a, ha⟩ := hs.found acc.exist
  have hcard : s.card (s.getInst pkt.cardUID) = s.cards a := by rw [St.getInst, ha, St.card]
  rw [hcard] at acc
  unfold OwnerClear
  rw [hcard]
  cases hb : slotAt s pkt.posKind pkt.posValue pkt.slotNum with
  | none => exact evicts_free_iff h ha acc hreq hb
  | some b =>
    constructor
    · exact clear_of_evicts h ha acc hreq hb
    · intro hclear
      exact evicts_of_clear h ha acc hclear hreq hb

/-- two cards of character 7, in slots 0 and 1 -/
def pairSt : St :=
  doInit sampleEnv (fun _ => sampleEnv.nullCard) (fun _ => sampleEnv.nullBook)
    [(sampleCard 1 10 1 7 0, 100), (sampleCard 2 20 1 7 1, 200)] []

/-- a character and a facility with number 1, and a card in slot 0 of each -/
def clashSt : St :=
  doInit sampleEnv (fun _ => sampleEnv.nullCard) (fun _ => sampleEnv.nullBook)
    [(sampleCard 1 10 1 1 0, 100), (sampleCard 2 20 2 1 0, 200)] []

theorem pairSt_inv : Inv sampleEnv pairSt :=
  doInit_inv ⟨by decide, by decide, by decide, by decide, by decide⟩ _ _ _

theorem clashSt_inv : Inv sampleEnv clashSt :=
  doInit_inv ⟨by decide, by decide, by decide, by decide, by decide⟩ _ _ _

/-- card 1 goes to slot 1, and card 2 to slot 0 -/
theorem evicts_right_pair : EvictsRight sampleEnv pairSt ⟨1, 1, 7, 1, 0, 4⟩ ⟨1, 1, 7, 1, 2, 0⟩ :=
  (evicts_right_iff (C := sampleChecks) pairSt_inv.toBase ((slotIndexOk_iff _ _).2 pairSt_inv.agree) rfl rfl).2
    fun _ => Or.inl rfl

/-- **The kind is not looked at**: the card of the character goes to slot 0 of the facility, and the card that is there is
not named -/
theorem evicts_nobody : Base sampleEnv clashSt ∧ SlotIndexOk sampleEnv clashSt ∧
    isCanApplyPosCard sampleEnv sampleChecks clashSt ⟨1, 2, 1, 0, 0, 4⟩ = .ok ⟨1, 2, 1, 0, 0, 4⟩ ∧
    slotAt clashSt 2 1 0 = some 200 ∧ ¬ EvictsRight sampleEnv clashSt ⟨1, 2, 1, 0, 0, 4⟩ ⟨1, 2, 1, 0, 0, 4⟩ := by
  have hslot : slotAt clashSt 2 1 0 = some 200 := by decide
  refine ⟨clashSt_inv.toBase, (slotIndexOk_iff _ _).2 clashSt_inv.agree, rfl, hslot, fun hev => ?_⟩
  have hname : 0 = (clashSt.cards 200).cardUID := hev.named 200 hslot
  exact absurd hname (by decide)

end GameServer.Card
