/-
No owner carries two cards of one kind (`tableID`), over whole runs of requests.

The validators see part of an owner's slots only. `IsCanApplyPosCard` does not look at the destination slot and, when
the position values agree, at the slot of the moving card's own number; `IsCanApplyPosCards` looks at no slot at all.
What the skipped slots can hide depends on what the apply step does with them:
- destination slot: its card is evicted, or it changes places with a card of the same owner;
- own slot: it holds the moving card itself, if position values identify owners (`IdSpaces`);
- batch: all slots of the owner are free.

Results:
- `placed_unique`: an accepted single placement keeps table ids unique per owner;
- `serve_housed`: so does every request;
- `no_owner_carries_two`: table ids are unique per owner in every reached state.

Premises: character ids, facility ids and the reset value are disjoint, and the user's checks accept such ids only;
unplaced cards carry the reset value; cards sit below the slot limit of their kind.
-/
import Mathlib.Tactic
import GameServer.Card.SlotIndex

namespace GameServer.Card

open GameServer.Core

/-! ## Owners -/

/-- position values identify owners -/
structure IdSpaces (E : Env) where
  charId : ℕ → Prop
  facilityId : ℕ → Prop
  disjoint : ∀ v, charId v → ¬ facilityId v
  reset_not_char : ¬ charId E.resetValue
  reset_not_facility : ¬ facilityId E.resetValue

/-- the slot limit of a position kind -/
def kindLimit (E : Env) (kind : ℕ) : ℕ :=
  if kind = E.kChar then E.slotChar else if kind = E.kFacility then E.slotFacility else E.slotMax

theorem kindLimit_le (E : Env) (kind : ℕ) : kindLimit E kind ≤ E.slotMax := by
  unfold kindLimit
  split_ifs
  · exact E.slotChar_le
  · exact E.slotFacility_le
  · exact le_rfl

/-- an id of the kind's owners; other kinds have no id space of their own -/
def IdSpaces.OwnerId {E : Env} (I : IdSpaces E) (kind value : ℕ) : Prop :=
  (kind = E.kChar → I.charId value) ∧ (kind = E.kFacility → I.facilityId value)

/-- where a card may be: unplaced with the reset value, or with an owner and below the slot limit -/
def CardPiece.Housed {E : Env} (I : IdSpaces E) (c : CardPiece) : Prop :=
  (c.posKind = E.kNone ∧ c.posValue = E.resetValue) ∨
    (c.posKind ≠ E.kNone ∧ I.OwnerId c.posKind c.posValue ∧ c.posSlotNum < kindLimit E c.posKind)

/-- two cards of one owner differ in their table ids -/
def UniqueKinds (E : Env) (s : St) : Prop :=
  ∀ a b, Owned s a → Owned s b → a ≠ b → (s.cards a).posKind ≠ E.kNone →
    (s.cards a).posKind = (s.cards b).posKind → (s.cards a).posValue = (s.cards b).posValue →
    (s.cards a).tableID ≠ (s.cards b).tableID

structure Housed {E : Env} (I : IdSpaces E) (s : St) : Prop where
  housed : ∀ a, Owned s a → (s.cards a).Housed I
  unique : UniqueKinds E s

section

variable {E : Env} {I : IdSpaces E} {s t : St}

/-- cards that stay as they are, leave their position or are new and unplaced break nothing -/
theorem Housed.of_unplaced (h : Housed I s)
    (hold : ∀ x, Owned t x → (Owned s x ∧ (t.cards x).pos = (s.cards x).pos ∧ (t.cards x).tableID = (s.cards x).tableID) ∨
      ((t.cards x).posKind = E.kNone ∧ (t.cards x).posValue = E.resetValue)) : Housed I t := by
  constructor
  · intro x hx
    rcases hold x hx with ⟨hs, hp, -⟩ | hn
    · simp only [CardPiece.pos, Prod.mk.injEq] at hp
      unfold CardPiece.Housed
      rw [hp.1, hp.2.1, hp.2.2]
      exact h.housed x hs
    · exact Or.inl hn
  · intro x y hx hy hxy hk hkind hval
    rcases hold x hx with ⟨hsx, hpx, htx⟩ | hn
    · rcases hold y hy with ⟨hsy, hpy, hty⟩ | hn
      · simp only [CardPiece.pos, Prod.mk.injEq] at hpx hpy
        rw [htx, hty]
        rw [hpx.1] at hk
        rw [hpx.1, hpy.1] at hkind
        rw [hpx.2.1, hpy.2.1] at hval
        exact h.unique x y hsx hsy hxy hk hkind hval
      · exact absurd (hkind.trans hn.1) hk
    · exact absurd hn.1 hk

/-- owners of different kinds are different, and no owner has the reset value -/
theorem IdSpaces.kind_unique {k k' v : ℕ} (hk : k = E.kChar ∨ k = E.kFacility) (hk' : k' = E.kChar ∨ k' = E.kFacility)
    (h : I.OwnerId k v) (h' : I.OwnerId k' v) : k = k' := by
  rcases hk with rfl | rfl <;> rcases hk' with rfl | rfl
  · rfl
  · exact absurd (h'.2 rfl) (I.disjoint v (h.1 rfl))
  · exact absurd (h.2 rfl) (I.disjoint v (h'.1 rfl))
  · rfl

/-! ## Table ids never change -/

theorem setCard_tableID (s : St) (a x : Addr) {f : CardPiece → CardPiece} (hf : ∀ d, (f d).tableID = d.tableID) :
    ((s.setCard (some a) f).cards x).tableID = (s.cards x).tableID := by
  rcases eq_or_ne x a with rfl | hne
  · simp [hf]
  · simp [Function.update_of_ne hne]

theorem reset_tableID (s : St) (a x : Addr) :
    ((s.setCard (some a) (·.resetPosInfo E)).cards x).tableID = (s.cards x).tableID :=
  setCard_tableID s a x fun _ => rfl

theorem putAt_tableID (s : St) (a x : Addr) (k v n : ℕ) :
    ((putAt E s (some a) k v n).cards x).tableID = (s.cards x).tableID := by
  have hset := setCard_tableID (doAddPosValue E s (some a) k v n) a x
    (f := fun c => { c with posValue := v, posKind := k, posSlotNum := n }) fun _ => rfl
  rw [doAddPosValue_cards] at hset
  exact hset

/-! ## Leaving and adding -/

theorem setCard_reset_housed (h : Housed I s) (a : Addr) : Housed I (s.setCard (some a) (·.resetPosInfo E)) := by
  apply h.of_unplaced
  intro x hx
  rw [owned_setCard] at hx
  rcases eq_or_ne x a with rfl | hne
  · right
    simp [CardPiece.resetPosInfo]
  · left
    simp [hx, Function.update_of_ne hne]

theorem doDelPosValue_housed (h : Housed I s) (k v n : ℕ) : Housed I (doDelPosValue E s k v n) :=
  h.of_unplaced fun x hx => Or.inl ⟨by simpa using hx, by simp, by simp⟩

theorem doDelPosValueUid_housed (hb : Base E s) (h : Housed I s) (uid : ℕ) :
    Housed I (doDelPosValueUid E s uid).2 := by
  unfold doDelPosValueUid
  simp only
  split_ifs with hn
  · exact h
  · obtain ⟨a, ha⟩ := hb.found (by simpa using hn)
    have hget : s.getInst uid = some a := ha
    rw [hget]
    exact setCard_reset_housed (doDelPosValue_housed h _ _ _) a

theorem doSetApplyOutPosCards_housed (hi : Inv E s) (h : Housed I s) (uids : List ℕ) :
    Housed I (doSetApplyOutPosCards E s uids).2 := by
  induction uids generalizing s with
  | nil => exact h
  | cons uid uids ih =>
    rw [doSetApplyOutPosCards]
    split_ifs
    · exact doDelPosValueUid_housed hi.toBase h uid
    · exact ih (doDelPosValueUid_inv hi uid) (doDelPosValueUid_housed hi.toBase h uid)

theorem doDel_housed (h : Housed I s) (uid : ℕ) : Housed I (doDel E s uid).2 := by
  unfold doDel
  cases ha : s.cont uid with
  | none => exact h
  | some a =>
    refine (setCard_reset_housed (doDelPosValue_housed h _ _ _) a).of_unplaced fun x ⟨u, hu⟩ => Or.inl ⟨⟨u, ?_⟩, rfl, rfl⟩
    rcases eq_or_ne u uid with rfl | hne
    · simp at hu
    · simpa [Function.update_of_ne hne] using hu

/-- `DoAdd` of unplaced cards in unused objects -/
theorem doAdd_housed (h : Housed I s) {cards : List (CardPiece × Addr)} (books : List (BookPiece × Addr))
    (hun : ∀ c ∈ cards, c.1.posKind = E.kNone ∧ c.1.posValue = E.resetValue)
    (hfresh : ∀ c ∈ cards, ¬ Owned s c.2) (haddr : (cards.map Prod.snd).Nodup) : Housed I (doAdd E s cards books) := by
  have hbooks : ∀ (bs : List (BookPiece × Addr)) (t : St), Housed I t → (∀ c ∈ cards, ¬ Owned t c.2) →
      Housed I (bs.foldl addBook t) ∧ ∀ c ∈ cards, ¬ Owned (bs.foldl addBook t) c.2 := by
    intro bs
    induction bs with
    | nil => exact fun t ht hc => ⟨ht, hc⟩
    | cons b bs ih =>
      exact fun t ht hc => ih (addBook t b) (ht.of_unplaced fun x hx => Or.inl ⟨hx, rfl, rfl⟩) hc
  obtain ⟨h1, h2⟩ := hbooks books s h hfresh
  have hrun : LegalRun (addCard E) (fun t c => (c.1.posKind = E.kNone ∧ c.1.posValue = E.resetValue) ∧ ¬ Owned t c.2)
      (books.foldl addBook s) cards := by
    refine LegalRun.of_pairwise (R := fun c d => c.2 ≠ d.2) ?_ (fun c hc => ⟨hun c hc, h2 c hc⟩) (List.pairwise_map.1 haddr)
    intro t c d hc hd hne
    refine ⟨hd.1, fun ⟨u, hu⟩ => ?_⟩
    rw [addCard, if_pos hc.1.1] at hu
    rcases storeCard_cont hu with hu | ⟨-, heq⟩
    · exact hd.2 ⟨u, hu⟩
    · exact hne heq.symm
  refine run_inv (fun t c ht hc => ?_) h1 hrun
  rw [addCard, if_pos hc.1.1]
  refine ht.of_unplaced fun x ⟨u, hu⟩ => ?_
  rcases storeCard_cont hu with hu | ⟨-, rfl⟩
  · have hx : Owned t x := ⟨u, hu⟩
    exact Or.inl ⟨hx, by rw [storeCard_old hc.2 hx], by rw [storeCard_old hc.2 hx]⟩
  · right
    simpa [storeCard] using hc.1

/-! ## Single placement -/

/-- the ids that the user's checks accept -/
def UserChecks.Sound (I : IdSpaces E) (C : UserChecks) : Prop :=
  (∀ v, C.isExistInst v = true → I.charId v) ∧ (∀ v, C.isCanApplyUseCard v = .successOk → I.facilityId v)

variable {C : UserChecks} {pkt pkt' : ApplyPos} {c : CardPiece} {limit : ℕ} {a : Addr}

theorem Guarded.target_kind (g : Guarded E C pkt c limit) : pkt.posKind = E.kChar ∨ pkt.posKind = E.kFacility := by
  rcases g.target with ⟨h, -⟩ | ⟨h, -⟩
  · exact Or.inl h
  · exact Or.inr h

theorem Guarded.target_owner (g : Guarded E C pkt c limit) (hC : C.Sound I) : I.OwnerId pkt.posKind pkt.posValue := by
  rcases g.target with ⟨hk, hv, -⟩ | ⟨hk, hv, -⟩
  · exact ⟨fun _ => hC.1 _ hv, fun hf => absurd (hk.symm.trans hf) E.char_ne_facility⟩
  · exact ⟨fun hc => absurd (hc.symm.trans hk) E.char_ne_facility, fun _ => hC.2 _ hv⟩

theorem Guarded.limit_eq (g : Guarded E C pkt c limit) : limit = kindLimit E pkt.posKind := by
  unfold kindLimit
  rcases g.target with ⟨hk, -, hl⟩ | ⟨hk, -, hl⟩
  · rw [if_pos hk, hl]
  · rw [if_neg (by rw [hk]; exact E.char_ne_facility.symm), if_pos hk, hl]

/-- a moving card with the requested position value is with the requested owner already -/
theorem Guarded.same_owner (g : Guarded E C pkt c limit) (hC : C.Sound I) (hc : c.Housed I)
    (hv : c.posValue = pkt.posValue) : c.posKind = pkt.posKind := by
  have ht := g.target_owner hC
  rcases hc with ⟨-, hreset⟩ | ⟨hk, hid, -⟩
  · rw [← hv, hreset] at ht
    rcases g.target_kind with hk | hk
    · exact absurd (ht.1 hk) I.reset_not_char
    · exact absurd (ht.2 hk) I.reset_not_facility
  · rw [hv] at hid
    exact I.kind_unique (Or.inl (g.from_kind.resolve_left hk)) g.target_kind hid ht

/-- so no placement is confused -/
theorem not_kindConfused (g : Guarded E C pkt (s.card (s.getInst pkt.cardUID)) limit) (hC : C.Sound I)
    (hc : (s.card (s.getInst pkt.cardUID)).Housed I) : ¬ KindConfused E s pkt :=
  fun hconf => hconf.1 (g.same_owner hC hc hconf.2.1)

theorem owned_placed (x : Addr) : Owned (placed E s a pkt) x ↔ Owned s x := by
  unfold placed
  cases oldSeen s pkt with
  | none => simp [putAt, owned_setCard]
  | some b =>
    simp only
    split_ifs <;> simp [putAt, owned_setCard]

/-- the old card keeps its owner when the moving card stays with it -/
def Swapped (E : Env) (s : St) (a : Addr) (pkt : ApplyPos) : Prop :=
  E.kNone ≠ (s.cards a).posKind ∧ (s.cards a).posValue = pkt.posValue

instance (E : Env) (s : St) (a : Addr) (pkt : ApplyPos) : Decidable (Swapped E s a pkt) := by
  unfold Swapped; infer_instance

/-! ### Where a placement leaves each card -/

theorem placed_tableID (x : Addr) : ((placed E s a pkt).cards x).tableID = (s.cards x).tableID := by
  unfold placed
  cases oldSeen s pkt with
  | none => rw [putAt_tableID, doDelPosValue_cards]
  | some b =>
    simp only
    split_ifs
    · rw [putAt_tableID, reset_tableID, putAt_tableID, doDelPosValue_cards]
    · rw [reset_tableID, putAt_tableID, doDelPosValue_cards]

theorem placed_moving (hne : oldSeen s pkt ≠ some a) :
    ((placed E s a pkt).cards a).pos = (pkt.posKind, pkt.posValue, pkt.slotNum) := by
  unfold placed
  cases hold : oldSeen s pkt with
  | none => simp [putAt, CardPiece.pos]
  | some b =>
    have hab : a ≠ b := by rintro rfl; exact hne hold
    simp only
    split_ifs <;> simp [putAt, CardPiece.pos, Function.update_of_ne hab]

theorem placed_swapped {b : Addr} (hold : oldSeen s pkt = some b) (hsw : Swapped E s a pkt) :
    ((placed E s a pkt).cards b).pos = (pkt.posKind, pkt.posValue, (s.cards a).posSlotNum) := by
  have hsw' : E.kNone ≠ (s.cards a).posKind ∧ (s.cards a).posValue = pkt.posValue := hsw
  unfold placed
  simp only [hold, if_pos hsw']
  simp [putAt, CardPiece.pos]

theorem placed_evicted {b : Addr} (hold : oldSeen s pkt = some b) (hsw : ¬ Swapped E s a pkt) :
    ((placed E s a pkt).cards b).posKind = E.kNone ∧ ((placed E s a pkt).cards b).posValue = E.resetValue := by
  have hsw' : ¬ (E.kNone ≠ (s.cards a).posKind ∧ (s.cards a).posValue = pkt.posValue) := hsw
  unfold placed
  simp only [hold, if_neg hsw']
  simp [CardPiece.resetPosInfo]

theorem placed_other {x : Addr} (hold : oldSeen s pkt ≠ some x) (hxa : x ≠ a) :
    (placed E s a pkt).cards x = s.cards x := by
  unfold placed
  cases hb : oldSeen s pkt with
  | none => simp [putAt, Function.update_of_ne hxa]
  | some b =>
    have hxb : x ≠ b := by rintro rfl; exact hold hb
    simp only
    split_ifs <;> simp [putAt, Function.update_of_ne hxa, Function.update_of_ne hxb]

/-! ### Uniqueness -/

section

variable (hi : Inv E s) (h : Housed I s) (hC : C.Sound I) (ha : s.cont pkt.cardUID = some a)
  (acc : Accepted E C s pkt pkt' (s.cards a) limit)

include hi h hC ha acc

omit hi in
/-- the scan never mistakes the destination for the moving card's own slot -/
theorem oldSeen_eq : oldSeen s pkt = slotAt s pkt.posKind pkt.posValue pkt.slotNum := by
  have hget : s.getInst pkt.cardUID = some a := ha
  have hskip : ¬ Skipped (s.card (s.getInst pkt.cardUID)) pkt pkt.slotNum := by
    rw [hget]
    rintro ⟨hv, hn⟩
    have hk := acc.same_owner hC (h.housed a ⟨_, ha⟩) hv
    exact acc.moved (by rw [CardPiece.pos, hk, ← hv, ← hn]; rfl)
  rw [oldSeen, if_neg hskip]

theorem oldSeen_ne : oldSeen s pkt ≠ some a := by
  rw [oldSeen_eq h hC ha acc]
  exact fun hs => acc.moved (owned_of_slot hi acc.valid hs).2

/-- the old card was with the requested owner -/
theorem oldSeen_pos {b : Addr} (hold : oldSeen s pkt = some b) :
    Owned s b ∧ (s.cards b).pos = (pkt.posKind, pkt.posValue, pkt.slotNum) := by
  rw [oldSeen_eq h hC ha acc] at hold
  exact owned_of_slot hi acc.valid hold

/-- every card but the moving one keeps its owner, if it is still placed -/
theorem placed_owner {x : Addr} (hxa : x ≠ a) (hk : ((placed E s a pkt).cards x).posKind ≠ E.kNone) :
    ((placed E s a pkt).cards x).posKind = (s.cards x).posKind ∧
      ((placed E s a pkt).cards x).posValue = (s.cards x).posValue := by
  by_cases hold : oldSeen s pkt = some x
  · by_cases hsw : Swapped E s a pkt
    · have h1 := placed_swapped hold hsw
      have h2 := (oldSeen_pos hi h hC ha acc hold).2
      simp only [CardPiece.pos, Prod.mk.injEq] at h1 h2
      rw [h1.1, h1.2.1, h2.1, h2.2.1]
      exact ⟨rfl, rfl⟩
    · exact absurd (placed_evicted hold hsw).1 hk
  · rw [placed_other hold hxa]
    exact ⟨rfl, rfl⟩

/-- **the moving card meets no card of its kind**: each of the owner's cards is scanned, or it was with the moving card
before -/
theorem placed_tid_ne {y : Addr} (hy : Owned s y) (hya : y ≠ a)
    (hk : ((placed E s a pkt).cards y).posKind = pkt.posKind) (hv : ((placed E s a pkt).cards y).posValue = pkt.posValue) :
    (s.cards a).tableID ≠ (s.cards y).tableID := by
  have hown : Owned s a := ⟨_, ha⟩
  have hplaced : ((placed E s a pkt).cards y).posKind ≠ E.kNone := by
    rw [hk]; exact (Nat.ne_of_lt acc.valid.1).symm
  obtain ⟨hk0, hv0⟩ := placed_owner hi h hC ha acc hya hplaced
  rw [hk] at hk0
  rw [hv] at hv0
  by_cases hold : oldSeen s pkt = some y
  · -- a swap inside one owner
    have hsw : Swapped E s a pkt := by
      by_contra hsw
      exact hplaced (placed_evicted hold hsw).1
    have hka := acc.same_owner hC (h.housed a hown) hsw.2
    exact h.unique a y hown hy hya.symm (Ne.symm hsw.1) (hka.trans hk0) (hsw.2.trans hv0)
  · -- the card sits in another slot of the owner, below the limit
    have hlt : (s.cards y).posSlotNum < limit := by
      rcases h.housed y hy with ⟨hn, -⟩ | ⟨-, -, hlt⟩
      · rw [hk, hk0, hn] at hplaced
        exact absurd rfl hplaced
      · rw [acc.limit_eq, hk0]
        exact hlt
    have hslot : slotAt s pkt.posKind pkt.posValue (s.cards y).posSlotNum = some y := by
      have hval : ValidPos E (pkt.posKind, pkt.posValue, (s.cards y).posSlotNum) :=
        ⟨acc.valid.1, acc.valid.2.1, hlt.trans_le acc.limit_le⟩
      have hocc := (hi.agree (pkt.posKind, pkt.posValue, (s.cards y).posSlotNum) y).2
        (place_eq_some.2 ⟨hy, hval, by rw [CardPiece.pos, ← hk0, ← hv0]⟩)
      rwa [occ, if_pos hval] at hocc
    have hdst : (s.cards y).posSlotNum ≠ pkt.slotNum := by
      intro hn
      rw [hn] at hslot
      exact hold (by rw [oldSeen_eq h hC ha acc, hslot])
    have hskip : ¬ Skipped (s.cards a) pkt (s.cards y).posSlotNum := by
      rintro ⟨hva, hna⟩
      have hka := acc.same_owner hC (h.housed a hown) hva
      have hpos : (s.cards a).pos = (s.cards y).pos := by
        simp only [CardPiece.pos, Prod.mk.injEq]
        exact ⟨hka.trans hk0, hva.trans hv0, hna⟩
      have hvalid : ValidPos E (s.cards y).pos := by
        rw [CardPiece.pos, ← hk0]
        exact ⟨acc.valid.1, acc.valid.2.1, hlt.trans_le acc.limit_le⟩
      exact hya (hi.agree.unique_claim (place_eq_some.2 ⟨hy, hvalid, rfl⟩)
        (place_eq_some.2 ⟨hown, hvalid, hpos⟩))
    rcases acc.scanned _ hlt hdst hskip y hslot with hn | hne
    · rw [(hi.real _ _ (hi.cont_of_owned hy)).1] at hn
      cases hn
    · exact hne

/-- **An accepted single placement keeps table ids unique per owner** -/
theorem placed_unique : UniqueKinds E (placed E s a pkt) := by
  have hmoving := placed_moving (E := E) (oldSeen_ne hi h hC ha acc)
  simp only [CardPiece.pos, Prod.mk.injEq] at hmoving
  intro x y hx hy hxy hk hkind hval
  rw [owned_placed] at hx hy
  rw [placed_tableID, placed_tableID]
  rcases eq_or_ne x a with rfl | hxa
  · exact placed_tid_ne hi h hC ha acc hy hxy.symm (hkind ▸ hmoving.1) (hval ▸ hmoving.2.1)
  rcases eq_or_ne y a with rfl | hya
  · exact (placed_tid_ne hi h hC ha acc hx hxa (hkind.trans hmoving.1) (hval.trans hmoving.2.1)).symm
  · -- both stay with their owner
    obtain ⟨h1, h2⟩ := placed_owner hi h hC ha acc hxa hk
    obtain ⟨h3, h4⟩ := placed_owner hi h hC ha acc hya (hkind ▸ hk)
    exact h.unique x y hx hy hxy (h1 ▸ hk) (by rw [← h1, hkind, h3]) (by rw [← h2, hval, h4])

theorem placed_housed : Housed I (placed E s a pkt) := by
  refine ⟨fun x hx => ?_, placed_unique hi h hC ha acc⟩
  rw [owned_placed] at hx
  have howner := acc.target_owner hC
  have hkind : pkt.posKind ≠ E.kNone := (Nat.ne_of_lt acc.valid.1).symm
  rcases eq_or_ne x a with rfl | hxa
  · have hm := placed_moving (E := E) (oldSeen_ne hi h hC ha acc)
    simp only [CardPiece.pos, Prod.mk.injEq] at hm
    right
    rw [hm.1, hm.2.1, hm.2.2, ← acc.limit_eq]
    exact ⟨hkind, howner, acc.slot⟩
  by_cases hold : oldSeen s pkt = some x
  · by_cases hsw : Swapped E s a pkt
    · have hm := placed_swapped hold hsw
      simp only [CardPiece.pos, Prod.mk.injEq] at hm
      have hka := acc.same_owner hC (h.housed a ⟨_, ha⟩) hsw.2
      right
      rw [hm.1, hm.2.1, hm.2.2]
      refine ⟨hkind, howner, ?_⟩
      rcases h.housed a ⟨_, ha⟩ with ⟨hn, -⟩ | ⟨-, -, hlt⟩
      · exact absurd hn.symm hsw.1
      · rwa [hka] at hlt
    · exact Or.inl (placed_evicted hold hsw)
  · rw [placed_other hold hxa]
    exact h.housed x hx

end

/-! ## Batch placement -/

/-- a card joins an owner that has no card of its kind -/
theorem putAt_housed (h : Housed I s) {k v n : ℕ} (hk : k ≠ E.kNone) (howner : I.OwnerId k v) (hn : n < kindLimit E k)
    (hnew : ∀ y, Owned s y → y ≠ a → (s.cards y).posKind = k → (s.cards y).posValue = v →
      (s.cards a).tableID ≠ (s.cards y).tableID) : Housed I (putAt E s (some a) k v n) := by
  have hself : ((putAt E s (some a) k v n).cards a).pos = (k, v, n) := by simp [putAt, CardPiece.pos]
  have hother : ∀ x, x ≠ a → (putAt E s (some a) k v n).cards x = s.cards x := by
    intro x hx; simp [putAt, Function.update_of_ne hx]
  simp only [CardPiece.pos, Prod.mk.injEq] at hself
  refine ⟨?_, ?_⟩
  · intro x hx
    rcases eq_or_ne x a with rfl | hxa
    · right
      rw [hself.1, hself.2.1, hself.2.2]
      exact ⟨hk, howner, hn⟩
    · rw [hother x hxa]
      exact h.housed x ((owned_putAt E s _ _ _ _ x).1 hx)
  · intro x y hx hy hxy hkx hkind hval
    rw [owned_putAt] at hx hy
    rw [putAt_tableID, putAt_tableID]
    rcases eq_or_ne x a with rfl | hxa
    · rw [hother y hxy.symm] at hkind hval
      exact hnew y hy hxy.symm (hkind.symm.trans hself.1) (hval.symm.trans hself.2.1)
    rcases eq_or_ne y a with rfl | hya
    · rw [hother x hxa] at hkind hval
      exact (hnew x hx hxa (hkind.trans hself.1) (hval.trans hself.2.1)).symm
    · rw [hother x hxa] at hkx hkind hval
      rw [hother y hya] at hkind hval
      exact h.unique x y hx hy hxy hkx hkind hval

theorem doSetApplyPosCards_housed (hb : Base E s) (h : Housed I s) {kind value loop : ℕ} {uids : List ℕ}
    (hk : kind ≠ E.kNone) (howner : I.OwnerId kind value)
    (hun : ∀ u ∈ uids, ∃ a, s.cont u = some a) (hnd : (uids.map (tidOf s)).Nodup)
    (hlen : loop + uids.length ≤ kindLimit E kind)
    (hnew : ∀ y, Owned s y → (s.cards y).posKind = kind → (s.cards y).posValue = value →
      ∀ u ∈ uids, tidOf s u ≠ (s.cards y).tableID) :
    Housed I (doSetApplyPosCards E s (slotList kind value loop uids)).2 := by
  induction uids generalizing s loop with
  | nil => exact h
  | cons uid uids ih =>
    obtain ⟨a, ha⟩ := hun uid List.mem_cons_self
    have hget : s.getInst uid = some a := ha
    have htid : tidOf s uid = (s.cards a).tableID := by rw [tidOf, hget]; rfl
    have hlt : loop < kindLimit E kind := by simp only [List.length_cons] at hlen; omega
    have hltMax : loop < E.slotMax := hlt.trans_le (kindLimit_le E kind)
    have hmod : loop % 2 ^ 8 = loop := Nat.mod_eq_of_lt (hltMax.trans E.slotMax_lt)
    rw [List.map_cons, List.nodup_cons] at hnd
    rw [slotList_cons, doSetApplyPosCards]
    simp only [hget, St.card, (hb.real uid a ha).1, Bool.false_eq_true, if_false, hmod]
    -- the batch itself brings no second card of a kind
    have htids : ∀ u ∈ uids, tidOf (putAt E s (some a) kind value loop) u = tidOf s u := by
      intro u hu
      obtain ⟨b, hb'⟩ := hun u (List.mem_cons_of_mem _ hu)
      have hget' : s.getInst u = some b := hb'
      have hget'' : (putAt E s (some a) kind value loop).getInst u = some b := by simpa [putAt, St.getInst] using hb'
      rw [tidOf, tidOf, hget', hget'']
      exact putAt_tableID s a b kind value loop
    refine ih (hb.putAt a hltMax) (putAt_housed h hk howner hlt fun y hy _ hyk hyv => ?_) (fun u hu => ?_) ?_ ?_
      (fun y hy hyk hyv u hu => ?_)
    · rw [← htid]
      exact hnew y hy hyk hyv uid List.mem_cons_self
    · simpa [putAt] using hun u (List.mem_cons_of_mem _ hu)
    · rw [List.map_congr_left htids]
      exact hnd.2
    · simp only [List.length_cons] at hlen; omega
    · rw [htids u hu, putAt_tableID]
      rcases eq_or_ne y a with rfl | hya
      · rw [← htid]
        rintro heq
        exact hnd.1 (heq ▸ List.mem_map_of_mem hu)
      · have hsame : (putAt E s (some a) kind value loop).cards y = s.cards y := by
          simp [putAt, Function.update_of_ne hya]
        rw [hsame] at hyk hyv
        rw [owned_putAt] at hy
        exact hnew y hy hyk hyv u (List.mem_cons_of_mem _ hu)

/-- an owner whose slots are all free has no cards -/
theorem no_card_of_free (hi : Inv E s) (h : Housed I s) {kind value : ℕ} (hk : E.kNone < kind) (hk' : kind < E.kMax)
    (hfree : ∀ n < E.slotMax, slotAt s kind value n = none) {y : Addr} (hy : Owned s y)
    (hyk : (s.cards y).posKind = kind) (hyv : (s.cards y).posValue = value) : False := by
  have hlt : (s.cards y).posSlotNum < E.slotMax := by
    rcases h.housed y hy with ⟨hn, -⟩ | ⟨-, -, hlt⟩
    · omega
    · exact hlt.trans_le (kindLimit_le E _)
  have hval : ValidPos E (kind, value, (s.cards y).posSlotNum) := ⟨hk, hk', hlt⟩
  have hocc := (hi.agree (kind, value, (s.cards y).posSlotNum) y).2
    (place_eq_some.2 ⟨hy, hval, by rw [CardPiece.pos, hyk, hyv]⟩)
  rw [occ, if_pos hval] at hocc
  simp only [hfree _ hlt, reduceCtorEq] at hocc

/-! ## Whole runs -/

/-- the requests of a run, in the state they meet -/
def legalHoused (I : IdSpaces E) (s : St) : Req → Prop
  | .add cards books => legal E s (.add cards books) ∧ ∀ c ∈ cards, c.1.posValue = E.resetValue
  | .applyPos C pkt => legal E s (.applyPos C pkt) ∧ C.Sound I
  | .applyPosCards uids kind value _ => (E.kNone < kind ∧ kind < E.kMax) ∧ I.OwnerId kind value ∧
      (∀ n < E.slotMax, slotAt s kind value n = none) ∧ uids.length ≤ kindLimit E kind
  | _ => True

theorem legalHoused_legal {r : Req} (hl : legalHoused I s r) : legal E s r := by
  cases r with
  | add cards books => exact hl.1
  | del uid => trivial
  | applyPos C pkt => exact hl.1
  | applyPosCards uids kind value w => exact ⟨hl.2.2.1, hl.2.2.2.trans (kindLimit_le E kind)⟩
  | applyOutPos uid => trivial
  | applyOutPosCards uids => trivial

theorem legalHoused_notConfused (hi : Inv E s) (h : Housed I s) {r : Req} (hl : legalHoused I s r) :
    notConfused E s r := by
  cases r with
  | applyPos C pkt =>
    rintro ⟨pkt', hok⟩
    obtain ⟨limit, acc⟩ := isCanApplyPosCard_ok hi.null hok
    obtain ⟨a, ha⟩ := hi.found acc.exist
    have hget : s.getInst pkt.cardUID = some a := ha
    refine not_kindConfused acc.toGuarded hl.2 ?_
    rw [hget]
    exact h.housed a ⟨_, ha⟩
  | _ => trivial

/-- **Step lemma.** Every request keeps the cards housed, and table ids unique per owner. -/
theorem serve_housed {r : Req} (hi : Inv E s) (h : Housed I s) (hl : legalHoused I s r) : Housed I (serve E s r) := by
  cases r with
  | add cards books =>
    obtain ⟨⟨hcards, haddr⟩, hreset⟩ := hl
    exact doAdd_housed h books (fun c hc => ⟨(hcards c hc).1, hreset c hc⟩) (fun c hc => (hcards c hc).2.2) haddr
  | del uid => exact doDel_housed h uid
  | applyPos C pkt =>
    simp only [serve]
    split
    · exact h
    · rename_i pkt' hok
      obtain ⟨limit, acc⟩ := isCanApplyPosCard_ok hi.null hok
      obtain ⟨a, ha⟩ := hi.found acc.exist
      have hget : s.getInst pkt.cardUID = some a := ha
      rw [hget] at acc
      rw [doSetApplyPosCard_accepted hi hl.1 ha acc]
      exact placed_housed hi h hl.2 ha acc
  | applyPosCards uids kind value w =>
    obtain ⟨⟨hk, hk'⟩, howner, hfree, hlen⟩ := hl
    simp only [serve]
    split
    · rename_i infos hok
      obtain ⟨-, rfl, hun, htids⟩ := isCanApplyPosCards_ok hok
      exact doSetApplyPosCards_housed hi.toBase h (Nat.ne_of_gt hk) howner (fun u hu => hi.found (hun u hu).1) htids
        (by simpa using hlen) fun y hy hyk hyv => absurd (no_card_of_free hi h hk hk' hfree hy hyk hyv) id
    · exact h
  | applyOutPos uid => exact doDelPosValueUid_housed hi.toBase h uid
  | applyOutPosCards uids => exact doSetApplyOutPosCards_housed hi h uids

end

/-- **No owner carries two cards of one kind**, in every reached state. -/
theorem no_owner_carries_two {E : Env} (I : IdSpaces E) (s : St) (reqs : List Req) (hi : Inv E s) (h : Housed I s)
    (hrun : LegalRun (serve E) (legalHoused I) s reqs) : UniqueKinds E (run (serve E) s reqs) := by
  have hstep : ∀ t r, Inv E t ∧ Housed I t → legalHoused I t r → Inv E (serve E t r) ∧ Housed I (serve E t r) :=
    fun t r ht hl => ⟨serve_inv ht.1 (legalHoused_legal hl) (legalHoused_notConfused ht.1 ht.2 hl),
      serve_housed ht.1 ht.2 hl⟩
  exact (run_inv (I := fun t => Inv E t ∧ Housed I t) hstep ⟨hi, h⟩ hrun).2.unique

/-- characters are 7, facilities are 9 -/
def sampleSpaces : IdSpaces sampleEnv where
  charId v := v = 7
  facilityId v := v = 9
  disjoint v h h' := by omega
  reset_not_char := by decide
  reset_not_facility := by decide

/-- three new cards: two are put on character 7 in one batch, change places, and one gives way to the third -/
theorem no_owner_carries_two_swap : UniqueKinds sampleEnv
    (run (serve sampleEnv) (construct sampleEnv (fun _ => sampleEnv.nullCard) fun _ => sampleEnv.nullBook)
      [.add [(sampleCard 1 10 0 0 0, 100), (sampleCard 2 20 0 0 0, 200), (sampleCard 3 20 0 0 0, 300)] [],
        .applyPosCards [1, 2] 1 7 fun _ _ => .successOk,
        .applyPos ⟨fun v => decide (v = 7), fun _ => .other 1⟩ ⟨1, 1, 7, 1, 0, 0⟩,
        .applyPos ⟨fun v => decide (v = 7), fun _ => .other 1⟩ ⟨3, 1, 7, 0, 0, 0⟩]) := by
  have hempty : ∀ a, ¬ Owned (construct sampleEnv (fun _ => sampleEnv.nullCard) fun _ => sampleEnv.nullBook) a := by
    rintro a ⟨u, hu⟩
    cases hu
  have hsound : UserChecks.Sound sampleSpaces ⟨fun v => decide (v = 7), fun _ => .other 1⟩ :=
    ⟨fun v hv => show v = 7 by simpa using hv, fun _ hv => by cases hv⟩
  refine no_owner_carries_two sampleSpaces _ _ (construct_inv _ _ _)
    ⟨fun a ha => absurd ha (hempty a), fun a _ ha => absurd ha (hempty a)⟩
    ⟨⟨⟨fun c hc => ⟨?_, ?_, hempty _⟩, by decide⟩, ?_⟩, ⟨by decide, ⟨fun _ => rfl, ?_⟩, by decide, by decide⟩,
      ⟨rfl, hsound⟩, ⟨rfl, hsound⟩, trivial⟩
  · revert c; decide
  · revert c; decide
  · decide
  · exact fun hf => absurd hf (show ¬ (1 : ℕ) = 2 by decide)

end GameServer.Card
