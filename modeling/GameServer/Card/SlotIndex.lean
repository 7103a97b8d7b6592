/-
The slot index of `CardContents` against the cards' own positions, over whole runs of requests.

`Inv`: cards are stored under their own UIDs, a placed card's slot number is in range, and the slot index agrees with
the positions that the owned cards claim (`Core.Agree (occ E s) (place E s)`).

Results:
- `doInit_inv`: `DoInit` establishes `Inv`;
- `serve_inv`: every request keeps `Inv`, except a single placement that meets `KindConfused`;
- `slotIndex_agrees`: in every state reached without such a placement, slot (k, v, n) holds card c iff c is owned and
  its fields say (k, v, n);
- `kindConfused_breaks`: an accepted `KindConfused` placement always breaks the agreement, so the condition is exact;
- `slotIndex_broken`: a character and a facility with the same number. The card of the character goes to the facility,
  the card in the facility is not evicted, and both claim the slot.

The validator takes the moving card to stay with its owner when the position VALUES agree. It does not compare the
kinds, though its own first check does.
-/
import Mathlib.Tactic
import GameServer.Core.Run
import GameServer.Card.Request

namespace GameServer.Card

open GameServer.Core

/-! ## Cards under their own UIDs -/

/-- a card that the null test does not reject -/
def CardPiece.Real (E : Env) (c : CardPiece) : Prop := c.isNull E = false ∧ c.cardUID ≠ E.invalidUid

instance (E : Env) (c : CardPiece) : Decidable (c.Real E) := by
  unfold CardPiece.Real; infer_instance

/-- what the store keeps, whatever the slot index says -/
structure Base (E : Env) (s : St) : Prop where
  keys : ∀ u a, s.cont u = some a → (s.cards a).cardUID = u
  real : ∀ u a, s.cont u = some a → (s.cards a).Real E
  null : s.msNullCard.isNull E = true
  slots : ∀ u a, s.cont u = some a → (s.cards a).posKind ≠ E.kNone → (s.cards a).posSlotNum < E.slotMax

structure Inv (E : Env) (s : St) : Prop extends Base E s where
  agree : Agree (occ E s) (place E s)

namespace Base

variable {E : Env} {s t : St}

/-- one address has one UID -/
theorem unique_key (h : Base E s) {u u' : ℕ} {a : Addr} (hu : s.cont u = some a) (hu' : s.cont u' = some a) :
    u = u' := by rw [← h.keys u a hu, h.keys u' a hu']

/-- a card that a lookup finds not null is owned -/
theorem found (h : Base E s) {u : ℕ} (hn : (s.card (s.getInst u)).isNull E = false) : ∃ a, s.cont u = some a := by
  cases hu : s.cont u with
  | some a => exact ⟨a, rfl⟩
  | none =>
    rw [St.getInst, hu, St.card, h.null] at hn
    cases hn

theorem cont_of_owned (h : Base E s) {a : Addr} (ha : Owned s a) : s.cont (s.cards a).cardUID = some a := by
  obtain ⟨u, hu⟩ := ha
  rw [h.keys u a hu, hu]

/-- the slot index plays no part -/
theorem congr (h : Base E s) (hcont : t.cont = s.cont) (hcards : t.cards = s.cards)
    (hnull : t.msNullCard = s.msNullCard) : Base E t := by
  constructor
  · intro u a hu; rw [hcont] at hu; rw [hcards]; exact h.keys u a hu
  · intro u a hu; rw [hcont] at hu; rw [hcards]; exact h.real u a hu
  · rw [hnull]; exact h.null
  · intro u a hu; rw [hcont] at hu; rw [hcards]; exact h.slots u a hu

/-- rewriting the position of an owned card -/
theorem setCard (h : Base E s) (a : Addr) {f : CardPiece → CardPiece} (huid : (f (s.cards a)).cardUID = (s.cards a).cardUID)
    (htid : (f (s.cards a)).tableID = (s.cards a).tableID)
    (hslot : (f (s.cards a)).posKind ≠ E.kNone → (f (s.cards a)).posSlotNum < E.slotMax) :
    Base E (s.setCard (some a) f) := by
  constructor
  · intro u b hu
    rw [setCard_cont] at hu
    rcases eq_or_ne b a with rfl | hb
    · rw [setCard_some_cards, Function.update_self, huid]; exact h.keys u b hu
    · rw [setCard_some_cards, Function.update_of_ne hb]; exact h.keys u b hu
  · intro u b hu
    rw [setCard_cont] at hu
    rcases eq_or_ne b a with rfl | hb
    · rw [setCard_some_cards, Function.update_self, CardPiece.Real, CardPiece.isNull, huid, htid]; exact h.real u b hu
    · rw [setCard_some_cards, Function.update_of_ne hb]; exact h.real u b hu
  · exact h.null
  · intro u b hu
    rw [setCard_cont] at hu
    rcases eq_or_ne b a with rfl | hb
    · rw [setCard_some_cards, Function.update_self]; exact hslot
    · rw [setCard_some_cards, Function.update_of_ne hb]; exact h.slots u b hu

theorem delPos (h : Base E s) (k v n : ℕ) : Base E (doDelPosValue E s k v n) := h.congr (by simp) (by simp) (by simp)

theorem reset (h : Base E s) (a : Addr) : Base E (s.setCard (some a) (·.resetPosInfo E)) :=
  h.setCard a rfl rfl fun hk => absurd rfl hk

theorem putAt (h : Base E s) (a : Addr) {k v n : ℕ} (hn : n < E.slotMax) : Base E (putAt E s (some a) k v n) :=
  Base.setCard (h.congr (by simp) (by simp) (by simp)) a rfl rfl fun _ => hn

end Base

/-! ## Leaving a position -/

theorem place_owned {E : Env} {s : St} {a : Addr} (ha : Owned s a) :
    place E s a = if ValidPos E (s.cards a).pos then some (s.cards a).pos else none := by
  simp [place, ha]

/-- the slot of a card is emptied, and the card claims nothing -/
theorem agree_vacated {E : Env} {s : St} {a : Addr} (h : Agree (occ E s) (place E s)) (ha : Owned s a) :
    Agree (occ E (doDelPosValue E s (s.cards a).posKind (s.cards a).posValue (s.cards a).posSlotNum))
      (Function.update (place E s) a none) := by
  refine (h.vacate a).congr (fun p => ?_) (fun _ => rfl)
  rw [occ_doDelPosValue, place_owned ha]
  by_cases hv : ValidPos E (s.cards a).pos
  · have hv' : ValidPos E ((s.cards a).posKind, (s.cards a).posValue, (s.cards a).posSlotNum) := hv
    rw [if_pos hv', if_pos hv]
    rcases eq_or_ne p (s.cards a).pos with rfl | hp
    · simp [CardPiece.pos]
    · have hp' : p ≠ ((s.cards a).posKind, (s.cards a).posValue, (s.cards a).posSlotNum) := hp
      rw [Function.update_of_ne hp', if_neg fun hc => hp (Option.some.inj hc).symm]
  · have hv' : ¬ ValidPos E ((s.cards a).posKind, (s.cards a).posValue, (s.cards a).posSlotNum) := hv
    simp [hv, hv']

/-- `__DoDelPosValue(uid)` -/
theorem doDelPosValueUid_inv {E : Env} {s : St} (h : Inv E s) (uid : ℕ) : Inv E (doDelPosValueUid E s uid).2 := by
  unfold doDelPosValueUid
  simp only
  by_cases hn : (s.card (s.getInst uid)).isNull E = true
  · rw [if_pos hn]; exact h
  · obtain ⟨a, ha⟩ := h.found (by simpa using hn)
    have hown : Owned s a := ⟨uid, ha⟩
    have hget : s.getInst uid = some a := ha
    rw [if_neg hn, hget]
    refine ⟨(h.toBase.delPos _ _ _).reset a, ?_⟩
    rw [occ_setCard, place_reset E _ (by simpa using hown), place_doDelPosValue]
    exact agree_vacated h.agree hown

theorem doSetApplyOutPosCards_inv {E : Env} {s : St} (h : Inv E s) (uids : List ℕ) :
    Inv E (doSetApplyOutPosCards E s uids).2 := by
  induction uids generalizing s with
  | nil => exact h
  | cons uid uids ih =>
    rw [doSetApplyOutPosCards]
    split_ifs
    · exact doDelPosValueUid_inv h uid
    · exact ih (doDelPosValueUid_inv h uid)

theorem doDel_inv {E : Env} {s : St} (h : Inv E s) (uid : ℕ) : Inv E (doDel E s uid).2 := by
  unfold doDel
  cases ha : s.cont uid with
  | none => exact h
  | some a =>
    have hown : Owned s a := ⟨uid, ha⟩
    have hb : Base E ((doDelPosValue E s (s.cards a).posKind (s.cards a).posValue (s.cards a).posSlotNum).setCard
        (some a) (·.resetPosInfo E)) := (h.toBase.delPos _ _ _).reset a
    simp only
    set s1 := (doDelPosValue E s (s.cards a).posKind (s.cards a).posValue (s.cards a).posSlotNum).setCard (some a)
      (·.resetPosInfo E) with hs1
    have hcont : s1.cont = s.cont := by simp [hs1]
    have hsub : ∀ u b, Function.update s1.cont uid none u = some b → s1.cont u = some b ∧ u ≠ uid := by
      intro u b hu
      rcases eq_or_ne u uid with rfl | hne
      · simp at hu
      · rw [Function.update_of_ne hne] at hu; exact ⟨hu, hne⟩
    refine ⟨⟨fun u b hu => hb.keys u b (hsub u b hu).1, fun u b hu => hb.real u b (hsub u b hu).1, hb.null,
      fun u b hu => hb.slots u b (hsub u b hu).1⟩, ?_⟩
    refine (agree_vacated h.agree hown).congr (fun p => ?_) (fun b => ?_)
    · change occ E s1 p = _
      rw [hs1, occ_setCard]
    · rcases eq_or_ne b a with rfl | hne
      · rw [Function.update_self]
        apply place_of_not_owned
        rintro ⟨u, hu⟩
        obtain ⟨hu, hne⟩ := hsub u b hu
        rw [hcont] at hu
        exact hne (h.unique_key hu ha)
      · rw [Function.update_of_ne hne]
        refine place_congr ⟨fun ⟨u, hu⟩ => ⟨u, hcont ▸ (hsub u b hu).1⟩, fun ⟨u, hu⟩ => ⟨u, ?_⟩⟩ (fun _ => ?_)
        · have hu' : u ≠ uid := by
            rintro rfl
            rw [ha] at hu
            exact hne (Option.some.inj hu).symm
          change Function.update s1.cont uid none u = some b
          rw [Function.update_of_ne hu', hcont, hu]
        · change (s1.cards b).pos = (s.cards b).pos
          simp [hs1, Function.update_of_ne hne]

/-! ## Adding cards -/

/-- what `DoAdd` relies on for a card and the object that the pool hands out for it: the object is not in use, the
card is a real one, and it is unplaced, or placed in a free slot under a new UID -/
structure CanAdd (E : Env) (s : St) (c : CardPiece × Addr) : Prop where
  fresh : ¬ Owned s c.2
  real : c.1.Real E
  free : c.1.posKind = E.kNone ∨ (ValidPos E c.1.pos ∧ occ E s c.1.pos = none ∧ s.cont c.1.cardUID = none)

theorem addBook_inv {E : Env} {s : St} (h : Inv E s) (b : BookPiece × Addr) : Inv E (addBook s b) :=
  ⟨h.toBase.congr rfl rfl rfl, h.agree.congr (fun _ => rfl) (fun _ => rfl)⟩

theorem storeCard_cont {s : St} {c : CardPiece × Addr} {u : ℕ} {b : Addr} (hu : (storeCard s c).cont u = some b) :
    s.cont u = some b ∨ (u = c.1.cardUID ∧ b = c.2) := by
  simp only [storeCard] at hu
  split_ifs at hu
  · rcases eq_or_ne u c.1.cardUID with rfl | hne
    · rw [Function.update_self] at hu
      exact Or.inr ⟨rfl, (Option.some.inj hu).symm⟩
    · rw [Function.update_of_ne hne] at hu
      exact Or.inl hu
  · exact Or.inl hu

theorem storeCard_old {s : St} {c : CardPiece × Addr} (hf : ¬ Owned s c.2) {b : Addr} (hb : Owned s b) :
    (storeCard s c).cards b = s.cards b := by
  have hne : b ≠ c.2 := by rintro rfl; exact hf hb
  simp [storeCard, Function.update_of_ne hne]

theorem storeCard_base {E : Env} {s : St} (h : Base E s) {c : CardPiece × Addr} (hc : CanAdd E s c) :
    Base E (storeCard s c) := by
  have hnew : (storeCard s c).cards c.2 = { c.1 with book := s.getBookInst c.1.tableID } := by simp [storeCard]
  constructor
  · intro u b hu
    rcases storeCard_cont hu with hu | ⟨rfl, rfl⟩
    · rw [storeCard_old hc.fresh ⟨u, hu⟩]; exact h.keys u b hu
    · rw [hnew]
  · intro u b hu
    rcases storeCard_cont hu with hu | ⟨rfl, rfl⟩
    · rw [storeCard_old hc.fresh ⟨u, hu⟩]; exact h.real u b hu
    · rw [hnew]; exact hc.real
  · exact h.null
  · intro u b hu
    rcases storeCard_cont hu with hu | ⟨rfl, rfl⟩
    · rw [storeCard_old hc.fresh ⟨u, hu⟩]; exact h.slots u b hu
    · rw [hnew]
      intro hk
      rcases hc.free with hn | ⟨hv, -⟩
      · exact absurd hn hk
      · exact hv.2.2

/-- a stored card claims its position, if its UID is new -/
theorem place_storeCard {E : Env} {s : St} {c : CardPiece × Addr} (hf : ¬ Owned s c.2) :
    place E (storeCard s c) = Function.update (place E s) c.2
      (if s.cont c.1.cardUID = none ∧ ValidPos E c.1.pos then some c.1.pos else none) := by
  funext b
  rcases eq_or_ne b c.2 with rfl | hb
  · rw [Function.update_self]
    by_cases hu : s.cont c.1.cardUID = none
    · have hown : Owned (storeCard s c) c.2 := ⟨c.1.cardUID, by simp [storeCard, hu]⟩
      rw [place_owned hown]
      simp [storeCard, CardPiece.pos, hu]
    · rw [if_neg fun hc => hu hc.1]
      apply place_of_not_owned
      rintro ⟨u, hu'⟩
      simp only [storeCard, hu, if_false] at hu'
      exact hf ⟨u, hu'⟩
  · rw [Function.update_of_ne hb]
    refine place_congr ⟨?_, ?_⟩ (fun ho => by rw [storeCard_old hf ho])
    · rintro ⟨u, hu⟩
      rcases storeCard_cont hu with hu | ⟨-, rfl⟩
      · exact ⟨u, hu⟩
      · exact absurd rfl hb
    · rintro ⟨u, hu⟩
      refine ⟨u, ?_⟩
      simp only [storeCard]
      split_ifs with hn
      · rw [Function.update_of_ne, hu]
        rintro rfl
        rw [hn] at hu
        cases hu
      · exact hu

theorem addCard_inv {E : Env} {s : St} {c : CardPiece × Addr} (h : Inv E s) (hc : CanAdd E s c) :
    Inv E (addCard E s c) := by
  have hb := storeCard_base h.toBase hc
  have hfree : place E s c.2 = none := place_of_not_owned hc.fresh
  unfold addCard
  by_cases hk : c.1.posKind = E.kNone
  · rw [if_pos hk]
    have hv : ¬ ValidPos E c.1.pos := fun hv => absurd hv.1 (by simp [CardPiece.pos, hk])
    refine ⟨hb, h.agree.congr (fun _ => rfl) (fun b => ?_)⟩
    rw [place_storeCard hc.fresh, if_neg fun hcon => hv hcon.2, ← hfree, Function.update_eq_self]
  · rw [if_neg hk]
    obtain ⟨hv, hocc, hu⟩ := hc.free.resolve_left hk
    have hv' : ValidPos E (c.1.posKind, c.1.posValue, c.1.posSlotNum) := hv
    refine ⟨hb.congr (by simp) (by simp) (by simp), ?_⟩
    rw [occ_doAddPosValue, if_pos hv', place_doAddPosValue, place_storeCard hc.fresh, if_pos ⟨hu, hv⟩]
    exact h.agree.occupy hfree hocc

/-- two cards of one packet do not get in each other's way -/
def Apart (E : Env) (c d : CardPiece × Addr) : Prop :=
  c.2 ≠ d.2 ∧ (d.1.posKind = E.kNone ∨ (c.1.cardUID ≠ d.1.cardUID ∧ (c.1.posKind = E.kNone ∨ c.1.pos ≠ d.1.pos)))

instance (E : Env) (c d : CardPiece × Addr) : Decidable (Apart E c d) := by
  unfold Apart; infer_instance

theorem canAdd_addCard {E : Env} {s : St} {c d : CardPiece × Addr} (hd : CanAdd E s d) (ha : Apart E c d) :
    CanAdd E (addCard E s c) d := by
  have hcont : (addCard E s c).cont = (storeCard s c).cont := by unfold addCard; split_ifs <;> simp
  refine ⟨?_, hd.real, ?_⟩
  · rintro ⟨u, hu⟩
    rw [hcont] at hu
    rcases storeCard_cont hu with hu | ⟨-, hne⟩
    · exact hd.fresh ⟨u, hu⟩
    · exact ha.1 hne.symm
  · rcases hd.free with hn | ⟨hv, hocc, hu⟩
    · exact Or.inl hn
    rcases ha.2 with hn | ⟨huid, hpos⟩
    · exact Or.inl hn
    refine Or.inr ⟨hv, ?_, ?_⟩
    · unfold addCard
      split_ifs with hk
      · exact hocc
      · have hpos' : d.1.pos ≠ (c.1.posKind, c.1.posValue, c.1.posSlotNum) := Ne.symm (hpos.resolve_left hk)
        rw [occ_doAddPosValue]
        split_ifs
        · rw [Function.update_of_ne hpos']; exact hocc
        · exact hocc
    · rw [hcont]
      cases hcon : (storeCard s c).cont d.1.cardUID with
      | none => rfl
      | some b =>
        rcases storeCard_cont hcon with hcon | ⟨heq, -⟩
        · rw [hu] at hcon; cases hcon
        · exact absurd heq.symm huid

/-- **`DoAdd` keeps the invariant** for cards that can be added and do not get in each other's way -/
theorem doAdd_inv {E : Env} {s : St} (h : Inv E s) {cards : List (CardPiece × Addr)} (books : List (BookPiece × Addr))
    (hall : ∀ c ∈ cards, CanAdd E s c) (hapart : cards.Pairwise (Apart E)) : Inv E (doAdd E s cards books) := by
  have hbooks : ∀ (bs : List (BookPiece × Addr)) (t : St), Inv E t → (∀ c ∈ cards, CanAdd E t c) →
      Inv E (bs.foldl addBook t) ∧ ∀ c ∈ cards, CanAdd E (bs.foldl addBook t) c := by
    intro bs
    induction bs with
    | nil => exact fun t ht hc => ⟨ht, hc⟩
    | cons b bs ih =>
      exact fun t ht hc => ih (addBook t b) (addBook_inv ht b) fun c hm => ⟨(hc c hm).fresh, (hc c hm).real, (hc c hm).free⟩
  obtain ⟨h1, h2⟩ := hbooks books s h hall
  have hrun : LegalRun (addCard E) (CanAdd E) (books.foldl addBook s) cards := by
    refine LegalRun.of_pairwise ?_ h2 hapart
    intro t c d _ hd ha
    exact canAdd_addCard hd ha
  exact run_inv (fun _ _ hi hc => addCard_inv hi hc) h1 hrun

/-- the cards of the login packet: real, under distinct UIDs, each unplaced or in a slot of its own -/
structure InitCards (E : Env) (cards : List (CardPiece × Addr)) : Prop where
  real : ∀ c ∈ cards, c.1.Real E
  valid : ∀ c ∈ cards, c.1.posKind = E.kNone ∨ ValidPos E c.1.pos
  uids : (cards.map fun c => c.1.cardUID).Nodup
  addrs : (cards.map Prod.snd).Nodup
  slots : cards.Pairwise fun c d => c.1.posKind ≠ E.kNone → d.1.posKind ≠ E.kNone → c.1.pos ≠ d.1.pos

theorem not_owned_construct (E : Env) (mem : Addr → CardPiece) (bookMem : Addr → BookPiece) (a : Addr) :
    ¬ Owned (construct E mem bookMem) a := by
  rintro ⟨u, hu⟩
  cases hu

theorem construct_inv (E : Env) (mem : Addr → CardPiece) (bookMem : Addr → BookPiece) :
    Inv E (construct E mem bookMem) := by
  refine ⟨⟨?_, ?_, E.nullCard_isNull, ?_⟩, ?_⟩
  · intro u a hu; cases hu
  · intro u a hu; cases hu
  · intro u a hu; cases hu
  · intro p a
    have hocc : occ E (construct E mem bookMem) p = none := by simp [occ, slotAt, construct]
    have hplace : place E (construct E mem bookMem) a = none := place_of_not_owned (not_owned_construct E mem bookMem a)
    simp [hocc, hplace]

theorem doInit_inv {E : Env} {cards : List (CardPiece × Addr)} (h : InitCards E cards) (mem : Addr → CardPiece)
    (bookMem : Addr → BookPiece) (books : List (BookPiece × Addr)) : Inv E (doInit E mem bookMem cards books) := by
  have hfresh := not_owned_construct E mem bookMem
  refine doAdd_inv (construct_inv E mem bookMem) books (fun c hc => ⟨hfresh c.2, h.real c hc, ?_⟩) ?_
  · refine (h.valid c hc).imp_right fun hv => ⟨hv, ?_, rfl⟩
    simp [occ, slotAt, construct]
  · have h1 := List.pairwise_map.1 h.addrs
    have h2 := List.pairwise_map.1 h.uids
    refine ((h1.and h2).and h.slots).imp fun {c d} hcd => ?_
    obtain ⟨⟨ha, hu⟩, hs⟩ := hcd
    refine ⟨ha, ?_⟩
    by_cases hd : d.1.posKind = E.kNone
    · exact Or.inl hd
    · refine Or.inr ⟨hu, ?_⟩
      by_cases hc : c.1.posKind = E.kNone
      · exact Or.inl hc
      · exact Or.inr (hs hc hd)

/-! ## Single placement -/

/-- the state after an accepted single placement of the card at `a` -/
def placed (E : Env) (s : St) (a : Addr) (pkt : ApplyPos) : St :=
  let c := s.cards a
  let moved := putAt E (doDelPosValue E s c.posKind c.posValue c.posSlotNum) (some a) pkt.posKind pkt.posValue
    pkt.slotNum
  match oldSeen s pkt with
  | none => moved
  | some b =>
    let out := moved.setCard (some b) (·.resetPosInfo E)
    if E.kNone ≠ c.posKind ∧ c.posValue = pkt.posValue then
      putAt E out (some b) pkt.posKind pkt.posValue c.posSlotNum
    else out

/-- the card in a covered slot is owned -/
theorem owned_of_slot {E : Env} {s : St} (h : Inv E s) {k v n : ℕ} {b : Addr} (hv : ValidPos E (k, v, n))
    (hb : slotAt s k v n = some b) : Owned s b ∧ (s.cards b).pos = (k, v, n) := by
  have hocc : occ E s (k, v, n) = some b := by rw [occ, if_pos hv]; exact hb
  obtain ⟨h1, -, h3⟩ := place_eq_some.1 ((h.agree _ _).1 hocc)
  exact ⟨h1, h3⟩

/-- nobody is seen in the slot: the packet stays as it is -/
theorem Accepted.packet_free {E : Env} {C : UserChecks} {s : St} {pkt pkt' : ApplyPos} {limit : ℕ} {c : CardPiece}
    (h : Base E s) (acc : Accepted E C s pkt pkt' c limit) (hold : oldSeen s pkt = none) : pkt' = pkt := by
  rw [acc.packet, hold]
  exact if_pos h.null

theorem slotAt_of_oldSeen {s : St} {pkt : ApplyPos} {b : Addr} (hold : oldSeen s pkt = some b) :
    slotAt s pkt.posKind pkt.posValue pkt.slotNum = some b := by
  unfold oldSeen at hold
  split_ifs at hold
  exact hold

/-- a card is seen in the slot: the packet names it -/
theorem Accepted.packet_taken {E : Env} {C : UserChecks} {s : St} {pkt pkt' : ApplyPos} {limit : ℕ} {a b : Addr}
    (h : Inv E s) (ha : s.cont pkt.cardUID = some a) (acc : Accepted E C s pkt pkt' (s.cards a) limit)
    (hold : oldSeen s pkt = some b) :
    pkt' = { pkt with
      oldCardUID := (s.cards b).cardUID
      oldCardChangeSlotNum :=
        if E.kNone ≠ (s.cards a).posKind ∧ (s.cards a).posValue = pkt.posValue then (s.cards a).posSlotNum
        else E.slotMax } := by
  have hget : s.getInst pkt.cardUID = some a := ha
  obtain ⟨hown, -⟩ := owned_of_slot h acc.valid (slotAt_of_oldSeen hold)
  obtain ⟨hbn, -⟩ := h.real _ _ (h.cont_of_owned hown)
  rw [acc.packet, hold]
  simp [fillOldCard, St.card, hbn, hget]

/-- the apply step does what the packet of the validator says -/
theorem doSetApplyPosCard_accepted {E : Env} {C : UserChecks} {s : St} {pkt pkt' : ApplyPos} {limit : ℕ} {a : Addr}
    (h : Inv E s) (hreq : pkt.oldCardUID = E.invalidUid) (ha : s.cont pkt.cardUID = some a)
    (acc : Accepted E C s pkt pkt' (s.cards a) limit) : (doSetApplyPosCard E s pkt').2 = placed E s a pkt := by
  have hget : s.getInst pkt.cardUID = some a := ha
  cases hold : oldSeen s pkt with
  | none =>
    rw [acc.packet_free h.toBase hold]
    simp [doSetApplyPosCard, placed, hold, hget, St.card, hreq]
  | some b =>
    obtain ⟨hown, -⟩ := owned_of_slot h acc.valid (slotAt_of_oldSeen hold)
    have hcont := h.cont_of_owned hown
    have hbu := (h.real _ _ hcont).2
    rw [acc.packet_taken h ha hold]
    simp only [doSetApplyPosCard, placed, hold, hget, St.card, if_neg (Ne.symm hbu)]
    rw [St.getInst, putAt, setCard_cont, doAddPosValue_cont, doDelPosValue_cont, hcont]
    by_cases hswap : E.kNone ≠ (s.cards a).posKind ∧ (s.cards a).posValue = pkt.posValue
    · have hlt := h.slots _ _ ha (Ne.symm hswap.1)
      simp only [if_pos hswap, ApplyPos.isDetechToOldCardSlot, E.isDetech_lt _ hlt, Bool.false_eq_true, if_false]
    · simp only [if_neg hswap, ApplyPos.isDetechToOldCardSlot, E.isDetech_slotMax, if_true]

/-- the requested position value equals the moving card's own, but the kinds differ, the requested slot is taken, and
either the scan skips that slot or the eviction would put its card on an occupied slot -/
def KindConfused (E : Env) (s : St) (pkt : ApplyPos) : Prop :=
  let c := s.card (s.getInst pkt.cardUID)
  c.posKind ≠ pkt.posKind ∧ c.posValue = pkt.posValue ∧ slotAt s pkt.posKind pkt.posValue pkt.slotNum ≠ none ∧
    (c.posSlotNum = pkt.slotNum ∨ (c.posKind ≠ E.kNone ∧ slotAt s pkt.posKind pkt.posValue c.posSlotNum ≠ none))

instance (E : Env) (s : St) (pkt : ApplyPos) : Decidable (KindConfused E s pkt) := by
  unfold KindConfused; infer_instance

theorem placed_base {E : Env} {C : UserChecks} {s : St} {pkt : ApplyPos} {limit : ℕ} {a : Addr}
    (h : Base E s) (ha : s.cont pkt.cardUID = some a) (g : Guarded E C pkt (s.cards a) limit) :
    Base E (placed E s a pkt) := by
  have hm := (h.delPos (s.cards a).posKind (s.cards a).posValue (s.cards a).posSlotNum).putAt a (k := pkt.posKind)
    (v := pkt.posValue) g.valid.2.2
  unfold placed
  cases oldSeen s pkt with
  | none => exact hm
  | some b =>
    simp only
    split_ifs with hswap
    · exact (hm.reset b).putAt b (h.slots _ _ ha (Ne.symm hswap.1))
    · exact hm.reset b

section Moved

variable {E : Env} {s : St} {a b : Addr} {pkt : ApplyPos}

/-- the moving card has left its slot -/
def left (E : Env) (s : St) (a : Addr) : St :=
  doDelPosValue E s (s.cards a).posKind (s.cards a).posValue (s.cards a).posSlotNum

/-- the moving card is at the requested position -/
def moved (E : Env) (s : St) (a : Addr) (pkt : ApplyPos) : St :=
  putAt E (left E s a) (some a) pkt.posKind pkt.posValue pkt.slotNum

theorem placed_none (hold : oldSeen s pkt = none) : placed E s a pkt = moved E s a pkt := by
  rw [placed, hold]
  rfl

theorem placed_some (hold : oldSeen s pkt = some b) : placed E s a pkt =
    if E.kNone ≠ (s.cards a).posKind ∧ (s.cards a).posValue = pkt.posValue then
      putAt E ((moved E s a pkt).setCard (some b) (·.resetPosInfo E)) (some b) pkt.posKind pkt.posValue
        (s.cards a).posSlotNum
    else (moved E s a pkt).setCard (some b) (·.resetPosInfo E) := by
  rw [placed, hold]
  rfl

theorem owned_left (x : Addr) : Owned (left E s a) x ↔ Owned s x := owned_doDelPosValue E s _ _ _ x

theorem owned_moved (x : Addr) : Owned (moved E s a pkt) x ↔ Owned s x := (owned_putAt E _ _ _ _ _ x).trans (owned_left x)

theorem place_left : place E (left E s a) = place E s := place_doDelPosValue E s _ _ _

theorem occ_left {q : Pos} (hq : ValidPos E q) :
    occ E (left E s a) q = if q = (s.cards a).pos then none else slotAt s q.1 q.2.1 q.2.2 := by
  rw [left, occ_doDelPosValue]
  rcases eq_or_ne q (s.cards a).pos with rfl | hne
  · have hq' : ValidPos E ((s.cards a).posKind, (s.cards a).posValue, (s.cards a).posSlotNum) := hq
    rw [if_pos hq', if_pos rfl]
    simp [CardPiece.pos]
  · have hne' : q ≠ ((s.cards a).posKind, (s.cards a).posValue, (s.cards a).posSlotNum) := hne
    rw [if_neg hne]
    split_ifs
    · rw [Function.update_of_ne hne', occ, if_pos hq]
    · rw [occ, if_pos hq]

variable (hown : Owned s a) (hv : ValidPos E (pkt.posKind, pkt.posValue, pkt.slotNum))
include hv

theorem occ_moved : occ E (moved E s a pkt) =
    Function.update (occ E (left E s a)) (pkt.posKind, pkt.posValue, pkt.slotNum) (some a) := by
  rw [moved, occ_putAt, if_pos hv]

include hown

theorem place_moved : place E (moved E s a pkt) =
    Function.update (place E s) a (some (pkt.posKind, pkt.posValue, pkt.slotNum)) := by
  rw [moved, place_putAt E _ _ _ _ ((owned_left a).2 hown), if_pos hv, place_left]

theorem place_evicted (hb : Owned s b) (hba : b ≠ a) :
    place E ((moved E s a pkt).setCard (some b) (·.resetPosInfo E)) =
      Function.update (Function.update (Function.update (place E s) a none) b none) a
        (some (pkt.posKind, pkt.posValue, pkt.slotNum)) := by
  rw [place_reset E _ ((owned_moved b).2 hb), place_moved hown hv]
  funext x
  rcases eq_or_ne x a with rfl | hxa
  · rw [Function.update_of_ne hba.symm, Function.update_self, Function.update_self]
  · rcases eq_or_ne x b with rfl | hxb
    · rw [Function.update_self, Function.update_of_ne hxa, Function.update_self]
    · simp [hxa, hxb]

/-- the moving card takes a free position -/
theorem moved_agree (h : Agree (occ E s) (place E s))
    (hfree : occ E (left E s a) (pkt.posKind, pkt.posValue, pkt.slotNum) = none) :
    Agree (occ E (moved E s a pkt)) (place E (moved E s a pkt)) := by
  have hleft : Agree (occ E (left E s a)) (Function.update (place E s) a none) := agree_vacated h hown
  have htaken := hleft.occupy (Function.update_self a none (place E s)) hfree
  rw [occ_moved hv, place_moved hown hv]
  rwa [Function.update_idem] at htaken

/-- the moving card takes the position of `b`, and `b` becomes unplaced -/
theorem evicted_agree (h : Agree (occ E s) (place E s)) (hb : Owned s b) (hba : b ≠ a)
    (hocc : occ E (left E s a) (pkt.posKind, pkt.posValue, pkt.slotNum) = some b) :
    Agree (occ E ((moved E s a pkt).setCard (some b) (·.resetPosInfo E)))
      (place E ((moved E s a pkt).setCard (some b) (·.resetPosInfo E))) := by
  have hleft : Agree (occ E (left E s a)) (Function.update (place E s) a none) := agree_vacated h hown
  rw [occ_setCard, occ_moved hv, place_evicted hown hv hb hba]
  exact hleft.displace (Function.update_self a none (place E s)) hocc

end Moved

/-- the requested slot is free -/
theorem placed_free_agree {E : Env} {C : UserChecks} {s : St} {pkt : ApplyPos} {limit : ℕ} {a : Addr}
    (h : Inv E s) (ha : s.cont pkt.cardUID = some a) (g : Guarded E C pkt (s.cards a) limit)
    (hold : oldSeen s pkt = none) (hfree : slotAt s pkt.posKind pkt.posValue pkt.slotNum = none) :
    Agree (occ E (placed E s a pkt)) (place E (placed E s a pkt)) := by
  rw [placed_none hold]
  refine moved_agree ⟨pkt.cardUID, ha⟩ g.valid h.agree ?_
  rw [occ_left g.valid, if_neg fun heq => g.moved heq.symm]
  exact hfree

/-- a card is seen in the requested slot; the slot that it takes in a swap is free once the moving card has left -/
theorem placed_taken_agree {E : Env} {C : UserChecks} {s : St} {pkt : ApplyPos} {limit : ℕ} {a b : Addr}
    (h : Inv E s) (ha : s.cont pkt.cardUID = some a) (g : Guarded E C pkt (s.cards a) limit)
    (hold : oldSeen s pkt = some b)
    (hback : E.kNone ≠ (s.cards a).posKind → (s.cards a).posValue = pkt.posValue →
      (s.cards a).posKind ≠ pkt.posKind → slotAt s pkt.posKind pkt.posValue (s.cards a).posSlotNum = none) :
    Agree (occ E (placed E s a pkt)) (place E (placed E s a pkt)) := by
  have hget : s.getInst pkt.cardUID = some a := ha
  have hown : Owned s a := ⟨pkt.cardUID, ha⟩
  set c := s.cards a with hc
  set dst : Pos := (pkt.posKind, pkt.posValue, pkt.slotNum) with hdst
  have hvalid : ValidPos E dst := g.valid
  obtain ⟨hb, hbpos⟩ := owned_of_slot h hvalid (slotAt_of_oldSeen hold)
  have hba : b ≠ a := by rintro rfl; exact g.moved hbpos
  have hocc : occ E (left E s a) dst = some b := by
    rw [occ_left hvalid, if_neg fun heq => g.moved heq.symm]
    exact slotAt_of_oldSeen hold
  have hevicted := evicted_agree hown hvalid h.agree hb hba hocc
  rw [placed_some hold]
  split_ifs with hswap
  · -- the old card takes the moving card's former slot number
    set q : Pos := (pkt.posKind, pkt.posValue, c.posSlotNum) with hq
    have hqv : ValidPos E q := ⟨hvalid.1, hvalid.2.1, h.slots _ _ ha (Ne.symm hswap.1)⟩
    have hqd : q ≠ dst := by
      intro heq
      simp only [hq, hdst, Prod.mk.injEq, true_and] at heq
      unfold oldSeen at hold
      rw [hget, if_pos ⟨hswap.2, heq⟩] at hold
      cases hold
    have hfree : occ E (left E s a) q = none := by
      rw [occ_left hqv]
      split_ifs with hqc
      · rfl
      · refine hback hswap.1 hswap.2 fun hk => hqc ?_
        rw [hq, CardPiece.pos, hk, hswap.2]
    have hbo : Owned ((moved E s a pkt).setCard (some b) (·.resetPosInfo E)) b := by
      rw [owned_setCard]
      exact (owned_moved b).2 hb
    rw [occ_putAt, if_pos hqv, place_putAt E _ _ _ _ hbo, if_pos hqv]
    refine hevicted.occupy ?_ ?_
    · rw [place_evicted hown hvalid hb hba, Function.update_of_ne hba, Function.update_self]
    · rw [occ_setCard, occ_moved hvalid, Function.update_of_ne hqd]
      exact hfree
  · exact hevicted

/-- **A single placement keeps the slot index** unless it is `KindConfused` -/
theorem placed_agree {E : Env} {C : UserChecks} {s : St} {pkt : ApplyPos} {limit : ℕ} {a : Addr}
    (h : Inv E s) (ha : s.cont pkt.cardUID = some a) (g : Guarded E C pkt (s.cards a) limit)
    (hconf : ¬ KindConfused E s pkt) : Agree (occ E (placed E s a pkt)) (place E (placed E s a pkt)) := by
  have hget : s.getInst pkt.cardUID = some a := ha
  unfold KindConfused at hconf
  rw [hget] at hconf
  set c := s.cards a with hc
  change ¬ (c.posKind ≠ pkt.posKind ∧ c.posValue = pkt.posValue ∧ _ ∧ _) at hconf
  cases hold : oldSeen s pkt with
  | none =>
    -- nobody is seen in the slot, and nobody is there
    refine placed_free_agree h ha g hold ?_
    by_contra hocc
    unfold oldSeen at hold
    rw [hget] at hold
    split_ifs at hold with hsk
    · refine hconf ⟨fun hk => g.moved ?_, hsk.1, hocc, Or.inl hsk.2⟩
      have hv : c.posValue = pkt.posValue := hsk.1
      have hn : c.posSlotNum = pkt.slotNum := hsk.2
      rw [CardPiece.pos, hk, hv, hn]
    · exact hocc hold
  | some b =>
    refine placed_taken_agree h ha g hold ?_
    intro hplaced hvalue hkind
    by_contra hocc
    exact hconf ⟨hkind, hvalue, by rw [slotAt_of_oldSeen hold]; simp, Or.inr ⟨Ne.symm hplaced, hocc⟩⟩

/-- a card that claims `q` while the slot index gives `q` to another one -/
theorem stale_of_putAt {E : Env} {s : St} {a d : Addr} {k v n : ℕ} (hv : ValidPos E (k, v, n)) (ha : Owned s a)
    (hd : place E s d = some (k, v, n)) (hne : d ≠ a) :
    ¬ Agree (occ E (putAt E s (some a) k v n)) (place E (putAt E s (some a) k v n)) := by
  refine not_agree_of_stale (p := (k, v, n)) (a := d) ?_ ?_
  · rw [place_putAt E s k v n ha, Function.update_of_ne hne, hd]
  · rw [occ_putAt, if_pos hv, Function.update_self]
    exact fun h => hne (Option.some.inj h).symm

/-- a `KindConfused` placement leaves a claim that the slot index does not honour -/
theorem placed_not_agree {E : Env} {C : UserChecks} {s : St} {pkt : ApplyPos} {limit : ℕ} {a : Addr}
    (h : Inv E s) (ha : s.cont pkt.cardUID = some a) (g : Guarded E C pkt (s.cards a) limit)
    (hconf : KindConfused E s pkt) : ¬ Agree (occ E (placed E s a pkt)) (place E (placed E s a pkt)) := by
  have hget : s.getInst pkt.cardUID = some a := ha
  have hown : Owned s a := ⟨pkt.cardUID, ha⟩
  unfold KindConfused at hconf
  rw [hget] at hconf
  set c := s.cards a with hc
  change c.posKind ≠ pkt.posKind ∧ c.posValue = pkt.posValue ∧ _ ≠ none ∧
    (c.posSlotNum = pkt.slotNum ∨ (c.posKind ≠ E.kNone ∧ _ ≠ none)) at hconf
  obtain ⟨hkind, hval, htaken, hcase⟩ := hconf
  obtain ⟨b, hb⟩ := Option.ne_none_iff_exists'.1 htaken
  obtain ⟨hbo, hbp⟩ := owned_of_slot h g.valid hb
  have hba : b ≠ a := by rintro rfl; exact g.moved hbp
  -- a card in a slot of the target still claims it after the moving card has left
  have hclaim : ∀ {d : Addr} {n : ℕ}, ValidPos E (pkt.posKind, pkt.posValue, n) →
      slotAt s pkt.posKind pkt.posValue n = some d → place E s d = some (pkt.posKind, pkt.posValue, n) := by
    intro d n hn hd
    rw [place_eq_some]
    exact ⟨(owned_of_slot h hn hd).1, hn, (owned_of_slot h hn hd).2⟩
  by_cases hslot : c.posSlotNum = pkt.slotNum
  · -- the scan does not look at the slot, and nobody is evicted
    have hold : oldSeen s pkt = none := by
      unfold oldSeen
      rw [hget, if_pos ⟨hval, hslot⟩]
    rw [placed_none hold]
    refine stale_of_putAt g.valid ((owned_left a).2 hown) ?_ hba
    rw [place_left]
    exact hclaim g.valid hb
  · -- the evicted card is put on top of another one
    obtain ⟨hplaced, htaken'⟩ := hcase.resolve_left hslot
    obtain ⟨d, hd⟩ := Option.ne_none_iff_exists'.1 htaken'
    have hold : oldSeen s pkt = some b := by
      unfold oldSeen
      rw [hget, if_neg fun hsk => hslot hsk.2]
      exact hb
    rw [placed_some hold, if_pos ⟨Ne.symm hplaced, hval⟩]
    have hqv : ValidPos E (pkt.posKind, pkt.posValue, c.posSlotNum) :=
      ⟨g.valid.1, g.valid.2.1, h.slots _ _ ha hplaced⟩
    obtain ⟨-, hdp⟩ := owned_of_slot h hqv hd
    have hda : d ≠ a := by
      rintro rfl
      exact hkind (congrArg Prod.fst hdp)
    have hdb : d ≠ b := by
      rintro rfl
      rw [hbp] at hdp
      exact hslot (congrArg (fun p : Pos => p.2.2) hdp).symm
    have hbo' : Owned ((moved E s a pkt).setCard (some b) (·.resetPosInfo E)) b := by
      rw [owned_setCard]
      exact (owned_moved b).2 hbo
    refine stale_of_putAt hqv hbo' ?_ hdb
    rw [place_evicted hown g.valid hbo hba, Function.update_of_ne hda, Function.update_of_ne hdb,
      Function.update_of_ne hda]
    exact hclaim hqv hd

theorem doSetApplyPosCard_inv {E : Env} {C : UserChecks} {s : St} {pkt pkt' : ApplyPos} (h : Inv E s)
    (hreq : pkt.oldCardUID = E.invalidUid) (hok : isCanApplyPosCard E C s pkt = .ok pkt')
    (hconf : ¬ KindConfused E s pkt) : Inv E (doSetApplyPosCard E s pkt').2 := by
  obtain ⟨limit, acc⟩ := isCanApplyPosCard_ok h.null hok
  obtain ⟨a, ha⟩ := h.found acc.exist
  have hget : s.getInst pkt.cardUID = some a := ha
  rw [hget] at acc
  rw [doSetApplyPosCard_accepted h hreq ha acc]
  exact ⟨placed_base h.toBase ha acc.toGuarded, placed_agree h ha acc.toGuarded hconf⟩

/-! ## Batch placement -/

/-- an unplaced card takes a free slot, or a position that the index does not cover -/
theorem putAt_inv {E : Env} {s : St} (h : Inv E s) {k v n : ℕ} {a : Addr} (ha : Owned s a)
    (hun : (s.cards a).posKind = E.kNone) (hn : n < E.slotMax) (hfree : occ E s (k, v, n) = none) :
    Inv E (putAt E s (some a) k v n) := by
  have hnone : place E s a = none := by
    rw [place_owned ha, if_neg fun hv => absurd hv.1 (by simp [CardPiece.pos, hun])]
  refine ⟨h.toBase.putAt a hn, ?_⟩
  rw [occ_putAt, place_putAt E s k v n ha]
  split_ifs
  · exact h.agree.occupy hnone hfree
  · rw [← hnone, Function.update_eq_self]
    exact h.agree

theorem doSetApplyPosCards_inv {E : Env} {s : St} (h : Inv E s) {kind value loop : ℕ} {uids : List ℕ}
    (hnd : uids.Nodup) (hun : ∀ u ∈ uids, ∃ a, s.cont u = some a ∧ (s.cards a).posKind = E.kNone)
    (hlen : loop + uids.length ≤ E.slotMax)
    (hfree : ∀ n, loop ≤ n → n < loop + uids.length → occ E s (kind, value, n) = none) :
    Inv E (doSetApplyPosCards E s (slotList kind value loop uids)).2 := by
  induction uids generalizing s loop with
  | nil => exact h
  | cons uid uids ih =>
    obtain ⟨a, ha, hk⟩ := hun uid List.mem_cons_self
    have hget : s.getInst uid = some a := ha
    have hlt : loop < E.slotMax := by simp only [List.length_cons] at hlen; omega
    have hmod : loop % 2 ^ 8 = loop := Nat.mod_eq_of_lt (hlt.trans E.slotMax_lt)
    rw [slotList_cons, doSetApplyPosCards]
    simp only [hget, St.card, (h.real uid a ha).1, Bool.false_eq_true, if_false, hmod]
    have hi := putAt_inv h ⟨uid, ha⟩ hk hlt (hfree loop le_rfl (by simp))
    refine ih hi (List.nodup_cons.1 hnd).2 ?_ (by simp only [List.length_cons] at hlen; omega) ?_
    · intro u hu
      obtain ⟨b, hb, hbk⟩ := hun u (List.mem_cons_of_mem _ hu)
      refine ⟨b, by simpa [putAt] using hb, ?_⟩
      have hne : b ≠ a := by
        rintro rfl
        have := h.unique_key ha hb
        subst this
        exact (List.nodup_cons.1 hnd).1 hu
      simpa [putAt, Function.update_of_ne hne] using hbk
    · intro n hn hn'
      have hne : (kind, value, n) ≠ (kind, value, loop) := by simp; omega
      have hold : occ E s (kind, value, n) = none := hfree n (by omega) (by simp only [List.length_cons]; omega)
      rw [occ_putAt]
      split_ifs
      · rw [Function.update_of_ne hne]; exact hold
      · exact hold

/-! ## Whole runs -/

/-- the requests of a run, in the state they meet -/
def legal (E : Env) (s : St) : Req → Prop
  | .add cards _ => (∀ c ∈ cards, c.1.posKind = E.kNone ∧ c.1.Real E ∧ ¬ Owned s c.2) ∧ (cards.map Prod.snd).Nodup
  | .applyPos _ pkt => pkt.oldCardUID = E.invalidUid
  | .applyPosCards uids kind value _ => (∀ n < E.slotMax, slotAt s kind value n = none) ∧ uids.length ≤ E.slotMax
  | _ => True

/-- a single placement does not mistake another kind's position for the card's own -/
def notConfused (E : Env) (s : St) : Req → Prop
  | .applyPos C pkt => (∃ pkt', isCanApplyPosCard E C s pkt = .ok pkt') → ¬ KindConfused E s pkt
  | _ => True

/-- **Step lemma.** Every request that is not confused keeps the slot index consistent. -/
theorem serve_inv {E : Env} {s : St} {r : Req} (h : Inv E s) (hl : legal E s r) (hc : notConfused E s r) :
    Inv E (serve E s r) := by
  cases r with
  | add cards books =>
    refine doAdd_inv h books (fun c hm => ⟨(hl.1 c hm).2.2, (hl.1 c hm).2.1, Or.inl (hl.1 c hm).1⟩) ?_
    refine (List.pairwise_map.1 hl.2).imp_of_mem fun {c d} _ hd hne => ⟨hne, Or.inl (hl.1 d hd).1⟩
  | del uid => exact doDel_inv h uid
  | applyPos C pkt =>
    simp only [serve]
    split
    · exact h
    · rename_i pkt' hok
      exact doSetApplyPosCard_inv h hl hok (hc ⟨pkt', hok⟩)
  | applyPosCards uids kind value w =>
    simp only [serve]
    split
    · rename_i infos hok
      obtain ⟨hnd, rfl, hun, -⟩ := isCanApplyPosCards_ok hok
      refine doSetApplyPosCards_inv h hnd (fun u hu => ?_) (by simpa using hl.2) (fun n _ _ => ?_)
      · obtain ⟨a, ha⟩ := h.found (hun u hu).1
        have hget : s.getInst u = some a := ha
        exact ⟨a, ha, by simpa [hget, St.card] using (hun u hu).2⟩
      · unfold occ
        split_ifs with hv
        · exact hl.1 n hv.2.2
        · rfl
    · exact h
  | applyOutPos uid => exact doDelPosValueUid_inv h uid
  | applyOutPosCards uids => exact doSetApplyOutPosCards_inv h uids

/-- slot (k, v, n) holds card a iff a is owned and its own fields say (k, v, n) -/
def SlotIndexOk (E : Env) (s : St) : Prop :=
  ∀ k v n, E.kNone < k → k < E.kMax → n < E.slotMax → ∀ a,
    slotAt s k v n = some a ↔
      Owned s a ∧ (s.cards a).posKind = k ∧ (s.cards a).posValue = v ∧ (s.cards a).posSlotNum = n

theorem slotIndexOk_iff (E : Env) (s : St) : SlotIndexOk E s ↔ Agree (occ E s) (place E s) := by
  constructor
  · rintro h ⟨k, v, n⟩ a
    rw [place_eq_some]
    by_cases hv : ValidPos E (k, v, n)
    · rw [occ, if_pos hv, h k v n hv.1 hv.2.1 hv.2.2]
      simp [hv, CardPiece.pos]
    · simp [occ, hv]
  · intro h k v n h1 h2 h3 a
    have hv : ValidPos E (k, v, n) := ⟨h1, h2, h3⟩
    have := h (k, v, n) a
    rw [occ, if_pos hv, place_eq_some] at this
    simpa [hv, CardPiece.pos] using this

/-- **The condition is exact**: a confused placement always breaks the slot index -/
theorem kindConfused_breaks {E : Env} {s : St} {C : UserChecks} {pkt pkt' : ApplyPos} (h : Inv E s)
    (hreq : pkt.oldCardUID = E.invalidUid) (hok : isCanApplyPosCard E C s pkt = .ok pkt') (hconf : KindConfused E s pkt) :
    ¬ SlotIndexOk E (serve E s (.applyPos C pkt)) := by
  obtain ⟨limit, acc⟩ := isCanApplyPosCard_ok h.null hok
  obtain ⟨a, ha⟩ := h.found acc.exist
  have hget : s.getInst pkt.cardUID = some a := ha
  rw [hget] at acc
  simp only [serve, hok]
  rw [slotIndexOk_iff, doSetApplyPosCard_accepted h hreq ha acc]
  exact placed_not_agree h ha acc.toGuarded hconf

/-- **The slot index is consistent in every reached state** of a run whose single placements are not confused. -/
theorem slotIndex_agrees (E : Env) (mem : Addr → CardPiece) (bookMem : Addr → BookPiece)
    (cards : List (CardPiece × Addr)) (books : List (BookPiece × Addr)) (reqs : List Req) (hcards : InitCards E cards)
    (hrun : LegalRun (serve E) (fun s r => legal E s r ∧ notConfused E s r) (doInit E mem bookMem cards books) reqs) :
    SlotIndexOk E (run (serve E) (doInit E mem bookMem cards books) reqs) := by
  rw [slotIndexOk_iff]
  exact (run_inv (fun _ _ hi hl => serve_inv hi hl.1 hl.2) (doInit_inv hcards mem bookMem books) hrun).agree

/-- two cards of one character swap their slots, then one is taken off and the other one deleted -/
theorem slotIndex_agrees_swap : SlotIndexOk sampleEnv
    (run (serve sampleEnv)
      (doInit sampleEnv (fun _ => sampleEnv.nullCard) (fun _ => sampleEnv.nullBook)
        [(sampleCard 1 10 1 7 0, 100), (sampleCard 2 20 1 7 1, 200)] [])
      [.applyPos sampleChecks ⟨1, 1, 7, 1, 0, 0⟩, .applyOutPos 2, .del 1]) := by
  refine slotIndex_agrees _ _ _ _ _ _ ⟨?_, ?_, ?_, ?_, ?_⟩ ⟨⟨rfl, fun _ => ?_⟩, ⟨trivial, trivial⟩,
    ⟨trivial, trivial⟩, trivial⟩
  all_goals decide

/-- a character and a facility with number 1, and a card in slot 0 of each: the card of the character is accepted in
slot 0 of the facility, and the card that is there keeps its claim -/
theorem slotIndex_broken : ∃ (cards : List (CardPiece × Addr)) (reqs : List Req), InitCards sampleEnv cards ∧
    LegalRun (serve sampleEnv) (legal sampleEnv)
      (doInit sampleEnv (fun _ => sampleEnv.nullCard) (fun _ => sampleEnv.nullBook) cards []) reqs ∧
    ¬ SlotIndexOk sampleEnv (run (serve sampleEnv)
      (doInit sampleEnv (fun _ => sampleEnv.nullCard) (fun _ => sampleEnv.nullBook) cards []) reqs) := by
  refine ⟨[(sampleCard 1 10 1 1 0, 100), (sampleCard 2 20 2 1 0, 200)], [.applyPos sampleChecks ⟨1, 2, 1, 0, 0, 0⟩],
    ⟨?_, ?_, ?_, ?_, ?_⟩, ⟨rfl, trivial⟩, fun h => ?_⟩
  · decide
  · decide
  · decide
  · decide
  · decide
  · have hclaim := (h 2 1 0 (by decide) (by decide) (by decide) 200).2 ⟨⟨2, by decide⟩, by decide⟩
    exact absurd hclaim (by decide)

end GameServer.Card
