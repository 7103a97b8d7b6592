/-
The dispatch request of the stress bot, `ChkAndGetDispatchOperationPkt` in `C++/AutoPacketMsg.cpp`.

The bot looks for the first dispatch slot that is not running, and fills a team for its mission in one pass over the
cards, in the rotation order of `m_Idx`. A card of grade 4 or more takes a UR place as long as UR cards are missing, any
other card is taken as long as the team is smaller than the number of ordinary places.
- `visit_picked`: one card, by cases; a taken card fits the slot type that was read at the team's size (`Picked`);
- `selectLoop_picked`: the pass never reads a slot type behind the last one, and stops at a full team;
- `dispatch_legal`: every request that is sent holds a legal team.

Not under src/, and therefore parameters (`DispatchEnv`): constants and tables. `PktInfoTIDList` and the UID list of the
packet are lists. `m_Idx` gives the indices in an order that holds each of them once; an empty card list has no first
index and is left out.
-/
import Mathlib.Tactic
import GameServer.Card.Model

namespace GameServer.Bot

/-! ## Data -/

/-- `CardData` -/
structure CardData where
  UID : ℕ
  TID : ℕ
  grade : ℕ
  posKind : ℕ
  posSlotNum : ℕ
deriving DecidableEq, Repr

/-- `DispatchData`; an `operEndTime` of zero is a slot that is not running -/
structure DispatchData where
  TID : ℕ
  MID : ℕ
  operEndTime : ℕ
deriving DecidableEq, Repr

/-- `DataCardDispatchMission` -/
structure DispatchMission where
  needCardCnt : ℕ
  NeedURCnt : ℕ
  SlotType : List ℕ
deriving DecidableEq, Repr

/-- `PktInfoDispatchOperReq` -/
structure DispatchOperReq where
  cardUIDs : List ℕ
  dispatchTID : ℕ
deriving DecidableEq, Repr

structure DispatchEnv where
  /-- `eContentsPosKind::_NONE_`, `eSTAGE_CONDI::NOT_CHECK_CONDI`, `eCardSlotPosMax::DISPATCH` -/
  posNone : ℕ
  notCheckCondi : ℕ
  slotPosMaxDispatch : ℕ
  slotPosMaxDispatch_lt : slotPosMaxDispatch < 2 ^ 64
  /-- `Type` of the row of a table id in `TableCard` -/
  cardType : ℕ → ℕ
  /-- `TableCardDispatchSlot::GetData(tid).IsNull()` -/
  slotIsNull : ℕ → Bool
  /-- `MissionTable` by the mission id; `none` is the null row -/
  missionTable : ℕ → Option DispatchMission

/-- an answer of the function: an undefined read, `false`, or `true` with the packet -/
inductive Answer where
  | undefined
  | no
  | yes (pkt : DispatchOperReq)
deriving DecidableEq, Repr

/-- the local variables of the selection loop -/
structure Pick where
  applyCardCnt : ℕ
  applyCardURCnt : ℕ
  cardUIDs : List ℕ
  checkTIDList : List ℕ
deriving DecidableEq, Repr

/-- one round of the loop: an undefined read, `continue`, or on to the test for a full team -/
inductive Visit where
  | undefined
  | skip
  | go (p : Pick)
deriving DecidableEq, Repr

section

variable (E : DispatchEnv) (m : DispatchMission)

/-! ## The selection loop -/

/-- `cardCnt`, an unsigned difference -/
def cardCnt : ℕ := (((m.needCardCnt : ℤ) - m.NeedURCnt) % 2 ^ 64).toNat

/-- whether the slot type at the team's size refuses a card; `none` is a read behind the last slot type -/
def slotRefuses (applyCardCnt : ℕ) (card : CardData) : Option Bool :=
  match m.SlotType[applyCardCnt]? with
  | none => none
  | some slotType => some (decide (E.notCheckCondi ≠ slotType ∧ slotType ≠ E.cardType card.TID))

/-- a card is taken; `ur` is 1 for a UR place -/
def Pick.take (p : Pick) (card : CardData) (ur : ℕ) : Pick :=
  ⟨p.applyCardCnt + 1, p.applyCardURCnt + ur, p.cardUIDs ++ [card.UID], p.checkTIDList ++ [card.TID]⟩

/-- a card that is wanted, unless the slot type refuses it -/
def takeCard (p : Pick) (card : CardData) (ur : ℕ) : Visit :=
  match slotRefuses E m p.applyCardCnt card with
  | none => .undefined
  | some true => .skip
  | some false => .go (p.take card ur)

/-- one round of the loop -/
def visit (p : Pick) (card : CardData) : Visit :=
  if E.posNone ≠ card.posKind then .skip
  else if card.posSlotNum ≠ 0 then .skip
  else if Card.IsExistSameTID p.checkTIDList card.TID then .skip
  else if 4 ≤ card.grade ∧ p.applyCardURCnt < m.NeedURCnt then takeCard E m p card 1
  -- the size of the vector counts the UR cards too
  else if p.cardUIDs.length < cardCnt m then takeCard E m p card 0
  else .go p

/-- the loop over the cards that are left; `none` is an undefined read -/
def selectLoop : List CardData → Pick → Option Pick
  | [], p => some p
  | card :: cards, p =>
    match visit E m p card with
    | .undefined => none
    | .skip => selectLoop cards p
    | .go p' => if m.needCardCnt ≤ p'.applyCardCnt then some p' else selectLoop cards p'

end

/-- the cards in rotation order -/
def visited (userCardList : List CardData) (order : List ℕ) : List CardData := order.filterMap fun i => userCardList[i]?

/-- the first dispatch slot that is not running -/
def findDispatch (userDispatchList : List DispatchData) : Option DispatchData :=
  userDispatchList.find? fun d => d.operEndTime = 0

/-- the checks after the loop -/
def finishPick (E : DispatchEnv) (m : DispatchMission) (dispatchTID : ℕ) (p : Pick) : Answer :=
  if p.applyCardCnt < m.needCardCnt then .no
  else if p.applyCardURCnt < m.NeedURCnt then .no
  else if E.slotPosMaxDispatch < p.applyCardCnt then .no
  else .yes ⟨p.cardUIDs, dispatchTID⟩

/-- `ChkAndGetDispatchOperationPkt` -/
def chkAndGetDispatchOperationPkt (E : DispatchEnv) (userDispatchList : List DispatchData) (userCardList : List CardData)
    (order : List ℕ) : Answer :=
  match findDispatch userDispatchList with
  | none => .no
  | some d =>
    if d.TID = 0 then .no
    else if E.slotIsNull d.TID then .no
    else
      match E.missionTable d.MID with
      | none => .no
      | some m =>
        match selectLoop E m (visited userCardList order) ⟨0, 0, [], []⟩ with
        | none => .undefined
        | some p => finishPick E m d.TID p

/-! ## A team -/

section

variable (E : DispatchEnv) (m : DispatchMission)

/-- a mission that needs cards, with a slot type for each of them -/
structure DispatchMission.Ok : Prop where
  some_card : 0 < m.needCardCnt
  slot_types : m.SlotType.length = m.needCardCnt

def Unplaced (card : CardData) : Prop := card.posKind = E.posNone ∧ card.posSlotNum = 0

instance (card : CardData) : Decidable (Unplaced E card) := by
  unfold Unplaced; infer_instance

/-- the i-th place takes the card -/
def SlotTakes (i : ℕ) (card : CardData) : Prop :=
  ∀ slotType, m.SlotType[i]? = some slotType → slotType ≠ E.notCheckCondi → E.cardType card.TID = slotType

/-- unplaced cards of different table ids, each in a place that takes it -/
structure Team (team : List CardData) : Prop where
  unplaced : ∀ card ∈ team, Unplaced E card
  distinct : (team.map CardData.TID).Nodup
  slots : ∀ i card, team[i]? = some card → SlotTakes E m i card

def urCount (team : List CardData) : ℕ := team.countP fun card => 4 ≤ card.grade

/-- the loop variables describe a team -/
structure Picked (team : List CardData) (p : Pick) : Prop extends Team E m team where
  size : p.applyCardCnt = team.length
  ur : p.applyCardURCnt ≤ urCount team
  uids : p.cardUIDs = team.map CardData.UID
  tids : p.checkTIDList = team.map CardData.TID

/-- the request holds a legal team for a mission -/
structure LegalRequest (userDispatchList : List DispatchData) (userCardList : List CardData) (pkt : DispatchOperReq) :
    Prop where
  /-- the slot is the first one that is not running, and has a mission -/
  slot : ∃ before d after, userDispatchList = before ++ d :: after ∧ (∀ d' ∈ before, d'.operEndTime ≠ 0) ∧
    d.operEndTime = 0 ∧ pkt.dispatchTID = d.TID ∧ E.missionTable d.MID = some m
  /-- the cards are a team of the right size, with enough UR cards -/
  team : ∃ team, Team E m team ∧ pkt.cardUIDs = team.map CardData.UID ∧ (∀ card ∈ team, card ∈ userCardList) ∧
    team.length = m.needCardCnt ∧ m.NeedURCnt ≤ urCount team
  uids : pkt.cardUIDs.Nodup
  fits : m.needCardCnt ≤ E.slotPosMaxDispatch

variable {E m} {team : List CardData} {p : Pick} {card : CardData}

theorem slotRefuses_some (hm : m.Ok) {n : ℕ} (hlt : n < m.needCardCnt) (card : CardData) :
    ∃ refuses, slotRefuses E m n card = some refuses ∧ (refuses = false → SlotTakes E m n card) := by
  have hread : m.SlotType[n]? = some (m.SlotType.get ⟨n, hm.slot_types ▸ hlt⟩) := List.getElem?_eq_getElem _
  unfold slotRefuses SlotTakes
  rw [hread]
  refine ⟨_, rfl, fun hfree slotType hslot hcheck => ?_⟩
  obtain rfl := Option.some.inj hslot
  by_contra hne
  exact (of_decide_eq_false hfree) ⟨Ne.symm hcheck, Ne.symm hne⟩

/-- a taken card joins the team -/
theorem Picked.take (h : Picked E m team p) (hcard : Unplaced E card) (hnew : card.TID ∉ p.checkTIDList)
    (hslot : SlotTakes E m p.applyCardCnt card) {ur : ℕ} (hur : ur = 0 ∨ ur = 1 ∧ 4 ≤ card.grade) :
    Picked E m (team ++ [card]) (p.take card ur) := by
  refine ⟨⟨?_, ?_, ?_⟩, ?_, ?_, ?_, ?_⟩
  · intro c hc
    rcases List.mem_append.1 hc with hc | hc
    · exact h.unplaced c hc
    · exact List.mem_singleton.1 hc ▸ hcard
  · rw [List.map_append]
    exact List.Nodup.append h.distinct (List.nodup_singleton _) (by simpa [h.tids] using hnew)
  · intro i c hget
    rcases lt_trichotomy i team.length with hi | rfl | hi
    · rw [List.getElem?_append_left hi] at hget
      exact h.slots i c hget
    · rw [List.getElem?_concat_length] at hget
      obtain rfl := Option.some.inj hget
      exact h.size ▸ hslot
    · rw [List.getElem?_eq_none (by simp; omega)] at hget
      cases hget
  · rw [Pick.take, h.size, List.length_append, List.length_singleton]
  · have hle := h.ur
    unfold urCount at hle ⊢
    rw [List.countP_append, List.countP_singleton]
    dsimp only [Pick.take]
    rcases hur with rfl | ⟨rfl, hgrade⟩
    · omega
    · rw [if_pos (by simpa using hgrade)]
      omega
  · rw [Pick.take, h.uids, List.map_append]
    rfl
  · rw [Pick.take, h.tids, List.map_append]
    rfl

/-- what a round can do: nothing, or take the card -/
theorem visit_picked (hm : m.Ok) (h : Picked E m team p) (hlt : team.length < m.needCardCnt) (card : CardData) :
    visit E m p card = .skip ∨ visit E m p card = .go p ∨
      ∃ ur, visit E m p card = .go (p.take card ur) ∧ Picked E m (team ++ [card]) (p.take card ur) := by
  have htake : ∀ ur, Unplaced E card → card.TID ∉ p.checkTIDList → (ur = 0 ∨ ur = 1 ∧ 4 ≤ card.grade) →
      takeCard E m p card ur = .skip ∨
        takeCard E m p card ur = .go (p.take card ur) ∧ Picked E m (team ++ [card]) (p.take card ur) := by
    intro ur hcard hnew hur
    obtain ⟨refuses, hrefuses, htakes⟩ := slotRefuses_some (E := E) hm (h.size ▸ hlt) card
    unfold takeCard
    rw [hrefuses]
    cases refuses with
    | true => exact Or.inl rfl
    | false => exact Or.inr ⟨rfl, h.take hcard hnew (htakes rfl) hur⟩
  unfold visit
  split_ifs with hkind hslot hnew hur hsize
  · exact Or.inl rfl
  · exact Or.inl rfl
  · exact Or.inl rfl
  · have hcard : Unplaced E card := ⟨(not_not.1 hkind).symm, not_not.1 hslot⟩
    rcases htake 1 hcard hnew (Or.inr ⟨rfl, hur.1⟩) with hskip | hgo
    · exact Or.inl hskip
    · exact Or.inr (Or.inr ⟨1, hgo⟩)
  · have hcard : Unplaced E card := ⟨(not_not.1 hkind).symm, not_not.1 hslot⟩
    rcases htake 0 hcard hnew (Or.inl rfl) with hskip | hgo
    · exact Or.inl hskip
    · exact Or.inr (Or.inr ⟨0, hgo⟩)
  · exact Or.inr (Or.inl rfl)

/-- **The loop picks a team** from the cards in their order, and never one that is too large. -/
theorem selectLoop_picked (hm : m.Ok) {all rest : List CardData} (hsub : (team ++ rest).Sublist all)
    (h : Picked E m team p) (hlt : team.length < m.needCardCnt) :
    ∃ team' p', selectLoop E m rest p = some p' ∧ Picked E m team' p' ∧ team'.Sublist all ∧
      team'.length ≤ m.needCardCnt := by
  induction rest generalizing team p with
  | nil => exact ⟨team, p, rfl, h, by simpa using hsub, hlt.le⟩
  | cons card rest ih =>
    have hdrop : (team ++ rest).Sublist all :=
      ((List.Sublist.refl team).append (List.sublist_cons_self card rest)).trans hsub
    rcases visit_picked hm h hlt card with hskip | hgo | ⟨ur, hgo, hpicked⟩
    · rw [selectLoop, hskip]
      exact ih hdrop h hlt
    · rw [selectLoop, hgo]
      dsimp only
      rw [if_neg (by rw [h.size]; omega)]
      exact ih hdrop h hlt
    · have hsub' : ((team ++ [card]) ++ rest).Sublist all := by simpa using hsub
      rw [selectLoop, hgo]
      dsimp only
      split_ifs with hfull
      · refine ⟨_, _, rfl, hpicked, (List.sublist_append_left _ _).trans hsub', ?_⟩
        rw [List.length_append, List.length_singleton]
        omega
      · rw [hpicked.size] at hfull
        exact ih hsub' hpicked (by omega)

theorem Picked.empty : Picked E m [] ⟨0, 0, [], []⟩ :=
  ⟨⟨by simp, List.nodup_nil, by simp⟩, rfl, le_rfl, rfl, rfl⟩

end

/-! ## Whole requests -/

theorem filterMap_range_getElem? {α : Type*} (l : List α) : (List.range l.length).filterMap (fun i => l[i]?) = l := by
  induction l using List.reverseRecOn with
  | nil => rfl
  | append_singleton l a ih =>
    have hfront : (List.range l.length).filterMap (fun i => (l ++ [a])[i]?) =
        (List.range l.length).filterMap (fun i => l[i]?) :=
      List.filterMap_congr fun i hi => List.getElem?_append_left (List.mem_range.1 hi)
    rw [List.length_append, List.length_singleton, List.range_succ, List.filterMap_append, hfront, ih]
    simp

/-- the rotation shows every card once -/
theorem visited_perm {userCardList : List CardData} {order : List ℕ} (h : order.Perm (List.range userCardList.length)) :
    (visited userCardList order).Perm userCardList := by
  have hperm := h.filterMap fun i => userCardList[i]?
  rw [filterMap_range_getElem?] at hperm
  exact hperm

theorem findDispatch_some {userDispatchList : List DispatchData} {d : DispatchData}
    (h : findDispatch userDispatchList = some d) : ∃ before after, userDispatchList = before ++ d :: after ∧
      (∀ d' ∈ before, d'.operEndTime ≠ 0) ∧ d.operEndTime = 0 := by
  obtain ⟨hzero, before, after, hsplit, hbefore⟩ := List.find?_eq_some_iff_append.1 h
  exact ⟨before, after, hsplit, fun d' hd' => by simpa using hbefore d' hd', by simpa using hzero⟩

theorem finishPick_yes {E : DispatchEnv} {m : DispatchMission} {dispatchTID : ℕ} {p : Pick} {pkt : DispatchOperReq}
    (h : finishPick E m dispatchTID p = .yes pkt) : m.needCardCnt ≤ p.applyCardCnt ∧ m.NeedURCnt ≤ p.applyCardURCnt ∧
      p.applyCardCnt ≤ E.slotPosMaxDispatch ∧ pkt = ⟨p.cardUIDs, dispatchTID⟩ := by
  unfold finishPick at h
  split_ifs at h with hcnt hur hmax
  exact ⟨Nat.le_of_not_lt hcnt, Nat.le_of_not_lt hur, Nat.le_of_not_lt hmax, (Answer.yes.inj h).symm⟩

theorem finishPick_ne_undefined (E : DispatchEnv) (m : DispatchMission) (dispatchTID : ℕ) (p : Pick) :
    finishPick E m dispatchTID p ≠ .undefined := by
  unfold finishPick
  split_ifs <;> simp

/-- **Every dispatch team that the bot sends is legal**, and no slot type is read behind the last one. -/
theorem dispatch_legal {E : DispatchEnv} (hmissions : ∀ mid m, E.missionTable mid = some m → m.Ok)
    {userCardList : List CardData} (huids : (userCardList.map CardData.UID).Nodup) {order : List ℕ}
    (horder : order.Perm (List.range userCardList.length)) (userDispatchList : List DispatchData) :
    chkAndGetDispatchOperationPkt E userDispatchList userCardList order ≠ .undefined ∧
      ∀ pkt, chkAndGetDispatchOperationPkt E userDispatchList userCardList order = .yes pkt →
        ∃ m, LegalRequest E m userDispatchList userCardList pkt := by
  have hperm := visited_perm horder
  unfold chkAndGetDispatchOperationPkt
  cases hfind : findDispatch userDispatchList with
  | none => simp
  | some d =>
    dsimp only
    split_ifs with htid hnull
    · simp
    · simp
    · cases hmission : E.missionTable d.MID with
      | none => simp
      | some m =>
        have hm := hmissions d.MID m hmission
        have hall : ([] ++ visited userCardList order).Sublist (visited userCardList order) := List.Sublist.refl _
        obtain ⟨team, p, hloop, hpicked, hsub, hsize⟩ :=
          selectLoop_picked hm hall (Picked.empty (E := E) (m := m)) hm.some_card
        dsimp only
        rw [hloop]
        refine ⟨finishPick_ne_undefined E m d.TID p, fun pkt hyes => ⟨m, ?_⟩⟩
        obtain ⟨hcnt, hur, hmax, rfl⟩ := finishPick_yes hyes
        obtain ⟨before, after, hsplit, hbefore, hzero⟩ := findDispatch_some hfind
        have hsize' : team.length = m.needCardCnt := le_antisymm hsize (hpicked.size ▸ hcnt)
        refine ⟨⟨before, d, after, hsplit, hbefore, hzero, rfl, hmission⟩, ?_, ?_, ?_⟩
        · exact ⟨team, hpicked.toTeam, hpicked.uids, fun c hc => hperm.subset (hsub.subset hc), hsize',
            hur.trans hpicked.ur⟩
        · have hnodup : ((visited userCardList order).map CardData.UID).Nodup := (hperm.map _).nodup_iff.2 huids
          rw [hpicked.uids]
          exact hnodup.sublist (hsub.map _)
        · rw [← hsize', ← hpicked.size]
          exact hmax

/-- a slot with a mission of two cards, one of them UR; every type is 0 and no type is checked -/
def sampleDispatch : DispatchEnv where
  posNone := 0
  notCheckCondi := 99
  slotPosMaxDispatch := 5
  slotPosMaxDispatch_lt := by decide
  cardType _ := 0
  slotIsNull _ := false
  missionTable mid := if mid = 7 then some ⟨2, 1, [99, 99]⟩ else none

/-- an ordinary card and a UR card -/
def sampleCards : List CardData := [⟨11, 1, 3, 0, 0⟩, ⟨12, 2, 4, 0, 0⟩]

/-- slot 1 is running, slot 2 is not -/
def sampleSlots : List DispatchData := [⟨1, 7, 500⟩, ⟨2, 7, 0⟩]

theorem sampleDispatch_missions : ∀ mid m, sampleDispatch.missionTable mid = some m → m.Ok := by
  intro mid m h
  change (if mid = 7 then some (⟨2, 1, [99, 99]⟩ : DispatchMission) else none) = some m at h
  split_ifs at h
  obtain rfl := Option.some.inj h
  exact ⟨by decide, by decide⟩

theorem dispatch_legal_sample : ∃ m, LegalRequest sampleDispatch m sampleSlots sampleCards ⟨[11, 12], 2⟩ :=
  (dispatch_legal sampleDispatch_missions (by decide) (List.Perm.refl [0, 1]) sampleSlots).2 _ (by decide)

end GameServer.Bot
