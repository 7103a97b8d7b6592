/-
The card (supporter) contents of one user, `CardContents` in `C++/CardContents.cpp`.

A card object lives at an address. `m_Cont` owns the objects (UID ↦ address). `m_PosContVec` is a second index over the
same objects: per position kind a map from a position value (a character UID, a facility id, ...) to a slot vector.
Lookups of an absent key answer with a pointer to one shared null object, `PktInfoCard::Piece::ms_Null`. It is an
ordinary object that can be written through that pointer, so its contents are part of the state. A pointer is an
`Option Addr`: `none` points to the null object.

Not under src/, and therefore parameters (`Env`, `UserChecks`):
- the values of `eContentsPosKind` and `eCardSlotPosMax`, `INVALID_UID`, the contents of the null objects, and the tests
  `IsNull` (on the identity fields of a piece);
- `DoResetPosInfo`, which sets the kind to `_NONE_` and value and slot to reset values, and `IsDetechToOldCardSlot`;
- the object pools of `ProductMgr` and `BookMgr`: the address that a pop returns is an argument of `doAdd`;
- the user's character and facility checks.
Logging and achievement workers have no effect on this state and are left out. The tests `IsCheckDuplicateInList` and
`IsExistSameTID` of the packets' id lists are not under src/ either and are what their names say.
-/
import Mathlib.Tactic

namespace GameServer.Card

/-! ## Data -/

abbrev Addr := ℕ

/-- the results (`eTMIErrNum`) of the modelled functions; `other` is any error of a function that is not under src/ -/
inductive ErrNum where
  | successOk
  | comErrDuplicateInList
  | svrCardComErrNotExistInst
  | svrCardPosErrAlreadySameUsed
  | svrCardPosErrImpossibleChangePos
  | svrCharComErrNotExistInst
  | svrCardPosErrApplyUnknownPosKind
  | svrCardPosErrOverMaxPosSlotNum
  | svrCardPosErrAlreadySameUsedInSlot
  | svrCardPosErrAlreadyApplyUsed
  | svrBookCardErrNotExistInst
  | other (code : ℕ)
deriving DecidableEq, Repr

/-- `PktInfoCard::Piece` -/
structure CardPiece where
  cardUID : ℕ
  tableID : ℕ
  posKind : ℕ
  posValue : ℕ
  posSlotNum : ℕ
  lock : Bool
  exp : ℕ
  lv : ℕ
  wake : ℕ
  skillLv : ℕ
  /-- `book_`: a pointer to a book piece -/
  book : Option Addr
deriving DecidableEq, Repr

/-- `PktInfoCardBook::Piece` -/
structure BookPiece where
  tableID : ℕ
  stateFlag : ℕ
  favorLv : ℕ
  favorExp : ℕ
  changeFlag : Bool
deriving DecidableEq, Repr

/-- `PktInfoCardApplyPos`: the request of a single placement; the validator fills in the old-card fields -/
structure ApplyPos where
  cardUID : ℕ
  posKind : ℕ
  posValue : ℕ
  slotNum : ℕ
  oldCardUID : ℕ
  oldCardChangeSlotNum : ℕ
deriving DecidableEq, Repr

/-- `PktInfoContentsSlotPos::Piece` -/
structure SlotPos where
  uid : ℕ
  kind : ℕ
  value : ℕ
  slotNum : ℕ
deriving DecidableEq, Repr

/-- `PktInfoCardGrow`: the fields that the apply step reads -/
structure CardGrow where
  targetUID : ℕ
  retExp : ℕ
  retLv : ℕ
  retWake : ℕ
  retSkillLv : ℕ
  bookState : List BookPiece
deriving DecidableEq, Repr

/-- constants and small functions that are not under src/ -/
structure Env where
  /-- `eContentsPosKind::_NONE_`, `CHAR`, `FACILITY`, `_MAX_` -/
  kNone : ℕ
  kChar : ℕ
  kFacility : ℕ
  kMax : ℕ
  none_lt_char : kNone < kChar
  none_lt_facility : kNone < kFacility
  char_ne_facility : kChar ≠ kFacility
  char_lt_max : kChar < kMax
  facility_lt_max : kFacility < kMax
  /-- `eCardSlotPosMax::CHAR`, `FACILITY`, `_SLOT_MAX_` -/
  slotChar : ℕ
  slotFacility : ℕ
  slotMax : ℕ
  slotChar_le : slotChar ≤ slotMax
  slotFacility_le : slotFacility ≤ slotMax
  /-- slot numbers and the detach mark `_SLOT_MAX_` are stored in `uint8_t` fields -/
  slotMax_lt : slotMax < 2 ^ 8
  /-- `INVALID_UID` -/
  invalidUid : ℕ
  /-- the position fields after `DoResetPosInfo` -/
  resetValue : ℕ
  resetSlot : ℕ
  /-- `PktInfoCardApplyPos::IsDetechToOldCardSlot` on `oldCardChangeSlotNum_`: `_SLOT_MAX_` is the detach mark -/
  isDetech : ℕ → Bool
  isDetech_slotMax : isDetech slotMax = true
  isDetech_lt : ∀ n, n < slotMax → isDetech n = false
  /-- `PktInfoCard::Piece::IsNull` on UID and table id, `PktInfoCardBook::Piece::IsNull` on the table id -/
  cardIsNull : ℕ → ℕ → Bool
  bookIsNull : ℕ → Bool
  /-- the initial contents of the two `ms_Null` objects -/
  nullCard : CardPiece
  nullBook : BookPiece
  nullCard_isNull : cardIsNull nullCard.cardUID nullCard.tableID = true
  nullBook_isNull : bookIsNull nullBook.tableID = true

/-- the checks of the user's other contents that a placement asks for -/
structure UserChecks where
  /-- `GetChars().IsExistInst` -/
  isExistInst : ℕ → Bool
  /-- `GetFacis().IsCanApplyUseCard` -/
  isCanApplyUseCard : ℕ → ErrNum

/-- a slot vector, always of `_SLOT_MAX_` pointers -/
abbrev InstVec := ℕ → Option Addr

structure St where
  /-- `m_Cont`, `m_BookCont` -/
  cont : ℕ → Option Addr
  bookCont : ℕ → Option Addr
  /-- `m_PosContVec[kind]`: position value ↦ slot vector; `none` is an absent key -/
  posCont : ℕ → ℕ → Option InstVec
  /-- the card and book objects -/
  cards : Addr → CardPiece
  books : Addr → BookPiece
  /-- the current contents of `PktInfoCard::Piece::ms_Null` and `PktInfoCardBook::Piece::ms_Null` -/
  msNullCard : CardPiece
  msNullBook : BookPiece

/-! ## Objects and lookups -/

def CardPiece.isNull (E : Env) (p : CardPiece) : Bool := E.cardIsNull p.cardUID p.tableID

def BookPiece.isNull (E : Env) (p : BookPiece) : Bool := E.bookIsNull p.tableID

/-- `DoResetPosInfo` -/
def CardPiece.resetPosInfo (E : Env) (p : CardPiece) : CardPiece :=
  { p with posKind := E.kNone, posValue := E.resetValue, posSlotNum := E.resetSlot }

/-- `IsDetechToOldCardSlot` -/
def ApplyPos.isDetechToOldCardSlot (E : Env) (pkt : ApplyPos) : Bool := E.isDetech pkt.oldCardChangeSlotNum

namespace St

/-- read a card through a pointer -/
def card (s : St) : Option Addr → CardPiece
  | none => s.msNullCard
  | some a => s.cards a

/-- write a card through a pointer -/
def setCard (s : St) (p : Option Addr) (f : CardPiece → CardPiece) : St :=
  match p with
  | none => { s with msNullCard := f s.msNullCard }
  | some a => { s with cards := Function.update s.cards a (f (s.cards a)) }

def book (s : St) : Option Addr → BookPiece
  | none => s.msNullBook
  | some a => s.books a

def setBook (s : St) (p : Option Addr) (f : BookPiece → BookPiece) : St :=
  match p with
  | none => { s with msNullBook := f s.msNullBook }
  | some a => { s with books := Function.update s.books a (f (s.books a)) }

/-- `__GetInst`: the owned object, or the null object -/
def getInst (s : St) (uid : ℕ) : Option Addr := s.cont uid

/-- `__GetBookInst` -/
def getBookInst (s : St) (tid : ℕ) : Option Addr := s.bookCont tid

end St

/-- `IsExistCard` -/
def isExistCard (E : Env) (s : St) (uid : ℕ) : Bool := !(s.card (s.getInst uid)).isNull E

/-- `IsExistCardBook` -/
def isExistCardBook (E : Env) (s : St) (tid : ℕ) : Bool := !(s.book (s.getBookInst tid)).isNull E

/-- `__GetInstVecToPosValue`; `none` is the empty vector `ms_InstVec` -/
def getInstVecToPosValue (E : Env) (s : St) (kind value : ℕ) : Option InstVec :=
  if E.kMax ≤ kind then none else s.posCont kind value

/-! ## The slot index -/

/-- a slot vector full of pointers to the null object -/
def emptyVec : InstVec := fun _ => none

/-- replace one slot vector -/
def St.setVec (s : St) (kind value : ℕ) (v : InstVec) : St :=
  { s with posCont := Function.update s.posCont kind (Function.update (s.posCont kind) value (some v)) }

/-- `__DoAddPosValue` -/
def doAddPosValue (E : Env) (s : St) (p : Option Addr) (kind value slot : ℕ) : St :=
  if E.kMax ≤ kind then s
  else
    let vec := (s.posCont kind value).getD emptyVec
    -- the vector is created before the slot number is checked
    if E.slotMax ≤ slot then s.setVec kind value vec
    else s.setVec kind value (Function.update vec slot p)

/-- `__DoDelPosValue(kind, value, slot)` -/
def doDelPosValue (E : Env) (s : St) (kind value slot : ℕ) : St :=
  if E.slotMax ≤ slot then s
  else if kind ≤ E.kNone ∨ E.kMax ≤ kind then s
  else
    match s.posCont kind value with
    | none => s
    | some vec => s.setVec kind value (Function.update vec slot none)

/-- `__DoDelPosValue(uid)` -/
def doDelPosValueUid (E : Env) (s : St) (uid : ℕ) : ErrNum × St :=
  let p := s.getInst uid
  let piece := s.card p
  if piece.isNull E then (.svrCardComErrNotExistInst, s)
  else (.successOk, (doDelPosValue E s piece.posKind piece.posValue piece.posSlotNum).setCard p (·.resetPosInfo E))

/-! ## Adding and deleting -/

/-- one round of the book loop of `DoAdd`: a popped object is filled and inserted; `insert` keeps an existing key -/
def addBook (s : St) (b : BookPiece × Addr) : St :=
  { s with
    books := Function.update s.books b.2 b.1
    bookCont := if s.bookCont b.1.tableID = none then Function.update s.bookCont b.1.tableID (some b.2)
      else s.bookCont }

/-- the first half of the card loop of `DoAdd`: a popped object is filled and inserted -/
def storeCard (s : St) (c : CardPiece × Addr) : St :=
  { s with
    cards := Function.update s.cards c.2 { c.1 with book := s.getBookInst c.1.tableID }
    cont := if s.cont c.1.cardUID = none then Function.update s.cont c.1.cardUID (some c.2) else s.cont }

/-- one round of the card loop of `DoAdd`: a placed card also enters the slot index -/
def addCard (E : Env) (s : St) (c : CardPiece × Addr) : St :=
  if c.1.posKind = E.kNone then storeCard s c
  else doAddPosValue E (storeCard s c) (some c.2) c.1.posKind c.1.posValue c.1.posSlotNum

/-- `DoAdd`: each piece comes with the address of the object that the pool hands out for it -/
def doAdd (E : Env) (s : St) (cards : List (CardPiece × Addr)) (books : List (BookPiece × Addr)) : St :=
  cards.foldl (addCard E) (books.foldl addBook s)

/-- a constructed `CardContents`; object contents at addresses not handed out are arbitrary -/
def construct (E : Env) (cards : Addr → CardPiece) (books : Addr → BookPiece) : St :=
  ⟨fun _ => none, fun _ => none, fun _ _ => none, cards, books, E.nullCard, E.nullBook⟩

/-- `DoInit` on a constructed `CardContents` -/
def doInit (E : Env) (mem : Addr → CardPiece) (bookMem : Addr → BookPiece) (cards : List (CardPiece × Addr))
    (books : List (BookPiece × Addr)) : St :=
  doAdd E (construct E mem bookMem) cards books

/-- `DoDel` -/
def doDel (E : Env) (s : St) (uid : ℕ) : ErrNum × St :=
  match s.cont uid with
  | none => (.svrCardComErrNotExistInst, s)
  | some a =>
    let piece := s.cards a
    let s1 := (doDelPosValue E s piece.posKind piece.posValue piece.posSlotNum).setCard (some a) (·.resetPosInfo E)
    (.successOk, { s1 with cont := Function.update s1.cont uid none })

/-! ## Placement: validators -/

/-- the slot scan of `IsCanApplyPosCard`, over the slots that are left: `none` when a card of the same kind sits in
another slot, else the pointer found in the destination slot (`old` if that slot is not among the scanned ones) -/
def scanSlots (E : Env) (s : St) (vec : InstVec) (skip : ℕ → Bool) (dst tid : ℕ) :
    List ℕ → Option Addr → Option (Option Addr)
  | [], old => some old
  | n :: rest, old =>
    if skip n then scanSlots E s vec skip dst tid rest old
    else if n = dst then scanSlots E s vec skip dst tid rest (vec n)
    else if (s.card (vec n)).isNull E then scanSlots E s vec skip dst tid rest old
    else if tid = (s.card (vec n)).tableID then none
    else scanSlots E s vec skip dst tid rest old

/-- the position kinds a single placement accepts, with the slot limit and the check of the target -/
def applyTarget (E : Env) (C : UserChecks) (kind value : ℕ) : Except ErrNum ℕ :=
  if kind = E.kChar then
    if C.isExistInst value = false then .error .svrCharComErrNotExistInst else .ok E.slotChar
  else if kind = E.kFacility then
    let err := C.isCanApplyUseCard value
    if err ≠ .successOk then .error err else .ok E.slotFacility
  else .error .svrCardPosErrApplyUnknownPosKind

/-- the checks of `IsCanApplyPosCard` before the slot scan: an error, or the slot limit of the target -/
def applyPosGuard (E : Env) (C : UserChecks) (s : St) (pkt : ApplyPos) : Except ErrNum ℕ :=
  let piece := s.card (s.getInst pkt.cardUID)
  if piece.isNull E then .error .svrCardComErrNotExistInst
  else if pkt.posKind = piece.posKind ∧ pkt.posValue = piece.posValue ∧ pkt.slotNum = piece.posSlotNum then
    .error .svrCardPosErrAlreadySameUsed
  else if E.kNone ≠ piece.posKind ∧ E.kChar ≠ piece.posKind then .error .svrCardPosErrImpossibleChangePos
  else
    match applyTarget E C pkt.posKind pkt.posValue with
    | .error err => .error err
    | .ok maxSlotSize =>
      if maxSlotSize ≤ pkt.slotNum then .error .svrCardPosErrOverMaxPosSlotNum else .ok maxSlotSize

/-- the end of `IsCanApplyPosCard`: the packet names the card found in the slot, if there is one -/
def fillOldCard (E : Env) (s : St) (pkt : ApplyPos) (old : Option Addr) : ApplyPos :=
  let piece := s.card (s.getInst pkt.cardUID)
  if (s.card old).isNull E then pkt
  else { pkt with
    oldCardUID := (s.card old).cardUID
    oldCardChangeSlotNum :=
      if E.kNone ≠ piece.posKind ∧ piece.posValue = pkt.posValue then piece.posSlotNum else E.slotMax }

/-- `IsCanApplyPosCard`: an error, or the packet with its old-card fields filled in -/
def isCanApplyPosCard (E : Env) (C : UserChecks) (s : St) (pkt : ApplyPos) : Except ErrNum ApplyPos :=
  match applyPosGuard E C s pkt with
  | .error err => .error err
  | .ok maxSlotSize =>
    match getInstVecToPosValue E s pkt.posKind pkt.posValue with
    | none => .ok pkt
    | some vec =>
      let piece := s.card (s.getInst pkt.cardUID)
      -- the skip test compares the position values only, not the kinds
      let skip := fun n => decide (piece.posValue = pkt.posValue ∧ piece.posSlotNum = n)
      match scanSlots E s vec skip pkt.slotNum piece.tableID (List.range maxSlotSize) none with
      | none => .error .svrCardPosErrAlreadySameUsedInSlot
      | some old => .ok (fillOldCard E s pkt old)

/-- a UID is listed twice -/
abbrev IsCheckDuplicateInList (uids : List ℕ) : Prop := ¬ uids.Nodup

/-- a table id is listed already -/
abbrev IsExistSameTID (tids : List ℕ) (tid : ℕ) : Prop := tid ∈ tids

/-- the loop of `IsCanApplyPosCards` from index `loop` on: the result and the packet filled so far -/
def applyPosCardsLoop (E : Env) (s : St) (kind value : ℕ) (checkWork : CardPiece → ℕ → ErrNum) :
    ℕ → List ℕ → List ℕ → List SlotPos → ErrNum × List SlotPos
  | _, [], _, out => (.successOk, out)
  | loop, uid :: uids, sameCheck, out =>
    let piece := s.card (s.getInst uid)
    if piece.isNull E then (.svrCardComErrNotExistInst, out)
    else if E.kNone ≠ piece.posKind then (.svrCardPosErrAlreadyApplyUsed, out)
    else if IsExistSameTID sameCheck piece.tableID then (.svrCardPosErrAlreadySameUsedInSlot, out)
    else if checkWork piece loop ≠ .successOk then (checkWork piece loop, out)
    else
      -- the slot number is narrowed to uint8_t
      applyPosCardsLoop E s kind value checkWork (loop + 1) uids (sameCheck ++ [piece.tableID])
        (out ++ [⟨uid, kind, value, loop % 2 ^ 8⟩])

/-- `IsCanApplyPosCards` -/
def isCanApplyPosCards (E : Env) (s : St) (uids : List ℕ) (kind value : ℕ) (checkWork : CardPiece → ℕ → ErrNum) :
    ErrNum × List SlotPos :=
  if IsCheckDuplicateInList uids then (.comErrDuplicateInList, [])
  else applyPosCardsLoop E s kind value checkWork 0 uids [] []

/-! ## Placement: apply -/

/-- put a piece at a position, in the slot index and in the piece -/
def putAt (E : Env) (s : St) (p : Option Addr) (kind value slot : ℕ) : St :=
  (doAddPosValue E s p kind value slot).setCard p
    fun c => { c with posValue := value, posKind := kind, posSlotNum := slot }

/-- `DoSetApplyPosCard` -/
def doSetApplyPosCard (E : Env) (s : St) (pkt : ApplyPos) : ErrNum × St :=
  let p := s.getInst pkt.cardUID
  let piece := s.card p
  let s1 := doDelPosValue E s piece.posKind piece.posValue piece.posSlotNum
  let s2 := putAt E s1 p pkt.posKind pkt.posValue pkt.slotNum
  if E.invalidUid = pkt.oldCardUID then (.successOk, s2)
  else
    let old := s2.getInst pkt.oldCardUID
    let s3 := s2.setCard old (·.resetPosInfo E)
    if pkt.isDetechToOldCardSlot E then (.successOk, s3)
    else (.successOk, putAt E s3 old pkt.posKind pkt.posValue pkt.oldCardChangeSlotNum)

/-- `DoSetApplyPosCards` -/
def doSetApplyPosCards (E : Env) (s : St) : List SlotPos → ErrNum × St
  | [] => (.successOk, s)
  | info :: rest =>
    let p := s.getInst info.uid
    if (s.card p).isNull E then (.svrCardComErrNotExistInst, s)
    else doSetApplyPosCards E (putAt E s p info.kind info.value info.slotNum) rest

/-- `DoSetApplyOutPosCard` -/
def doSetApplyOutPosCard (E : Env) (s : St) (uid : ℕ) : ErrNum × St := doDelPosValueUid E s uid

/-- `DoSetApplyOutPosCards`: stops at the first UID that fails -/
def doSetApplyOutPosCards (E : Env) (s : St) : List ℕ → ErrNum × St
  | [] => (.successOk, s)
  | uid :: uids =>
    let r := doDelPosValueUid E s uid
    if r.1 ≠ .successOk then r else doSetApplyOutPosCards E r.2 uids

/-! ## Other mutators -/

/-- `DoSetLock` -/
def doSetLock (s : St) (uid : ℕ) (lockFlag : Bool) : ErrNum × St :=
  (.successOk, s.setCard (s.getInst uid) fun c => { c with lock := lockFlag })

/-- `DoUpdateBook` -/
def doUpdateBook (s : St) (books : List BookPiece) : ErrNum × St :=
  (.successOk, books.foldl (fun s b => s.setBook (s.getBookInst b.tableID) fun _ => b) s)

/-- `__DoApplyCommonGrow` -/
def doApplyCommonGrow (s : St) (pkt : CardGrow) : ErrNum × St :=
  let s1 := s.setCard (s.getInst pkt.targetUID) fun c =>
    { c with exp := pkt.retExp, lv := pkt.retLv, wake := pkt.retWake, skillLv := pkt.retSkillLv }
  (.successOk, (doUpdateBook s1 pkt.bookState).2)

/-- `DoSetLvUpInfo`; it differs from the next two in its achievement work only -/
def doSetLvUpInfo (s : St) (pkt : CardGrow) : ErrNum × St := doApplyCommonGrow s pkt

/-- `DoSetSkillLvUpInfo` -/
def doSetSkillLvUpInfo (s : St) (pkt : CardGrow) : ErrNum × St := doApplyCommonGrow s pkt

/-- `DoSetWakeInfo` -/
def doSetWakeInfo (s : St) (pkt : CardGrow) : ErrNum × St := doApplyCommonGrow s pkt

/-- `DoSetBookState` -/
def doSetBookState (E : Env) (s : St) (tid stateFlag : ℕ) : ErrNum × St :=
  let p := s.getBookInst tid
  if (s.book p).isNull E then (.svrBookCardErrNotExistInst, s)
  else (.successOk, s.setBook p fun b => { b with stateFlag := stateFlag })

/-- `DoSetGameResultInfo` -/
def doSetGameResultInfo (s : St) (cardBook : List BookPiece) : ErrNum × St := (.successOk, (doUpdateBook s cardBook).2)

/-! ## A small instance -/

/-- three slots for a character, two for a facility; UID 0 and table id 0 are the null values -/
def sampleEnv : Env where
  kNone := 0
  kChar := 1
  kFacility := 2
  kMax := 3
  none_lt_char := by decide
  none_lt_facility := by decide
  char_ne_facility := by decide
  char_lt_max := by decide
  facility_lt_max := by decide
  slotChar := 3
  slotFacility := 2
  slotMax := 4
  slotChar_le := by decide
  slotFacility_le := by decide
  slotMax_lt := by decide
  invalidUid := 0
  resetValue := 0
  resetSlot := 0
  isDetech n := decide (4 ≤ n)
  isDetech_slotMax := by decide
  isDetech_lt n hn := by simpa using hn
  cardIsNull uid tid := decide (uid = 0 ∨ tid = 0)
  bookIsNull tid := decide (tid = 0)
  nullCard := ⟨0, 0, 0, 0, 0, false, 0, 0, 0, 0, none⟩
  nullBook := ⟨0, 0, 0, 0, false⟩
  nullCard_isNull := by decide
  nullBook_isNull := by decide

/-- every character and every facility is there -/
def sampleChecks : UserChecks := ⟨fun _ => true, fun _ => .successOk⟩

/-- a card of level 1 at a position -/
def sampleCard (uid tid kind value slot : ℕ) : CardPiece := ⟨uid, tid, kind, value, slot, false, 0, 1, 0, 1, none⟩

end GameServer.Card
