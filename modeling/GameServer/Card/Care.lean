/-
The requests of a user to one card or one book, `IsCanSell`, `IsCanLockFlag`, `IsCanLvUp`, `IsCanWake`,
`IsCanChangeExpInFavor` and `__IsCanChangeExp` in `C++/CardContents.cpp`. Each reads the contents and fills a packet; another
call applies it.

Not under src/, and therefore parameters: the tables (`CareTables`); the user's gold and SP, and what campaigns, weights
and the random bonus make of costs, prices and exps, which are computed in floats (`Outside`). `DoCheckAddExpAndGetLvExp`
adds exp up to a maximal level, and so its level is at most that, and falls for no gain.
-/
import Mathlib.Tactic
import GameServer.Core.Flags
import GameServer.Card.Materials
import GameServer.Card.BookFlags

namespace GameServer.Card

open GameServer.Core GameServer.Core.Flags

/-! ## Data -/

/-- the results (`eTMIErrNum`) of the validators -/
inductive CareErr where
  | grow (err : GrowErr)
  | comErrAlreadyLockState
  | comErrAlreadyUnlockState
  | comErrAlreadyMaxWakeValue
  | comErrNotMaxLv
  | comErrNotNeedMaterialSetting
  | comErrNotExistItemreqlistNeedWake
  | svrCardLvErrChangeGaqLvZero
  | svrCardLvErrAlreadyLimitValue
deriving DecidableEq, Repr

/-- a row of `TableItemReqList`; what the row asks for besides gold is known by its id -/
structure ItemReq where
  id : ℕ
  gold : ℕ
deriving DecidableEq, Repr

/-- tables and functions that are not under src/, besides those of the skill level-up -/
structure CareTables (ι κ : Type) extends GrowTables ι κ where
  /-- `SellPrice`, `SellMPoint`, `LevelUpGroup` and `FavorGroup` by table id -/
  sellPrice : ℕ → ℕ
  sellMPoint : ℕ → ℕ
  levelUpGroup : ℕ → ℕ
  favorGroup : ℕ → ℕ
  /-- `GetMaxLevel` and `IsMaxWake` by table id and wake, `IsMaxLv` by table id, wake and level -/
  getMaxLevel : ℕ → ℕ → ℕ
  isMaxWake : ℕ → ℕ → Bool
  isMaxLv : ℕ → ℕ → ℕ → Bool
  one_le_maxLevel : ∀ tid wake, 1 ≤ getMaxLevel tid wake
  cardLevelupCostByLevel : ℕ
  matCount : ℕ
  cardFavorMaxLevel : ℕ
  /-- `STATE::MAX_WAKE_AND_LV` and `MAX_FAVOR_LV` -/
  maxWakeAndLv : ℕ
  maxFavorLv : ℕ
  /-- `IsCanUseMaterial(MATERIAL_CARD_LEVELUP)` -/
  isCanUseMaterialLv : ι → Bool
  isExistMater : GrowReq → Bool
  /-- the row of `WakeReqGroup` and wake, by table id; `none` is the null row -/
  itemReqList : ℕ → ℕ → Option ItemReq
  isCheckContumeItemByReqTable : ItemReq → Except GrowErr κ
  /-- the material items of an untouched packet -/
  noMaterItems : κ
  /-- level and exp after a gain: group, maximal level, level, exp, gain -/
  doCheckAddExpAndGetLvExp : ℕ → ℕ → ℕ → ℕ → ℤ → Except GrowErr (ℕ × ℕ)
  lv_le_maxLv : ∀ group maxLv lv exp gap r, doCheckAddExpAndGetLvExp group maxLv lv exp gap = .ok r → r.1 ≤ maxLv
  le_lv : ∀ group maxLv lv exp gap r, lv ≤ maxLv → 0 ≤ gap →
    doCheckAddExpAndGetLvExp group maxLv lv exp gap = .ok r → lv ≤ r.1
  /-- `DoCanAddGoldAndGetButDoNotOverMax`, `DoCanAddSPAndGetButDoNotOverMax` -/
  doCanAddGold : ℕ → ℕ → ℕ
  doCanAddSP : ℕ → ℕ → ℕ

/-- a material that the level-up has counted -/
inductive Gain (ι : Type) where
  | card (mater : CardPiece)
  | item (piece : ι) (cnt : ℕ)

/-- what a request finds outside the contents -/
structure Outside (ι : Type) where
  userGold : ℕ
  userSP : ℕ
  /-- `costDownRatio < 1.f`, and the part of a cost that it takes off -/
  hasCost : Bool
  costDown : ℕ → ℕ
  /-- the price of a sale with the campaign -/
  campaignPrice : ℕ → ℕ
  /-- the exp of the materials with weights, campaign and bonus, as a `c_int32` -/
  addExp : List (Gain ι) → ℤ

/-- `PktInfoCardSell::Piece` -/
structure CardSell where
  cardUID : ℕ
  addGold : ℕ
  addSP : ℕ
deriving DecidableEq, Repr

/-- `PktInfoCardGrow`: what is applied, and what the user pays; `maters` is moved from the request -/
structure CardGrowAck (κ : Type) where
  grow : CardGrow
  userGold : ℕ
  materItems : κ
  maters : List ℕ
deriving DecidableEq, Repr

/-! ## Validators -/

variable {ι κ : Type}

section

variable (E : Env) (T : CareTables ι κ) (s : St)

/-- `IsCanSell` -/
def isCanSell (O : Outside ι) (cardUID : ℕ) : Except GrowErr CardSell :=
  match isCheckCanSell E T.toGrowTables s cardUID with
  | .error err => .error err
  | .ok piece => .ok ⟨cardUID, T.doCanAddGold O.userGold (O.campaignPrice (T.sellPrice piece.tableID)) % 2 ^ 32,
      T.doCanAddSP O.userSP (T.sellMPoint piece.tableID) % 2 ^ 32⟩

/-- `IsCanLockFlag` -/
def isCanLockFlag (uid : ℕ) (lock : Bool) : Except CareErr Unit :=
  let piece := s.card (s.getInst uid)
  if piece.isNull E then .error (.grow .svrCardComErrNotExistInst)
  else if lock = piece.lock then
    if lock then .error .comErrAlreadyLockState else .error .comErrAlreadyUnlockState
  else .ok ()

/-- `__IsCanChangeExp`: level, exp and books to update -/
def isCanChangeExp (piece : CardPiece) (gapExp : ℤ) (maxErr : Bool) : Except CareErr (ℕ × ℕ × List BookPiece) :=
  if gapExp = 0 then .error .svrCardLvErrChangeGaqLvZero
  else if piece.isNull E then .error (.grow .svrCardComErrNotExistInst)
  else if T.tableIsNull piece.tableID then .error (.grow .comErrNotExistTableData)
  else
    let maxLv := T.getMaxLevel piece.tableID piece.wake
    if maxLv ≤ piece.lv then
      if maxErr then .error .svrCardLvErrAlreadyLimitValue else .ok (piece.lv, piece.exp, [])
    else
      match T.doCheckAddExpAndGetLvExp (T.levelUpGroup piece.tableID) maxLv piece.lv piece.exp gapExp with
      | .error err => .error (.grow err)
      | .ok (lv, exp) =>
        let book := s.book piece.book
        -- the packet carries a copy of the whole book
        if maxLv ≤ lv ∧ T.isMaxWake piece.tableID piece.wake = true ∧ book.isOnFlag T.maxWakeAndLv = false then
          .ok (lv, exp, [{ book with stateFlag := turnOn book.stateFlag T.maxWakeAndLv }])
        else .ok (lv, exp, [])

/-- the cost of a level-up, in 64 bits -/
def lvUpCost (O : Outside ι) (lv : ℕ) (req : GrowReq) (ignoreCost : Bool) : ℕ :=
  if ignoreCost = false ∧ O.hasCost = true then
    let cost := T.cardLevelupCostByLevel * lv * T.reqTotalStackCnt req % 2 ^ 64
    (cost + (2 ^ 64 - O.costDown cost % 2 ^ 64)) % 2 ^ 64
  else 0

/-- `materWork` of `IsCanLvUp` -/
def lvMaterWork (gains : List (Gain ι)) (mater : CardPiece) : Except GrowErr (List (Gain ι)) :=
  .ok (gains ++ [.card mater])

/-- `itemWork` of `IsCanLvUp` -/
def lvItemWork (gains : List (Gain ι)) (piece : ι) (cnt : ℕ) : Except GrowErr (List (Gain ι)) :=
  if T.isCanUseMaterialLv piece = false then .error .comErrLvOtherTypeMaterial else .ok (gains ++ [.item piece cnt])

/-- `IsCanLvUp` -/
def isCanLvUp (O : Outside ι) (req : GrowReq) (ignoreCost : Bool) : Except CareErr (CardGrowAck κ) :=
  let piece := s.card (s.getInst req.targetUID)
  if O.userGold < lvUpCost T O piece.lv req ignoreCost then .error (.grow .comErrLackGold)
  else
    match isCheckCommonGrow E T.toGrowTables s req piece lvMaterWork (lvItemWork T) T.matCount [] with
    | .error err => .error (.grow err)
    | .ok (gains, materItems) =>
      match isCanChangeExp E T s piece (O.addExp gains) true with
      | .error err => .error err
      | .ok (lv, exp, bookState) =>
        .ok ⟨⟨req.targetUID, exp, lv, piece.wake, piece.skillLv, bookState⟩,
          O.userGold - lvUpCost T O piece.lv req ignoreCost, materItems, req.maters⟩

/-- `IsCanSkillLvUp` with the packet that is applied -/
def skillGrowAck (pkt : SkillLvUp κ) : CardGrowAck κ :=
  ⟨⟨pkt.comGrow.targetUID, pkt.comGrow.exp, pkt.comGrow.lv, pkt.retWake, pkt.retSkillLv, []⟩, pkt.comGrow.userGold,
    pkt.comGrow.materItems, pkt.comGrow.req.maters⟩

/-- the gold and the material items that `IsCanWake` takes -/
def wakeCost (piece : CardPiece) (userGold : ℕ) (ignoreCost : Bool) : Except CareErr (ℕ × κ) :=
  if ignoreCost then .ok (0, T.noMaterItems)
  else
    match T.itemReqList piece.tableID piece.wake with
    | none => .error .comErrNotExistItemreqlistNeedWake
    | some dataItemReq =>
      if userGold < dataItemReq.gold then .error (.grow .comErrLackGold)
      else
        match T.isCheckContumeItemByReqTable dataItemReq with
        | .error err => .error (.grow err)
        | .ok materItems => .ok (dataItemReq.gold, materItems)

/-- `IsCanWake`; the request is not moved into the packet -/
def isCanWake (O : Outside ι) (req : GrowReq) (ignoreCost : Bool) : Except CareErr (CardGrowAck κ) :=
  let piece := s.card (s.getInst req.targetUID)
  if piece.isNull E then .error (.grow .svrCardComErrNotExistInst)
  else if T.tableIsNull piece.tableID then .error (.grow .comErrNotExistTableData)
  else if T.isMaxWake piece.tableID piece.wake then .error .comErrAlreadyMaxWakeValue
  else if T.isMaxLv piece.tableID piece.wake piece.lv = false then .error .comErrNotMaxLv
  else if T.isExistMater req then .error .comErrNotNeedMaterialSetting
  else
    match wakeCost T piece O.userGold ignoreCost with
    | .error err => .error err
    | .ok (gold, materItems) =>
      .ok ⟨⟨req.targetUID, 0, 1, piece.wake + 1, piece.skillLv, []⟩, O.userGold - gold, materItems, []⟩

/-- `IsCanChangeExpInFavor`: the book to update, `none` if the packet stays as it was -/
def isCanChangeExpInFavor (charTID : ℕ) (gapExp : ℤ) (maxErr : Bool) : Except CareErr (Option BookPiece) :=
  if gapExp = 0 then .ok none
  else
    let piece := s.bookOf charTID
    if piece.isNull E then .error (.grow .svrCardComErrNotExistInst)
    else if T.cardFavorMaxLevel ≤ piece.favorLv then
      if maxErr then .error .svrCardLvErrAlreadyLimitValue else .ok (some piece)
    else
      match T.doCheckAddExpAndGetLvExp (T.favorGroup piece.tableID) T.cardFavorMaxLevel piece.favorLv piece.favorExp
        gapExp with
      | .error err => .error (.grow err)
      | .ok (lv, exp) =>
        let stateFlag := if T.cardFavorMaxLevel ≤ lv ∧ piece.isOnFlag T.maxFavorLv = false then
          turnOn piece.stateFlag T.maxFavorLv else piece.stateFlag
        .ok (some { piece with stateFlag := stateFlag, favorExp := exp, favorLv := lv, changeFlag := true })

end

end GameServer.Card
