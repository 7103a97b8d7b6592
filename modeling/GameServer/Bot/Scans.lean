/-
The list scans of the stress bot in `C++/AutoPacketMsg.cpp`: `CheckAlreadyFacilityOper`,
`ChkAndGetAchieveRewardTakeGroupID`, `ChkAndGetGradeUpCharIdx`, `ChkAndGetFacilityOperationPkt`, with the item checks
they call.

All their loops, the nested ones too, count with a `uint8_t` up to a `size_t` list size. A loop over 256 entries or more
starts again at the first entry, unless it stops before. Most other scans of the file count with `size_t`.
- `picks_none_iff`, `picks_some_iff`: how the nested scans over characters and weapons end;
- `facilityOperation_free`, `gradeUp_answer`: what the answers are good for;
- `scans_end_iff`: exactly when each of the scans ends, and has seen every entry if it has selected none;
- `scans_never_end`: 256 cleared stages, in which the bot looks for ever for a stage that is not there.

Not under src/, and therefore parameters (`BotEnv`): tables, constants, the answers of the accessors of a character, a
weapon and a facility, and the default arguments. `PktInfoTIDList` is a list, and every achievement has its table row.
-/
import Mathlib.Tactic
import GameServer.Core.NarrowScan

namespace GameServer.Bot

open GameServer.Core

/-! ## Data -/

inductive AchieveType where
  | AM_Adv_StoryClear
  | AM_Gro_UserRank
  | AM_Gro_CharLv
  | AM_Gro_CharGrade
  | other (n : ℕ)
deriving DecidableEq, Repr

/-- `DataAchieve`; `maxOrder_` is the one of `maxInfo` -/
structure DataAchieve where
  AchieveType : AchieveType
  AchieveIndex : ℕ
  AchieveValue : ℕ
  GroupID : ℕ
  maxOrder_ : ℕ
deriving DecidableEq, Repr

/-- `AchieveData` with its table row -/
structure AchieveData where
  nowStep : ℕ
  condiVal : ℕ
  tableData : DataAchieve
deriving DecidableEq, Repr

structure ClearStageData where
  TID : ℕ
deriving DecidableEq, Repr

/-- `CharData`; the key in its list is the `TID` -/
structure CharData where
  CUID : ℕ
  TID : ℕ
  grade : ℕ
  lv : ℕ
deriving DecidableEq, Repr

structure WeaponData where
  UID : ℕ
deriving DecidableEq, Repr

structure ItemData where
  UID : ℕ
  TID : ℕ
  count : ℕ
deriving DecidableEq, Repr

/-- the facility effects that the scan knows -/
inductive FacilityEffTP where
  | FAC_CHAR_EXP
  | FAC_CHAR_SP
  | FAC_WEAPON_EXP
  | FAC_ITEM_COMBINE
  | other (n : ℕ)
deriving DecidableEq, Repr

structure FacilityData where
  TID : ℕ
  lv : ℕ
  operType : FacilityEffTP
  operValue : ℕ
deriving DecidableEq, Repr

/-- `DataItemReqList`; an entry of `reqVec_` is an item and a count -/
structure DataItemReqList where
  Gold : ℕ
  LimitLevel : ℤ
  GoodsValue : ℕ
  reqVec_ : List (ℕ × ℕ)
deriving DecidableEq, Repr

structure DataFacilityCombine where
  ID : ℕ
  ReqFacilityLv : ℕ
  ItemReqGroup : ℕ
deriving DecidableEq, Repr

/-- `PktInfoFacilityOperationReq` -/
structure FacilityOperationReq where
  operValue : ℕ
  facilityTID : ℕ
  operCnt : ℕ
deriving DecidableEq, Repr

/-- the lists of `m_DummyUserInfo` that are scanned, its gold and its rank -/
structure Account where
  achieveList : List AchieveData
  clearStageList : List ClearStageData
  charList : List CharData
  weaponList : List WeaponData
  facilityList : List FacilityData
  itemList : List ItemData
  gold : ℕ
  lv_ : ℕ

structure BotEnv where
  CharMaxGrade : ℕ
  /-- `GetCharMaxLevel` by the grade -/
  charMaxLevel : ℕ → ℕ
  /-- `TableItemReqList::GetData` by the group and the level, and `ms_Null` -/
  itemReqList : ℕ → ℕ → DataItemReqList
  ms_Null : DataItemReqList
  /-- the default arguments of `GetItemReqData` and `CheckItemGroup` -/
  lvDefault : ℕ
  goodsDefault : ℕ
  /-- `GetItemReqGroup`, `GetCanLvUpChar`, `GetCanUpCharSP` of a character -/
  itemReqGroup : CharData → ℕ
  canLvUpChar : CharData → Bool
  canUpCharSP : CharData → Bool
  /-- `ChkCanWeaponInFacility` -/
  canWeaponInFacility : WeaponData → Bool
  /-- `GetCanFacilityOper` -/
  canFacilityOper : FacilityData → Bool
  /-- `TableFacilityItemCombine::DoWorkToDatas`: the row on which the work has answered true -/
  doWorkToDatas : (DataFacilityCombine → Bool) → Option DataFacilityCombine

section

variable (E : BotEnv) (st : Account)

/-! ## Item checks -/

/-- `ChkCanUseItemByTIDAndGetUID`: the first item of the table id, if there are enough of it -/
def chkCanUseItemByTIDAndGetUID (itemTID itemCnt : ℕ) : Option ℕ :=
  match st.itemList.find? fun item => item.TID = itemTID with
  | none => none
  | some item => if itemCnt ≤ item.count then some item.UID else none

/-- `GetItemReqData` -/
def getItemReqData (group lv : ℕ) : DataItemReqList := if group = 0 then E.ms_Null else E.itemReqList group lv

/-- `CheckItemGroup`; the counter has 8 bits -/
def checkItemGroup (req : DataItemReqList) (chkLevel : ℤ) (goods : ℕ) : Bool :=
  if st.gold < req.Gold then false
  else if chkLevel < req.LimitLevel then false
  else if goods < req.GoodsValue then false
  else if req.reqVec_.length = 0 then true
  else
    let itemExistCount := req.reqVec_.countP fun info => (chkCanUseItemByTIDAndGetUID st info.1 info.2).isSome
    decide (req.reqVec_.length ≤ itemExistCount % 2 ^ 8)

/-! ## The scans -/

/-- the loop of `CheckAlreadyFacilityOper` -/
def operScan (operValue : ℕ) : ℕ → Option (Option Bool × List ℕ) :=
  scanAll 8 (testBody (fun data : FacilityData => data.operValue = operValue) fun _ => false) st.facilityList

/-- `CheckAlreadyFacilityOper` -/
def checkAlreadyFacilityOper (operValue fuel : ℕ) : Option Bool := (operScan st operValue fuel).map fun o => o.1.getD true

/-- the test of `ChkAndGetGradeUpCharIdx` -/
def canGradeUp (charData : CharData) : Bool :=
  decide (charData.grade < E.CharMaxGrade) && decide (E.charMaxLevel charData.grade ≤ charData.lv) &&
    checkItemGroup st (getItemReqData E (E.itemReqGroup charData) charData.grade) charData.grade E.goodsDefault

/-- the loop of `ChkAndGetGradeUpCharIdx` -/
def gradeUpScan : ℕ → Option (Option ℕ × List ℕ) :=
  scanAll 8 (testBody (fun charData => canGradeUp E st charData = true) CharData.CUID) st.charList

/-- `ChkAndGetGradeUpCharIdx` -/
def chkAndGetGradeUpCharIdx (fuel : ℕ) : Option (Option ℕ) :=
  if st.charList.length = 0 then some none else (gradeUpScan E st fuel).map Prod.fst

/-- the loop over the cleared stages -/
def stageScan (stageTID : ℕ) : ℕ → Option (Option Unit × List ℕ) :=
  scanAll 8 (testBody (fun clearData : ClearStageData => clearData.TID = stageTID) fun _ => ()) st.clearStageList

/-- `GetDataWithKey` of the character list -/
def charWithKey (key : ℕ) : Option CharData := st.charList.find? fun charData => charData.TID = key

/-- the group of a condition that holds -/
def groupIf (holds : Prop) [Decidable holds] (data : DataAchieve) : ℕ := if holds then data.GroupID else 0

/-- `addGroupID` for the kinds of achievements that need no loop; a `continue` leaves it zero -/
def plainGroupID (a : AchieveData) : ℕ :=
  match a.tableData.AchieveType with
  | .AM_Adv_StoryClear => 0
  | .AM_Gro_UserRank => groupIf (a.tableData.AchieveValue ≤ st.lv_) a.tableData
  | .AM_Gro_CharLv =>
    match charWithKey st a.tableData.AchieveIndex with
    | none => 0
    | some charData => groupIf (a.tableData.AchieveValue ≤ charData.lv) a.tableData
  | .AM_Gro_CharGrade =>
    match charWithKey st a.tableData.AchieveIndex with
    | none => 0
    | some charData => groupIf (a.tableData.AchieveValue ≤ charData.grade) a.tableData
  | .other _ => groupIf (a.tableData.AchieveValue ≤ a.condiVal) a.tableData

/-- `addGroupID` after the switch -/
def addGroupID (fuel : ℕ) (a : AchieveData) : Option ℕ :=
  if a.tableData.AchieveType = .AM_Adv_StoryClear then
    (stageScan st a.tableData.AchieveIndex fuel).map fun o => groupIf (o.1.isSome = true) a.tableData
  else some (plainGroupID st a)

/-- one round of the loop over the achievements -/
def achieveBody (fuel : ℕ) (a : AchieveData) : Option (Turn ℕ) :=
  if a.tableData.maxOrder_ < a.nowStep then some .next
  else (addGroupID st fuel a).map fun group => if group = 0 then .next else .stop group

/-- the loop of `ChkAndGetAchieveRewardTakeGroupID` -/
def achieveScan : ℕ → Option (Option ℕ × List ℕ) := scanAll 8 (achieveBody st) st.achieveList

/-- `ChkAndGetAchieveRewardTakeGroupID`, with the list it leaves -/
def chkAndGetAchieveRewardTakeGroupID (idList : List ℕ) (fuel : ℕ) : Option (Bool × List ℕ) :=
  (achieveScan st fuel).map fun o => (!(idList ++ o.1.toList).isEmpty, idList ++ o.1.toList)

/-- one round of the nested loops: something usable that is not in a facility already -/
def pickBody {α : Type} (usable : α → Bool) (uid : α → ℕ) (fuel : ℕ) (a : α) : Option (Turn ℕ) :=
  if usable a then
    (checkAlreadyFacilityOper st (uid a) fuel).map fun free => if free then .stop (uid a) else .next
  else some .next

/-- the loop over the characters -/
def charScan (usable : CharData → Bool) : ℕ → Option (Option ℕ × List ℕ) :=
  scanAll 8 (pickBody st usable CharData.CUID) st.charList

/-- the loop over the weapons -/
def weaponScan : ℕ → Option (Option ℕ × List ℕ) :=
  scanAll 8 (pickBody st E.canWeaponInFacility WeaponData.UID) st.weaponList

/-- the row that the work on the combine table finds -/
def combineRow (data : FacilityData) : Option DataFacilityCombine :=
  E.doWorkToDatas fun row =>
    if data.lv < row.ReqFacilityLv then false
    else checkItemGroup st (getItemReqData E row.ItemReqGroup E.lvDefault) data.lv E.goodsDefault

/-- a nested loop that picks nothing goes on to the next facility -/
def operTurn (data : FacilityData) : Option ℕ × List ℕ → Turn (Option FacilityOperationReq)
  | (none, _) => .next
  | (some uid, _) => .stop (some ⟨uid, data.TID, 1⟩)

/-- one round of the loop over the facilities; it stops at a combining facility, with a request or without -/
def facilityBody (fuel : ℕ) (data : FacilityData) : Option (Turn (Option FacilityOperationReq)) :=
  if E.canFacilityOper data = false then some .next
  else
    match data.operType with
    | .FAC_CHAR_EXP => (charScan st E.canLvUpChar fuel).map (operTurn data)
    | .FAC_CHAR_SP => (charScan st E.canUpCharSP fuel).map (operTurn data)
    | .FAC_WEAPON_EXP => (weaponScan E st fuel).map (operTurn data)
    | .FAC_ITEM_COMBINE => some (.stop ((combineRow E st data).map fun row => ⟨row.ID, data.TID, 1⟩))
    | .other _ => some .next

/-- the loop of `ChkAndGetFacilityOperationPkt` -/
def facilityScan : ℕ → Option (Option (Option FacilityOperationReq) × List ℕ) :=
  scanAll 8 (facilityBody E st) st.facilityList

/-- `ChkAndGetFacilityOperationPkt` -/
def chkAndGetFacilityOperationPkt (fuel : ℕ) : Option (Option FacilityOperationReq) :=
  if st.facilityList.length = 0 then some none else (facilityScan E st fuel).map fun o => o.1.join

/-! ## What the scans meet -/

/-- one of the facilities that an 8-bit index reaches works on the value -/
def Busy (operValue : ℕ) : Prop := ∃ data ∈ st.facilityList.take (2 ^ 8), data.operValue = operValue

/-- no facility works on the value, and an 8-bit index reaches them all -/
def Idle (operValue : ℕ) : Prop := st.facilityList.length < 2 ^ 8 ∧ ∀ data ∈ st.facilityList, data.operValue ≠ operValue

/-- an entry that a nested loop passes by -/
def PickSkips {α : Type} (usable : α → Bool) (uid : α → ℕ) (a : α) : Prop := usable a = false ∨ Busy st (uid a)

/-- the nested loop finds nothing, in a short list -/
def NonePicked {α : Type} (usable : α → Bool) (uid : α → ℕ) (l : List α) : Prop :=
  ScanPasses 8 l (PickSkips st usable uid)

/-- the nested loop finds an entry -/
def SomePicked {α : Type} (usable : α → Bool) (uid : α → ℕ) (l : List α) : Prop :=
  ScanStops 8 l (PickSkips st usable uid) fun _ a => usable a = true ∧ Idle st (uid a)

/-- the stage is cleared, and an 8-bit index reaches it -/
def StageFound (stageTID : ℕ) : Prop := ∃ clearData ∈ st.clearStageList.take (2 ^ 8), clearData.TID = stageTID

/-- the stage is not cleared, and an 8-bit index reaches the whole list -/
def StageMissing (stageTID : ℕ) : Prop :=
  st.clearStageList.length < 2 ^ 8 ∧ ∀ clearData ∈ st.clearStageList, clearData.TID ≠ stageTID

/-- the group of an achievement, zero for none -/
def AchieveGroup (a : AchieveData) (group : ℕ) : Prop :=
  if a.tableData.AchieveType = .AM_Adv_StoryClear then
    StageFound st a.tableData.AchieveIndex ∧ group = a.tableData.GroupID ∨
      StageMissing st a.tableData.AchieveIndex ∧ group = 0
  else group = plainGroupID st a

/-- an achievement without a reward to take -/
def AchieveSkips (a : AchieveData) : Prop := a.tableData.maxOrder_ < a.nowStep ∨ AchieveGroup st a 0

/-- an achievement with a reward to take -/
def AchieveTaken (a : AchieveData) : Prop :=
  a.nowStep ≤ a.tableData.maxOrder_ ∧ ∃ group, group ≠ 0 ∧ AchieveGroup st a group

/-- a facility with nothing to start -/
def FacilitySkips (data : FacilityData) : Prop :=
  E.canFacilityOper data = false ∨
    match data.operType with
    | .FAC_CHAR_EXP => NonePicked st E.canLvUpChar CharData.CUID st.charList
    | .FAC_CHAR_SP => NonePicked st E.canUpCharSP CharData.CUID st.charList
    | .FAC_WEAPON_EXP => NonePicked st E.canWeaponInFacility WeaponData.UID st.weaponList
    | .FAC_ITEM_COMBINE => False
    | .other _ => True

/-- a facility with something to start -/
def FacilityTaken (data : FacilityData) : Prop :=
  E.canFacilityOper data = true ∧
    match data.operType with
    | .FAC_CHAR_EXP => SomePicked st E.canLvUpChar CharData.CUID st.charList
    | .FAC_CHAR_SP => SomePicked st E.canUpCharSP CharData.CUID st.charList
    | .FAC_WEAPON_EXP => SomePicked st E.canWeaponInFacility WeaponData.UID st.weaponList
    | .FAC_ITEM_COMBINE => (combineRow E st data).isSome = true
    | .other _ => False

/-- a combining facility without a combination; the scan ends there -/
def GivesUp (data : FacilityData) : Prop :=
  E.canFacilityOper data = true ∧ data.operType = .FAC_ITEM_COMBINE ∧ combineRow E st data = none

/-- the calls with a scan -/
inductive ScanCall where
  | achieve
  | facilityOper (operValue : ℕ)
  | gradeUp
  | facilityOperation
deriving DecidableEq, Repr

/-- a nested loop without a selection has seen every entry -/
def Thorough {α β : Type} (run : ℕ → Option (Option β × List ℕ)) (l : List α) : Prop :=
  ∀ seen, Ends run (none, seen) → seen = List.range l.length

/-- the loops of a call end, and have seen every entry if they have selected none -/
def ScansOk : ScanCall → Prop
  | .achieve =>
    ScanOk 8 (achieveBody st) st.achieveList (fun _ => True) ∧
      ∀ stageTID, Thorough (stageScan st stageTID) st.clearStageList
  | .facilityOper operValue =>
    ScanOk 8 (testBody (fun data : FacilityData => data.operValue = operValue) fun _ => false) st.facilityList
      fun _ => True
  | .gradeUp =>
    ScanOk 8 (testBody (fun charData => canGradeUp E st charData = true) CharData.CUID) st.charList fun _ => True
  | .facilityOperation =>
    ScanOk 8 (facilityBody E st) st.facilityList (fun pkt => pkt.isSome = true) ∧
      (∀ usable, Thorough (charScan st usable) st.charList) ∧ Thorough (weaponScan E st) st.weaponList

/-- either an entry in the reach of the index ends the loop, or the list is short -/
def ScanCondition : ScanCall → Prop
  | .achieve =>
    ScanStops 8 st.achieveList (AchieveSkips st) (fun _ => AchieveTaken st) ∨
      ScanPasses 8 st.achieveList (AchieveSkips st)
  | .facilityOper operValue => st.facilityList.length < 2 ^ 8 ∨ Busy st operValue
  | .gradeUp => st.charList.length < 2 ^ 8 ∨ ∃ charData ∈ st.charList.take (2 ^ 8), canGradeUp E st charData = true
  | .facilityOperation =>
    ScanStops 8 st.facilityList (FacilitySkips E st)
        (fun i data => FacilityTaken E st data ∨ GivesUp E st data ∧ i + 1 = st.facilityList.length) ∨
      ScanPasses 8 st.facilityList (FacilitySkips E st)

variable {E st} {α : Type} {usable : α → Bool} {uid : α → ℕ}

/-! ## The nested scans -/

theorem checkAlready_mono (operValue : ℕ) : FuelMono (checkAlreadyFacilityOper st operValue) :=
  (scanAll_mono testBody_mono).map _

theorem checkAlready_false_iff {operValue : ℕ} :
    Ends (checkAlreadyFacilityOper st operValue) false ↔ Busy st operValue := by
  have hstops : (∃ seen, Ends (operScan st operValue) (some false, seen)) ↔ Busy st operValue := by
    unfold operScan Busy
    rw [test_stops_iff]
    simp
  unfold checkAlreadyFacilityOper
  rw [ends_map, ← hstops]
  constructor
  · rintro ⟨⟨_ | b, seen⟩, hends, heq⟩
    · cases heq
    · obtain rfl : b = false := heq
      exact ⟨seen, hends⟩
  · rintro ⟨seen, hends⟩
    exact ⟨_, hends, rfl⟩

theorem checkAlready_true_iff {operValue : ℕ} :
    Ends (checkAlreadyFacilityOper st operValue) true ↔ Idle st operValue := by
  unfold checkAlreadyFacilityOper
  rw [ends_map]
  constructor
  · rintro ⟨⟨_ | b, seen⟩, hends, heq⟩
    · exact (test_passes_iff.1 hends).1
    · -- the loop only stops with `false`
      obtain rfl : b = true := heq
      exact absurd (test_stops_iff.1 ⟨seen, hends⟩).1 (by simp)
  · intro hidle
    exact ⟨_, test_passes_iff.2 ⟨hidle, rfl⟩, rfl⟩

theorem pickBody_mono (a : α) : FuelMono fun fuel => pickBody st usable uid fuel a := by
  unfold pickBody
  split
  · exact (checkAlready_mono _).map _
  · exact FuelMono.const _

theorem pickBody_next {a : α} : Ends (fun fuel => pickBody st usable uid fuel a) .next ↔ PickSkips st usable uid a := by
  unfold pickBody PickSkips
  cases husable : usable a with
  | false => simp [ends_const]
  | true =>
    simp only [if_true, ends_map]
    rw [← checkAlready_false_iff]
    simp

theorem pickBody_stop {a : α} {n : ℕ} :
    Ends (fun fuel => pickBody st usable uid fuel a) (.stop n) ↔ (usable a = true ∧ Idle st (uid a)) ∧ uid a = n := by
  unfold pickBody
  cases husable : usable a with
  | false => simp [ends_const]
  | true =>
    simp only [if_true, ends_map]
    rw [← checkAlready_true_iff]
    simp

theorem picks_none_iff {l : List α} :
    (∃ seen, Ends (scanAll 8 (pickBody st usable uid) l) (none, seen)) ↔ NonePicked st usable uid l := by
  simp only [scan_passes_iff pickBody_mono, pickBody_next, exists_and_left, exists_eq, and_true]
  rfl

theorem picks_some_iff {l : List α} :
    (∃ n seen, Ends (scanAll 8 (pickBody st usable uid) l) (some n, seen)) ↔ SomePicked st usable uid l := by
  simp only [scan_stops_iff pickBody_mono, pickBody_next, pickBody_stop]
  constructor
  · rintro ⟨n, seen, i, hi, a, hget, ⟨⟨hpick, -⟩, -⟩, hnext⟩
    exact ⟨i, hi, a, hget, hpick, hnext⟩
  · rintro ⟨i, hi, a, hget, hpick, hnext⟩
    exact ⟨uid a, _, i, hi, a, hget, ⟨⟨hpick, rfl⟩, rfl⟩, hnext⟩

/-! ## The achievements -/

theorem addGroupID_mono (a : AchieveData) : FuelMono fun fuel => addGroupID st fuel a := by
  unfold addGroupID
  split
  · exact (scanAll_mono testBody_mono).map _
  · exact FuelMono.const _

theorem addGroupID_iff {a : AchieveData} {group : ℕ} :
    Ends (fun fuel => addGroupID st fuel a) group ↔ AchieveGroup st a group := by
  unfold addGroupID AchieveGroup
  split
  · rw [ends_map]
    constructor
    · rintro ⟨⟨_ | u, seen⟩, hends, rfl⟩
      · exact Or.inr ⟨(test_passes_iff.1 hends).1, rfl⟩
      · exact Or.inl ⟨(test_stops_iff.1 ⟨seen, hends⟩).2, rfl⟩
    · rintro (⟨hfound, rfl⟩ | ⟨hmissing, rfl⟩)
      · obtain ⟨seen, hends⟩ := test_stops_iff.2 ⟨rfl, hfound⟩
        exact ⟨_, hends, rfl⟩
      · exact ⟨_, test_passes_iff.2 ⟨hmissing, rfl⟩, rfl⟩
  · rw [ends_const]
    exact eq_comm

theorem achieveBody_mono (a : AchieveData) : FuelMono fun fuel => achieveBody st fuel a := by
  unfold achieveBody
  split
  · exact FuelMono.const _
  · exact (addGroupID_mono a).map _

theorem achieveBody_next {a : AchieveData} : Ends (fun fuel => achieveBody st fuel a) .next ↔ AchieveSkips st a := by
  unfold achieveBody AchieveSkips
  by_cases hstep : a.tableData.maxOrder_ < a.nowStep
  · simp [hstep, ends_const]
  · simp only [hstep, if_false, ends_map, false_or]
    rw [← addGroupID_iff]
    constructor
    · rintro ⟨group, hends, heq⟩
      split at heq
      · obtain rfl := ‹group = 0›
        exact hends
      · cases heq
    · intro hends
      exact ⟨0, hends, rfl⟩

theorem achieveBody_stop {a : AchieveData} :
    (∃ group, Ends (fun fuel => achieveBody st fuel a) (.stop group)) ↔ AchieveTaken st a := by
  unfold achieveBody AchieveTaken
  by_cases hstep : a.tableData.maxOrder_ < a.nowStep
  · simp [hstep, ends_const]
  · simp only [if_neg hstep, ends_map]
    constructor
    · rintro ⟨group, group', hends, heq⟩
      split at heq
      · cases heq
      · exact ⟨not_lt.1 hstep, group', ‹_›, addGroupID_iff.1 hends⟩
    · rintro ⟨-, group, hne, hgroup⟩
      exact ⟨group, group, addGroupID_iff.2 hgroup, if_neg hne⟩

/-! ## The facilities -/

section

variable {run : ℕ → Option (Option ℕ × List ℕ)} {data : FacilityData}

theorem operTurn_next :
    Ends (fun fuel => (run fuel).map (operTurn data)) .next ↔ ∃ seen, Ends run (none, seen) := by
  rw [ends_map]
  constructor
  · rintro ⟨⟨_ | n, seen⟩, hends, heq⟩
    · exact ⟨seen, hends⟩
    · cases heq
  · rintro ⟨seen, hends⟩
    exact ⟨_, hends, rfl⟩

/-- a packet of a nested loop is about what it has picked -/
theorem operTurn_stop_iff {pkt : FacilityOperationReq} :
    Ends (fun fuel => (run fuel).map (operTurn data)) (.stop (some pkt)) ↔
      ∃ n, (∃ seen, Ends run (some n, seen)) ∧ ⟨n, data.TID, 1⟩ = pkt := by
  rw [ends_map]
  constructor
  · rintro ⟨⟨_ | n, seen⟩, hends, heq⟩
    · cases heq
    · exact ⟨n, ⟨seen, hends⟩, Option.some.inj (Turn.stop.inj heq)⟩
  · rintro ⟨n, ⟨seen, hends⟩, rfl⟩
    exact ⟨_, hends, rfl⟩

theorem operTurn_stop :
    (∃ pkt, Ends (fun fuel => (run fuel).map (operTurn data)) (.stop (some pkt))) ↔
      ∃ n seen, Ends run (some n, seen) := by
  simp only [operTurn_stop_iff]
  constructor
  · rintro ⟨pkt, n, hends, -⟩
    exact ⟨n, hends⟩
  · rintro ⟨n, hends⟩
    exact ⟨_, n, hends, rfl⟩

theorem operTurn_no_giveup : ¬Ends (fun fuel => (run fuel).map (operTurn data)) (.stop none) := by
  rw [ends_map]
  rintro ⟨⟨_ | n, seen⟩, -, heq⟩
  · cases heq
  · cases heq

theorem facilityBody_mono (data : FacilityData) : FuelMono fun fuel => facilityBody E st fuel data := by
  unfold facilityBody
  split
  · exact FuelMono.const _
  · split
    · exact (scanAll_mono pickBody_mono).map _
    · exact (scanAll_mono pickBody_mono).map _
    · exact (scanAll_mono pickBody_mono).map _
    · exact FuelMono.const _
    · exact FuelMono.const _

theorem facilityBody_next : Ends (fun fuel => facilityBody E st fuel data) .next ↔ FacilitySkips E st data := by
  unfold facilityBody FacilitySkips
  cases hoper : E.canFacilityOper data with
  | false => simp [ends_const]
  | true =>
    simp only [Bool.true_eq_false, if_false, false_or]
    cases data.operType with
    | FAC_CHAR_EXP => exact operTurn_next.trans picks_none_iff
    | FAC_CHAR_SP => exact operTurn_next.trans picks_none_iff
    | FAC_WEAPON_EXP => exact operTurn_next.trans picks_none_iff
    | FAC_ITEM_COMBINE => simp [ends_const]
    | other n => simp [ends_const]

theorem facilityBody_stop :
    (∃ pkt, Ends (fun fuel => facilityBody E st fuel data) (.stop (some pkt))) ↔ FacilityTaken E st data := by
  unfold facilityBody FacilityTaken
  cases hoper : E.canFacilityOper data with
  | false => simp [ends_const]
  | true =>
    simp only [Bool.true_eq_false, if_false, true_and]
    cases data.operType with
    | FAC_CHAR_EXP => exact operTurn_stop.trans picks_some_iff
    | FAC_CHAR_SP => exact operTurn_stop.trans picks_some_iff
    | FAC_WEAPON_EXP => exact operTurn_stop.trans picks_some_iff
    | FAC_ITEM_COMBINE => simp [ends_const, Option.isSome_iff_exists]
    | other n => simp [ends_const]

theorem facilityBody_giveup : Ends (fun fuel => facilityBody E st fuel data) (.stop none) ↔ GivesUp E st data := by
  unfold facilityBody GivesUp
  cases hoper : E.canFacilityOper data with
  | false => simp [ends_const]
  | true =>
    simp only [Bool.true_eq_false, if_false, true_and]
    cases htype : data.operType with
    | FAC_CHAR_EXP => simpa using operTurn_no_giveup
    | FAC_CHAR_SP => simpa using operTurn_no_giveup
    | FAC_WEAPON_EXP => simpa using operTurn_no_giveup
    | FAC_ITEM_COMBINE => simp [ends_const]
    | other n => simp [ends_const]

end

/-! ## Answers -/

/-- what a nested loop picks is in no facility -/
theorem picks_idle {l : List α} {n : ℕ} {seen : List ℕ}
    (h : Ends (scanAll 8 (pickBody st usable uid) l) (some n, seen)) : Idle st n := by
  obtain ⟨i, -, a, -, ⟨hstop, -⟩, -⟩ := (scan_stops_iff pickBody_mono).1 h
  obtain ⟨⟨-, hidle⟩, rfl⟩ := pickBody_stop.1 hstop
  exact hidle

/-- a facility that is given a packet can work, and the packet does not repeat what another one works on -/
theorem facilityBody_pkt {data : FacilityData} {pkt : FacilityOperationReq}
    (h : Ends (fun fuel => facilityBody E st fuel data) (.stop (some pkt))) :
    E.canFacilityOper data = true ∧ pkt.facilityTID = data.TID ∧
      (data.operType ≠ .FAC_ITEM_COMBINE → Idle st pkt.operValue) := by
  have hpicked : ∀ {β : Type} {usable : β → Bool} {uid : β → ℕ} {l : List β},
      Ends (fun fuel => (scanAll 8 (pickBody st usable uid) l fuel).map (operTurn data)) (.stop (some pkt)) →
        pkt.facilityTID = data.TID ∧ Idle st pkt.operValue := by
    intro β usable uid l hends
    obtain ⟨n, ⟨seen, hscan⟩, rfl⟩ := operTurn_stop_iff.1 hends
    exact ⟨rfl, picks_idle hscan⟩
  unfold facilityBody at h
  cases hoper : E.canFacilityOper data with
  | false => simp [hoper, ends_const] at h
  | true =>
    simp only [hoper, Bool.true_eq_false, if_false] at h
    refine ⟨rfl, ?_⟩
    cases htype : data.operType with
    | FAC_CHAR_EXP =>
      rw [htype] at h
      exact ⟨(hpicked h).1, fun _ => (hpicked h).2⟩
    | FAC_CHAR_SP =>
      rw [htype] at h
      exact ⟨(hpicked h).1, fun _ => (hpicked h).2⟩
    | FAC_WEAPON_EXP =>
      rw [htype] at h
      exact ⟨(hpicked h).1, fun _ => (hpicked h).2⟩
    | FAC_ITEM_COMBINE =>
      rw [htype] at h
      simp only [ends_const, Turn.stop.injEq, Option.map_eq_some_iff] at h
      obtain ⟨row, -, rfl⟩ := h
      exact ⟨rfl, fun hne => absurd rfl hne⟩
    | other n => simp [htype, ends_const] at h

/-- **A facility request is for a facility that can work**, and never for something that is in a facility already. -/
theorem facilityOperation_free {pkt : FacilityOperationReq}
    (h : Ends (chkAndGetFacilityOperationPkt E st) (some pkt)) :
    ∃ data ∈ st.facilityList, E.canFacilityOper data = true ∧ pkt.facilityTID = data.TID ∧
      (data.operType ≠ .FAC_ITEM_COMBINE → ∀ other ∈ st.facilityList, other.operValue ≠ pkt.operValue) := by
  obtain ⟨fuel, h⟩ := h
  unfold chkAndGetFacilityOperationPkt at h
  split at h
  · cases h
  · obtain ⟨⟨turn, seen⟩, hscan, hturn⟩ := Option.map_eq_some_iff.1 h
    obtain rfl : turn = some (some pkt) := by simpa [Option.join_eq_some_iff] using hturn
    obtain ⟨i, -, data, hget, ⟨hstop, -⟩, -⟩ := (scan_stops_iff facilityBody_mono).1 ⟨fuel, hscan⟩
    obtain ⟨hoper, htid, hidle⟩ := facilityBody_pkt hstop
    exact ⟨data, List.mem_of_getElem? hget, hoper, htid, fun hne => (hidle hne).2⟩

/-- **The promotion scan answers a character that can be promoted**, and none only if there is none. -/
theorem gradeUp_answer {cuid : Option ℕ} (h : Ends (chkAndGetGradeUpCharIdx E st) cuid) :
    (∀ n, cuid = some n → ∃ charData ∈ st.charList, canGradeUp E st charData = true ∧ charData.CUID = n) ∧
      (cuid = none → ∀ charData ∈ st.charList, canGradeUp E st charData = false) := by
  obtain ⟨fuel, h⟩ := h
  unfold chkAndGetGradeUpCharIdx at h
  split at h
  · obtain rfl := Option.some.inj h
    have hnil : st.charList = [] := List.length_eq_zero_iff.1 ‹_›
    simp [hnil]
  · obtain ⟨⟨_ | n, seen⟩, hscan, rfl⟩ := Option.map_eq_some_iff.1 h
    · obtain ⟨⟨-, hnone⟩, -⟩ := test_passes_iff.1 ⟨fuel, hscan⟩
      exact ⟨by simp, fun _ charData hmem => by simpa using hnone charData hmem⟩
    · obtain ⟨i, -, charData, hget, ⟨hstop, -⟩, -⟩ := (scan_stops_iff testBody_mono).1 ⟨fuel, hscan⟩
      obtain ⟨hgrade, rfl⟩ := testBody_stop.1 hstop
      refine ⟨fun n hn => ?_, by simp⟩
      exact ⟨charData, List.mem_of_getElem? hget, hgrade, Option.some.inj hn⟩

/-! ## Whole calls -/

theorem Thorough.of_scan {α β : Type} {body : ℕ → α → Option (Turn β)} {l : List α}
    (hbody : ∀ a, FuelMono fun fuel => body fuel a) : Thorough (scanAll 8 body l) l :=
  fun _ hends => ((scan_passes_iff hbody).1 hends).2

theorem achieveScan_ok_iff : ScanOk 8 (achieveBody st) st.achieveList (fun _ => True) ↔
    ScanStops 8 st.achieveList (AchieveSkips st) (fun _ => AchieveTaken st) ∨
      ScanPasses 8 st.achieveList (AchieveSkips st) := by
  rw [scanOk_iff achieveBody_mono]
  simp only [achieveBody_next, true_or, and_true, achieveBody_stop]

theorem facilityScan_ok_iff : ScanOk 8 (facilityBody E st) st.facilityList (fun pkt => pkt.isSome = true) ↔
    ScanStops 8 st.facilityList (FacilitySkips E st)
        (fun i data => FacilityTaken E st data ∨ GivesUp E st data ∧ i + 1 = st.facilityList.length) ∨
      ScanPasses 8 st.facilityList (FacilitySkips E st) := by
  have hstop : ∀ i data, (∃ pkt, Ends (fun fuel => facilityBody E st fuel data) (.stop pkt) ∧
      (pkt.isSome = true ∨ i + 1 = st.facilityList.length)) ↔
      FacilityTaken E st data ∨ GivesUp E st data ∧ i + 1 = st.facilityList.length := by
    intro i data
    rw [← facilityBody_stop, ← facilityBody_giveup]
    constructor
    · rintro ⟨_ | pkt, hends, hsel⟩
      · exact Or.inr ⟨hends, hsel.resolve_left (by simp)⟩
      · exact Or.inl ⟨pkt, hends⟩
    · rintro (⟨pkt, hends⟩ | ⟨hends, hlast⟩)
      · exact ⟨some pkt, hends, Or.inl rfl⟩
      · exact ⟨none, hends, Or.inr hlast⟩
  rw [scanOk_iff facilityBody_mono]
  simp only [facilityBody_next, hstop]

/-- **Exactly when the scans end and miss nothing.** -/
theorem scans_end_iff (E : BotEnv) (st : Account) (call : ScanCall) : ScansOk E st call ↔ ScanCondition E st call := by
  cases call with
  | achieve =>
    exact (and_iff_left fun _ => Thorough.of_scan testBody_mono).trans achieveScan_ok_iff
  | facilityOper operValue => exact scanOk_test_iff fun _ _ => trivial
  | gradeUp => exact scanOk_test_iff fun _ _ => trivial
  | facilityOperation =>
    have hchars : ∀ usable, Thorough (charScan st usable) st.charList := fun _ => Thorough.of_scan pickBody_mono
    have hweapons : Thorough (weaponScan E st) st.weaponList := Thorough.of_scan pickBody_mono
    exact (and_iff_left ⟨hchars, hweapons⟩).trans facilityScan_ok_iff

end

/-! ## An account that has cleared many stages -/

/-- the achievement for a stage that is not cleared -/
def stageAchieve : AchieveData := ⟨1, 0, ⟨.AM_Adv_StoryClear, 300, 1, 7, 1⟩⟩

/-- the stages 1 to 256 are cleared -/
def longAccount : Account where
  achieveList := [stageAchieve]
  clearStageList := (List.range 256).map fun n => ⟨n + 1⟩
  charList := []
  weaponList := []
  facilityList := []
  itemList := []
  gold := 0
  lv_ := 1

def plainEnv : BotEnv where
  CharMaxGrade := 5
  charMaxLevel := fun grade => 10 * grade
  itemReqList := fun _ _ => ⟨0, 0, 0, []⟩
  ms_Null := ⟨0, 0, 0, []⟩
  lvDefault := 0
  goodsDefault := 0
  itemReqGroup := fun _ => 0
  canLvUpChar := fun _ => true
  canUpCharSP := fun _ => true
  canWeaponInFacility := fun _ => true
  canFacilityOper := fun _ => true
  doWorkToDatas := fun _ => none

theorem stageAchieve_no_group (group : ℕ) : ¬AchieveGroup longAccount stageAchieve group := by
  rintro (⟨⟨clearData, hmem, htid⟩, -⟩ | ⟨⟨hlt, -⟩, -⟩)
  · obtain ⟨n, hn, rfl⟩ := List.mem_map.1 (List.mem_of_mem_take hmem)
    have hn' : n < 256 := List.mem_range.1 hn
    have htid' : n + 1 = 300 := htid
    omega
  · have hlen : longAccount.clearStageList.length = 256 := by simp [longAccount]
    omega

theorem longAccount_never {o : Option ℕ × List ℕ} : ¬Ends (achieveScan longAccount) o := by
  have hstop : ∀ group, ¬Ends (fun fuel => achieveBody longAccount fuel stageAchieve) (.stop group) := by
    intro group h
    obtain ⟨-, group', -, hgroup⟩ := achieveBody_stop.1 ⟨group, h⟩
    exact stageAchieve_no_group group' hgroup
  have hnext : ¬Ends (fun fuel => achieveBody longAccount fuel stageAchieve) .next := by
    intro h
    rcases achieveBody_next.1 h with hstep | hgroup
    · exact absurd hstep (by decide)
    · exact stageAchieve_no_group 0 hgroup
  intro h
  rcases (scan_ends_iff achieveBody_mono).1 h with ⟨i, -, a, group, hget, hends, -, -⟩ | ⟨-, hall, -⟩
  · obtain rfl : a = stageAchieve := List.mem_singleton.1 (List.mem_of_getElem? hget)
    exact hstop group hends
  · obtain ⟨a, hget, hends⟩ := hall 0 Nat.one_pos
    obtain rfl : a = stageAchieve := List.mem_singleton.1 (List.mem_of_getElem? hget)
    exact hnext hends

/-- **The bot never comes back** from the stages of this account. -/
theorem scans_never_end : ¬ScansOk plainEnv longAccount .achieve ∧
    ∀ idList fuel, chkAndGetAchieveRewardTakeGroupID longAccount idList fuel = none := by
  constructor
  · rintro ⟨⟨o, hends, -⟩, -⟩
    exact longAccount_never hends
  · intro idList fuel
    unfold chkAndGetAchieveRewardTakeGroupID
    cases hscan : achieveScan longAccount fuel with
    | none => rfl
    | some o => exact absurd ⟨fuel, hscan⟩ longAccount_never

end GameServer.Bot
