/-
Equipment summons of one user and one summon type, `Python/Summon.py`: `sp_SummonEquipment` and the equipment part of
`sp_SummonReward`.

`sp_SummonEquipment` reads in one transaction (`summonRead`), draws without a connection (`summonDraw`), and writes
absolute values in a second transaction (`summonWrite`). A summon adds one point of experience; a full level carries into
the next one, and at the last level the experience stays until a claim turns it into repeated rewards.

Not under src/: the table `700Summon` (its rows in level order), the box draws (`Box`: the result of the i-th call), the
`Helper` with its resources, `WatchAds` and `MergeHelperResultData` (`Env`). A claim ignores the result of a supply.
-/
import Mathlib.Tactic

namespace GameServer.Summon

/-! ## Tables and stored rows -/

/-- a row of `700Summon` -/
structure LevelRow where
  level : ℤ
  next_count : ℤ
  summon_prob : ℤ
  reward_code : ℤ
  reward_count : ℤ
deriving DecidableEq, Repr

/-- a row of `TB_USER_SUMMON` -/
structure SummonRow where
  level : ℤ
  exp : ℤ
  reward_step : ℤ
  ads_count : ℤ
  ads_reset_day : ℤ
deriving DecidableEq, Repr

/-- an entry of a result list -/
structure ResultData where
  idx : ℤ
  add_count : ℤ
  result_count : ℤ
  uid : ℤ
deriving DecidableEq, Repr

/-- the rows of one user; `ρ` holds goods and items -/
structure Db (ρ : Type) where
  summon : Option SummonRow
  /-- `TB_USER_EQUIPMENT`: the count of an item -/
  equipment : ℤ → Option ℤ
  resource : ρ

/-- result of the i-th `Get107RandomBoxProbResult(prob, 1)` of a request: `idx` and `count` -/
abbrev Box := ℕ → ℤ → List (ℤ × ℤ)

structure Env (ρ : Type) where
  /-- `get700SummonByType` -/
  table : ℤ → List LevelRow
  SUMMON_EQUIPMENT_1_COUNT : ℤ
  SUMMON_EQUIPMENT_2_COUNT : ℤ
  SUMMON_EQUIPMENT_3_COUNT : ℤ
  SUMMON_EQUIPMENT_PRICE : ℤ
  SUMMON_EQUIPMENT_ADS_COUNT : ℤ
  SUMMON_ADS_LIMIT : ℤ
  DIAMOND : ℤ
  SUMMON_WEAPON_TICKET : ℤ
  SUMMON_ARMOR_TICKET : ℤ
  SUMMON_BAG_TICKET : ℤ
  WEAPON : ℤ
  ARMOR : ℤ
  BAG : ℤ
  /-- `GetUserResource(...).get(idx, 0)` and `GetUserItemCount` -/
  getUserResource : ρ → ℤ → ℤ
  getUserItemCount : ρ → ℤ → ℤ
  /-- `none` if the helper's `Result` is false; the entries go to `ResultDatas` -/
  consumeUserResource : ρ → ℤ → ℤ → Option (ρ × List ResultData)
  supplyUserResource : ρ → ℤ → ℤ → ρ × List ResultData
  /-- the new `ads_count` and `ads_reset_day`, if `result` is true -/
  watchAds : ℤ → ℤ → ℤ → Option (ℤ × ℤ)
  /-- `idx` and `result_count` of the merged entries -/
  mergeHelperResultData : List ResultData → List (ℤ × ℤ)

/-- `get700SummonByTypeLevel` -/
def Env.byTypeLevel {ρ : Type} (E : Env ρ) (type level : ℤ) : Option LevelRow :=
  (E.table type).find? fun row => row.level = level

/-- `CSummonCostType` -/
inductive CostType where
  | COMMON | TICKET | ADS | other
deriving DecidableEq, Repr

inductive ResultType where
  | FAIL | SUCCESS | NOT_CONDITION | LACK_RESOURCE | NOT_SUMMON_ADS_COOL_TIME | ALREADY_REWARD
deriving DecidableEq, Repr

section

variable {ρ : Type} (E : Env ρ)

/-! ## `sp_SummonEquipment`: the read transaction -/

/-- what a request carries from the read transaction to the write transaction -/
structure Work where
  level : ℤ
  exp : ℤ
  reward_step : ℤ
  ads_count : ℤ
  ads_reset_day : ℤ
  user_equipment_count_dict : ℤ → Option ℤ
  info : LevelRow
  summon_count : ℤ
  summon_cost_idx : ℤ
  summon_cost : ℤ
  summon_results : List ResultData

/-- the table row of the level, or of the level below -/
def levelInfo (type level : ℤ) : Option LevelRow :=
  match E.byTypeLevel type level with
  | some info => some info
  | none => E.byTypeLevel type (level - 1)

/-- the largest count of one request -/
def maxSummonCount : ℤ :=
  max (max E.SUMMON_EQUIPMENT_1_COUNT E.SUMMON_EQUIPMENT_2_COUNT) E.SUMMON_EQUIPMENT_3_COUNT

/-- the ticket of a summon type -/
def ticket (type : ℤ) : Option ℤ :=
  if type = E.WEAPON then some E.SUMMON_WEAPON_TICKET
  else if type = E.ARMOR then some E.SUMMON_ARMOR_TICKET
  else if type = E.BAG then some E.SUMMON_BAG_TICKET
  else none

/-- steps 1 to 3: the stored state, the table row and the cost -/
def summonRead (type count : ℤ) (cost_type : CostType) (db : Db ρ) : Except ResultType Work :=
  match db.summon with
  | none => .error .FAIL
  | some row =>
    match levelInfo E type row.level with
    | none => .error .NOT_CONDITION
    | some info =>
      let work : Work :=
        ⟨row.level, row.exp, row.reward_step, row.ads_count, row.ads_reset_day, db.equipment, info, count, E.DIAMOND, 0, []⟩
      match cost_type with
      | .COMMON =>
        if count ≤ 0 then .error .FAIL
        else if maxSummonCount E < count then .error .NOT_CONDITION
        else
          let summon_cost := count * E.SUMMON_EQUIPMENT_PRICE
          if E.getUserResource db.resource E.DIAMOND < summon_cost then .error .LACK_RESOURCE
          else .ok { work with summon_cost := summon_cost }
      | .TICKET =>
        if count ≤ 0 then .error .FAIL
        else if maxSummonCount E < count then .error .NOT_CONDITION
        else
          match ticket E type with
          | none => .error .FAIL
          | some idx =>
            if E.getUserItemCount db.resource idx < count then .error .LACK_RESOURCE
            else .ok { work with summon_cost_idx := idx, summon_cost := count }
      | .ADS =>
        match E.watchAds row.ads_count row.ads_reset_day E.SUMMON_ADS_LIMIT with
        | none => .error .NOT_SUMMON_ADS_COOL_TIME
        | some (ads_count, ads_reset_day) =>
          .ok { work with
            summon_count := E.SUMMON_EQUIPMENT_ADS_COUNT, ads_count := ads_count, ads_reset_day := ads_reset_day }
      | .other => .error .FAIL

/-! ## The draw loop -/

/-- the experience of one summon -/
def gainExp (type : ℤ) (w : Work) : Work :=
  let exp := w.exp + 1
  if w.info.next_count ≤ exp then
    match E.byTypeLevel type (w.level + 1) with
    | some next => { w with exp := exp - w.info.next_count, level := w.level + 1, info := next }
    | none => { w with exp := exp }
  else { w with exp := exp }

/-- the result of one summon -/
def addResult (result_idx result_count : ℤ) (w : Work) : Work :=
  let count := match w.user_equipment_count_dict result_idx with
    | some n => n + result_count
    | none => result_count
  { w with
    user_equipment_count_dict := Function.update w.user_equipment_count_dict result_idx (some count)
    summon_results := w.summon_results ++ [⟨result_idx, result_count, count, 0⟩] }

/-- `n` more draws from the i-th on; a missing draw ends the request -/
def summonDraw (type : ℤ) (box : Box) : ℕ → ℕ → Work → Option Work
  | 0, _, w => some w
  | n + 1, i, w =>
    match box i w.info.summon_prob with
    | [] => none
    | (result_idx, result_count) :: _ =>
      summonDraw type box n (i + 1) (addResult result_idx result_count (gainExp E type w))

/-! ## The write transaction -/

/-- `Equipment` of the packet (`Type`, `Level`, ...) -/
structure EquipmentInfo where
  type : ℤ
  level : ℤ
  exp : ℤ
  rewardStep : ℤ
  adsCount : ℤ
  adsResetDay : ℤ
deriving DecidableEq, Repr

structure SummonReply (ρ : Type) where
  result : ResultType
  RewardItems : List ResultData
  SummonResults : List ResultData
  Equipment : Option EquipmentInfo
  db : Db ρ

/-- step 5: the cost, if there is one -/
def consumeCost (w : Work) (db : Db ρ) : Option (ρ × List ResultData) :=
  if 0 < w.summon_cost then E.consumeUserResource db.resource w.summon_cost_idx w.summon_cost
  else some (db.resource, [])

/-- `INSERT ... ON DUPLICATE KEY UPDATE count = VALUES(count)` for the merged results -/
def writeEquipment (merged : List (ℤ × ℤ)) (equipment : ℤ → Option ℤ) : ℤ → Option ℤ :=
  merged.foldl (fun e v => Function.update e v.1 (some v.2)) equipment

/-- steps 5 to 7; a failed cost is rolled back -/
def summonWrite (type : ℤ) (w : Work) (db : Db ρ) : SummonReply ρ :=
  match consumeCost E w db with
  | none => ⟨.LACK_RESOURCE, [], [], none, db⟩
  | some (resource, resultDatas) =>
    ⟨.SUCCESS, resultDatas, w.summon_results,
      some ⟨type, w.level, w.exp, w.reward_step, w.ads_count, w.ads_reset_day⟩,
      { summon := db.summon.map fun row =>
          { row with level := w.level, exp := w.exp, ads_count := w.ads_count, ads_reset_day := w.ads_reset_day }
        equipment := writeEquipment (E.mergeHelperResultData w.summon_results) db.equipment
        resource := resource }⟩

/-- `sp_SummonEquipment.execute` -/
def summonEquipment (type count : ℤ) (cost_type : CostType) (box : Box) (db : Db ρ) : SummonReply ρ :=
  match summonRead E type count cost_type db with
  | .error result => ⟨result, [], [], none, db⟩
  | .ok work =>
    match summonDraw E type box work.summon_count.toNat 0 work with
    | none => ⟨.FAIL, [], [], none, db⟩
    | some w => summonWrite E type w db

/-! ## `sp_SummonReward`, equipment -/

/-- what a supplied reward is for -/
inductive Source where
  | step (level : ℤ)
  | repeated
deriving DecidableEq, Repr

structure Supply where
  source : Source
  code : ℤ
  count : ℤ
deriving DecidableEq, Repr

/-- the supplies of a request so far, with the helper's `ResultDatas` -/
structure Supplied (ρ : Type) where
  resource : ρ
  resultDatas : List ResultData
  supplies : List Supply

/-- `SupplyUserResourceAsCommander` -/
def supply (source : Source) (row : LevelRow) (s : Supplied ρ) : Supplied ρ :=
  let r := E.supplyUserResource s.resource row.reward_code row.reward_count
  ⟨r.1, s.resultDatas ++ r.2, s.supplies ++ [⟨source, row.reward_code, row.reward_count⟩]⟩

/-- the reward row of one level step; a missing row and a row without a reward give nothing -/
def rewardStep (index step_level : ℤ) (s : Supplied ρ) : Supplied ρ :=
  match E.byTypeLevel index step_level with
  | none => s
  | some info => if info.reward_code = 0 then s else supply E (.step step_level) info s

/-- `reward_count` exchanges of experience for the last level's reward -/
def exchange (info : LevelRow) : ℕ → ℤ × Supplied ρ → ℤ × Supplied ρ
  | 0, s => s
  | n + 1, (exp, s) => exchange info n (exp - info.next_count, supply E .repeated info s)

structure RewardReply (ρ : Type) where
  result : ResultType
  Exp : Option ℤ
  RewardStep : Option ℤ
  RewardItems : List ResultData
  /-- the steps whose reward row the loop went through -/
  steps : List ℤ
  supplies : List Supply
  db : Db ρ

/-- `sp_SummonReward.execute` for `CSummonType.EQUIPMENT`; `int(exp / need_exp)` is exact -/
def summonReward (index : ℤ) (db : Db ρ) : RewardReply ρ :=
  match db.summon with
  | none => ⟨.FAIL, none, none, [], [], [], db⟩
  | some row =>
    match (E.table index).getLast? with
    | none => ⟨.FAIL, none, none, [], [], [], db⟩
    | some max_info =>
      let steps := if row.reward_step < row.level then Int.range (row.reward_step + 1) (row.level + 1) else []
      let stepped := steps.foldl (fun s step_level => rewardStep E index step_level s) ⟨db.resource, [], []⟩
      let reward_step := if row.reward_step < row.level then row.level else row.reward_step
      let reward_count := if reward_step = row.level ∧ max_info.level = row.level then
        row.exp.tdiv max_info.next_count else 0
      let exchanged := exchange E max_info reward_count.toNat (row.exp, stepped)
      if row.reward_step < row.level ∨ 0 < reward_count then
        ⟨.SUCCESS, some exchanged.1, some reward_step, exchanged.2.resultDatas, steps, exchanged.2.supplies,
          { db with
            summon := some { row with exp := exchanged.1, reward_step := reward_step }
            resource := exchanged.2.resource }⟩
      else ⟨.ALREADY_REWARD, none, some reward_step, [], [], [], db⟩

end

end GameServer.Summon
