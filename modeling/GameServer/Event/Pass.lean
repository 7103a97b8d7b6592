/-
The event pass of one user, `Python/Event.py`: `sp_EventCommonPassPurchase` and `sp_EventCommonPassReward`.

The pass has steps with a play-count condition each, a free reward and a paid reward. Both tracks have their own counter;
one request collects everything that is due on both tracks by reward code and supplies it. If a supply fails the
transaction is rolled back.

Not under src/: the event calendar, the purchase check and the supply of resources, which may differ from call to call
(`Outside`), and the game tables with `MakeIdx` (`Env`). A packet's result is `none` where the source never sets it.
-/
import Mathlib.Tactic
import GameServer.Core.Tally

namespace GameServer.Event

open GameServer.Core

/-! ## Tables and stored rows -/

/-- a row of `881EventPass` -/
structure PassRow where
  idx : ℤ
  condition : ℤ
  free_reward_code : ℤ
  free_reward_cnt : ℤ
  pass_reward_code : ℤ
  pass_reward_cnt : ℤ
  event808iap_code : ℤ
deriving DecidableEq, Repr

/-- a row of `808EventIAP` -/
structure IapRow where
  billcode_aos : ℤ
  billcode_ios : ℤ
deriving DecidableEq, Repr

/-- the pass columns of a user's event row -/
structure UserRow where
  event_idx : ℤ
  event_uid : ℤ
  is_purchase : ℤ
  reward_step_free : ℤ
  reward_step_paid : ℤ
  play_count : ℤ
deriving DecidableEq, Repr

structure ResultData where
  idx : ℤ
  add_count : ℤ
  result_count : ℤ
deriving DecidableEq, Repr

/-- the user's event row and resources -/
structure Db (ρ : Type) where
  row : Option UserRow
  resource : ρ

structure Env where
  DEFENCE : List ℤ
  THREE_MATCH_B : List ℤ
  SURVIVAL : List ℤ
  /-- the columns that the event tables have -/
  hasColumn : String → Bool
  makeIdx : ℤ → ℤ → ℤ → ℤ
  get881EventPass : ℤ → Option PassRow
  get881EventPassListByType : ℤ → List PassRow
  get808EventIAPByIdx : ℤ → Option IapRow
  CARROT_OIL : ℤ

/-- `PURCHASE_CODE` -/
inductive PurchaseCode where
  | NOT_CORRECT_PURCHASE | ALREADY_PURCHASE | BAD_REQUEST | other
deriving DecidableEq, Repr

/-- what a call meets outside: calendar, purchase check and supply -/
structure Outside (ρ : Type) where
  /-- `event_idx` and `event_uid` of `GetEventRewardStatus`, if the event is on -/
  event_status : Option (ℤ × ℤ)
  isInvolvedEvent : ℤ → ℤ → Bool
  /-- `verify` for a bill code -/
  verify : ℤ → PurchaseCode
  /-- `SupplyUserResourceExAsCommander`, with the two flags for carrot oil; `none` if the helper's `Result` is false -/
  supply : ρ → Bool → ℤ → ℤ → Option (ρ × List ResultData)

/-- `EventCommonResultType` -/
inductive ResultType where
  | SUCCESS | FAIL | NOT_EVENT_DATE | NOT_EVENT_INVOLVE | INCORRECT_DATA | ALREADY_PURCHASE | BAD_PURCHASE_REQUEST
  | ALREADY_REWARD
deriving DecidableEq, Repr

/-! ## Column names -/

/-- `GetEventCommonTableInfo` -/
def getEventCommonTableInfo (E : Env) (event_type : ℤ) : String :=
  if event_type ∈ E.DEFENCE then "TB_USER_EVENT_DEFENCE"
  else if event_type ∈ E.THREE_MATCH_B then "TB_USER_EVENT_THREE_MATCH_B"
  else if event_type ∈ E.SURVIVAL then "TB_USER_EVENT_SURVIVAL"
  else ""

structure PassInfo where
  db_table_name : String
  db_column_is_purchase : String
  db_column_reward_step_free : String
  db_column_reward_step_paid : String
  db_column_play_count : String
deriving DecidableEq, Repr

/-- `GetEventCommonPassInfo`; the three kinds of events use the same names -/
def getEventCommonPassInfo (E : Env) (event_type : ℤ) : Option PassInfo :=
  let table_name := getEventCommonTableInfo E event_type
  if table_name = "" then none
  else if event_type ∈ E.DEFENCE ∨ event_type ∈ E.THREE_MATCH_B ∨ event_type ∈ E.SURVIVAL then
    some ⟨table_name, "is_purchase", "reward_step_free", "reward_step_paid", "play_count"⟩
  else none

section

variable {ρ : Type} (E : Env) (event_type : ℤ) (o : Outside ρ)

/-! ## `sp_EventCommonPassPurchase` -/

/-- the checks of the first transaction: the status of the running event -/
def purchaseCheck (db : Db ρ) : Except ResultType (ℤ × ℤ) :=
  match o.event_status with
  | none => .error .NOT_EVENT_DATE
  | some event_status =>
    match getEventCommonPassInfo E event_type with
    | none => .error .INCORRECT_DATA
    | some info =>
      match db.row with
      | none => .error .NOT_EVENT_INVOLVE
      | some row =>
        if ¬ (E.hasColumn "event_idx" ∧ E.hasColumn "event_uid" ∧ E.hasColumn info.db_column_is_purchase) then
          .error .NOT_EVENT_INVOLVE
        else if o.isInvolvedEvent row.event_idx row.event_uid = false then .error .NOT_EVENT_INVOLVE
        else if row.is_purchase = 1 then .error .ALREADY_PURCHASE
        else .ok event_status

/-- the bill code of the pass; platform 1 is iOS -/
def billCode (platform : ℤ) : Option ℤ :=
  match E.get881EventPass (E.makeIdx 881 event_type 1) with
  | none => none
  | some event_pass_info =>
    match E.get808EventIAPByIdx event_pass_info.event808iap_code with
    | none => none
    | some iap_info => some (if platform = 1 then iap_info.billcode_ios else iap_info.billcode_aos)

/-- `UPDATE ... SET is_purchase = 1` for the row of the running event -/
def setPurchase (event_status : ℤ × ℤ) (row : UserRow) : UserRow :=
  if row.event_idx = event_status.1 ∧ row.event_uid = event_status.2 then { row with is_purchase := 1 } else row

/-- `sp_EventCommonPassPurchase.execute` -/
def passPurchase (platform : ℤ) (db : Db ρ) : ResultType × Db ρ :=
  match purchaseCheck E event_type o db with
  | .error result => (result, db)
  | .ok event_status =>
    match billCode E event_type platform with
    | none => (.INCORRECT_DATA, db)
    | some bill_code =>
      match o.verify bill_code with
      | .NOT_CORRECT_PURCHASE => (.INCORRECT_DATA, db)
      | .ALREADY_PURCHASE => (.ALREADY_PURCHASE, db)
      | .BAD_REQUEST => (.BAD_PURCHASE_REQUEST, db)
      | .other => (.SUCCESS, { db with row := db.row.map (setPurchase event_status) })

/-! ## `sp_EventCommonPassReward` -/

inductive Track where
  | free | paid
deriving DecidableEq, Repr

/-- code and count of a reward -/
def PassRow.reward (row : PassRow) : Track → ℤ × ℤ
  | .free => (row.free_reward_code, row.free_reward_cnt)
  | .paid => (row.pass_reward_code, row.pass_reward_cnt)

/-- the table row of a step -/
def passStep (step : ℤ) : Option PassRow := E.get881EventPass (E.makeIdx 881 event_type step)

/-- the last listed step whose condition is met -/
def rewardStepLv (play_count : ℤ) : ℤ :=
  (E.get881EventPassListByType event_type).foldl
    (fun lv pass_reward => if pass_reward.condition ≤ play_count then pass_reward.idx else lv) 0

/-- the rewards of one track's steps, merged by code; a missing row ends the request -/
def collect (track : Track) : List ℤ → List (ℤ × ℤ) → Option (List (ℤ × ℤ))
  | [], total_reward_dict => some total_reward_dict
  | step :: steps, total_reward_dict =>
    match passStep E event_type step with
    | none => none
    | some reward_info =>
      collect track steps
        (Tally.add total_reward_dict (reward_info.reward track).1 (reward_info.reward track).2)

/-- one supply an entry; a failed one ends the loop -/
def supplyAll : List (ℤ × ℤ) → ρ × List ResultData → Option (ρ × List ResultData)
  | [], s => some s
  | (code, cnt) :: rest, (resource, resultDatas) =>
    match o.supply resource (decide (code = E.CARROT_OIL)) code cnt with
    | none => none
    | some (resource', datas) => supplyAll rest (resource', resultDatas ++ datas)

structure RewardReply (ρ : Type) where
  result : Option ResultType
  RewardItems : List ResultData
  RewardStepFree : Option ℤ
  RewardStepPaid : Option ℤ
  /-- the steps that were rewarded, and what was supplied for them by code -/
  rewarded : List (Track × ℤ)
  supplied : List (ℤ × ℤ)
  db : Db ρ

/-- a request that changes nothing -/
def noReward (result : Option ResultType) (db : Db ρ) : RewardReply ρ := ⟨result, [], none, none, [], [], db⟩

/-- the part of `execute` that starts at the level of the play count -/
def rewardRow (row : UserRow) (db : Db ρ) : RewardReply ρ :=
  let lv := rewardStepLv E event_type row.play_count
  let dueFree : Prop := row.reward_step_free < lv
  let duePaid : Prop := row.reward_step_paid < lv ∧ row.is_purchase = 1
  let stepsFree := if dueFree then Int.range (row.reward_step_free + 1) (lv + 1) else []
  let stepsPaid := if duePaid then Int.range (row.reward_step_paid + 1) (lv + 1) else []
  match collect E event_type .free stepsFree [] with
  | none => noReward none db
  | some free_dict =>
    match collect E event_type .paid stepsPaid free_dict with
    | none => noReward none db
    | some total_reward_dict =>
      if dueFree ∨ duePaid then
        let step_free := if dueFree then lv else row.reward_step_free
        let step_paid := if duePaid then lv else row.reward_step_paid
        match supplyAll E o total_reward_dict (db.resource, []) with
        | none => noReward none db
        | some (resource, resultDatas) =>
          ⟨some .SUCCESS, resultDatas, some step_free, some step_paid,
            stepsFree.map (fun step => (.free, step)) ++ stepsPaid.map (fun step => (.paid, step)), total_reward_dict,
            ⟨some { row with reward_step_free := step_free, reward_step_paid := step_paid }, resource⟩⟩
      else noReward (some .ALREADY_REWARD) db

/-- `sp_EventCommonPassReward.execute` -/
def passReward (db : Db ρ) : RewardReply ρ :=
  match o.event_status with
  | none => noReward (some .NOT_EVENT_DATE) db
  | some _ =>
    match getEventCommonPassInfo E event_type with
    | none => noReward (some .FAIL) db
    | some info =>
      if E.get881EventPassListByType event_type = [] then noReward none db
      else
        match db.row with
        | none => noReward none db
        | some row =>
          if ¬ (E.hasColumn "event_idx" ∧ E.hasColumn "event_uid" ∧ E.hasColumn info.db_column_is_purchase ∧
              E.hasColumn info.db_column_reward_step_free ∧ E.hasColumn info.db_column_reward_step_paid ∧
              E.hasColumn info.db_column_play_count) then noReward none db
          else if o.isInvolvedEvent row.event_idx row.event_uid = false then noReward (some .NOT_EVENT_INVOLVE) db
          else rewardRow E event_type o row db

end

end GameServer.Event
