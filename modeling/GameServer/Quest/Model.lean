/-
Quests of one user, `Python/Quest.py`: the stored rows, the game tables, and the three entry points `QuestRefreshData`,
`QuestOccur` and `sp_QuestReward`.

A daily (weekly) quest has a stored row with its count and its reward step; the main row holds the day and week ids of the
last reset and of the last daily-complete and weekly-complete reward. All entry points reset a stale day or week.

Rows of one user are lists, in the order a `SELECT` returns them. The day and week parts of the functions are textual
copies of each other and differ in the table and in the ids they compare; each is one definition with parameters.

Not under src/: the ids `GetDayID()`, `GetWeekID()` (`Clock`, constant during a call), the game tables (`Tables`; a table
has one row a code), the two quest types with a history column, and `ExecuteSelectList`, which returns every row whose
`idx` is in the list once. `InvenUtil` only collects what is supplied.
-/
import Mathlib.Tactic

namespace GameServer.Quest

/-! ## Stored rows -/

/-- a row of `TB_USER_QUEST_MAIN` -/
structure MainRow where
  idx : ℤ
  complete_count : ℤ
  repeat_count : ℤ
  update_day_id : ℤ
  reward_day_id : ℤ
  update_week_id : ℤ
  reward_week_id : ℤ
deriving DecidableEq, Repr

/-- a row of `TB_USER_QUEST_DAY` or `TB_USER_QUEST_WEEK` -/
structure QuestRow where
  idx : ℤ
  complete_count : ℤ
  reward_step : ℤ
deriving DecidableEq, Repr

/-- a row of `TB_USER_QUEST_ACHIEVE` -/
structure AchieveRow where
  idx : ℤ
  reward_step : ℤ
deriving DecidableEq, Repr

/-- a row of `TB_USER_QUEST_HISTORY` -/
structure HistoryRow where
  artifact_box_open : ℤ
  summon_fly_total : ℤ
deriving DecidableEq, Repr

structure Db where
  main : Option MainRow
  day : List QuestRow
  week : List QuestRow
  achieve : List AchieveRow
  history : Option HistoryRow
deriving DecidableEq, Repr

/-! ## Game tables -/

/-- a row of `QuestMain516` -/
structure MainQuest where
  code : ℤ
  type : ℤ
  quest_type : ℤ
  is_history : ℤ
  condition : ℤ
  count : ℤ
  count_add : ℤ
  count_max : ℤ
  reward_item : ℤ
  reward_count : ℤ
deriving DecidableEq, Repr

/-- a row of `QuestPeriod517` -/
structure PeriodQuest where
  code : ℤ
  type : ℤ
  quest_type : ℤ
  is_history : ℤ
  condition : ℤ
  count : ℤ
  reward_item : List ℤ
  reward_count : List ℤ
deriving DecidableEq, Repr

/-- a row of `QuestAchieve518`; the lists have one entry a step -/
structure AchieveQuest where
  code : ℤ
  quest_type : ℤ
  is_history : ℤ
  condition : ℤ
  count : List ℤ
  reward_item : List ℤ
  reward_count : List ℤ
deriving DecidableEq, Repr

structure Tables where
  main : List MainQuest
  period : List PeriodQuest
  achieve : List AchieveQuest
  /-- the table is keyed by its code -/
  period_codes : (period.map (·.code)).Nodup
  /-- `QUEST_TYPE.ARTIFACT_BOX_OPEN`, `SUMMON_FLY_TOTAL` -/
  artifactBoxOpen : ℤ
  summonFlyTotal : ℤ

/-- `QUEST_GATEGORY_SUB` -/
def MAIN_PROGRESS : ℤ := 1
def MAIN_REPEAT : ℤ := 2
def DAY_NORMAL : ℤ := 1
def DAY_COMPLETE : ℤ := 2
def WEEK_NORMAL : ℤ := 3
def WEEK_COMPLETE : ℤ := 4

namespace Tables

/-- `getDataByName('QuestMain516', code)` -/
def getMain (T : Tables) (code : ℤ) : Option MainQuest := T.main.find? fun tb => tb.code = code

/-- `getDataByName('QuestMain516_type', type)` -/
def getMainType (T : Tables) (type : ℤ) : List MainQuest := T.main.filter fun tb => tb.type = type

/-- `getDataByName('QuestPeriod517', code)` -/
def getPeriod (T : Tables) (code : ℤ) : Option PeriodQuest := T.period.find? fun tb => tb.code = code

/-- `getDataByName('QuestPeriod517_type', type)` -/
def getPeriodType (T : Tables) (type : ℤ) : List PeriodQuest := T.period.filter fun tb => tb.type = type

/-- `getDataByName('QuestAchieve518', code)` -/
def getAchieve (T : Tables) (code : ℤ) : Option AchieveQuest := T.achieve.find? fun tb => tb.code = code

end Tables

/-- `GetDayID()` and `GetWeekID()` -/
structure Clock where
  dayID : ℤ
  weekID : ℤ
deriving DecidableEq, Repr

/-! ## Packets and rewards -/

/-- an entry of the `Main`, `Day`, `Week` or `Achieve` list of a packet -/
structure PbQuest where
  Code : ℤ
  CompleteCount : ℤ
  RewardStep : ℤ
deriving DecidableEq, Repr

inductive HistoryType where
  | artifactBoxOpen
  | summonFlyTotal
deriving DecidableEq, Repr

/-- `UpdateDayID`, `RewardDayID`, `UpdateWeekID`, `RewardWeekID` of a packet -/
structure PbIds where
  UpdateDayID : ℤ
  RewardDayID : ℤ
  UpdateWeekID : ℤ
  RewardWeekID : ℤ
deriving DecidableEq, Repr

/-- the `QuestInfo` part of a packet -/
structure QuestInfo where
  Main : List PbQuest
  Day : List PbQuest
  Week : List PbQuest
  Achieve : List PbQuest
  History : List (HistoryType × ℤ)
  ids : Option PbIds
deriving DecidableEq, Repr

def QuestInfo.empty : QuestInfo := ⟨[], [], [], [], [], none⟩

def QuestRow.pb (r : QuestRow) : PbQuest := ⟨r.idx, r.complete_count, r.reward_step⟩

/-- `__fillMainPacket`; the main quest uses `RewardStep` for its repeat count -/
def fillMainPacket (pb : QuestInfo) (m : MainRow) : QuestInfo :=
  { pb with
    Main := pb.Main ++ [⟨m.idx, m.complete_count, m.repeat_count⟩]
    ids := some ⟨m.update_day_id, m.reward_day_id, m.update_week_id, m.reward_week_id⟩ }

/-- what a reward is for -/
inductive Source where
  | main (code repeatCount : ℤ)
  | day (code : ℤ)
  | dayComplete
  | week (code : ℤ)
  | weekComplete
  | achieve (code step : ℤ)
deriving DecidableEq, Repr

/-- a supplied reward: what it is for, and its items with their counts -/
structure Reward where
  source : Source
  items : List (ℤ × ℤ)
deriving DecidableEq, Repr

inductive ResultType where
  | FAIL | SUCCESS | RENEW_DATE
deriving DecidableEq, Repr

/-- `QUEST_CATEGORY` -/
inductive QuestCategory where
  | MAIN | DAY | DAY_COMPLETE | WEEK | WEEK_COMPLETE | ACHIEVE
deriving DecidableEq, Repr

/-- what a reward request leaves behind -/
structure Reply where
  result : ResultType
  questInfo : QuestInfo
  supplied : List Reward
  db : Db

/-! ## Helpers -/

/-- `QuestFindInList` -/
def questFindInList (idx : ℤ) (rows : List QuestRow) : Option QuestRow := rows.find? fun info => info.idx = idx

/-- `ExecuteSelectList`: the rows whose `idx` is in the list -/
def executeSelectList (rows : List QuestRow) (codes : List ℤ) : List QuestRow := rows.filter fun r => r.idx ∈ codes

/-- `QuestVerify` -/
def questVerify (_complete_count _quest_type _is_history _condition _need_count : ℤ) : Bool := true

/-- the count that a main quest needs -/
def mainNeedCount (tb : MainQuest) (repeat_count : ℤ) : ℤ :=
  if 0 < repeat_count then
    let need_count := tb.count + tb.count_add * (repeat_count - 1)
    if tb.count_max < need_count then tb.count_max else need_count
  else tb.count

def QuestRow.reset (r : QuestRow) : QuestRow := { r with complete_count := 0, reward_step := 0 }

/-! ## `QuestRefreshData` -/

/-- a row is inserted for every table quest that the selected rows miss -/
def insertMissing (tb : List PeriodQuest) (rows : List QuestRow) : List QuestRow :=
  rows ++ (tb.filter fun q => questFindInList q.code rows = none).map fun q => ⟨q.code, 0, 0⟩

/-- the day or week part: the stored rows, and the rows for the packet -/
def refreshRows (tb : List PeriodQuest) (stale : Bool) (rows : List QuestRow) : List QuestRow × List QuestRow :=
  if stale then ((insertMissing tb rows).map QuestRow.reset, []) else (insertMissing tb rows, rows)

/-- a new day (week) clears the id of the last complete reward -/
def refreshMain (c : Clock) (m : MainRow) : MainRow :=
  let m1 := if m.update_day_id ≠ c.dayID then { m with update_day_id := c.dayID, reward_day_id := 0 } else m
  if m1.update_week_id ≠ c.weekID then { m1 with update_week_id := c.weekID, reward_week_id := 0 } else m1

/-- the main row of a user without one -/
def newMain (c : Clock) (code : ℤ) : MainRow := ⟨code, 0, 0, c.dayID, 0, c.weekID, 0⟩

def questRefreshData (T : Tables) (c : Clock) (db : Db) (pb : QuestInfo) : Bool × Db × QuestInfo :=
  match T.getMainType MAIN_PROGRESS with
  | [] => (false, db, pb)
  | tb_main :: _ =>
    let m := db.main.getD (newMain c tb_main.code)
    let day := refreshRows (T.getPeriodType DAY_NORMAL) (m.update_day_id ≠ c.dayID) db.day
    let week := refreshRows (T.getPeriodType WEEK_NORMAL) (m.update_week_id ≠ c.weekID) db.week
    let m' := refreshMain c m
    let history := db.history.getD ⟨0, 0⟩
    let pb1 := fillMainPacket pb m'
    (true, { db with main := some m', day := day.1, week := week.1, history := some history },
      { pb1 with
        Day := pb1.Day ++ day.2.map QuestRow.pb
        Week := pb1.Week ++ week.2.map QuestRow.pb
        Achieve := pb1.Achieve ++ db.achieve.map fun r => ⟨r.idx, 0, r.reward_step⟩
        History := pb1.History ++
          [(.artifactBoxOpen, history.artifact_box_open), (.summonFlyTotal, history.summon_fly_total)] })

/-! ## `QuestOccur` -/

structure Occur where
  type : ℤ
  condition : ℤ
  count : ℤ
deriving DecidableEq, Repr

/-- a working row of `QuestOccur` -/
structure Work where
  idx : ℤ
  complete_count : ℤ
  reward_step : ℤ
  need_update : Bool
  need_send : Bool
deriving DecidableEq, Repr

/-- a stored row as a working row -/
def QuestRow.work (r : QuestRow) : Work := ⟨r.idx, r.complete_count, r.reward_step, false, false⟩

/-- the stored rows after the reset of a stale day (week) -/
def resetRows (stale : Bool) (rows : List QuestRow) : List QuestRow := if stale then rows.map QuestRow.reset else rows

/-- the day or week part of the collection: all table quests if the day is stale, nothing if the complete reward was
taken, else the stored rows whose quest type occurs -/
def collect (tb : List PeriodQuest) (stale rewarded : Bool) (rows : List QuestRow) (occur_list : List Occur) :
    List Work :=
  if stale then tb.map fun q => ⟨q.code, 0, 0, false, true⟩
  else if rewarded then []
  else
    let find_list := (tb.filter fun q => occur_list.any fun o => o.type = q.quest_type).map (·.code)
    if find_list = [] then [] else (executeSelectList rows find_list).map QuestRow.work

/-- `QuestOccurOne` on one working row -/
def occurRow (T : Tables) (o : Occur) (w : Work) : Work :=
  match T.getPeriod w.idx with
  | none => w
  | some tb =>
    if tb.quest_type = o.type ∧ tb.is_history = 0 ∧ w.complete_count < tb.count ∧
        (tb.condition = 0 ∨ tb.condition = o.condition) then
      { w with complete_count := min tb.count (w.complete_count + o.count), need_update := true, need_send := true }
    else w

/-- the working state of `QuestOccur` -/
structure OccurState where
  main : MainRow
  main_update : Bool
  day : List Work
  week : List Work
  history : List (HistoryType × ℤ)

/-- `QuestOccurOne` on the main quest -/
def occurMain (tb : MainQuest) (o : Occur) (s : OccurState) : OccurState :=
  let need_count := mainNeedCount tb s.main.repeat_count
  if tb.quest_type = o.type ∧ tb.is_history = 0 ∧ s.main.complete_count < need_count ∧
      (tb.condition = 0 ∨ tb.condition = o.condition) then
    { s with
      main := { s.main with complete_count := min need_count (s.main.complete_count + o.count) }
      main_update := true }
  else s

/-- `QuestOccurOne` on the history -/
def occurHistory (T : Tables) (o : Occur) : List (HistoryType × ℤ) :=
  if o.type = T.artifactBoxOpen then [(.artifactBoxOpen, o.count)]
  else if o.type = T.summonFlyTotal then [(.summonFlyTotal, o.count)]
  else []

def questOccurOne (T : Tables) (s : OccurState) (o : Occur) : OccurState :=
  match T.getMain s.main.idx with
  | none => s
  | some tb_main =>
    let s1 := occurMain tb_main o s
    { s1 with
      day := s1.day.map (occurRow T o)
      week := s1.week.map (occurRow T o)
      history := s1.history ++ occurHistory T o }

/-- the write-back of the changed working rows -/
def saveRows (rows : List QuestRow) (works : List Work) : List QuestRow :=
  (works.filter (·.need_update)).foldl
    (fun rs w => rs.map fun r => if r.idx = w.idx then { r with complete_count := w.complete_count } else r) rows

/-- one assignment of the history update -/
def addHistory (h : HistoryRow) (a : HistoryType × ℤ) : HistoryRow :=
  match a.1 with
  | .artifactBoxOpen => { h with artifact_box_open := h.artifact_box_open + a.2 }
  | .summonFlyTotal => { h with summon_fly_total := h.summon_fly_total + a.2 }

/-- the working state before the occurrences -/
def occurStart (T : Tables) (c : Clock) (db : Db) (m : MainRow) (occur_list : List Occur) : OccurState :=
  let staleDay : Bool := m.update_day_id ≠ c.dayID
  let staleWeek : Bool := m.update_week_id ≠ c.weekID
  { main := refreshMain c m
    main_update := staleDay || staleWeek
    day := collect (T.getPeriodType DAY_NORMAL) staleDay (m.reward_day_id = c.dayID) db.day occur_list
    week := collect (T.getPeriodType WEEK_NORMAL) staleWeek (m.reward_week_id = c.weekID) db.week occur_list
    history := [] }

def questOccur (T : Tables) (c : Clock) (occur_list : List Occur) (db : Db) (pb : QuestInfo) : Db × QuestInfo :=
  match db.main with
  | none => (db, pb)
  | some m =>
    let s := occur_list.foldl (questOccurOne T) (occurStart T c db m occur_list)
    let pb1 := fillMainPacket pb s.main
    ({ db with
        -- the update leaves `idx` and `repeat_count` alone, and nothing has changed them
        main := some (if s.main_update then s.main else m)
        day := saveRows (resetRows (m.update_day_id ≠ c.dayID) db.day) s.day
        week := saveRows (resetRows (m.update_week_id ≠ c.weekID) db.week) s.week
        history := db.history.map fun h => s.history.foldl addHistory h },
      { pb1 with
        Day := pb1.Day ++ (s.day.filter (·.need_send)).map fun w => ⟨w.idx, w.complete_count, w.reward_step⟩
        Week := pb1.Week ++ (s.week.filter (·.need_send)).map fun w => ⟨w.idx, w.complete_count, w.reward_step⟩
        History := pb1.History ++ s.history })

/-! ## `sp_QuestReward` -/

/-- items with their counts -/
def PeriodQuest.rewards (tb : PeriodQuest) : List (ℤ × ℤ) := tb.reward_item.zip tb.reward_count

/-- a stale day or week: the rows are refreshed and nothing is paid -/
def renewDate (T : Tables) (c : Clock) (db : Db) : Reply :=
  let r := questRefreshData T c db QuestInfo.empty
  ⟨.RENEW_DATE, r.2.2, [], r.2.1⟩

/-- `__procMain` -/
def procMain (T : Tables) (db_main : MainRow) (db : Db) (quest_code : List ℤ) : Reply :=
  match quest_code with
  | [] => ⟨.FAIL, QuestInfo.empty, [], db⟩
  | current_code :: _ =>
    if current_code ≠ db_main.idx then ⟨.FAIL, QuestInfo.empty, [], db⟩
    else
      match T.getMain db_main.idx with
      | none => ⟨.FAIL, QuestInfo.empty, [], db⟩
      | some tb_main =>
        if questVerify db_main.complete_count tb_main.quest_type tb_main.is_history tb_main.condition
            (mainNeedCount tb_main db_main.repeat_count) = false then ⟨.FAIL, QuestInfo.empty, [], db⟩
        else
          -- the next quest, or the first repeated quest with one more repetition
          let next := match T.getMain (current_code + 1) with
            | some tb_next => some (tb_next.code, db_main.repeat_count)
            | none => match T.getMainType MAIN_REPEAT with
              | [] => none
              | tb_repeat :: _ => some (tb_repeat.code, db_main.repeat_count + 1)
          match next with
          | none => ⟨.FAIL, QuestInfo.empty, [], db⟩
          | some (next_code, next_repeat) =>
            let db_main' := { db_main with idx := next_code, complete_count := 0, repeat_count := next_repeat }
            ⟨.SUCCESS, fillMainPacket QuestInfo.empty db_main',
              [⟨.main current_code db_main.repeat_count,
                if 0 < tb_main.reward_item then [(tb_main.reward_item, tb_main.reward_count)] else []⟩],
              { db with main := db.main.map fun m =>
                { m with idx := next_code, complete_count := 0, repeat_count := next_repeat } }⟩

/-- the verification loop of `__procDay` and `__procWeek`: whether it passed, the packet entries, and the rewards -/
def verifyRows (T : Tables) (type : ℤ) (source : ℤ → Source) :
    List QuestRow → List PbQuest → List Reward → Bool × List PbQuest × List Reward
  | [], pb, rewards => (true, pb, rewards)
  | r :: rows, pb, rewards =>
    if r.reward_step ≠ 0 then (false, pb, rewards)
    else
      match T.getPeriod r.idx with
      | none => (false, pb, rewards)
      | some tb =>
        if tb.type ≠ type then (false, pb, rewards)
        else if questVerify r.complete_count tb.quest_type tb.is_history tb.condition tb.count = false then
          (false, pb, rewards)
        else
          verifyRows T type source rows (pb ++ [⟨r.idx, r.complete_count, r.reward_step + 1⟩])
            (rewards ++ [⟨source r.idx, tb.rewards⟩])

/-- `UPDATE ... SET reward_step = reward_step + 1` for each verified row -/
def stepRows (verified rows : List QuestRow) : List QuestRow :=
  verified.foldl
    (fun rs v => rs.map fun r => if r.idx = v.idx then { r with reward_step := r.reward_step + 1 } else r) rows

/-- `__procDay` -/
def procDay (T : Tables) (c : Clock) (db_main : MainRow) (db : Db) (quest_code : List ℤ) : Reply :=
  if db_main.update_day_id ≠ c.dayID then renewDate T c db
  else
    let db_day := executeSelectList db.day quest_code
    if db_day.length ≠ quest_code.length then ⟨.FAIL, QuestInfo.empty, [], db⟩
    else
      match verifyRows T DAY_NORMAL .day db_day [] [] with
      | (false, day, _) => ⟨.FAIL, { QuestInfo.empty with Day := day }, [], db⟩
      | (true, day, rewards) =>
        ⟨.SUCCESS, fillMainPacket { QuestInfo.empty with Day := day } db_main, rewards,
          { db with day := stepRows db_day db.day }⟩

/-- `__procWeek` -/
def procWeek (T : Tables) (c : Clock) (db_main : MainRow) (db : Db) (quest_code : List ℤ) : Reply :=
  if db_main.update_week_id ≠ c.weekID then renewDate T c db
  else
    let db_week := executeSelectList db.week quest_code
    if db_week.length ≠ quest_code.length then ⟨.FAIL, QuestInfo.empty, [], db⟩
    else
      match verifyRows T WEEK_NORMAL .week db_week [] [] with
      | (false, week, _) => ⟨.FAIL, { QuestInfo.empty with Week := week }, [], db⟩
      | (true, week, rewards) =>
        ⟨.SUCCESS, fillMainPacket { QuestInfo.empty with Week := week } db_main, rewards,
          { db with week := stepRows db_week db.week }⟩

/-- the checks that `__procDayComplete` and `__procWeekComplete` make on the table row of the requested code -/
def completeQuest (T : Tables) (type : ℤ) (code : ℤ) : Option PeriodQuest :=
  match T.getPeriod code with
  | none => none
  | some tb =>
    if tb.type ≠ type then none
    else if questVerify 0 tb.quest_type tb.is_history tb.condition tb.count = false then none
    else some tb

/-- `__procDayComplete` -/
def procDayComplete (T : Tables) (c : Clock) (db_main : MainRow) (db : Db) (quest_code : List ℤ) : Reply :=
  match quest_code with
  | [code] =>
    if db_main.reward_day_id = c.dayID then ⟨.FAIL, QuestInfo.empty, [], db⟩
    else if db_main.update_day_id ≠ c.dayID then renewDate T c db
    else
      match completeQuest T DAY_COMPLETE code with
      | none => ⟨.FAIL, QuestInfo.empty, [], db⟩
      | some tb =>
        ⟨.SUCCESS, fillMainPacket QuestInfo.empty { db_main with reward_day_id := c.dayID }, [⟨.dayComplete, tb.rewards⟩],
          { db with main := db.main.map fun m => { m with reward_day_id := c.dayID } }⟩
  | _ => ⟨.FAIL, QuestInfo.empty, [], db⟩

/-- `__procWeekComplete` -/
def procWeekComplete (T : Tables) (c : Clock) (db_main : MainRow) (db : Db) (quest_code : List ℤ) : Reply :=
  match quest_code with
  | [code] =>
    if db_main.reward_week_id = c.weekID then ⟨.FAIL, QuestInfo.empty, [], db⟩
    else if db_main.update_week_id ≠ c.weekID then renewDate T c db
    else
      match completeQuest T WEEK_COMPLETE code with
      | none => ⟨.FAIL, QuestInfo.empty, [], db⟩
      | some tb =>
        ⟨.SUCCESS, fillMainPacket QuestInfo.empty { db_main with reward_week_id := c.weekID },
          [⟨.weekComplete, tb.rewards⟩],
          { db with main := db.main.map fun m => { m with reward_week_id := c.weekID } }⟩
  | _ => ⟨.FAIL, QuestInfo.empty, [], db⟩

/-- what the loop of `__procAchieve` collects -/
structure AchieveWork where
  values_insert : List (ℤ × ℤ)
  values_update : List ℤ
  pb : List PbQuest
  rewards : List Reward

/-- the verification loop of `__procAchieve`: the stored step is read from the rows selected before the loop -/
def verifyAchieve (T : Tables) (selected : List AchieveRow) : List ℤ → AchieveWork → Bool × AchieveWork
  | [], w => (true, w)
  | qcode :: rest, w =>
    match T.getAchieve qcode with
    | none => (false, w)
    | some tb =>
      let userachieve := selected.find? fun r => r.idx = qcode
      let step_idx := match userachieve with
        | none => 0
        | some r => r.reward_step.toNat
      if tb.count.length ≤ step_idx then (false, w)
      else if questVerify 0 tb.quest_type tb.is_history tb.condition (tb.count.getD step_idx 0) = false then (false, w)
      else
        let reward_step : ℤ := step_idx + 1
        verifyAchieve T selected rest {
          values_insert := if userachieve = none then w.values_insert ++ [(qcode, reward_step)] else w.values_insert
          values_update := if userachieve = none then w.values_update else w.values_update ++ [qcode]
          pb := w.pb ++ [⟨qcode, 0, reward_step⟩]
          rewards := w.rewards ++
            [⟨.achieve qcode step_idx, [(tb.reward_item.getD step_idx 0, tb.reward_count.getD step_idx 0)]⟩] }

/-- `__procAchieve` -/
def procAchieve (T : Tables) (db_main : MainRow) (db : Db) (quest_code : List ℤ) : Reply :=
  let selected := db.achieve.filter fun r => r.idx ∈ quest_code
  match verifyAchieve T selected quest_code ⟨[], [], [], []⟩ with
  | (false, w) => ⟨.FAIL, { QuestInfo.empty with Achieve := w.pb }, [], db⟩
  | (true, w) =>
    let inserted := db.achieve ++ w.values_insert.map fun v => (⟨v.1, v.2⟩ : AchieveRow)
    let updated := w.values_update.foldl
      (fun rs q => rs.map fun r => if r.idx = q then { r with reward_step := r.reward_step + 1 } else r) inserted
    ⟨.SUCCESS, fillMainPacket { QuestInfo.empty with Achieve := w.pb } db_main, w.rewards, { db with achieve := updated }⟩

/-- the category switch of `execute` -/
def procReward (T : Tables) (c : Clock) (db_main : MainRow) (db : Db) (category : QuestCategory) (quest_code : List ℤ) :
    Reply :=
  match category with
  | .MAIN => procMain T db_main db quest_code
  | .DAY => procDay T c db_main db quest_code
  | .DAY_COMPLETE => procDayComplete T c db_main db quest_code
  | .WEEK => procWeek T c db_main db quest_code
  | .WEEK_COMPLETE => procWeekComplete T c db_main db quest_code
  | .ACHIEVE => procAchieve T db_main db quest_code

/-- `sp_QuestReward.execute` -/
def questReward (T : Tables) (c : Clock) (category : QuestCategory) (quest_code : List ℤ) (db : Db) : Reply :=
  if quest_code = [] then ⟨.FAIL, QuestInfo.empty, [], db⟩
  else
    match db.main with
    | none => ⟨.FAIL, QuestInfo.empty, [], db⟩
    | some db_main => procReward T c db_main db category quest_code

/-! ## A small game -/

/-- a main quest, a daily and a weekly quest of quest type 7, and their complete rewards -/
def sampleTables : Tables where
  main := [⟨1, MAIN_PROGRESS, 7, 0, 0, 3, 0, 0, 900, 1⟩]
  period := [⟨10, DAY_NORMAL, 7, 0, 0, 2, [901], [1]⟩, ⟨11, DAY_COMPLETE, 0, 0, 0, 1, [902], [1]⟩,
    ⟨20, WEEK_NORMAL, 7, 0, 0, 5, [903], [1]⟩, ⟨21, WEEK_COMPLETE, 0, 0, 0, 1, [904], [1]⟩]
  achieve := []
  period_codes := by decide
  artifactBoxOpen := 30
  summonFlyTotal := 31

/-- day 4 and week 1 were the last to be noticed -/
def sampleDb : Db := ⟨some ⟨1, 1, 0, 4, 4, 1, 0⟩, [⟨10, 2, 1⟩], [⟨20, 2, 0⟩], [], some ⟨3, 0⟩⟩

end GameServer.Quest
