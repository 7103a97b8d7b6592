/-
`FinishGame` of `PHP/PilotCard.php`: the result of one battle, written twice. The first half of the function builds the
`$set`/`$inc` document `$data` for the stored player, the second half repeats the changes on `_PlayerData`.

Each part of the function is one definition: `docScore`, `docWeekly`, ... are the entries of `$data` in the order of the
code, `memScore`, `memWeekly`, ... the assignments to `_PlayerData`. Both read `_PlayerData` (`Player`).

Not under src/, and therefore parameters: the constants of `CONFIG_GAME` (`Config`), and what the managers answer
(`Env`): the clock, the peak-time event, the level and streak tables, `SC`, `ChangeItemAmount`, `LevelupReward`,
`AddWarResult` and the outcome of `UpdateData`. The event bonus `(int)(($x / 100) * $amount)` is a float computation and
a parameter too. Trace and game logs, the score board and the legion scores shown to the client are left out.
-/
import Mathlib.Tactic
import GameServer.Pilot.Model

namespace GameServer.Pilot

open GameServer.Core

/-! ## Data -/

/-- `_PlayerData` -/
abbrev Player := PlayerField → ℤ

abbrev PlayerWrite := Write PlayerField ℤ

/-- constants of `CONFIG_GAME` -/
structure Config where
  MAX_LEVEL : ℤ
  MAX_LIFE : ℤ
  CONSECUTIVE_VICTORY_MAX : ℤ
  RBATTLEPOINT_WINDEFAULT : ℤ
  TUTORIAL_CHECKLVF : ℤ
  TUTORIAL_CHECKLVT : ℤ
  TUTORIAL_LVF_CATEGORY : ℤ
  TUTORIAL_LVT_CATEGORY : ℤ
  TUTORIAL_FIRST_INDEX : ℤ

/-- a row of the level table -/
structure GunMan where
  XpRequired : ℤ
  MReward : ℤ
  GReward : ℤ
deriving DecidableEq, Repr

/-- the arguments of `AddWarResult` after the user id -/
structure WarAdd where
  seasonKey : ℤ
  warKey : ℤ
  legion : ℤ
  seasonPoint : ℤ
deriving DecidableEq, Repr

/-- the array that `AddWarResult` returns -/
structure WarResult where
  Success : ℤ
  legionScore1 : ℤ
  legionScore2 : ℤ
deriving DecidableEq, Repr

structure Env where
  currentTime : ℤ
  nextResetTime : ℤ
  /-- `IsPeakTimeEventApply` (0 is false) and the reward of the event -/
  eventFlag : ℤ
  eventRewardType : String
  eventRewardAmount : ℤ
  /-- `(int)(($x / 100) * $amount)` -/
  percent : ℤ → ℤ → ℤ
  SC : String → String → Bool
  /-- `MaxAmount` of an item row, if there is a row and if the column is set -/
  itemMaxAmount : ℤ → Option (Option ℤ)
  changeItemAmount : (ℤ → ℤ) → ℤ → ℤ → ℤ → ℤ → ℤ
  findGunManData : ℤ → Option GunMan
  levelupReward : ℤ → Bool
  /-- `VicAddContribution` of `GetVicReward`, if there is a row and if the column is set -/
  vicAddContribution : ℤ → Option ℤ
  /-- `none` if the result is not an array -/
  addWarResult : WarAdd → Option WarResult
  /-- whether `UpdateData` succeeds -/
  updateData : Update PlayerField ℤ → Bool

/-- the arguments of `FinishGame` -/
structure Battle where
  VicType : String
  UseItemArray : List (ℤ × ℤ)
  Score : ℤ
  Exp : ℤ
  Gold : ℤ
  PlayTime : ℤ

/-- everything that `FinishGame` can change -/
structure World where
  /-- item amounts -/
  items : ℤ → ℤ
  /-- the levels that a level-up mail was sent for -/
  mails : List ℤ
  /-- the calls of `AddWarResult` -/
  war : List WarAdd
  /-- the PLAYER document -/
  doc : PlayerField → Option ℤ
  mem : Player

/-- values passed to `AddResult` -/
inductive ResultValue where
  | int (n : ℤ)
  | str (s : String)
deriving DecidableEq, Repr

/-! ## Step 1: items -/

/-- one used item; the basic missile 5000000 is not counted -/
def useItem (E : Env) (items : ℤ → ℤ) (use : ℤ × ℤ) : ℤ → ℤ :=
  match E.itemMaxAmount use.1 with
  | none => items
  | some maxAmount =>
    if use.1 = 5000000 then items else E.changeItemAmount items use.1 (maxAmount.getD 1) (-use.2)

/-! ## The peak-time event -/

/-- the battle with the event bonus on gold, score or experience -/
def applyEvent (E : Env) (b : Battle) : Battle :=
  let applies := E.eventFlag = 1 ∨ E.eventFlag = 2
  let rewardType := if applies then E.eventRewardType else ""
  let rewardAmount := if applies then E.eventRewardAmount else 0
  if E.eventFlag ≠ 0 ∧ rewardType = "G" then { b with Gold := b.Gold + E.percent b.Gold rewardAmount }
  else if E.eventFlag ≠ 0 ∧ rewardType = "S" then { b with Score := b.Score + E.percent b.Score rewardAmount }
  else if E.eventFlag ≠ 0 ∧ rewardType = "X" then { b with Exp := b.Exp + E.percent b.Exp rewardAmount }
  else b

/-- `$ThisWeekStart` -/
def Env.thisWeekStart (E : Env) : ℤ := E.nextResetTime - 3600 * 24 * 7

/-! ## Step 2: the document -/

/-- 2-1, 2-2: recent and top score -/
def docScore (E : Env) (b : Battle) (p : Player) : List PlayerWrite :=
  [.set .RecentScore b.Score, .set .RecentScoreDateTime E.currentTime] ++
    if p .TopScore < b.Score then [.set .TopScore b.Score, .set .TopScoreDateTime E.currentTime] else []

/-- 2-3: weekly score -/
def docWeekly (E : Env) (b : Battle) (p : Player) : List PlayerWrite :=
  if E.thisWeekStart < p .WeeklyAccumulateScoreDateTime then
    (if p .WeeklyTopScore < b.Score then
      [.set .WeeklyTopScore b.Score, .set .WeeklyTopScoreDateTime E.currentTime]
    else []) ++
    [.inc .WeeklyAccumulateScore b.Score, .set .WeeklyAccumulateScoreDateTime E.currentTime]
  else
    [.set .WeeklyTopScore b.Score, .set .WeeklyTopScoreDateTime E.currentTime, .set .WeeklyAccumulateScore b.Score,
      .set .WeeklyAccumulateScoreDateTime E.currentTime]

/-- 2-4: play, victory and defeat counters -/
def docPlay (E : Env) (b : Battle) (p : Player) : List PlayerWrite :=
  ([.inc .TotalPlayCount 1, .inc .TotalPlayTime b.PlayTime, .set .TotalPlayTimeDateTime E.currentTime] :
    List PlayerWrite) ++
    if E.thisWeekStart < p .WeeklyPlayCountDateTime then
      ([.inc .WeeklyPlayCount 1, .set .WeeklyPlayCountDateTime E.currentTime, .inc .WeeklyPlayTime b.PlayTime,
        .set .WeeklyPlayTimeDateTime E.currentTime] : List PlayerWrite) ++
        (if b.VicType = "VIC" then
          [.inc .TotalVictoryCount 1, .inc .WeeklyVictoryCount 1, .set .WeeklyVictoryCountDateTime E.currentTime]
        else
          [.inc .TotalDefeatCount 1, .inc .WeeklyDefeatCount 1, .set .WeeklyDefeatCountDateTime E.currentTime] :
          List PlayerWrite)
    else
      ([.set .WeeklyPlayCount 1, .set .WeeklyPlayCountDateTime E.currentTime, .set .WeeklyPlayTime b.PlayTime,
        .set .WeeklyPlayTimeDateTime E.currentTime] : List PlayerWrite) ++
        (if b.VicType = "VIC" then
          [.inc .TotalVictoryCount 1, .set .WeeklyVictoryCount 1, .set .WeeklyDefeatCount 0,
            .set .WeeklyVictoryCountDateTime E.currentTime]
        else
          [.inc .TotalDefeatCount 1, .set .WeeklyVictoryCount 0, .set .WeeklyDefeatCount 1,
            .set .WeeklyDefeatCountDateTime E.currentTime] : List PlayerWrite)

/-! ## Step 3: level -/

/-- what the level step hands on: entries of `$data`, rewards, and the new level with the remaining experience -/
structure LevelStep where
  data : List PlayerWrite
  medal : ℤ
  gold : ℤ
  levelUp : Option (ℤ × ℤ)
  results : List (String × ResultValue)

/-- the medal or gold of a new level: type and amount -/
def levelPrize (future : GunMan) : String × ℤ :=
  if 0 < future.MReward then ("M", future.MReward) else if 0 < future.GReward then ("G", future.GReward) else ("X", 0)

/-- `none` is `return false`: one of the two level rows is missing -/
def docLevel (cfg : Config) (E : Env) (b : Battle) (p : Player) : Option LevelStep :=
  if p .Level < cfg.MAX_LEVEL then
    let futureEXP := p .Exp + b.Exp
    match E.findGunManData (p .Level), E.findGunManData (p .Level + 1) with
    | some current, some future =>
      if current.XpRequired ≤ futureEXP then
        let prize := levelPrize future
        let newLevel := p .Level + 1
        let remainEXP := futureEXP - current.XpRequired
        some {
          data := [.inc .Level 1, .set .Exp remainEXP] ++
            (if p .Life < cfg.MAX_LIFE then [.set .Life cfg.MAX_LIFE, .set .LifeUseDateTime E.currentTime] else []) ++
            if newLevel = cfg.TUTORIAL_CHECKLVF then
              [.set .TutorialStepCategory cfg.TUTORIAL_LVF_CATEGORY, .set .TutorialStepIndex cfg.TUTORIAL_FIRST_INDEX]
            else if newLevel = cfg.TUTORIAL_CHECKLVT then
              [.set .TutorialStepCategory cfg.TUTORIAL_LVT_CATEGORY, .set .TutorialStepIndex cfg.TUTORIAL_FIRST_INDEX]
            else []
          medal := if prize.1 = "M" then prize.2 else 0
          gold := if prize.1 = "G" then prize.2 else 0
          levelUp := some (newLevel, remainEXP)
          results := [("lvupRewardType", .str prize.1), ("lvupRewardAmount", .int prize.2)] ++
            if E.levelupReward newLevel then [("lvuppostboxreward", .int 1)] else [] }
      else some ⟨[.inc .Exp b.Exp], 0, 0, none, []⟩
    | _, _ => none
  else some ⟨[], 0, 0, none, []⟩

/-! ## Step 4: streak and random battle -/

/-- `$OriginalConsecutiveVictory` -/
def streak (b : Battle) (p : Player) : ℤ := if b.VicType = "VIC" then p .PVP_ConsecutiveVictory + 1 else 0

def docStreak (cfg : Config) (E : Env) (b : Battle) (p : Player) : List PlayerWrite :=
  [.set .PVP_LastConsecutiveVictory (p .PVP_ConsecutiveVictory)] ++
    if b.VicType = "VIC" then
      (if p .PVP_TopConsecutiveVictory < streak b p then
        [.set .PVP_TopConsecutiveVictory (streak b p), .set .PVP_TopConsecutiveVictoryDateTime E.currentTime]
      else []) ++
      if cfg.CONSECUTIVE_VICTORY_MAX ≤ streak b p then [.set .PVP_ConsecutiveVictory 0]
      else [.inc .PVP_ConsecutiveVictory 1]
    else [.set .PVP_ConsecutiveVictory 0]

/-- the points of a war win: the default, and the contribution of the streak -/
def warPoints (cfg : Config) (E : Env) (b : Battle) (p : Player) : ℤ :=
  cfg.RBATTLEPOINT_WINDEFAULT + (E.vicAddContribution (streak b p)).getD 0

/-- whether the battle counts for a war -/
def warWin (E : Env) (b : Battle) (p : Player) : Bool := E.SC b.VicType "VIC" && decide (p .RBattleWarKey ≠ 0)

/-- the call of `AddWarResult` -/
def warAdd (cfg : Config) (E : Env) (b : Battle) (p : Player) : WarAdd :=
  ⟨p .RBattleSeasonKey, p .RBattleWarKey, p .RBattleLegion, warPoints cfg E b p⟩

/-- `$GainRBattleSeasonPoint`, `$GainRBattleWarPoint` and the legion scores, if the war result was added -/
def warGain (cfg : Config) (E : Env) (b : Battle) (p : Player) : Option (ℤ × ℤ × WarResult) :=
  if warWin E b p then
    match E.addWarResult (warAdd cfg E b p) with
    | none => none
    | some r => some (warPoints cfg E b p, if r.Success = 0 then 0 else warPoints cfg E b p, r)
  else none

def docWar (gain : Option (ℤ × ℤ × WarResult)) : List PlayerWrite :=
  match gain with
  | none => []
  | some (season, war, _) => [.inc .RBattleSeasonPoint season, .inc .RBattleWarPoint war]

/-- `$data` -/
def finishData (cfg : Config) (E : Env) (b : Battle) (p : Player) (lv : LevelStep) : List PlayerWrite :=
  docScore E b p ++ docWeekly E b p ++ docPlay E b p ++ lv.data ++ [.inc .Gold (b.Gold + lv.gold)] ++
    docStreak cfg E b p ++ [.inc .Medal lv.medal] ++ docWar (warGain cfg E b p)

/-! ## The same changes in memory -/

def memScore (E : Env) (b : Battle) (p : Player) : List PlayerWrite :=
  [.set .RecentScore b.Score, .set .RecentScoreDateTime E.currentTime] ++
    if p .TopScore < b.Score then [.set .TopScore b.Score, .set .TopScoreDateTime E.currentTime] else []

def memWeekly (E : Env) (b : Battle) (p : Player) : List PlayerWrite :=
  if E.thisWeekStart < p .WeeklyAccumulateScoreDateTime then
    (if p .WeeklyTopScore < b.Score then
      [.set .WeeklyTopScore b.Score, .set .WeeklyTopScoreDateTime E.currentTime]
    else []) ++
    [.inc .WeeklyAccumulateScore b.Score, .set .WeeklyAccumulateScoreDateTime E.currentTime]
  else
    [.set .WeeklyTopScore b.Score, .set .WeeklyTopScoreDateTime E.currentTime, .set .WeeklyAccumulateScore b.Score,
      .set .WeeklyAccumulateScoreDateTime E.currentTime]

def memPlay (E : Env) (b : Battle) (p : Player) : List PlayerWrite :=
  ([.inc .TotalPlayCount 1, .inc .TotalPlayTime b.PlayTime, .set .TotalPlayTimeDateTime E.currentTime] :
    List PlayerWrite) ++
    if E.thisWeekStart < p .WeeklyPlayCountDateTime then
      ([.inc .WeeklyPlayCount 1, .set .WeeklyPlayCountDateTime E.currentTime, .inc .WeeklyPlayTime b.PlayTime,
        .set .WeeklyPlayTimeDateTime E.currentTime] : List PlayerWrite) ++
        (if b.VicType = "VIC" then
          [.inc .TotalVictoryCount 1, .inc .WeeklyVictoryCount 1, .set .WeeklyVictoryCountDateTime E.currentTime]
        else
          [.inc .TotalDefeatCount 1, .inc .WeeklyDefeatCount 1, .set .WeeklyDefeatCountDateTime E.currentTime] :
          List PlayerWrite)
    else
      ([.set .WeeklyPlayCount 1, .set .WeeklyPlayCountDateTime E.currentTime, .set .WeeklyPlayTime b.PlayTime,
        .set .WeeklyPlayTimeDateTime E.currentTime] : List PlayerWrite) ++
        (if b.VicType = "VIC" then
          [.inc .TotalVictoryCount 1, .set .WeeklyVictoryCount 1, .set .WeeklyDefeatCount 0,
            .set .WeeklyVictoryCountDateTime E.currentTime]
        else
          [.inc .TotalDefeatCount 1, .set .WeeklyVictoryCount 0, .set .WeeklyDefeatCount 1,
            .set .WeeklyDefeatCountDateTime E.currentTime] : List PlayerWrite)

/-- without a new level the experience is added at every level, also at the maximum -/
def memLevel (cfg : Config) (E : Env) (b : Battle) (levelUp : Option (ℤ × ℤ)) (p : Player) : List PlayerWrite :=
  match levelUp with
  | some (newLevel, remainEXP) => [.set .Level newLevel, .set .Exp remainEXP] ++
      if p .Life < cfg.MAX_LIFE then [.set .Life cfg.MAX_LIFE, .set .LifeUseDateTime E.currentTime] else []
  | none => [.inc .Exp b.Exp]

/-- `original` is `$OriginalConsecutiveVictory` -/
def memStreak (cfg : Config) (E : Env) (b : Battle) (original : ℤ) (p : Player) : List PlayerWrite :=
  [.set .PVP_LastConsecutiveVictory (p .PVP_ConsecutiveVictory)] ++
    if b.VicType = "VIC" then
      (if p .PVP_TopConsecutiveVictory < original then
        [.set .PVP_TopConsecutiveVictory original, .set .PVP_TopConsecutiveVictoryDateTime E.currentTime]
      else []) ++
      if cfg.CONSECUTIVE_VICTORY_MAX ≤ original then [.set .PVP_ConsecutiveVictory 0]
      else [.inc .PVP_ConsecutiveVictory 1]
    else [.set .PVP_ConsecutiveVictory 0]

/-- the points are added if the season points are positive -/
def memWar (gain : Option (ℤ × ℤ × WarResult)) : List PlayerWrite :=
  match gain with
  | none => []
  | some (season, war, _) => if 0 < season then [.inc .RBattleSeasonPoint season, .inc .RBattleWarPoint war] else []

/-- the second half of the function: each part reads the memory that the parts before it have left -/
def finishMem (cfg : Config) (E : Env) (b : Battle) (p : Player) (lv : LevelStep) : Player :=
  let p1 := exec p [.inc .Gold (b.Gold + lv.gold)]
  let p2 := exec p1 (memScore E b p1)
  let p3 := exec p2 (memWeekly E b p2)
  let p4 := exec p3 (memPlay E b p3)
  let p5 := exec p4 (memLevel cfg E b lv.levelUp p4)
  let p6 := exec p5 (memStreak cfg E b (streak b p) p5)
  let p7 := exec p6 [.inc .Medal lv.medal]
  exec p7 (memWar (warGain cfg E b p))

/-! ## `FinishGame` -/

/-- what `FinishGame` returns: its result, the streak for `$Ref_RewardCVCount` (set by a win), the values passed to
`AddResult` -/
structure FinishOut where
  ok : Bool
  rewardCVCount : Option ℤ
  results : List (String × ResultValue)

/-- the results after a successful update -/
def finishResults (cfg : Config) (E : Env) (b : Battle) (p : Player) (lv : LevelStep) : List (String × ResultValue) :=
  lv.results ++ [("cvc", .int (streak b p))] ++
    match warGain cfg E b p with
    | none => []
    | some (season, _, r) =>
      if 0 < season then
        [("rbattle_point", .int season), ("rbattle_legionscore1", .int r.legionScore1),
          ("rbattle_legionscore2", .int r.legionScore2)]
      else []

def finishGame (cfg : Config) (E : Env) (w : World) (arg : Battle) : FinishOut × World :=
  let w1 := { w with items := arg.UseItemArray.foldl (useItem E) w.items }
  let b := applyEvent E arg
  match docLevel cfg E b w.mem with
  | none => (⟨false, none, []⟩, w1)
  | some lv =>
    let w2 := { w1 with
      mails := match lv.levelUp with
        | none => w1.mails
        | some (newLevel, _) => w1.mails ++ [newLevel]
      war := if warWin E b w.mem then w1.war ++ [warAdd cfg E b w.mem] else w1.war }
    let data := Update.ofWrites (finishData cfg E b w.mem lv)
    if E.updateData data = false then (⟨false, none, lv.results⟩, w2)
    else
      (⟨true, if b.VicType = "VIC" then some (streak b w.mem) else none, finishResults cfg E b w.mem lv⟩,
        { w2 with doc := data.apply w.doc, mem := finishMem cfg E b w.mem lv })

end GameServer.Pilot
