/-
The statistics that `FinishGame` keeps in `_PlayerData` are folds over the games played.

A weekly counter is set in the first game of a week and incremented in the later ones; which of the two it is, is read
from the time of the last game. In both cases the new value is the old one, or 0 in a new week, plus what the game adds
(`docPlay_effect`, `docWeekly_effect`). So each weekly counter is the sum over the games of the current week, which is a
`window` of the log, and each step of `statistics_fold` extends the log by one game.
-/
import Mathlib.Tactic
import GameServer.Core.Run
import GameServer.Core.Window
import GameServer.Pilot.Agreement

namespace GameServer.Pilot

open GameServer.Core

/-! ## Games -/

/-- what the statistics record of a game: scores are those after the event bonus -/
structure Game where
  time : ℤ
  score : ℤ
  playTime : ℤ
  win : Bool
deriving DecidableEq

/-- a call of `FinishGame` -/
abbrev FinishCall := Env × Battle

def game (c : FinishCall) : Game :=
  let b := applyEvent c.1 c.2
  ⟨c.1.currentTime, b.Score, b.PlayTime, decide (b.VicType = "VIC")⟩

def week : ℤ := 3600 * 24 * 7

/-- the games of the week that starts after `S` -/
def weekGames (S : ℤ) (games : List Game) : List Game := window Game.time week S games

/-- the streak that a game reaches: a loss reaches none -/
def reached (streak : ℤ) (win : Bool) : ℤ := if win then streak + 1 else 0

/-- a streak starts again after a loss and after the longest streak -/
def nextStreak (longest streak : ℤ) (win : Bool) : ℤ :=
  if longest ≤ reached streak win then 0 else reached streak win

def currentStreak (longest : ℤ) (games : List Game) : ℤ :=
  games.foldl (fun streak g => nextStreak longest streak g.win) 0

/-- the streaks reached, game by game -/
def streaks (longest : ℤ) : ℤ → List Game → List ℤ
  | _, [] => []
  | streak, g :: games => reached streak g.win :: streaks longest (nextStreak longest streak g.win) games

theorem reached_nonneg {streak : ℤ} (h : 0 ≤ streak) (win : Bool) : 0 ≤ reached streak win := by
  unfold reached
  split_ifs <;> omega

theorem nextStreak_nonneg {streak : ℤ} (h : 0 ≤ streak) (longest : ℤ) (win : Bool) :
    0 ≤ nextStreak longest streak win := by
  have := reached_nonneg h win
  unfold nextStreak
  split_ifs <;> omega

theorem currentStreak_snoc (longest : ℤ) (games : List Game) (g : Game) :
    currentStreak longest (games ++ [g]) = nextStreak longest (currentStreak longest games) g.win := by
  simp [currentStreak, List.foldl_append]

theorem streaks_append (longest streak : ℤ) (games : List Game) (g : Game) :
    streaks longest streak (games ++ [g]) = streaks longest streak games ++
      [reached (games.foldl (fun s g => nextStreak longest s g.win) streak) g.win] := by
  induction games generalizing streak with
  | nil => rfl
  | cons g' games ih => simp only [List.cons_append, streaks, ih, List.foldl_cons]

theorem streaks_snoc (longest : ℤ) (games : List Game) (g : Game) :
    streaks longest 0 (games ++ [g]) = streaks longest 0 games ++ [reached (currentStreak longest games) g.win] :=
  streaks_append longest 0 games g

theorem streaks_nonneg (longest : ℤ) {streak : ℤ} (h : 0 ≤ streak) (games : List Game) :
    ∀ x ∈ streaks longest streak games, 0 ≤ x := by
  induction games generalizing streak with
  | nil => simp [streaks]
  | cons g games ih =>
    intro x hx
    rcases List.mem_cons.1 hx with rfl | hmem
    · exact reached_nonneg h g.win
    · exact ih (nextStreak_nonneg h longest g.win) x hmem

/-! ## What one call does to a field -/

/-- the value that a weekly counter carries on -/
def carried (E : Env) (stamp v : ℤ) : ℤ := if E.thisWeekStart < stamp then v else 0

section

variable (cfg : Config) (E : Env) (b : Battle) (p : Player)

theorem docScore_effect : effect (docScore E b p) .TopScore (p .TopScore) = max (p .TopScore) b.Score := by
  unfold docScore
  split_ifs with h
  · simp [max_eq_right h.le]
  · simp [max_eq_left (not_lt.1 h)]

/-- the weekly scores after a game -/
structure WeeklyEffect : Prop where
  accumulateScore : ∀ v, effect (docWeekly E b p) .WeeklyAccumulateScore v =
    carried E (p .WeeklyAccumulateScoreDateTime) v + b.Score
  dateTime : ∀ v, effect (docWeekly E b p) .WeeklyAccumulateScoreDateTime v = E.currentTime
  topScore : 0 ≤ b.Score → effect (docWeekly E b p) .WeeklyTopScore (p .WeeklyTopScore) =
    max (carried E (p .WeeklyAccumulateScoreDateTime) (p .WeeklyTopScore)) b.Score

theorem docWeekly_effect : WeeklyEffect E b p := by
  refine ⟨?_, ?_, ?_⟩
  · intro v
    unfold docWeekly carried
    split_ifs <;> simp
  · intro v
    unfold docWeekly
    split_ifs <;> simp
  · intro hscore
    unfold docWeekly carried
    split_ifs with hweek htop
    · simp [max_eq_right htop.le]
    · simp [max_eq_left (not_lt.1 htop)]
    · simp [max_eq_right hscore]

/-- the play counters after a game: a win or a loss counts 1 -/
structure PlayEffect : Prop where
  weeklyPlayCount : ∀ v, effect (docPlay E b p) .WeeklyPlayCount v = carried E (p .WeeklyPlayCountDateTime) v + 1
  dateTime : ∀ v, effect (docPlay E b p) .WeeklyPlayCountDateTime v = E.currentTime
  weeklyPlayTime : ∀ v, effect (docPlay E b p) .WeeklyPlayTime v =
    carried E (p .WeeklyPlayCountDateTime) v + b.PlayTime
  weeklyVictoryCount : ∀ v, effect (docPlay E b p) .WeeklyVictoryCount v =
    carried E (p .WeeklyPlayCountDateTime) v + if b.VicType = "VIC" then 1 else 0
  weeklyDefeatCount : ∀ v, effect (docPlay E b p) .WeeklyDefeatCount v =
    carried E (p .WeeklyPlayCountDateTime) v + if b.VicType = "VIC" then 0 else 1
  totalPlayCount : ∀ v, effect (docPlay E b p) .TotalPlayCount v = v + 1
  totalVictoryCount : ∀ v, effect (docPlay E b p) .TotalVictoryCount v = v + if b.VicType = "VIC" then 1 else 0
  totalDefeatCount : ∀ v, effect (docPlay E b p) .TotalDefeatCount v = v + if b.VicType = "VIC" then 0 else 1

theorem docPlay_effect : PlayEffect E b p := by
  constructor <;> intro v <;> unfold docPlay <;> (try unfold carried) <;> split_ifs <;> simp

theorem docStreak_effect (htop : 0 ≤ p .PVP_TopConsecutiveVictory) :
    effect (docStreak cfg E b p) .PVP_ConsecutiveVictory (p .PVP_ConsecutiveVictory) =
        nextStreak cfg.CONSECUTIVE_VICTORY_MAX (p .PVP_ConsecutiveVictory) (decide (b.VicType = "VIC")) ∧
      effect (docStreak cfg E b p) .PVP_TopConsecutiveVictory (p .PVP_TopConsecutiveVictory) =
        max (p .PVP_TopConsecutiveVictory) (reached (p .PVP_ConsecutiveVictory) (decide (b.VicType = "VIC"))) := by
  unfold docStreak streak nextStreak reached
  by_cases hvic : b.VicType = "VIC"
  · simp only [hvic, if_true, decide_true]
    split_ifs with hbest hlong
    · simp [max_eq_right hbest.le]
    · simp [max_eq_right hbest.le]
    · simp [max_eq_left (not_lt.1 hbest)]
    · simp [max_eq_left (not_lt.1 hbest)]
  · simp [hvic, htop]

end

/-! ## The invariant -/

/-- the statistics of all games and of those of the current week; both weekly clocks show the last game -/
structure Kept (cfg : Config) (games current : List Game) (stamp : ℤ) (p : Player) : Prop where
  playCountDateTime : p .WeeklyPlayCountDateTime = stamp
  accumulateScoreDateTime : p .WeeklyAccumulateScoreDateTime = stamp
  weeklyPlayCount : p .WeeklyPlayCount = current.length
  weeklyVictoryCount : p .WeeklyVictoryCount = current.countP Game.win
  weeklyDefeatCount : p .WeeklyDefeatCount = current.countP fun g => !g.win
  weeklyPlayTime : p .WeeklyPlayTime = (current.map Game.playTime).sum
  weeklyAccumulateScore : p .WeeklyAccumulateScore = (current.map Game.score).sum
  weeklyTopScore : p .WeeklyTopScore = top (current.map Game.score)
  totalPlayCount : p .TotalPlayCount = games.length
  totalVictoryCount : p .TotalVictoryCount = games.countP Game.win
  totalDefeatCount : p .TotalDefeatCount = games.countP fun g => !g.win
  topScore : p .TopScore = top (games.map Game.score)
  consecutiveVictory : p .PVP_ConsecutiveVictory = currentStreak cfg.CONSECUTIVE_VICTORY_MAX games
  topConsecutiveVictory : p .PVP_TopConsecutiveVictory = top (streaks cfg.CONSECUTIVE_VICTORY_MAX 0 games)

/-- the fields of the statistics -/
def statistics : List PlayerField :=
  [.WeeklyPlayCount, .WeeklyPlayCountDateTime, .WeeklyVictoryCount, .WeeklyDefeatCount, .WeeklyPlayTime,
    .WeeklyAccumulateScore, .WeeklyAccumulateScoreDateTime, .WeeklyTopScore, .TotalPlayCount, .TotalVictoryCount,
    .TotalDefeatCount, .TopScore, .PVP_ConsecutiveVictory, .PVP_TopConsecutiveVictory]

theorem Kept.new {p : Player} (h : ∀ f ∈ statistics, p f = 0) (cfg : Config) : Kept cfg [] [] 0 p := by
  constructor <;> exact h _ (by decide)

/-- the carried value of a counter is the counter of the games that are carried on -/
theorem carried_eq (E : Env) (stamp : ℤ) (current : List Game) (count : List Game → ℤ) (hnil : count [] = 0) :
    carried E stamp (count current) = count (if E.thisWeekStart < stamp then current else []) := by
  unfold carried
  split_ifs
  · rfl
  · exact hnil.symm

/-- a weekly counter goes on in its week and starts again in a new one -/
theorem counter_step {E : Env} {clock stamp old new add : ℤ} {current : List Game} {g : Game} {f : List Game → ℤ}
    (hclock : clock = stamp) (hold : old = f current) (hnew : new = carried E clock old + add) (hnil : f [] = 0)
    (hsnoc : ∀ l, f (l ++ [g]) = f l + add) :
    new = f ((if E.thisWeekStart < stamp then current else []) ++ [g]) := by
  calc new = carried E stamp (f current) + add := by rw [hnew, hold, hclock]
    _ = f (if E.thisWeekStart < stamp then current else []) + add := by rw [carried_eq E stamp current f hnil]
    _ = f ((if E.thisWeekStart < stamp then current else []) ++ [g]) := (hsnoc _).symm

/-- step lemma -/
theorem Kept.step {cfg : Config} {E : Env} {arg : Battle} {w : World} {games current : List Game} {stamp : ℤ}
    (h : Kept cfg games current stamp w.mem) (hok : (finishGame cfg E w arg).1.ok = true)
    (hscore : 0 ≤ (game (E, arg)).score) :
    Kept cfg (games ++ [game (E, arg)])
      ((if E.thisWeekStart < stamp then current else []) ++ [game (E, arg)]) E.currentTime
      (finishGame cfg E w arg).2.mem := by
  obtain ⟨lv, -, -, hmem⟩ := finishGame_ok hok
  rw [hmem]
  set b := applyEvent E arg
  set p := w.mem
  have hg : game (E, arg) = ⟨E.currentTime, b.Score, b.PlayTime, decide (b.VicType = "VIC")⟩ := rfl
  rw [hg] at hscore ⊢
  -- the new value of a field is what its own part of the call makes of the old one
  have hplays : ∀ f : PlayerField, f.part = .play → finishMem cfg E b p lv f = effect (docPlay E b p) f (p f) := by
    intro f hf
    exact finishMem_apply lv (by simp [memParts, hf])
  have hweeks : ∀ f : PlayerField, f.part = .weekly → finishMem cfg E b p lv f = effect (docWeekly E b p) f (p f) := by
    intro f hf
    exact finishMem_apply lv (by simp [memParts, hf])
  have hscores : finishMem cfg E b p lv .TopScore = effect (docScore E b p) .TopScore (p .TopScore) :=
    finishMem_apply lv (by simp [memParts, PlayerField.part])
  have hstreaks : ∀ f : PlayerField, f.part = .streak →
      finishMem cfg E b p lv f = effect (docStreak cfg E b p) f (p f) := by
    intro f hf
    exact finishMem_apply lv (by simp [memParts, hf])
  have hplay := docPlay_effect E b p
  have hweek := docWeekly_effect E b p
  have hstreak := docStreak_effect cfg E b p (by rw [h.topConsecutiveVictory]; exact top_nonneg _)
  refine ⟨?_, ?_, ?_, ?_, ?_, ?_, ?_, ?_, ?_, ?_, ?_, ?_, ?_, ?_⟩
  · rw [hplays _ rfl, hplay.dateTime]
  · rw [hweeks _ rfl, hweek.dateTime]
  · have hnew := (hplays .WeeklyPlayCount rfl).trans (hplay.weeklyPlayCount _)
    refine counter_step (f := fun l => (l.length : ℤ)) h.playCountDateTime h.weeklyPlayCount hnew rfl fun l => ?_
    simp
  · have hnew := (hplays .WeeklyVictoryCount rfl).trans (hplay.weeklyVictoryCount _)
    refine counter_step (f := fun l => (l.countP Game.win : ℤ)) h.playCountDateTime h.weeklyVictoryCount hnew rfl
      fun l => ?_
    simp [List.countP_append, List.countP_cons]
  · have hnew := (hplays .WeeklyDefeatCount rfl).trans (hplay.weeklyDefeatCount _)
    refine counter_step (f := fun l => (l.countP (fun g => !g.win) : ℤ)) h.playCountDateTime h.weeklyDefeatCount hnew
      rfl fun l => ?_
    by_cases hvic : b.VicType = "VIC" <;> simp [List.countP_append, hvic]
  · have hnew := (hplays .WeeklyPlayTime rfl).trans (hplay.weeklyPlayTime _)
    refine counter_step (f := fun l => (l.map Game.playTime).sum) h.playCountDateTime h.weeklyPlayTime hnew rfl
      fun l => ?_
    simp
  · have hnew := (hweeks .WeeklyAccumulateScore rfl).trans (hweek.accumulateScore _)
    refine counter_step (f := fun l => (l.map Game.score).sum) h.accumulateScoreDateTime h.weeklyAccumulateScore hnew
      rfl fun l => ?_
    simp
  · calc finishMem cfg E b p lv .WeeklyTopScore
        = max (carried E stamp (top (current.map Game.score))) b.Score := by
          rw [hweeks _ rfl, hweek.topScore hscore, h.accumulateScoreDateTime, h.weeklyTopScore]
      _ = max (top ((if E.thisWeekStart < stamp then current else []).map Game.score)) b.Score := by
          rw [carried_eq E stamp current (fun l => top (l.map Game.score)) rfl]
      _ = _ := by rw [List.map_append, List.map_singleton, top_snoc]
  · rw [hplays _ rfl, hplay.totalPlayCount, h.totalPlayCount]
    simp
  · rw [hplays _ rfl, hplay.totalVictoryCount, h.totalVictoryCount]
    simp [List.countP_append, List.countP_cons]
  · rw [hplays _ rfl, hplay.totalDefeatCount, h.totalDefeatCount]
    by_cases hvic : b.VicType = "VIC" <;> simp [List.countP_append, hvic]
  · rw [hscores, docScore_effect, h.topScore, List.map_append, List.map_singleton, top_snoc]
  · rw [hstreaks _ rfl, hstreak.1, h.consecutiveVictory, currentStreak_snoc]
  · rw [hstreaks _ rfl, hstreak.2, h.topConsecutiveVictory, h.consecutiveVictory, streaks_snoc, top_snoc]

/-! ## Runs -/

def play (cfg : Config) (w : World) (c : FinishCall) : World := (finishGame cfg c.1 w c.2).2

def succeeds (cfg : Config) (w : World) (c : FinishCall) : Prop := (finishGame cfg c.1 w c.2).1.ok = true

instance (cfg : Config) (w : World) (c : FinishCall) : Decidable (succeeds cfg w c) := by
  unfold succeeds
  infer_instance

/-- the clock is in the week that the call sees, and the weeks are those of a fixed calendar -/
def InWeek (anchor : ℤ) (E : Env) : Prop :=
  E.thisWeekStart < E.currentTime ∧ E.currentTime ≤ E.thisWeekStart + week ∧ E.thisWeekStart ≡ anchor [ZMOD week]

instance (anchor : ℤ) (E : Env) : Decidable (InWeek anchor E) := by
  unfold InWeek
  infer_instance

/-- calls on a fixed calendar, in time order, with non-negative scores -/
structure Calendar (anchor : ℤ) (calls : List FinishCall) : Prop where
  inWeek : ∀ c ∈ calls, InWeek anchor c.1
  ordered : (calls.map fun c => c.1.currentTime).Pairwise (· ≤ ·)
  score : ∀ c ∈ calls, 0 ≤ (game c).score

theorem Calendar.init {anchor : ℤ} {calls : List FinishCall} {c : FinishCall} (h : Calendar anchor (calls ++ [c])) :
    Calendar anchor calls := by
  refine ⟨?_, ?_, ?_⟩
  · intro c' hc'
    exact h.inWeek c' (List.mem_append_left [c] hc')
  · have hordered := h.ordered
    rw [List.map_append, List.pairwise_append] at hordered
    exact hordered.1
  · intro c' hc'
    exact h.score c' (List.mem_append_left [c] hc')

/-- every earlier game is at most as late as the last one -/
theorem Calendar.le_last {anchor : ℤ} {calls : List FinishCall} {c : FinishCall} (h : Calendar anchor (calls ++ [c])) :
    ∀ g ∈ calls.map game, g.time ≤ c.1.currentTime := by
  intro g hg
  obtain ⟨c', hc', rfl⟩ := List.mem_map.1 hg
  have hordered := h.ordered
  rw [List.map_append, List.pairwise_append] at hordered
  exact hordered.2.2 _ (List.mem_map_of_mem hc') _ (by simp)

/-- the games of the current week, and the time of the last one -/
def current (calls : List FinishCall) : List Game × ℤ :=
  match calls.getLast? with
  | none => ([], 0)
  | some c => (weekGames c.1.thisWeekStart (calls.map game), c.1.currentTime)

theorem current_snoc {anchor : ℤ} {calls : List FinishCall} {c : FinishCall} (h : Calendar anchor (calls ++ [c])) :
    current (calls ++ [c]) =
      ((if c.1.thisWeekStart < (current calls).2 then (current calls).1 else []) ++ [game c], c.1.currentTime) := by
  obtain ⟨hlt, hle, hmod⟩ := h.inWeek c (by simp)
  have hcur : current (calls ++ [c]) = (weekGames c.1.thisWeekStart (calls.map game ++ [game c]), c.1.currentTime) := by
    simp [current]
  rw [hcur, Prod.mk.injEq]
  refine ⟨?_, rfl⟩
  induction calls using List.reverseRecOn with
  | nil =>
    have hone : weekGames c.1.thisWeekStart [game c] = [game c] := by simp [weekGames, window, game, hlt, hle]
    have hnone : current [] = ([], 0) := rfl
    rw [hnone, ite_self]
    exact hone
  | append_singleton before c₀ _ =>
    obtain ⟨hlt₀, hle₀, hmod₀⟩ := h.inWeek c₀ (by simp)
    have hprev : current (before ++ [c₀]) =
        (weekGames c₀.1.thisWeekStart ((before ++ [c₀]).map game), c₀.1.currentTime) := by simp [current]
    rw [hprev]
    apply window_snoc
    · intro g hg
      rw [List.map_append, List.map_singleton] at hg
      rcases List.mem_append.1 hg with hmem | hmem
      · exact h.init.le_last g hmem
      · rw [List.mem_singleton.1 hmem]
        exact le_rfl
    · exact h.le_last (game c₀) (by simp)
    · exact ⟨hlt₀, hle₀⟩
    · exact ⟨hlt, hle⟩
    · exact hmod.trans hmod₀.symm

/-- run lemma -/
theorem Kept.run {cfg : Config} {w : World} {anchor : ℤ} {calls : List FinishCall} (hnew : ∀ f ∈ statistics, w.mem f = 0)
    (hok : LegalRun (play cfg) (succeeds cfg) w calls) (hcal : Calendar anchor calls) :
    Kept cfg (calls.map game) (current calls).1 (current calls).2 (run (play cfg) w calls).mem := by
  induction calls using List.reverseRecOn with
  | nil => exact Kept.new hnew cfg
  | append_singleton calls c ih =>
    obtain ⟨hbefore, hlast, -⟩ := (LegalRun.append_iff _ _ _).1 hok
    have hkept := (ih hbefore hcal.init).step hlast (hcal.score c (by simp))
    rw [current_snoc hcal, List.map_append, run_append]
    exact hkept

/-- the statistics of the games played, in the week that starts after `S` -/
structure Statistics (cfg : Config) (S : ℤ) (games : List Game) (p : Player) : Prop where
  weeklyPlayCount : p .WeeklyPlayCount = (weekGames S games).length
  weeklyVictoryCount : p .WeeklyVictoryCount = (weekGames S games).countP Game.win
  weeklyDefeatCount : p .WeeklyDefeatCount = (weekGames S games).countP fun g => !g.win
  weeklyPlayTime : p .WeeklyPlayTime = ((weekGames S games).map Game.playTime).sum
  weeklyAccumulateScore : p .WeeklyAccumulateScore = ((weekGames S games).map Game.score).sum
  weeklyTopScore : IsGreatest {x | x ∈ (weekGames S games).map Game.score} (p .WeeklyTopScore)
  totalPlayCount : p .TotalPlayCount = games.length
  totalCounts : p .TotalVictoryCount + p .TotalDefeatCount = p .TotalPlayCount
  topScore : IsGreatest {x | x ∈ games.map Game.score} (p .TopScore)
  consecutiveVictory : p .PVP_ConsecutiveVictory = currentStreak cfg.CONSECUTIVE_VICTORY_MAX games
  topConsecutiveVictory :
    IsGreatest {x | x ∈ streaks cfg.CONSECUTIVE_VICTORY_MAX 0 games} (p .PVP_TopConsecutiveVictory)

/-- **The statistics are folds over the games played**, after every call of a run that starts with a new player. -/
theorem statistics_fold (cfg : Config) (w : World) (anchor : ℤ) (calls : List FinishCall) (c : FinishCall)
    (hnew : ∀ f ∈ statistics, w.mem f = 0) (hok : LegalRun (play cfg) (succeeds cfg) w (calls ++ [c]))
    (hcal : Calendar anchor (calls ++ [c])) :
    Statistics cfg c.1.thisWeekStart ((calls ++ [c]).map game) (run (play cfg) w (calls ++ [c])).mem := by
  have hkept := Kept.run hnew hok hcal
  have hcur : (current (calls ++ [c])).1 = weekGames c.1.thisWeekStart ((calls ++ [c]).map game) := by simp [current]
  have hlast : game c ∈ (current (calls ++ [c])).1 := by
    rw [current_snoc hcal]
    simp
  rw [hcur] at hkept hlast
  have hscores : ∀ x ∈ ((calls ++ [c]).map game).map Game.score, 0 ≤ x := by
    intro x hx
    obtain ⟨g, hg, rfl⟩ := List.mem_map.1 hx
    obtain ⟨c', hc', rfl⟩ := List.mem_map.1 hg
    exact hcal.score c' hc'
  have hweek : ∀ x ∈ (weekGames c.1.thisWeekStart ((calls ++ [c]).map game)).map Game.score, 0 ≤ x := by
    intro x hx
    obtain ⟨g, hg, rfl⟩ := List.mem_map.1 hx
    exact hscores g.score (List.mem_map_of_mem (List.mem_filter.1 hg).1)
  refine ⟨hkept.weeklyPlayCount, hkept.weeklyVictoryCount, hkept.weeklyDefeatCount, hkept.weeklyPlayTime,
    hkept.weeklyAccumulateScore, ?_, hkept.totalPlayCount, ?_, ?_, hkept.consecutiveVictory, ?_⟩
  · rw [hkept.weeklyTopScore]
    exact top_isGreatest (List.ne_nil_of_mem (List.mem_map_of_mem hlast)) hweek
  · rw [hkept.totalVictoryCount, hkept.totalDefeatCount, hkept.totalPlayCount]
    have hsplit := List.length_eq_countP_add_countP Game.win (l := (calls ++ [c]).map game)
    simp only [Bool.not_eq_true, Bool.decide_eq_false] at hsplit
    omega
  · rw [hkept.topScore]
    exact top_isGreatest (by simp) hscores
  · rw [hkept.topConsecutiveVictory]
    refine top_isGreatest ?_ (streaks_nonneg _ le_rfl _)
    rw [List.map_append, List.map_singleton, streaks_snoc]
    simp

def battleAt (currentTime nextResetTime : ℤ) (VicType : String) (Score : ℤ) : FinishCall :=
  ({ sampleFinishEnv with currentTime := currentTime, nextResetTime := nextResetTime }, ⟨VicType, [], Score, 10, 30, 60⟩)

/-- three games in one week, and one in the next: the longest streak is 2 -/
theorem statistics_fold_two_weeks :
    Statistics { sampleConfig with CONSECUTIVE_VICTORY_MAX := 2 } 605000
      ([battleAt 1000 605000 "VIC" 70, battleAt 2000 605000 "VIC" 30, battleAt 2000 605000 "DEF" 40,
        battleAt 605001 1209800 "VIC" 50].map game)
      (run (play { sampleConfig with CONSECUTIVE_VICTORY_MAX := 2 }) (sampleWorld 3)
        [battleAt 1000 605000 "VIC" 70, battleAt 2000 605000 "VIC" 30, battleAt 2000 605000 "DEF" 40,
          battleAt 605001 1209800 "VIC" 50]).mem :=
  statistics_fold _ (sampleWorld 3) 200
    [battleAt 1000 605000 "VIC" 70, battleAt 2000 605000 "VIC" 30, battleAt 2000 605000 "DEF" 40]
    (battleAt 605001 1209800 "VIC" 50) (by decide) (by decide) ⟨by decide, by decide, by decide⟩

end GameServer.Pilot
