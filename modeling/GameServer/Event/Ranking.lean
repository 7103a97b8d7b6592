/-
The ranking rewards of an event, `Python/Event.py`: `sp_EventCommonRankingReward`, for all users and events.

A request finds the user's event row, sets its flag, and only then looks up what the rank is worth: whatever goes wrong
from there on costs the user the reward. So the source writes one log line at each of these exits.

- `ranking_logged`: in every run the lines and the flags agree, a reward is settled once, and the mails sent are those
  that the lines call for;
- `ranking_payout`: while a ranking stands still, its mails hold no more than its ranks are worth. Ranks are distinct and
  a user is paid once, so no band of table 880 is paid twice for a rank.

Not under src/: the event calendar, the servers and rankings (`Cache`; a `Ranking` is a sorted set), table 880, the
mails (`posts` are the calls of `sp_CreateUserPost`), and what writes the event rows of a user who takes part (`join`). A
ratio is a floating-point number; here it is any ordered type with the division that it comes from.
-/
import Mathlib.Tactic
import GameServer.Core.Run
import GameServer.Core.Tally
import GameServer.Core.Keyed
import GameServer.Event.Pass

namespace GameServer.Event

open GameServer.Core

/-! ## Data -/

/-- the ranking columns of an event row -/
structure RankRow where
  useridx : ℤ
  event_type : ℤ
  event_idx : ℤ
  event_uid : ℤ
  is_reward : ℤ
deriving DecidableEq, Repr

/-- a row of table 880, with the two limits of `rank_ratio` -/
structure RewardBand (φ : Type) where
  rank_min : ℤ
  rank_max : ℤ
  rank_ratio : φ × φ
  post_msg : String
  reward_code : List ℤ
  reward_cnt : List ℤ

/-- a call of `sp_CreateUserPost` -/
structure Post where
  useridx : ℤ
  title : String
  items : List (ℤ × ℤ)
deriving DecidableEq, Repr

inductive RankMsg where
  | REWARD_INFO | REWARD_TABLE | SERVER | MY_RANK | SELECTED | SUCCESS
deriving DecidableEq, Repr

/-- `msg` of a log line -/
def RankMsg.text : RankMsg → String
  | .REWARD_INFO => "EventRankingReward : rank reward info not found"
  | .REWARD_TABLE => "EventRankingReward : rank reward table info not found"
  | .SERVER => "EventRankingReward : server not found"
  | .MY_RANK => "EventRankingReward : my rank not found"
  | .SELECTED => "EventRankingReward : rank reward selected info not found"
  | .SUCCESS => "EventRankingReward : success"

/-- a call of `addLog`; `myrank` and `rankcount` are in two of the six lines -/
structure RankLog where
  log_table_name : String
  useridx : ℤ
  msg : RankMsg
  event_type : ℤ
  event_uid : ℤ
  reward_type : Option ℤ
  ranks : Option (ℤ × ℤ)
deriving DecidableEq, Repr

/-- the event of a user -/
abbrev EventKey := ℤ × ℤ × ℤ

def RankRow.key (row : RankRow) : EventKey := (row.useridx, row.event_type, row.event_uid)

def RankLog.key (line : RankLog) : EventKey := (line.useridx, line.event_type, line.event_uid)

/-- `GetRank` and `GetRankCount` of one sorted set: ranks count from 1, and 0 is no rank -/
structure Ranking where
  rank : ℤ → ℤ
  count : ℤ
  inside : ∀ u, rank u ≠ 0 → 1 ≤ rank u ∧ rank u ≤ count
  distinct : ∀ u v, rank u ≠ 0 → rank u = rank v → u = v

/-- what a request reads outside the database -/
structure Cache where
  /-- `rank_reward_type` of `GetEventRewardInfo` -/
  rewardInfo : ℤ → ℤ → Option ℤ
  /-- `GetUserServer` -/
  userServer : ℤ → Option ℤ
  /-- the ranking of a table name on a server -/
  ranking : String → ℤ → Ranking

structure RankEnv (φ : Type) where
  events : Env
  /-- `get880EventRankingListByType` -/
  rankingList : ℤ → List (RewardBand φ)
  /-- the division of two numbers -/
  div : ℤ → ℤ → φ

/-- the event rows of all users, and what has been sent and logged -/
structure RankWorld where
  rows : List RankRow
  posts : List Post
  log : List RankLog
  cache : Cache

/-! ## Column names -/

structure RankingInfo where
  db_table_name : String
  log_table_name : String
  redis_table_name : String
deriving DecidableEq, Repr

/-- `GetEventCommonRankingInfo` -/
def getEventCommonRankingInfo (E : Env) (event_type : ℤ) : Option RankingInfo :=
  let table_name := getEventCommonTableInfo E event_type
  if table_name = "" then none
  else if event_type ∈ E.DEFENCE then some ⟨table_name, "log_event_defence", "defence"⟩
  else if event_type ∈ E.THREE_MATCH_B then some ⟨table_name, "log_event_three_match_b", "three_match_b"⟩
  else if event_type ∈ E.SURVIVAL then some ⟨table_name, "log_event_survival", "survival"⟩
  else none

/-- `GetEventCommonRankingRewardInfo`, with `db_column_is_reward` -/
def getEventCommonRankingRewardInfo (E : Env) (event_type : ℤ) : Option (RankingInfo × String) :=
  match getEventCommonRankingInfo E event_type with
  | none => none
  | some info =>
    if event_type ∈ E.DEFENCE ∨ event_type ∈ E.THREE_MATCH_B ∨ event_type ∈ E.SURVIVAL then some (info, "is_reward")
    else none

/-- the table name of a ranking -/
def rankTable (info : RankingInfo) (event_uid : ℤ) : String := info.redis_table_name ++ "_" ++ toString event_uid

/-! ## `sp_EventCommonRankingReward` -/

section

variable {φ : Type} [LinearOrder φ] (R : RankEnv φ)

/-- the test of the loop over the bands -/
def covers (myrank rankcount : ℤ) (reward : RewardBand φ) : Bool :=
  if reward.rank_min ≠ 0 ∧ reward.rank_max ≠ 0 then decide (reward.rank_min ≤ myrank ∧ myrank ≤ reward.rank_max)
  else decide (reward.rank_ratio.1 ≤ R.div myrank rankcount ∧ R.div myrank rankcount ≤ reward.rank_ratio.2)

/-- `reward_info`: the first band that covers the rank -/
def rewardBand (reward_type myrank rankcount : ℤ) : Option (RewardBand φ) :=
  (R.rankingList reward_type).find? (covers R myrank rankcount)

def createPost (useridx : ℤ) (reward_info : RewardBand φ) : Post :=
  ⟨useridx, reward_info.post_msg, reward_info.reward_code.zip reward_info.reward_cnt⟩

def addLog (line : RankLog) (w : RankWorld) : RankWorld := { w with log := w.log ++ [line] }

/-- the exits after the flag is set -/
def rewardExits (info : RankingInfo) (row : RankRow) (w : RankWorld) : RankWorld :=
  let line (msg : RankMsg) (reward_type : Option ℤ) (ranks : Option (ℤ × ℤ)) : RankLog :=
    ⟨info.log_table_name, row.useridx, msg, row.event_type, row.event_uid, reward_type, ranks⟩
  match w.cache.rewardInfo row.event_type row.event_uid with
  | none => addLog (line .REWARD_INFO none none) w
  | some reward_type =>
    if (R.rankingList reward_type).isEmpty then addLog (line .REWARD_TABLE (some reward_type) none) w
    else
      match w.cache.userServer row.useridx with
      | none => addLog (line .SERVER (some reward_type) none) w
      | some cache_server =>
        let ranking := w.cache.ranking (rankTable info row.event_uid) cache_server
        let myrank := ranking.rank row.useridx
        let rankcount := ranking.count
        if myrank = 0 ∨ rankcount = 0 then addLog (line .MY_RANK (some reward_type) none) w
        else
          match rewardBand R reward_type myrank rankcount with
          | none => addLog (line .SELECTED (some reward_type) (some (myrank, rankcount))) w
          | some reward_info =>
            addLog (line .SUCCESS (some reward_type) (some (myrank, rankcount)))
              { w with posts := w.posts ++ [createPost row.useridx reward_info] }

/-- `UPDATE ... SET is_reward = 1` -/
def setReward (useridx event_type : ℤ) (rows : List RankRow) : List RankRow :=
  rows.map fun row => if row.useridx = useridx ∧ row.event_type = event_type then { row with is_reward := 1 } else row

/-- `sp_EventCommonRankingReward.executeAsCommander` -/
def rankingReward (useridx event_type : ℤ) (w : RankWorld) : RankWorld :=
  match getEventCommonRankingRewardInfo R.events event_type with
  | none => w
  | some (info, db_column_is_reward) =>
    match w.rows.find? fun row => row.useridx = useridx ∧ row.event_type = event_type with
    | none => w
    | some event_row =>
      if ¬ (R.events.hasColumn "event_idx" ∧ R.events.hasColumn "event_uid" ∧
          R.events.hasColumn db_column_is_reward) then w
      else if event_row.is_reward = 1 then w
      else rewardExits R info event_row { w with rows := setReward useridx event_type w.rows }

inductive RankOp where
  | reward (useridx event_type : ℤ)
  /-- a user takes part in an event: a new row in place of an old one -/
  | join (useridx event_type event_idx event_uid : ℤ)
  /-- calendar, servers and rankings change -/
  | outside (cache : Cache)

def joinRows (useridx event_type event_idx event_uid : ℤ) (rows : List RankRow) : List RankRow :=
  rows.filter (fun row => ¬ (row.useridx = useridx ∧ row.event_type = event_type)) ++
    [⟨useridx, event_type, event_idx, event_uid, 0⟩]

def rankStep (w : RankWorld) : RankOp → RankWorld
  | .reward useridx event_type => rankingReward R useridx event_type w
  | .join useridx event_type event_idx event_uid =>
    { w with rows := joinRows useridx event_type event_idx event_uid w.rows }
  | .outside cache => { w with cache := cache }

/-! ## What a request does -/

/-- the mail that a log line calls for -/
def postOf (line : RankLog) : Option Post :=
  if line.msg = .SUCCESS then
    line.reward_type.bind fun reward_type =>
      line.ranks.bind fun ranks => (rewardBand R reward_type ranks.1 ranks.2).map (createPost line.useridx)
  else none

/-- a line that calls for a mail has the rank that the user holds -/
structure Drawn (cache : Cache) (line : RankLog) : Prop where
  holds : postOf R line ≠ none → ∃ info reward_type cache_server,
    (getEventCommonRankingRewardInfo R.events line.event_type).map Prod.fst = some info ∧
    cache.rewardInfo line.event_type line.event_uid = some reward_type ∧ line.reward_type = some reward_type ∧
    cache.userServer line.useridx = some cache_server ∧
    (cache.ranking (rankTable info line.event_uid) cache_server).rank line.useridx ≠ 0 ∧
    line.ranks = some ((cache.ranking (rankTable info line.event_uid) cache_server).rank line.useridx,
      (cache.ranking (rankTable info line.event_uid) cache_server).count)

/-- what a line adds to the world -/
def settled (line : RankLog) (w : RankWorld) : RankWorld :=
  { w with posts := w.posts ++ (postOf R line).toList, log := w.log ++ [line] }

theorem postOf_fail {line : RankLog} (h : line.msg ≠ .SUCCESS) : postOf R line = none := if_neg h

theorem fail_settled {line : RankLog} (h : line.msg ≠ .SUCCESS) (w : RankWorld) :
    addLog line w = settled R line w ∧ Drawn R w.cache line := by
  refine ⟨?_, ⟨fun hpost => absurd (postOf_fail R h) hpost⟩⟩
  simp [addLog, settled, postOf_fail R h]

/-- every exit writes one line, and the line says what the exit does -/
theorem rewardExits_outcome (info : RankingInfo) (row : RankRow) (w : RankWorld)
    (hinfo : (getEventCommonRankingRewardInfo R.events row.event_type).map Prod.fst = some info) :
    ∃ line, line.key = row.key ∧ rewardExits R info row w = settled R line w ∧ Drawn R w.cache line := by
  rw [rewardExits]
  cases htype : w.cache.rewardInfo row.event_type row.event_uid with
  | none => exact ⟨_, rfl, fail_settled R (by simp) w⟩
  | some reward_type =>
    dsimp only
    split_ifs with hlist
    · exact ⟨_, rfl, fail_settled R (by simp) w⟩
    · cases hserver : w.cache.userServer row.useridx with
      | none => exact ⟨_, rfl, fail_settled R (by simp) w⟩
      | some cache_server =>
        dsimp only
        split_ifs with hrank
        · exact ⟨_, rfl, fail_settled R (by simp) w⟩
        · rw [not_or] at hrank
          cases hband : rewardBand R reward_type
              ((w.cache.ranking (rankTable info row.event_uid) cache_server).rank row.useridx)
              (w.cache.ranking (rankTable info row.event_uid) cache_server).count with
          | none => exact ⟨_, rfl, fail_settled R (by simp) w⟩
          | some reward_info =>
            refine ⟨⟨info.log_table_name, row.useridx, .SUCCESS, row.event_type, row.event_uid, some reward_type,
              some ((w.cache.ranking (rankTable info row.event_uid) cache_server).rank row.useridx,
                (w.cache.ranking (rankTable info row.event_uid) cache_server).count)⟩, rfl, ?_, ⟨fun _ => ?_⟩⟩
            · simp [addLog, settled, postOf, hband]
            · exact ⟨info, reward_type, cache_server, hinfo, htype, rfl, hserver, hrank.1, rfl⟩

/-- an accepted request -/
structure Settles (useridx event_type : ℤ) (w w' : RankWorld) : Prop where
  paid : ∃ row line, row ∈ w.rows ∧ row.useridx = useridx ∧ row.event_type = event_type ∧ row.is_reward ≠ 1 ∧
    line.key = row.key ∧ Drawn R w.cache line ∧
    w' = settled R line { w with rows := setReward useridx event_type w.rows }

theorem rankingReward_outcome (useridx event_type : ℤ) (w : RankWorld) :
    Settles R useridx event_type w (rankingReward R useridx event_type w) ∨ rankingReward R useridx event_type w = w := by
  rw [rankingReward]
  cases hinfo : getEventCommonRankingRewardInfo R.events event_type with
  | none => exact Or.inr rfl
  | some p =>
    cases hrow : w.rows.find? fun row => row.useridx = useridx ∧ row.event_type = event_type with
    | none => exact Or.inr rfl
    | some row =>
      obtain ⟨huser, htype⟩ : row.useridx = useridx ∧ row.event_type = event_type := by
        simpa using List.find?_some hrow
      dsimp only
      by_cases hreward : row.is_reward = 1
      · rw [if_pos hreward, ite_self]
        exact Or.inr rfl
      · rw [if_neg hreward]
        split_ifs
        · obtain ⟨line, hkey, hexit, hdrawn⟩ := rewardExits_outcome R p.1 row
            { w with rows := setReward useridx event_type w.rows } (by simp [htype, hinfo])
          exact Or.inl ⟨row, line, List.mem_of_find?_eq_some hrow, huser, htype, hreward, hkey, hdrawn, hexit⟩
        · exact Or.inr rfl

/-! ## Lines, flags and mails -/

/-- one row a user and event type; a flag is set exactly if the reward of its event was settled, and no reward twice;
the mails are those that the lines call for -/
structure Logged (w : RankWorld) : Prop where
  rows : (w.rows.map fun row => (row.useridx, row.event_type)).Nodup
  once : (w.log.map RankLog.key).Nodup
  flags : ∀ row ∈ w.rows, row.is_reward = 1 ↔ row.key ∈ w.log.map RankLog.key
  mailed : w.posts = w.log.filterMap (postOf R)

/-- nobody gets a new row for an event whose reward is settled -/
def rankLegal (w : RankWorld) : RankOp → Prop
  | .join useridx event_type _ event_uid => (useridx, event_type, event_uid) ∉ w.log.map RankLog.key
  | _ => True

instance (w : RankWorld) : ∀ o, Decidable (rankLegal w o)
  | .join useridx event_type _ event_uid =>
    inferInstanceAs (Decidable ((useridx, event_type, event_uid) ∉ w.log.map RankLog.key))
  | .reward _ _ => isTrue trivial
  | .outside _ => isTrue trivial

variable {R}

theorem setReward_keys (useridx event_type : ℤ) (rows : List RankRow) :
    (setReward useridx event_type rows).map (fun row => (row.useridx, row.event_type)) =
      rows.map fun row => (row.useridx, row.event_type) := by
  rw [setReward, List.map_map]
  refine List.map_congr_left fun row _ => ?_
  dsimp only [Function.comp]
  split_ifs <;> rfl

/-- step lemma: a settled reward -/
theorem Logged.settles {w w' : RankWorld} (h : Logged R w) {useridx event_type : ℤ}
    (hs : Settles R useridx event_type w w') : Logged R w' := by
  obtain ⟨row, line, hmem, huser, htype, hreward, hkey, -, rfl⟩ := hs
  have hfresh : line.key ∉ w.log.map RankLog.key := by
    rw [hkey]
    exact fun hlog => hreward ((h.flags row hmem).2 hlog)
  have hlog : (w.log ++ [line]).map RankLog.key = w.log.map RankLog.key ++ [line.key] := List.map_append
  refine ⟨?_, ?_, ?_, ?_⟩
  · rw [settled, setReward_keys]
    exact h.rows
  · rw [settled, hlog]
    exact h.once.append (List.nodup_singleton _) (by simpa using hfresh)
  · intro row' hrow'
    rw [settled, hlog, List.mem_append, List.mem_singleton]
    obtain ⟨row₀, hmem₀, rfl⟩ := List.mem_map.1 hrow'
    by_cases hsame : row₀.useridx = useridx ∧ row₀.event_type = event_type
    · obtain rfl : row₀ = row :=
        List.inj_on_of_nodup_map h.rows hmem₀ hmem (by rw [hsame.1, hsame.2, huser, htype])
      rw [if_pos hsame]
      exact iff_of_true rfl (Or.inr hkey.symm)
    · rw [if_neg hsame, h.flags row₀ hmem₀]
      have hother : row₀.key ≠ line.key := by
        intro heq
        rw [hkey, RankRow.key, RankRow.key, Prod.mk.injEq, Prod.mk.injEq] at heq
        exact hsame ⟨heq.1.trans huser, heq.2.1.trans htype⟩
      exact ⟨Or.inl, fun hor => hor.resolve_right hother⟩
  · rw [settled]
    cases hpost : postOf R line <;> simp [hpost, h.mailed]

/-- step lemma: a user takes part -/
theorem Logged.join {w : RankWorld} (h : Logged R w) {useridx event_type event_idx event_uid : ℤ}
    (hnew : (useridx, event_type, event_uid) ∉ w.log.map RankLog.key) :
    Logged R { w with rows := joinRows useridx event_type event_idx event_uid w.rows } := by
  refine ⟨?_, h.once, ?_, h.mailed⟩
  · dsimp only [joinRows]
    rw [List.map_append]
    refine (h.rows.sublist (List.filter_sublist.map _)).append (List.nodup_singleton _) ?_
    simp only [List.map_cons, List.map_nil, List.disjoint_singleton, List.mem_map, List.mem_filter]
    rintro ⟨row, ⟨-, hother⟩, heq⟩
    rw [Prod.mk.injEq] at heq
    simp [heq] at hother
  · intro row hrow
    rcases List.mem_append.1 hrow with hold | hold
    · exact h.flags row (List.mem_filter.1 hold).1
    · rw [List.mem_singleton.1 hold]
      exact iff_of_false (by simp) hnew

/-- step lemma -/
theorem rankStep_logged {w : RankWorld} (o : RankOp) (h : Logged R w) (hlegal : rankLegal w o) :
    Logged R (rankStep R w o) := by
  cases o with
  | reward useridx event_type =>
    rw [rankStep]
    rcases rankingReward_outcome R useridx event_type w with hsettles | hsame
    · exact h.settles hsettles
    · rw [hsame]
      exact h
  | join useridx event_type event_idx event_uid => exact h.join hlegal
  | outside cache => exact ⟨h.rows, h.once, h.flags, h.mailed⟩

/-- **The log accounts for every reward.** In every run of requests, new rows and changes of calendar, servers and
rankings: a flag is set exactly if there is a log line about it, no reward has two, and the mails that were sent are, in
order, those that the lines call for. -/
theorem ranking_logged {w : RankWorld} (h : Logged R w) {ops : List RankOp}
    (hops : LegalRun (rankStep R) rankLegal w ops) : Logged R (run (rankStep R) w ops) :=
  run_inv (I := Logged R) (fun _ o hw hlegal => rankStep_logged o hw hlegal) h hops

/-- user `u` has rank `u`, from 1 to 4 -/
def sampleRanking : Ranking where
  rank u := if 1 ≤ u ∧ u ≤ 4 then u else 0
  count := 4
  inside := by
    intro u hu
    split_ifs at hu ⊢ with h
    · exact h
    · exact absurd rfl hu
  distinct := by
    intro u v hu h
    split_ifs at hu h <;> omega

/-- the ranking everywhere, and all users but user 3 on server 1 -/
def sampleCache : Cache := ⟨fun _ _ => some 5, fun u => if u = 3 then none else some 1, fun _ _ => sampleRanking⟩

/-- a first prize, and a prize for the first half -/
def sampleRank : RankEnv ℚ where
  events := {
    DEFENCE := [60], THREE_MATCH_B := [], SURVIVAL := [], hasColumn := fun _ => true, makeIdx := fun _ _ _ => 0
    get881EventPass := fun _ => none, get881EventPassListByType := fun _ => [], get808EventIAPByIdx := fun _ => none
    CARROT_OIL := 0 }
  rankingList n :=
    if n = 5 then [⟨1, 1, (0, 0), "first", [7], [100]⟩, ⟨0, 0, (0, 1 / 2), "half", [7, 8], [30, 1]⟩] else []
  div a b := a / b

/-- the users 1 to 4 have taken part -/
def sampleWorld : RankWorld where
  rows := [⟨1, 60, 1, 9, 0⟩, ⟨2, 60, 1, 9, 0⟩, ⟨3, 60, 1, 9, 0⟩, ⟨4, 60, 1, 9, 0⟩]
  posts := []
  log := []
  cache := sampleCache

/-- all ask, the first user twice and once more for the next event -/
def sampleRankOps : List RankOp :=
  [.reward 2 60, .reward 1 60, .reward 1 60, .reward 3 60, .reward 4 60, .join 1 60 1 10, .reward 1 60]

theorem sampleWorld_logged : Logged sampleRank sampleWorld := ⟨by decide, by simp [sampleWorld], by decide, rfl⟩

example : (run (rankStep sampleRank) sampleWorld sampleRankOps).posts =
    [⟨2, "half", [(7, 30), (8, 1)]⟩, ⟨1, "first", [(7, 100)]⟩, ⟨1, "first", [(7, 100)]⟩] := by decide +kernel

theorem ranking_logged_sample : Logged sampleRank (run (rankStep sampleRank) sampleWorld sampleRankOps) :=
  ranking_logged sampleWorld_logged (by decide +kernel)

/-! ## What a ranking pays -/

/-- an event that is over on a server: the ranking and its players stand still, and so does what the ranking is worth -/
structure Final where
  event_type : ℤ
  event_uid : ℤ
  info : RankingInfo
  cache_server : ℤ
  reward_type : ℤ
  ranking : Ranking
  players : ℤ → Prop

/-- the cache of an event that is over; `GetEventRewardInfo` may forget it -/
structure Final.Seen (F : Final) (cache : Cache) : Prop where
  worth : ∀ reward_type, cache.rewardInfo F.event_type F.event_uid = some reward_type → reward_type = F.reward_type
  players : ∀ u, cache.userServer u = some F.cache_server ↔ F.players u
  ranking : cache.ranking (rankTable F.info F.event_uid) F.cache_server = F.ranking

def Final.Keeps (F : Final) : RankOp → Prop
  | .outside cache => F.Seen cache
  | _ => True

/-- the items of `code` that a rank is worth -/
def worthAt (R : RankEnv φ) (F : Final) (code rank : ℤ) : ℤ :=
  match rewardBand R F.reward_type rank F.ranking.count with
  | none => 0
  | some reward => Tally.sumAt code (reward.reward_code.zip reward.reward_cnt)

/-- the log lines of the event on the server -/
def linesOf (F : Final) (w : RankWorld) : List RankLog :=
  w.log.filter fun line =>
    line.event_type = F.event_type ∧ line.event_uid = F.event_uid ∧
      w.cache.userServer line.useridx = some F.cache_server

/-- the items of `code` in the mails of these lines -/
def payout (R : RankEnv φ) (F : Final) (code : ℤ) (w : RankWorld) : ℤ :=
  (((linesOf F w).filterMap (postOf R)).map fun post => Tally.sumAt code post.items).sum

/-- the mails of the event are for ranks of the final ranking -/
structure Paid (R : RankEnv φ) (F : Final) (w : RankWorld) : Prop where
  seen : F.Seen w.cache
  ranked : ∀ line ∈ w.log, line.event_type = F.event_type → line.event_uid = F.event_uid → F.players line.useridx →
    postOf R line ≠ none → line.reward_type = some F.reward_type ∧ F.ranking.rank line.useridx ≠ 0 ∧
      line.ranks = some (F.ranking.rank line.useridx, F.ranking.count)

theorem Paid.settles {F : Final}
    (hinfo : (getEventCommonRankingRewardInfo R.events F.event_type).map Prod.fst = some F.info) {w w' : RankWorld}
    (h : Paid R F w) {useridx event_type : ℤ} (hs : Settles R useridx event_type w w') : Paid R F w' := by
  obtain ⟨row, line, -, -, -, -, -, hdrawn, rfl⟩ := hs
  refine ⟨h.seen, ?_⟩
  intro line' hmem htype huid hplayer hpost
  rcases List.mem_append.1 hmem with hold | hold
  · exact h.ranked line' hold htype huid hplayer hpost
  · obtain rfl := List.mem_singleton.1 hold
    obtain ⟨info, reward_type, cache_server, hinfo', hworth, hreward, hserver, hrank, hranks⟩ := hdrawn.holds hpost
    rw [htype, hinfo] at hinfo'
    obtain rfl := Option.some.inj hinfo'
    obtain rfl : F.cache_server = cache_server :=
      Option.some.inj (((h.seen.players _).2 hplayer).symm.trans hserver)
    rw [htype, huid] at hworth
    rw [huid, h.seen.ranking] at hrank hranks
    rw [hreward, h.seen.worth _ hworth]
    exact ⟨rfl, hrank, hranks⟩

/-- step lemma -/
theorem rankStep_paid {F : Final}
    (hinfo : (getEventCommonRankingRewardInfo R.events F.event_type).map Prod.fst = some F.info) {w : RankWorld}
    (o : RankOp) (h : Paid R F w) (hkeeps : F.Keeps o) : Paid R F (rankStep R w o) := by
  cases o with
  | reward useridx event_type =>
    rw [rankStep]
    rcases rankingReward_outcome R useridx event_type w with hsettles | hsame
    · exact h.settles hinfo hsettles
    · rw [hsame]
      exact h
  | join useridx event_type event_idx event_uid => exact ⟨h.seen, h.ranked⟩
  | outside cache => exact ⟨hkeeps, h.ranked⟩

/-- a mail of the event holds what the rank of its user is worth -/
theorem Paid.post {F : Final} {w : RankWorld} (h : Paid R F w) {post : Post}
    (hpost : post ∈ (linesOf F w).filterMap (postOf R)) :
    F.ranking.rank post.useridx ≠ 0 ∧
      ∀ code, Tally.sumAt code post.items = worthAt R F code (F.ranking.rank post.useridx) := by
  obtain ⟨line, hline, heq⟩ := List.mem_filterMap.1 hpost
  obtain ⟨hmem, hcond⟩ := List.mem_filter.1 hline
  obtain ⟨htype, huid, hserver⟩ := of_decide_eq_true hcond
  obtain ⟨hreward, hrank, hranks⟩ :=
    h.ranked line hmem htype huid ((h.seen.players _).1 hserver) (by simp [heq])
  rw [postOf, hreward, hranks] at heq
  split_ifs at heq
  obtain ⟨reward, hband, rfl⟩ := Option.map_eq_some_iff.1 heq
  refine ⟨hrank, fun code => ?_⟩
  dsimp only at hband
  simp only [worthAt, createPost, hband]

theorem postOf_useridx {line : RankLog} {post : Post} (h : postOf R line = some post) :
    post.useridx = line.useridx := by
  rw [postOf] at h
  split_ifs at h
  obtain ⟨reward_type, -, h⟩ := Option.bind_eq_some_iff.1 h
  obtain ⟨ranks, -, h⟩ := Option.bind_eq_some_iff.1 h
  obtain ⟨reward, -, rfl⟩ := Option.map_eq_some_iff.1 h
  rfl

/-- nobody gets two mails of the event -/
theorem Logged.posts_nodup {F : Final} {w : RankWorld} (h : Logged R w) :
    (((linesOf F w).filterMap (postOf R)).map Post.useridx).Nodup := by
  have hkeys : ((linesOf F w).map RankLog.key).Nodup := h.once.sublist (List.filter_sublist.map _)
  have huser : (linesOf F w).map RankLog.key =
      ((linesOf F w).map RankLog.useridx).map fun u => (u, F.event_type, F.event_uid) := by
    rw [List.map_map]
    refine List.map_congr_left fun line hline => ?_
    obtain ⟨htype, huid, -⟩ := of_decide_eq_true (List.mem_filter.1 hline).2
    simp [RankLog.key, htype, huid]
  rw [huser] at hkeys
  exact hkeys.of_map.sublist (Keyed.keys_filterMap (fun _ _ hpost => postOf_useridx hpost) _)

theorem worthAt_nonneg {F : Final}
    (hcnt : ∀ reward ∈ R.rankingList F.reward_type, ∀ n ∈ reward.reward_cnt, 0 ≤ n) (code rank : ℤ) :
    0 ≤ worthAt R F code rank := by
  rw [worthAt]
  cases hband : rewardBand R F.reward_type rank F.ranking.count with
  | none => exact le_rfl
  | some reward =>
    refine Tally.sumAt_nonneg_of (fun e he => ?_) code
    exact hcnt reward (List.mem_of_find?_eq_some hband) e.2 (List.of_mem_zip he).2

/-- **A ranking pays each of its ranks at most once.** After the event is over, whatever requests, new rows and changes
elsewhere follow: the mails of the event on a server hold no more of any item than all ranks are worth together. -/
theorem ranking_payout {F : Final}
    (hinfo : (getEventCommonRankingRewardInfo R.events F.event_type).map Prod.fst = some F.info)
    (hcnt : ∀ reward ∈ R.rankingList F.reward_type, ∀ n ∈ reward.reward_cnt, 0 ≤ n)
    {w : RankWorld} (h : Logged R w) (hseen : F.Seen w.cache)
    (hnew : ∀ line ∈ w.log, ¬ (line.event_type = F.event_type ∧ line.event_uid = F.event_uid)) {ops : List RankOp}
    (hops : LegalRun (rankStep R) (fun w o => rankLegal w o ∧ F.Keeps o) w ops) (code : ℤ) :
    payout R F code (run (rankStep R) w ops) ≤ ∑ rank ∈ Finset.Icc 1 F.ranking.count, worthAt R F code rank := by
  have hpaid₀ : Paid R F w := ⟨hseen, fun line hline htype huid => absurd ⟨htype, huid⟩ (hnew line hline)⟩
  obtain ⟨hlogged, hpaid⟩ := run_inv (I := fun w => Logged R w ∧ Paid R F w)
    (fun _ o hw hlegal => ⟨rankStep_logged o hw.1 hlegal.1, rankStep_paid hinfo o hw.2 hlegal.2⟩) ⟨h, hpaid₀⟩ hops
  generalize run (rankStep R) w ops = w' at hlogged hpaid
  have hworth : ∀ post ∈ (linesOf F w').filterMap (postOf R),
      Tally.sumAt code post.items = worthAt R F code (F.ranking.rank post.useridx) :=
    fun post hpost => (hpaid.post hpost).2 code
  have hranks : (((linesOf F w').filterMap (postOf R)).map fun post => F.ranking.rank post.useridx).Nodup := by
    refine hlogged.posts_nodup.of_map.map_on ?_
    intro post hpost post' hpost' heq
    exact List.inj_on_of_nodup_map hlogged.posts_nodup hpost hpost'
      (F.ranking.distinct _ _ (hpaid.post hpost).1 heq)
  calc payout R F code w'
      = (((linesOf F w').filterMap (postOf R)).map fun post => worthAt R F code (F.ranking.rank post.useridx)).sum := by
        rw [payout, List.map_congr_left hworth]
    _ ≤ ∑ rank ∈ Finset.Icc 1 F.ranking.count, worthAt R F code rank :=
        Tally.sum_le_of_distinct (fun rank _ => worthAt_nonneg hcnt code rank) hranks fun post hpost =>
          Finset.mem_Icc.2 (F.ranking.inside _ (hpaid.post hpost).1)

/-- the first of these events is over -/
def sampleFinal : Final where
  event_type := 60
  event_uid := 9
  info := ⟨"TB_USER_EVENT_DEFENCE", "log_event_defence", "defence"⟩
  cache_server := 1
  reward_type := 5
  ranking := sampleRanking
  players u := u ≠ 3

theorem sampleFinal_seen : sampleFinal.Seen sampleCache where
  worth := by
    intro reward_type h
    exact (Option.some.inj h).symm
  players := by simp [sampleCache, sampleFinal]
  ranking := rfl

theorem ranking_payout_sample : payout sampleRank sampleFinal 7 (run (rankStep sampleRank) sampleWorld sampleRankOps) ≤
    ∑ rank ∈ Finset.Icc 1 4, worthAt sampleRank sampleFinal 7 rank :=
  ranking_payout (by decide +kernel) (by decide) sampleWorld_logged sampleFinal_seen (by simp [sampleWorld])
    (by
      simp only [sampleRankOps, LegalRun, Final.Keeps, and_true]
      decide +kernel) 7

end

end GameServer.Event
