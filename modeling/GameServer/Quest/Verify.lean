/-
The quest verifier of `Python/Quest.py`, which the file has twice: `QuestVerify`, which every claim procedure calls,
returns True; `QuestVerify2`, which nothing calls, compares the progress with the requirement.

- `rewards_success_iff`: a claim for a main, daily or weekly quest succeeds exactly if its other checks pass;
- `questVerify_eq_iff`: on a quest that is counted by the server, the two verifiers agree exactly if it is complete;
- `reward_complete_iff`: so only complete quests are paid exactly if some other check refuses the request, or the listed
  quests happen to be complete;
- `reward_incomplete`: a daily quest of two, paid with a count of zero.

Not under src/: the numbers of `QUEST_TYPE` and the tables behind the history queries (`VerifyEnv`). A query is its
result, with 0 for no row.
-/
import Mathlib.Tactic
import GameServer.Quest.Rows

namespace GameServer.Quest

/-! ## `QuestVerify2` -/

/-- the members of `QUEST_TYPE` that `QuestVerify2` names -/
inductive QuestType where
  | EQUIPMENT_EQUIP | EQUIPMENT_UPGRADE | SKILL_EQUIP | FLY_EQUIP | CHECK_EVENT | CHECK_SHOP | CHECK_COSTUME | CHECK_MAIL
  | CHECK_PASS | CHECK_MISSION | CHECK_AD_BUFF | CHECK_NAME_CHANGE | CHECK_PORTRAIT_CHANGE | CHECK_RANKING
  | CHARACTER_LEVEL | STAT_GRADE | SUMMON_LEVEL_WEAPON | SUMMON_LEVEL_ARMOR | SUMMON_LEVEL_ACCESSORY | SUMMON_FLY_TOTAL
  | EQUIPMENT_OWN | EQUIPMENT_LEVEL_TOTAL | SKILL_UNLOCK | SKILL_LEVEL_TOTAL | FLY_OWN | FLY_STAR_TOTAL | FLY_LEVEL_TOTAL
  | SPICE_LEVEL_TOTAL | SPICE_COLECTION | RESEARCH_POINT_USE | ARTIFACT_BOX_OPEN_TOTAL | ARTIFACT_LEVEL | RESTAURANT_OPEN
  | FOOD_OPEN | FOOD_LEVEL_TOTAL | HUNT_STAGE | DUNGEON_EQUIP_CLEAR | DUNGEON_FOODBOX_CLEAR | DUNGEON_FLY_CLEAR
  | DUNGEON_ARTIFACT_CLEAR | DUNGEON_SPICE_CLEAR | DELIVERY_PLAY_FOOD_TOTAL | LUCKY_COUPON_USE_TOTAL
  | LUCKY_GOLD_BOX_OPEN_TOTAL | DAILY_MISSION_COMPLETE | WEEKLY_MISSION_COMPLETE
deriving DecidableEq, Repr

/-- a row of `TB_USER_RESEARCH` -/
structure ResearchRow where
  complete_step : ℕ
  lv1 : ℤ
  lv2 : ℤ
  lv3 : ℤ
deriving DecidableEq, Repr

structure VerifyEnv where
  code : QuestType → ℤ
  /-- `QuestVerifyValue` of the query for a quest type and a condition -/
  value : QuestType → ℤ → ℤ
  research : Option ResearchRow
  /-- `Research122_need_point` -/
  point_list : List ℤ

/-- the quest types that the client reports -/
def clientTypes : List QuestType :=
  [.EQUIPMENT_EQUIP, .EQUIPMENT_UPGRADE, .SKILL_EQUIP, .FLY_EQUIP, .CHECK_EVENT, .CHECK_SHOP, .CHECK_COSTUME, .CHECK_MAIL,
    .CHECK_PASS, .CHECK_MISSION, .CHECK_AD_BUFF, .CHECK_NAME_CHANGE, .CHECK_PORTRAIT_CHANGE, .CHECK_RANKING]

/-- the quest types that are looked up, in the order of the code -/
def historyTypes : List QuestType :=
  [.CHARACTER_LEVEL, .STAT_GRADE, .SUMMON_LEVEL_WEAPON, .SUMMON_LEVEL_ARMOR, .SUMMON_LEVEL_ACCESSORY, .SUMMON_FLY_TOTAL,
    .EQUIPMENT_OWN, .EQUIPMENT_LEVEL_TOTAL, .SKILL_UNLOCK, .SKILL_LEVEL_TOTAL, .FLY_OWN, .FLY_STAR_TOTAL, .FLY_LEVEL_TOTAL,
    .SPICE_LEVEL_TOTAL, .SPICE_COLECTION, .RESEARCH_POINT_USE, .ARTIFACT_BOX_OPEN_TOTAL, .ARTIFACT_LEVEL, .RESTAURANT_OPEN,
    .FOOD_OPEN, .FOOD_LEVEL_TOTAL, .HUNT_STAGE, .DUNGEON_EQUIP_CLEAR, .DUNGEON_FOODBOX_CLEAR, .DUNGEON_FLY_CLEAR,
    .DUNGEON_ARTIFACT_CLEAR, .DUNGEON_SPICE_CLEAR, .DELIVERY_PLAY_FOOD_TOTAL, .LUCKY_COUPON_USE_TOTAL,
    .LUCKY_GOLD_BOX_OPEN_TOTAL, .DAILY_MISSION_COMPLETE, .WEEKLY_MISSION_COMPLETE]

/-- the research points that were used: all of them after the last step -/
def usePoint (V : VerifyEnv) (row : ResearchRow) : ℤ :=
  if V.point_list.length ≤ row.complete_step then V.point_list.getLastD 0
  else row.lv1 + row.lv2 + row.lv3 + V.point_list.getD row.complete_step 0

/-- one look-up -/
def verifyHistory (V : VerifyEnv) (condition need_count : ℤ) : QuestType → Bool
  | .SPICE_COLECTION | .FOOD_OPEN | .FOOD_LEVEL_TOTAL | .DELIVERY_PLAY_FOOD_TOTAL | .DAILY_MISSION_COMPLETE
  | .WEEKLY_MISSION_COMPLETE => true
  | .RESEARCH_POINT_USE =>
    match V.research with
    | none => false
    | some row => need_count ≤ usePoint V row
  | type => need_count ≤ V.value type condition

/-- `QuestVerify2` -/
def questVerify2 (V : VerifyEnv) (complete_count quest_type is_history condition need_count : ℤ) : Bool :=
  if quest_type ∈ clientTypes.map V.code then true
  else if is_history = 0 then need_count ≤ complete_count
  else
    match historyTypes.find? fun type => V.code type = quest_type with
    | none => true
    | some type => verifyHistory V condition need_count type

/-! ## The quests of a request -/

/-- the arguments of a verification -/
structure VerifyCall where
  complete_count : ℤ
  quest_type : ℤ
  is_history : ℤ
  condition : ℤ
  need_count : ℤ
deriving DecidableEq, Repr

def VerifyCall.verify (v : VerifyCall) : Bool :=
  questVerify v.complete_count v.quest_type v.is_history v.condition v.need_count

def VerifyCall.verify2 (V : VerifyEnv) (v : VerifyCall) : Bool :=
  questVerify2 V v.complete_count v.quest_type v.is_history v.condition v.need_count

/-- the server counts the quest: no history look-up, and no client type -/
def VerifyCall.Counted (V : VerifyEnv) (v : VerifyCall) : Prop := v.is_history = 0 ∧ v.quest_type ∉ clientTypes.map V.code

def VerifyCall.Complete (v : VerifyCall) : Prop := v.need_count ≤ v.complete_count

instance (v : VerifyCall) : Decidable v.Complete := by
  unfold VerifyCall.Complete; infer_instance

/-- the main quest with its requirement -/
def mainCall (T : Tables) (m : MainRow) : Option VerifyCall :=
  (T.getMain m.idx).map fun tb =>
    ⟨m.complete_count, tb.quest_type, tb.is_history, tb.condition, mainNeedCount tb m.repeat_count⟩

/-- the listed daily or weekly quests with their requirements -/
def rowCalls (T : Tables) (rows : List QuestRow) (codes : List ℤ) : List VerifyCall :=
  (executeSelectList rows codes).filterMap fun r =>
    (T.getPeriod r.idx).map fun tb => ⟨r.complete_count, tb.quest_type, tb.is_history, tb.condition, tb.count⟩

/-- the quests that a request asks a reward for -/
def requestCalls (T : Tables) (category : QuestCategory) (codes : List ℤ) (db : Db) : List VerifyCall :=
  match category with
  | .MAIN => (db.main.bind (mainCall T)).toList
  | .DAY => rowCalls T db.day codes
  | .WEEK => rowCalls T db.week codes
  | _ => []

/-- the other checks of `__procDay` and `__procWeek` -/
def RowsAccepted (T : Tables) (type : ℤ) (rows : List QuestRow) (codes : List ℤ) : Prop :=
  (executeSelectList rows codes).length = codes.length ∧ (executeSelectList rows codes).all (rowAccepted T type) = true

/-- the other checks of a request -/
def Accepted (T : Tables) (c : Clock) (category : QuestCategory) (codes : List ℤ) (db : Db) : Prop :=
  codes ≠ [] ∧ ∃ m, db.main = some m ∧
    match category with
    | .MAIN => codes.head? = some m.idx ∧ T.getMain m.idx ≠ none ∧
        (T.getMain (m.idx + 1) ≠ none ∨ T.getMainType MAIN_REPEAT ≠ [])
    | .DAY => m.update_day_id = c.dayID ∧ RowsAccepted T DAY_NORMAL db.day codes
    | .WEEK => m.update_week_id = c.weekID ∧ RowsAccepted T WEEK_NORMAL db.week codes
    | _ => False

/-- the category is one of a counted quest -/
def CountedCategory (category : QuestCategory) : Prop := category = .MAIN ∨ category = .DAY ∨ category = .WEEK

section

variable {T : Tables} {c : Clock} {V : VerifyEnv} {m : MainRow} {db : Db} {codes : List ℤ}

/-! ## Success -/

theorem procMain_success_iff : (procMain T m db codes).result = .SUCCESS ↔
    codes.head? = some m.idx ∧ T.getMain m.idx ≠ none ∧
      (T.getMain (m.idx + 1) ≠ none ∨ T.getMainType MAIN_REPEAT ≠ []) := by
  unfold procMain
  cases codes with
  | nil => simp
  | cons code codes =>
    rw [List.head?_cons, Option.some_inj]
    by_cases hcode : code = m.idx
    · subst hcode
      cases hmain : T.getMain m.idx with
      | none => simp
      | some tb =>
        cases hnext : T.getMain (m.idx + 1) with
        | some tb_next => simp [questVerify, hnext]
        | none =>
          cases hrepeat : T.getMainType MAIN_REPEAT with
          | nil => simp [questVerify, hnext]
          | cons tb_repeat _ => simp [questVerify, hnext]
    · simp [hcode]

theorem RowsReply.success_iff {id update type : ℤ} {source : ℤ → Source} {rows : List QuestRow}
    {entries : List PbQuest → QuestInfo} {store : List QuestRow → Db} {reply : Reply}
    (h : RowsReply T c m db id update type source rows codes entries store reply) :
    reply.result = .SUCCESS ↔ update = id ∧ RowsAccepted T type rows codes := by
  unfold RowsAccepted
  rw [← (verifyRows_spec T type source (executeSelectList rows codes) [] []).1]
  cases h with
  | stale hupdate => simp [hupdate, renewDate]
  | missing hupdate hlength => simp [hlength]
  | refused hupdate hlength hverify => simp [hverify]
  | paid hupdate hlength hverify => simp [hupdate, hlength, hverify]

/-- **A claim succeeds exactly if its other checks pass.** -/
theorem rewards_success_iff {category : QuestCategory} (hcategory : CountedCategory category) :
    (questReward T c category codes db).result = .SUCCESS ↔ Accepted T c category codes db := by
  unfold questReward Accepted
  by_cases hcodes : codes = []
  · simp [hcodes]
  · rw [if_neg hcodes, and_iff_right hcodes]
    cases hmain : db.main with
    | none => simp
    | some m =>
      simp only [Option.some.injEq, exists_eq_left']
      rcases hcategory with rfl | rfl | rfl
      · exact procMain_success_iff
      · exact (procDay_reply T c m db codes).success_iff
      · exact (procWeek_reply T c m db codes).success_iff

/-! ## The two verifiers -/

theorem questVerify2_counted {v : VerifyCall} (h : v.Counted V) : v.verify2 V = decide v.Complete := by
  unfold VerifyCall.verify2 questVerify2
  rw [if_neg h.2, if_pos h.1]
  rfl

/-- the verifiers agree exactly on complete quests -/
theorem questVerify_eq_iff {v : VerifyCall} (h : v.Counted V) : v.verify = v.verify2 V ↔ v.Complete := by
  rw [questVerify2_counted h]
  exact eq_comm.trans decide_eq_true_iff

/-- **Only complete quests are paid exactly if some other check refuses the request, or its quests are complete; and the
two verifiers agree on the request exactly if its quests are complete.** -/
theorem reward_complete_iff {category : QuestCategory} (hcategory : CountedCategory category)
    (hcounted : ∀ v ∈ requestCalls T category codes db, v.Counted V) :
    (((questReward T c category codes db).result = .SUCCESS → ∀ v ∈ requestCalls T category codes db, v.Complete) ↔
      (¬Accepted T c category codes db ∨ ∀ v ∈ requestCalls T category codes db, v.Complete)) ∧
    ((∀ v ∈ requestCalls T category codes db, v.verify = v.verify2 V) ↔
      ∀ v ∈ requestCalls T category codes db, v.Complete) := by
  refine ⟨?_, forall₂_congr fun v hv => questVerify_eq_iff (hcounted v hv)⟩
  rw [rewards_success_iff hcategory]
  exact imp_iff_not_or

end

/-- the numbers of the quest types; the quests of the sample tables are of type 7, which is none of them -/
def sampleVerify : VerifyEnv where
  code _ := 100
  value _ _ := 0
  research := none
  point_list := []

/-- a daily quest of two, with a count -/
def dailyDb (complete_count : ℤ) : Db := ⟨some ⟨1, 1, 0, 4, 0, 1, 0⟩, [⟨10, complete_count, 0⟩], [], [], some ⟨0, 0⟩⟩

theorem dailyDb_counted (complete_count : ℤ) :
    ∀ v ∈ requestCalls sampleTables .DAY [10] (dailyDb complete_count), v.Counted sampleVerify := by
  have hcalls : requestCalls sampleTables .DAY [10] (dailyDb complete_count) = [⟨complete_count, 7, 0, 0, 2⟩] := rfl
  rw [hcalls]
  intro v hv
  rw [List.mem_singleton.1 hv]
  have hserver : (7 : ℤ) ∉ clientTypes.map sampleVerify.code := by decide
  exact ⟨rfl, hserver⟩

theorem reward_complete_sample : (questReward sampleTables ⟨4, 1⟩ .DAY [10] (dailyDb 2)).result = .SUCCESS ∧
    ∀ v ∈ requestCalls sampleTables .DAY [10] (dailyDb 2), v.Complete := by
  have hsuccess : (questReward sampleTables ⟨4, 1⟩ .DAY [10] (dailyDb 2)).result = .SUCCESS := by decide
  refine ⟨hsuccess, ?_⟩
  exact (reward_complete_iff (Or.inr (Or.inl rfl)) (dailyDb_counted 2)).1.2 (Or.inr (by decide)) hsuccess

/-- **A daily quest of two is paid with a count of zero.** -/
theorem reward_incomplete : (questReward sampleTables ⟨4, 1⟩ .DAY [10] (dailyDb 0)).result = .SUCCESS ∧
    (questReward sampleTables ⟨4, 1⟩ .DAY [10] (dailyDb 0)).supplied = [⟨.day 10, [(901, 1)]⟩] ∧
    (∀ v ∈ requestCalls sampleTables .DAY [10] (dailyDb 0), v.Counted sampleVerify) ∧
    ¬∀ v ∈ requestCalls sampleTables .DAY [10] (dailyDb 0), v.Complete :=
  ⟨by decide, by decide, dailyDb_counted 0, by decide⟩

end GameServer.Quest
