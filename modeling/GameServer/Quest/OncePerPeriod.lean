/-
Periodic quest rewards are paid at most once per period, over whole runs of the three entry points.

The once-only guard is spread over three places: the reward step of a quest row, the id of the last complete reward, and
the id of the last reset, which any entry point may notice. `Side` is the daily or the weekly half of these fields, and
`SideStep` says what any entry point may do to it at the current id:
- a half that is up to date stays so and forgets no reward (a reset happens on a stale half only);
- what is paid was not marked as rewarded before, is marked afterwards, and the half was up to date.
`refreshSide`, `occurSide`, `stepSide` and `completeSide` prove it for the parts of the entry points, `Moves` puts both
halves together, `serve_inv` is the step lemma, and the run rule gives `rewards_once_per_period`.
-/
import Mathlib.Tactic
import GameServer.Core.Run
import GameServer.Core.Periodic
import GameServer.Quest.Rows

namespace GameServer.Quest

open GameServer.Core

/-! ## Runs -/

inductive Request where
  | refresh
  | occur (occur_list : List Occur)
  | reward (category : QuestCategory) (quest_code : List ℤ)

/-- the stored rows, the rewards paid so far with the ids of their time, and the ids of the last call -/
structure History where
  db : Db
  paid : List (Source × Clock)
  last : Clock

def serve (T : Tables) (h : History) (r : Clock × Request) : History :=
  match r.2 with
  | .refresh => ⟨(questRefreshData T r.1 h.db QuestInfo.empty).2.1, h.paid, r.1⟩
  | .occur occur_list => ⟨(questOccur T r.1 occur_list h.db QuestInfo.empty).1, h.paid, r.1⟩
  | .reward category quest_code =>
    let reply := questReward T r.1 category quest_code h.db
    ⟨reply.db, h.paid ++ reply.supplied.map fun w => (w.source, r.1), r.1⟩

/-- the ids never decrease -/
def legal (h : History) (r : Clock × Request) : Prop := h.last.dayID ≤ r.1.dayID ∧ h.last.weekID ≤ r.1.weekID

/-! ## The daily and the weekly half -/

/-- a reward of a half: a quest, or the complete reward (`none`) -/
abbrev Key := Option ℤ

def dayKey : Source → Option Key
  | .day code => some (some code)
  | .dayComplete => some none
  | _ => none

def weekKey : Source → Option Key
  | .week code => some (some code)
  | .weekComplete => some none
  | _ => none

/-- the paid rewards of a half, with their ids -/
def paidKeys (key : Source → Option Key) (id : Clock → ℤ) (paid : List (Source × Clock)) : List (Key × ℤ) :=
  paid.filterMap fun e => (key e.1).map fun k => (k, id e.2)

theorem paidKeys_append (key : Source → Option Key) (id : Clock → ℤ) (paid : List (Source × Clock)) (c : Clock)
    (ws : List Reward) : paidKeys key id (paid ++ ws.map fun w => (w.source, c)) =
      paidKeys key id paid ++ (ws.filterMap fun w => key w.source).map fun k => (k, id c) := by
  unfold paidKeys
  rw [List.filterMap_append]
  congr 1
  induction ws with
  | nil => rfl
  | cons w ws ih =>
    cases hk : key w.source with
    | none => simpa [hk] using ih
    | some k => simpa [hk] using ih

/-- the fields of the main row and the rows of one half -/
structure Side where
  update : ℤ
  reward : ℤ
  rows : List QuestRow

def daySide (m : MainRow) (rows : List QuestRow) : Side := ⟨m.update_day_id, m.reward_day_id, rows⟩

def weekSide (m : MainRow) (rows : List QuestRow) : Side := ⟨m.update_week_id, m.reward_week_id, rows⟩

/-- the half is up to date and the reward is recorded -/
def Side.Marked (s : Side) (id : ℤ) (k : Key) : Prop :=
  s.update = id ∧ match k with
    | none => s.reward = id
    | some code => ∃ r ∈ s.rows, r.idx = code ∧ r.reward_step ≠ 0

/-- what an entry point does to a half at the current id, when it pays `keys` -/
structure SideStep (id : ℤ) (keys : List Key) (s s' : Side) : Prop where
  distinct : Distinct s.rows → Distinct s'.rows
  kept : ∀ k, s.Marked id k → s'.Marked id k
  nodup : Distinct s.rows → keys.Nodup
  free : Distinct s.rows → ∀ k ∈ keys, ¬ s.Marked id k
  marked : ∀ k ∈ keys, s'.Marked id k

namespace SideStep

variable {id : ℤ} {s s' : Side}

/-- nothing is paid -/
theorem of_nil (distinct : Distinct s.rows → Distinct s'.rows) (kept : ∀ k, s.Marked id k → s'.Marked id k) :
    SideStep id [] s s' := ⟨distinct, kept, fun _ => List.nodup_nil, by simp, by simp⟩

theorem refl (id : ℤ) (s : Side) : SideStep id [] s s := of_nil (fun h => h) fun _ h => h

/-- a half that is up to date keeps its ids, and its rows keep their reward steps -/
theorem of_fresh (h1 : s'.update = s.update) (h2 : s'.reward = s.reward)
    (distinct : Distinct s.rows → Distinct s'.rows)
    (rows : ∀ r ∈ s.rows, r.reward_step ≠ 0 → ∃ r' ∈ s'.rows, r'.idx = r.idx ∧ r'.reward_step ≠ 0) :
    SideStep id [] s s' := by
  refine of_nil distinct ?_
  intro k hk
  obtain ⟨hu, hk⟩ := hk
  refine ⟨h1.trans hu, ?_⟩
  cases k with
  | none => exact h2.trans hk
  | some code =>
    obtain ⟨r, hr, rfl, hstep⟩ := hk
    exact rows r hr hstep

/-- a stale half has no marks -/
theorem of_stale (hs : s.update ≠ id) (distinct : Distinct s.rows → Distinct s'.rows) : SideStep id [] s s' :=
  of_nil distinct fun _ hk => absurd hk.1 hs

end SideStep

/-! ## `QuestRefreshData` -/

theorem refreshRows_distinct {tb : List PeriodQuest} (htb : (tb.map (·.code)).Nodup) (stale : Bool)
    {rows : List QuestRow} (h : Distinct rows) : Distinct (refreshRows tb stale rows).1 := by
  unfold refreshRows
  split_ifs
  · exact (insertMissing_distinct h htb).map fun _ => rfl
  · exact insertMissing_distinct h htb

/-- one half under a refresh: a stale half is reset, an up-to-date one gets missing rows -/
theorem refreshSide {tb : List PeriodQuest} (htb : (tb.map (·.code)).Nodup) {id : ℤ} {s s' : Side}
    (hrows : s'.rows = (refreshRows tb (s.update ≠ id) s.rows).1) (hupdate : s'.update = id)
    (hreward : s'.reward = if s.update ≠ id then 0 else s.reward) : SideStep id [] s s' := by
  have hdistinct : Distinct s.rows → Distinct s'.rows := fun h => hrows ▸ refreshRows_distinct htb _ h
  by_cases hs : s.update = id
  · refine SideStep.of_fresh (hupdate.trans hs.symm) (by simpa [hs] using hreward) hdistinct
      fun r hr hstep => ⟨r, ?_, rfl, hstep⟩
    have hfresh : decide (s.update ≠ id) = false := by simp [hs]
    rw [hrows, hfresh]
    change r ∈ insertMissing tb s.rows
    exact List.mem_append_left _ hr
  · exact SideStep.of_stale hs hdistinct

/-- an entry point leaves a main row, and each half makes its step -/
structure Moves (c : Clock) (ws : List Reward) (m : MainRow) (db db' : Db) : Prop where
  main : ∃ m', db'.main = some m' ∧
    SideStep c.dayID (ws.filterMap fun w => dayKey w.source) (daySide m db.day) (daySide m' db'.day) ∧
    SideStep c.weekID (ws.filterMap fun w => weekKey w.source) (weekSide m db.week) (weekSide m' db'.week)

theorem refresh_moves (T : Tables) (c : Clock) {m : MainRow} {db : Db} (hm : db.main = some m) (pb : QuestInfo) :
    Moves c [] m db (questRefreshData T c db pb).2.1 := by
  unfold questRefreshData
  cases T.getMainType MAIN_PROGRESS with
  | nil => exact ⟨m, hm, SideStep.refl _ _, SideStep.refl _ _⟩
  | cons tb_main _ =>
    simp only [hm, Option.getD_some, refreshMain_eq]
    exact ⟨_, rfl, refreshSide (getPeriodType_codes T DAY_NORMAL) rfl rfl rfl,
      refreshSide (getPeriodType_codes T WEEK_NORMAL) rfl rfl rfl⟩

/-! ## `QuestOccur` -/

/-- one half under occurrences -/
theorem occurSide {id : ℤ} {s s' : Side} {works : List Work}
    (hrows : s'.rows = saveRows (resetRows (s.update ≠ id) s.rows) works) (hupdate : s'.update = id)
    (hreward : s'.reward = if s.update ≠ id then 0 else s.reward) : SideStep id [] s s' := by
  have hdistinct : Distinct s.rows → Distinct s'.rows := by
    intro h
    rw [hrows, saveRows_eq]
    refine Distinct.map ?_ fun _ => rfl
    unfold resetRows
    split_ifs
    · exact h.map fun _ => rfl
    · exact h
  by_cases hs : s.update = id
  · refine SideStep.of_fresh (hupdate.trans hs.symm) (by simpa [hs] using hreward) hdistinct ?_
    intro r hr hstep
    have hrows' : s'.rows = s.rows.map fun r => { r with complete_count := savedCount works r } := by
      rw [hrows, saveRows_eq]
      simp [hs, resetRows]
    rw [hrows']
    exact ⟨_, List.mem_map_of_mem hr, rfl, hstep⟩
  · exact SideStep.of_stale hs hdistinct

theorem occur_moves (T : Tables) (c : Clock) {m : MainRow} {db : Db} (hm : db.main = some m) (L : List Occur)
    (pb : QuestInfo) : Moves c [] m db (questOccur T c L db pb).1 := by
  unfold questOccur
  simp only [hm, occur_main_stored]
  obtain ⟨n, hn, -⟩ := occurs_main T (occurStart T c db m L) L
  have hstart : (occurStart T c db m L).main = refreshMain c m := rfl
  rw [hstart, refreshMain_eq] at hn
  generalize L.foldl (questOccurOne T) (occurStart T c db m L) = s at hn ⊢
  refine ⟨s.main, rfl, occurSide rfl ?_ ?_, occurSide rfl ?_ ?_⟩
  · exact congrArg MainRow.update_day_id hn
  · exact congrArg MainRow.reward_day_id hn
  · exact congrArg MainRow.update_week_id hn
  · exact congrArg MainRow.reward_week_id hn

/-! ## `sp_QuestReward` -/

/-- the paid rows of one half -/
theorem stepSide {T : Tables} {type : ℤ} {source : ℤ → Source} {id : ℤ} {s : Side} {codes : List ℤ} {pb : List PbQuest}
    {rewards : List Reward} (hs : s.update = id)
    (h : verifyRows T type source (executeSelectList s.rows codes) [] [] = (true, pb, rewards)) :
    SideStep id ((executeSelectList s.rows codes).map fun r => some r.idx) s
      { s with rows := stepRows (executeSelectList s.rows codes) s.rows } := by
  obtain ⟨hzero, -⟩ := verifyRows_ok h
  have hsel : ∀ r, r ∈ executeSelectList s.rows codes ↔ r ∈ s.rows ∧ r.idx ∈ codes := by
    intro r; simp [executeSelectList]
  have hdistinct : Distinct s.rows → Distinct (stepRows (executeSelectList s.rows codes) s.rows) := by
    intro hd
    rw [stepRows_eq]
    exact hd.map fun _ => rfl
  -- a row whose code was selected was selected itself
  have hself : ∀ r ∈ s.rows, r.idx ∈ (executeSelectList s.rows codes).map (·.idx) → r.reward_step = 0 := by
    intro r hr hmem
    obtain ⟨r', hr', heq⟩ := List.mem_map.1 hmem
    exact hzero r ((hsel r).2 ⟨hr, heq ▸ ((hsel r').1 hr').2⟩)
  refine ⟨hdistinct, ?_, ?_, ?_, ?_⟩
  · intro k hk
    obtain ⟨hu, hk⟩ := hk
    refine ⟨hu, ?_⟩
    cases k with
    | none => exact hk
    | some code =>
      obtain ⟨r, hr, rfl, hstep⟩ := hk
      rw [stepRows_eq]
      refine ⟨_, List.mem_map_of_mem hr, rfl, ?_⟩
      have hcount : ((executeSelectList s.rows codes).map (·.idx)).count r.idx = 0 :=
        List.count_eq_zero.2 fun hmem => hstep (hself r hr hmem)
      rw [hcount]
      simpa using hstep
  · intro hd
    have hnd : ((executeSelectList s.rows codes).map (·.idx)).Nodup := hd.filter _
    have hmap := hnd.map (Option.some_injective ℤ)
    rwa [List.map_map] at hmap
  · intro _ k hk hmarked
    obtain ⟨r, hr, rfl⟩ := List.mem_map.1 hk
    obtain ⟨-, r', hr', hidx, hstep⟩ := hmarked
    exact hstep (hself r' hr' (hidx ▸ List.mem_map_of_mem hr))
  · intro k hk
    obtain ⟨r, hr, rfl⟩ := List.mem_map.1 hk
    refine ⟨hs, ?_⟩
    rw [stepRows_eq]
    refine ⟨_, List.mem_map_of_mem ((hsel r).1 hr).1, rfl, ?_⟩
    have hcount : 0 < ((executeSelectList s.rows codes).map (·.idx)).count r.idx :=
      List.count_pos_iff.2 (List.mem_map_of_mem hr)
    simp only [hzero r hr, zero_add, ne_eq, Nat.cast_eq_zero]
    omega

/-- the complete reward of one half -/
theorem completeSide {id : ℤ} {s : Side} (hs : s.update = id) (hr : s.reward ≠ id) :
    SideStep id [none] s { s with reward := id } := by
  refine ⟨fun h => h, ?_, fun _ => List.nodup_singleton _, ?_, ?_⟩
  · intro k hk
    refine ⟨hk.1, ?_⟩
    cases k with
    | none => rfl
    | some code => exact hk.2
  · intro _ k hk hmarked
    rw [List.mem_singleton] at hk
    subst hk
    exact hr hmarked.2
  · intro k hk
    rw [List.mem_singleton] at hk
    subst hk
    exact ⟨hs, rfl⟩

/-- a reply that stores and pays nothing -/
theorem Moves.refl (c : Clock) {m : MainRow} {db : Db} (hm : db.main = some m) : Moves c [] m db db :=
  ⟨m, hm, SideStep.refl _ _, SideStep.refl _ _⟩

theorem renewDate_moves (T : Tables) (c : Clock) {m : MainRow} {db : Db} (hm : db.main = some m) :
    Moves c (renewDate T c db).supplied m db (renewDate T c db).db := refresh_moves T c hm QuestInfo.empty

/-- the sources of the paid rows -/
theorem verifyRows_sources {T : Tables} {type : ℤ} {source : ℤ → Source} {rows : List QuestRow} {pb : List PbQuest}
    {rewards : List Reward} (h : verifyRows T type source rows [] [] = (true, pb, rewards)) (key : Source → Option Key) :
    rewards.filterMap (fun w => key w.source) = rows.filterMap fun r => key (source r.idx) := by
  have hmap := (verifyRows_ok h).2
  have hleft : rewards.filterMap (fun w => key w.source) = (rewards.map (·.source)).filterMap key := by
    rw [List.filterMap_map]; rfl
  rw [hleft, hmap, List.map_nil, List.nil_append, List.filterMap_map]
  rfl

theorem procDay_moves (T : Tables) (c : Clock) {m : MainRow} {db : Db} (hm : db.main = some m) (codes : List ℤ) :
    Moves c (procDay T c m db codes).supplied m db (procDay T c m db codes).db := by
  have hreply := procDay_reply T c m db codes
  generalize procDay T c m db codes = reply at hreply ⊢
  cases hreply with
  | stale hupdate => exact renewDate_moves T c hm
  | missing hupdate hlength => exact Moves.refl c hm
  | refused hupdate hlength hverify => exact Moves.refl c hm
  | paid hupdate hlength hverify =>
    refine ⟨m, hm, ?_, ?_⟩
    · rw [verifyRows_sources hverify dayKey]
      have hkeys : ((executeSelectList db.day codes).filterMap fun r => dayKey (.day r.idx)) =
          (executeSelectList db.day codes).map fun r => some r.idx := by simp [dayKey, List.filterMap_eq_map']
      rw [hkeys]
      exact stepSide (s := daySide m db.day) hupdate hverify
    · rw [verifyRows_sources hverify weekKey]
      simpa [weekKey] using SideStep.refl c.weekID (weekSide m db.week)

theorem procWeek_moves (T : Tables) (c : Clock) {m : MainRow} {db : Db} (hm : db.main = some m) (codes : List ℤ) :
    Moves c (procWeek T c m db codes).supplied m db (procWeek T c m db codes).db := by
  have hreply := procWeek_reply T c m db codes
  generalize procWeek T c m db codes = reply at hreply ⊢
  cases hreply with
  | stale hupdate => exact renewDate_moves T c hm
  | missing hupdate hlength => exact Moves.refl c hm
  | refused hupdate hlength hverify => exact Moves.refl c hm
  | paid hupdate hlength hverify =>
    refine ⟨m, hm, ?_, ?_⟩
    · rw [verifyRows_sources hverify dayKey]
      simpa [dayKey] using SideStep.refl c.dayID (daySide m db.day)
    · rw [verifyRows_sources hverify weekKey]
      have hkeys : ((executeSelectList db.week codes).filterMap fun r => weekKey (.week r.idx)) =
          (executeSelectList db.week codes).map fun r => some r.idx := by simp [weekKey, List.filterMap_eq_map']
      rw [hkeys]
      exact stepSide (s := weekSide m db.week) hupdate hverify

theorem procDayComplete_moves (T : Tables) (c : Clock) {m : MainRow} {db : Db} (hm : db.main = some m)
    (codes : List ℤ) : Moves c (procDayComplete T c m db codes).supplied m db (procDayComplete T c m db codes).db := by
  have hreply := procDayComplete_reply T c m db codes
  generalize procDayComplete T c m db codes = reply at hreply ⊢
  cases hreply with
  | refused => exact Moves.refl c hm
  | stale => exact renewDate_moves T c hm
  | paid hupdate hreward items =>
    refine ⟨{ m with reward_day_id := c.dayID }, by simp [hm], ?_, SideStep.refl _ _⟩
    exact completeSide (s := daySide m db.day) hupdate hreward

theorem procWeekComplete_moves (T : Tables) (c : Clock) {m : MainRow} {db : Db} (hm : db.main = some m)
    (codes : List ℤ) :
    Moves c (procWeekComplete T c m db codes).supplied m db (procWeekComplete T c m db codes).db := by
  have hreply := procWeekComplete_reply T c m db codes
  generalize procWeekComplete T c m db codes = reply at hreply ⊢
  cases hreply with
  | refused => exact Moves.refl c hm
  | stale => exact renewDate_moves T c hm
  | paid hupdate hreward items =>
    refine ⟨{ m with reward_week_id := c.weekID }, by simp [hm], SideStep.refl _ _, ?_⟩
    exact completeSide (s := weekSide m db.week) hupdate hreward

/-- nothing of a half is paid by rewards from elsewhere -/
theorem filterMap_none_of_sources {key : Source → Option Key} {ws : List Reward}
    (h : ∀ w ∈ ws, key w.source = none) : ws.filterMap (fun w => key w.source) = [] := by
  rw [List.filterMap_eq_nil_iff]
  exact h

/-- rewards of the main and achieve quests move no half -/
theorem Moves.of_other {c : Clock} {ws : List Reward} {m m' : MainRow} {db db' : Db} (hm : db'.main = some m')
    (hday : daySide m' db'.day = daySide m db.day) (hweek : weekSide m' db'.week = weekSide m db.week)
    (hws : ∀ w ∈ ws, dayKey w.source = none ∧ weekKey w.source = none) : Moves c ws m db db' := by
  refine ⟨m', hm, ?_, ?_⟩
  · rw [hday, filterMap_none_of_sources fun w hw => (hws w hw).1]
    exact SideStep.refl _ _
  · rw [hweek, filterMap_none_of_sources fun w hw => (hws w hw).2]
    exact SideStep.refl _ _

theorem procMain_moves (T : Tables) (c : Clock) {m : MainRow} {db : Db} (hm : db.main = some m) (codes : List ℤ) :
    Moves c (procMain T m db codes).supplied m db (procMain T m db codes).db := by
  unfold procMain
  split
  · exact Moves.refl c hm
  · split
    · exact Moves.refl c hm
    · split
      · exact Moves.refl c hm
      · split
        · exact Moves.refl c hm
        · dsimp only
          split
          · exact Moves.refl c hm
          · rename_i next_code next_repeat _
            have hm' : (db.main.map fun m => { m with idx := next_code, complete_count := 0, repeat_count := next_repeat }) =
                some { m with idx := next_code, complete_count := 0, repeat_count := next_repeat } := by rw [hm]; rfl
            refine Moves.of_other hm' rfl rfl ?_
            intro w hw
            rw [List.mem_singleton] at hw
            subst hw
            exact ⟨rfl, rfl⟩

/-- everything that an achieve request pays is for an achieve quest -/
theorem verifyAchieve_sources {T : Tables} {selected : List AchieveRow} {codes : List ℤ} {w w' : AchieveWork} {ok : Bool}
    (h : verifyAchieve T selected codes w = (ok, w')) :
    (∀ r ∈ w.rewards, ∃ code step, r.source = .achieve code step) →
      ∀ r ∈ w'.rewards, ∃ code step, r.source = .achieve code step := by
  induction codes generalizing w with
  | nil =>
    simp only [verifyAchieve, Prod.mk.injEq] at h
    exact fun hw => h.2 ▸ hw
  | cons qcode rest ih =>
    rw [verifyAchieve] at h
    split at h
    · exact fun hw => (Prod.mk.inj h).2 ▸ hw
    · dsimp only at h
      split_ifs at h
      · exact fun hw => (Prod.mk.inj h).2 ▸ hw
      · exact fun hw => (Prod.mk.inj h).2 ▸ hw
      all_goals
        refine fun hw => ih h ?_
        intro r hr
        rcases List.mem_append.1 hr with hr | hr
        · exact hw r hr
        · rw [List.mem_singleton] at hr
          exact ⟨_, _, by rw [hr]⟩

theorem procAchieve_moves (T : Tables) (c : Clock) {m : MainRow} {db : Db} (hm : db.main = some m) (codes : List ℤ) :
    Moves c (procAchieve T m db codes).supplied m db (procAchieve T m db codes).db := by
  unfold procAchieve
  dsimp only
  split
  · exact Moves.refl c hm
  · rename_i w hok
    refine Moves.of_other hm rfl rfl ?_
    intro r hr
    obtain ⟨code, step, hsource⟩ := verifyAchieve_sources hok (by simp) r hr
    rw [hsource]
    exact ⟨rfl, rfl⟩

theorem reward_moves (T : Tables) (c : Clock) {m : MainRow} {db : Db} (hm : db.main = some m)
    (category : QuestCategory) (codes : List ℤ) :
    Moves c (questReward T c category codes db).supplied m db (questReward T c category codes db).db := by
  unfold questReward
  split_ifs
  · exact Moves.refl c hm
  · simp only [hm]
    cases category with
    | MAIN => exact procMain_moves T c hm codes
    | DAY => exact procDay_moves T c hm codes
    | DAY_COMPLETE => exact procDayComplete_moves T c hm codes
    | WEEK => exact procWeek_moves T c hm codes
    | WEEK_COMPLETE => exact procWeekComplete_moves T c hm codes
    | ACHIEVE => exact procAchieve_moves T c hm codes

/-! ## Whole runs -/

/-- rows are distinct; without a main row nothing has been paid; with one, every half keeps its log -/
structure Inv (h : History) : Prop where
  day : Distinct h.db.day
  week : Distinct h.db.week
  unpaid : h.db.main = none → h.paid = []
  onceDay : ∀ m, h.db.main = some m →
    Once h.last.dayID ((daySide m h.db.day).Marked h.last.dayID) (paidKeys dayKey Clock.dayID h.paid)
  onceWeek : ∀ m, h.db.main = some m →
    Once h.last.weekID ((weekSide m h.db.week).Marked h.last.weekID) (paidKeys weekKey Clock.weekID h.paid)

/-- one half of the step lemma: first the id moves, then the entry point acts -/
theorem SideStep.once {keys : List Key} {id id' : ℤ} {s s' : Side} {log : List (Key × ℤ)}
    (h : SideStep id' keys s s') (hd : Distinct s.rows) (hle : id ≤ id') (ho : Once id (s.Marked id) log) :
    Once id' (s'.Marked id') (log ++ keys.map fun k => (k, id')) := by
  have hmoved : Once id' (s.Marked id') log := ho.move hle fun heq k hk => heq ▸ hk
  exact hmoved.pay (h.nodup hd) (h.free hd) h.kept h.marked

theorem Inv.moves {h : History} {c : Clock} {ws : List Reward} {m : MainRow} {db' : Db} (hinv : Inv h)
    (hday : h.last.dayID ≤ c.dayID) (hweek : h.last.weekID ≤ c.weekID) (hm : h.db.main = some m)
    (hmv : Moves c ws m h.db db') : Inv ⟨db', h.paid ++ ws.map fun w => (w.source, c), c⟩ := by
  obtain ⟨m', hm', hd, hw⟩ := hmv
  refine ⟨hd.distinct hinv.day, hw.distinct hinv.week, ?_, ?_, ?_⟩
  · intro hnone
    rw [hm'] at hnone
    cases hnone
  · intro m'' hm''
    obtain rfl : m' = m'' := Option.some.inj (hm'.symm.trans hm'')
    rw [paidKeys_append]
    exact hd.once hinv.day hday (hinv.onceDay m hm)
  · intro m'' hm''
    obtain rfl : m' = m'' := Option.some.inj (hm'.symm.trans hm'')
    rw [paidKeys_append]
    exact hw.once hinv.week hweek (hinv.onceWeek m hm)

/-- a state in which nothing was paid yet -/
theorem Inv.of_unpaid {db : Db} (hday : Distinct db.day) (hweek : Distinct db.week) (c : Clock) : Inv ⟨db, [], c⟩ :=
  ⟨hday, hweek, fun _ => rfl, fun _ _ => Once.nil _ _, fun _ _ => Once.nil _ _⟩

/-- without a main row only a refresh changes the rows -/
theorem refresh_distinct (T : Tables) (c : Clock) {db : Db} (pb : QuestInfo) (hday : Distinct db.day)
    (hweek : Distinct db.week) :
    Distinct (questRefreshData T c db pb).2.1.day ∧ Distinct (questRefreshData T c db pb).2.1.week := by
  unfold questRefreshData
  cases T.getMainType MAIN_PROGRESS with
  | nil => exact ⟨hday, hweek⟩
  | cons tb_main _ =>
    exact ⟨refreshRows_distinct (getPeriodType_codes T DAY_NORMAL) _ hday,
      refreshRows_distinct (getPeriodType_codes T WEEK_NORMAL) _ hweek⟩

/-- step lemma -/
theorem serve_inv (T : Tables) (h : History) (r : Clock × Request) (hinv : Inv h) (hl : legal h r) :
    Inv (serve T h r) := by
  obtain ⟨hday, hweek⟩ := hl
  cases hm : h.db.main with
  | none =>
    have hpaid : h.paid = [] := hinv.unpaid hm
    obtain ⟨c, req⟩ := r
    cases req with
    | refresh =>
      obtain ⟨h1, h2⟩ := refresh_distinct T c QuestInfo.empty hinv.day hinv.week
      simp only [serve, hpaid]
      exact Inv.of_unpaid h1 h2 c
    | occur L =>
      simp only [serve, questOccur, hm, hpaid]
      exact Inv.of_unpaid hinv.day hinv.week c
    | reward category codes =>
      have hreply : questReward T c category codes h.db = ⟨.FAIL, QuestInfo.empty, [], h.db⟩ := by
        simp [questReward, hm]
      simp only [serve, hreply, hpaid]
      exact Inv.of_unpaid hinv.day hinv.week c
  | some m =>
    obtain ⟨c, req⟩ := r
    cases req with
    | refresh => simpa [serve] using hinv.moves hday hweek hm (refresh_moves T c hm QuestInfo.empty)
    | occur L => simpa [serve] using hinv.moves hday hweek hm (occur_moves T c hm L QuestInfo.empty)
    | reward category codes => exact hinv.moves hday hweek hm (reward_moves T c hm category codes)

/-- **Periodic rewards are paid at most once per period.** In every run whose ids never decrease, no daily quest and no
daily-complete reward is paid twice at one day id, and the same holds weekly. -/
theorem rewards_once_per_period (T : Tables) {db : Db} (hday : Distinct db.day) (hweek : Distinct db.week) {c : Clock}
    {calls : List (Clock × Request)} (hl : LegalRun (serve T) legal ⟨db, [], c⟩ calls) :
    (paidKeys dayKey Clock.dayID (run (serve T) ⟨db, [], c⟩ calls).paid).Nodup ∧
      (paidKeys weekKey Clock.weekID (run (serve T) ⟨db, [], c⟩ calls).paid).Nodup := by
  have hinv : Inv (run (serve T) ⟨db, [], c⟩ calls) := run_inv (serve_inv T) (Inv.of_unpaid hday hweek c) hl
  generalize run (serve T) ⟨db, [], c⟩ calls = h at hinv
  cases hm : h.db.main with
  | none => simp [hinv.unpaid hm, paidKeys]
  | some m => exact ⟨(hinv.onceDay m hm).nodup, (hinv.onceWeek m hm).nodup⟩

/-- a daily quest is asked for twice on day 5, the day-6 reset is noticed by a request, and the request is repeated -/
def sampleCalls : List (Clock × Request) :=
  [(⟨5, 1⟩, .occur [⟨7, 0, 2⟩]), (⟨5, 1⟩, .reward .DAY [10]), (⟨5, 1⟩, .reward .DAY [10]),
    (⟨5, 1⟩, .reward .DAY_COMPLETE [11]), (⟨5, 1⟩, .reward .DAY_COMPLETE [11]), (⟨6, 1⟩, .reward .DAY [10]),
    (⟨6, 1⟩, .reward .DAY [10]), (⟨6, 1⟩, .reward .WEEK [20])]

theorem rewards_once_per_period_sample :
    paidKeys dayKey Clock.dayID (run (serve sampleTables) ⟨sampleDb, [], ⟨4, 1⟩⟩ sampleCalls).paid =
        [(some 10, 5), (none, 5), (some 10, 6)] ∧
      (paidKeys dayKey Clock.dayID (run (serve sampleTables) ⟨sampleDb, [], ⟨4, 1⟩⟩ sampleCalls).paid).Nodup ∧
      (paidKeys weekKey Clock.weekID (run (serve sampleTables) ⟨sampleDb, [], ⟨4, 1⟩⟩ sampleCalls).paid).Nodup := by
  refine ⟨by decide, rewards_once_per_period sampleTables (by unfold Distinct; decide) (by unfold Distinct; decide) ?_⟩
  simp [sampleCalls, LegalRun, legal, serve]

end GameServer.Quest
