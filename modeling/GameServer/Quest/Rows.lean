/-
What the entry points do to the main row and to the stored rows of one kind (daily or weekly).

- `refreshMain_eq`, `occur_main_stored`: the main row that a call leaves;
- `saveRows_eq`, `stepRows_eq`: the write-back loops change every row on its own;
- `insertMissing_distinct`: missing rows are inserted once;
- `verifyRows_ok`: a verified list has no rewarded row, and each of its rows is paid once;
- `verifyRows_spec`: when a list is verified, and the entries it leaves in the packet otherwise;
- `RowsReply`: the four answers to a request for rewards of daily or weekly quests;
- `CompleteReply`: the three answers to a request for a daily or weekly complete reward.
The rows of a user have distinct codes (`Distinct`).
-/
import Mathlib.Tactic
import GameServer.Core.Keyed
import GameServer.Quest.Model

namespace GameServer.Quest

/-! ## Main row -/

theorem refreshMain_eq (c : Clock) (m : MainRow) : refreshMain c m =
    ⟨m.idx, m.complete_count, m.repeat_count, c.dayID, if m.update_day_id ≠ c.dayID then 0 else m.reward_day_id,
      c.weekID, if m.update_week_id ≠ c.weekID then 0 else m.reward_week_id⟩ := by
  obtain ⟨idx, complete_count, repeat_count, update_day_id, reward_day_id, update_week_id, reward_week_id⟩ := m
  by_cases hd : update_day_id = c.dayID <;> by_cases hw : update_week_id = c.weekID <;> simp [refreshMain, hd, hw]

/-- the occurrences change no field of the main row but the count -/
theorem questOccurOne_main (T : Tables) (s : OccurState) (o : Occur) :
    ∃ n, (questOccurOne T s o).main = { s.main with complete_count := n } ∧
      (s.main_update = true → (questOccurOne T s o).main_update = true) ∧
      ((questOccurOne T s o).main_update = false → (questOccurOne T s o).main = s.main) := by
  unfold questOccurOne
  cases T.getMain s.main.idx with
  | none => exact ⟨s.main.complete_count, rfl, fun h => h, fun _ => rfl⟩
  | some tb =>
    simp only [occurMain]
    split_ifs
    · exact ⟨_, rfl, fun _ => rfl, fun h => by cases h⟩
    · exact ⟨s.main.complete_count, rfl, fun h => h, fun _ => rfl⟩

theorem occurs_main (T : Tables) (s : OccurState) (L : List Occur) :
    ∃ n, (L.foldl (questOccurOne T) s).main = { s.main with complete_count := n } ∧
      (s.main_update = true → (L.foldl (questOccurOne T) s).main_update = true) ∧
      ((L.foldl (questOccurOne T) s).main_update = false → (L.foldl (questOccurOne T) s).main = s.main) := by
  induction L generalizing s with
  | nil => exact ⟨s.main.complete_count, rfl, fun h => h, fun _ => rfl⟩
  | cons o L ih =>
    obtain ⟨n, h1, h2, h3⟩ := questOccurOne_main T s o
    obtain ⟨n', i1, i2, i3⟩ := ih (questOccurOne T s o)
    refine ⟨n', by rw [List.foldl_cons, i1, h1], fun h => i2 (h2 h), fun h => ?_⟩
    have hone : (questOccurOne T s o).main_update = false := by
      by_contra hne
      have := i2 (by simpa using hne)
      rw [List.foldl_cons] at h
      rw [this] at h
      cases h
    rw [List.foldl_cons, i3 h, h3 hone]

/-- the main row that is stored: without an update nothing has changed -/
theorem occur_main_stored (T : Tables) (c : Clock) (db : Db) (m : MainRow) (L : List Occur) :
    (if (L.foldl (questOccurOne T) (occurStart T c db m L)).main_update then
        (L.foldl (questOccurOne T) (occurStart T c db m L)).main else m) =
      (L.foldl (questOccurOne T) (occurStart T c db m L)).main := by
  obtain ⟨-, -, h2, h3⟩ := occurs_main T (occurStart T c db m L) L
  split_ifs with hup
  · rfl
  · -- the day and the week are up to date
    have hstart : (occurStart T c db m L).main_update = false := by
      by_contra hne
      exact hup (h2 (by simpa using hne))
    have hfresh : m.update_day_id = c.dayID ∧ m.update_week_id = c.weekID := by
      simpa [occurStart, Bool.or_eq_false_iff] using hstart
    rw [h3 (by simpa using hup)]
    simp only [occurStart, refreshMain, hfresh.1, hfresh.2, ne_eq, not_true_eq_false, if_false]

/-! ## Distinct rows -/

/-- each quest code has at most one row -/
def Distinct (rows : List QuestRow) : Prop := (rows.map (·.idx)).Nodup

theorem Distinct.eq_of_idx {rows : List QuestRow} (h : Distinct rows) {r r' : QuestRow} (hr : r ∈ rows) (hr' : r' ∈ rows)
    (heq : r.idx = r'.idx) : r = r' := List.inj_on_of_nodup_map h hr hr' heq

/-- rewriting rows without touching their codes -/
theorem Distinct.map {rows : List QuestRow} (h : Distinct rows) {g : QuestRow → QuestRow} (hg : ∀ r, (g r).idx = r.idx) :
    Distinct (rows.map g) := by
  unfold Distinct
  rw [Core.Keyed.keys_map g hg]
  exact h

theorem Distinct.filter {rows : List QuestRow} (h : Distinct rows) (p : QuestRow → Bool) : Distinct (rows.filter p) :=
  h.sublist ((List.filter_sublist).map _)

theorem questFindInList_none {idx : ℤ} {rows : List QuestRow} :
    questFindInList idx rows = none ↔ idx ∉ rows.map (·.idx) := Core.Keyed.find_eq_none

/-- table codes that have no row yet are new and distinct -/
theorem insertMissing_distinct {tb : List PeriodQuest} {rows : List QuestRow} (h : Distinct rows)
    (htb : (tb.map (·.code)).Nodup) : Distinct (insertMissing tb rows) := by
  unfold Distinct insertMissing
  rw [List.map_append, List.map_map, List.nodup_append]
  refine ⟨h, htb.sublist ((List.filter_sublist).map _), fun i hi j hj heq => ?_⟩
  obtain ⟨q, hq, rfl⟩ := List.mem_map.1 hj
  have hnone := of_decide_eq_true (List.mem_filter.1 hq).2
  have hcode : i = q.code := heq
  exact questFindInList_none.1 hnone (hcode ▸ hi)

theorem insertMissing_of_complete {tb : List PeriodQuest} {rows : List QuestRow}
    (h : ∀ q ∈ tb, q.code ∈ rows.map (·.idx)) : insertMissing tb rows = rows := by
  unfold insertMissing
  have hnil : (tb.filter fun q => questFindInList q.code rows = none) = [] := by
    rw [List.filter_eq_nil_iff]
    intro q hq hnone
    exact questFindInList_none.1 (of_decide_eq_true hnone) (h q hq)
  rw [hnil]
  simp

theorem getPeriodType_codes (T : Tables) (type : ℤ) : ((T.getPeriodType type).map (·.code)).Nodup :=
  T.period_codes.sublist ((List.filter_sublist).map _)

/-! ## Write-back loops -/

/-- the count that a row has after the write-back -/
def savedCount (works : List Work) (r : QuestRow) : ℤ :=
  (works.filter (·.need_update)).foldl (fun n w => if r.idx = w.idx then w.complete_count else n) r.complete_count

theorem saveRows_eq (rows : List QuestRow) (works : List Work) :
    saveRows rows works = rows.map fun r => { r with complete_count := savedCount works r } := by
  unfold saveRows savedCount
  generalize works.filter (·.need_update) = ws
  induction ws generalizing rows with
  | nil => simp
  | cons w ws ih =>
    rw [List.foldl_cons, ih, List.map_map]
    apply List.map_congr_left
    intro r _
    by_cases h : r.idx = w.idx
    · simp [h]
    · simp [h]

theorem stepRows_eq (verified rows : List QuestRow) :
    stepRows verified rows =
      rows.map fun r => { r with reward_step := r.reward_step + (verified.map (·.idx)).count r.idx } := by
  unfold stepRows
  induction verified generalizing rows with
  | nil => simp
  | cons v vs ih =>
    rw [List.foldl_cons, ih, List.map_map]
    apply List.map_congr_left
    intro r _
    by_cases h : r.idx = v.idx
    · simp only [Function.comp, h, if_true, List.map_cons, List.count_cons_self, Nat.cast_add, Nat.cast_one]
      congr 1
      ring
    · simp [h, List.count_cons_of_ne (Ne.symm h)]

/-! ## Verification -/

/-- **A verified list has no rewarded row, and every row is paid once.** -/
theorem verifyRows_ok {T : Tables} {type : ℤ} {source : ℤ → Source} {rows : List QuestRow} {pb pb' : List PbQuest}
    {rewards rewards' : List Reward} (h : verifyRows T type source rows pb rewards = (true, pb', rewards')) :
    (∀ r ∈ rows, r.reward_step = 0) ∧
      rewards'.map (·.source) = rewards.map (·.source) ++ rows.map fun r => source r.idx := by
  induction rows generalizing pb rewards with
  | nil =>
    simp only [verifyRows, Prod.mk.injEq, true_and] at h
    simp [h.2]
  | cons r rows ih =>
    rw [verifyRows] at h
    by_cases hstep : r.reward_step ≠ 0
    · simp [hstep] at h
    rw [if_neg hstep] at h
    split at h
    · simp at h
    · split_ifs at h with h1 h2
      · simp at h
      · simp at h
      · obtain ⟨ih1, ih2⟩ := ih h
        refine ⟨fun r' hr' => ?_, by rw [ih2]; simp⟩
        rcases List.mem_cons.1 hr' with rfl | hr'
        · exact not_not.1 hstep
        · exact ih1 r' hr'

/-- what the verification loop of `__procDay` and `__procWeek` asks of a row -/
def rowAccepted (T : Tables) (type : ℤ) (r : QuestRow) : Bool :=
  match T.getPeriod r.idx with
  | none => false
  | some tb => r.reward_step = 0 && tb.type = type

/-- the loop passes exactly if every row is accepted, and has an entry for each row before the first refused one -/
theorem verifyRows_spec (T : Tables) (type : ℤ) (source : ℤ → Source) (rows : List QuestRow) (pb : List PbQuest)
    (rewards : List Reward) : (verifyRows T type source rows pb rewards).1 = rows.all (rowAccepted T type) ∧
      (verifyRows T type source rows pb rewards).2.1 =
        pb ++ (rows.takeWhile (rowAccepted T type)).map fun r => ⟨r.idx, r.complete_count, r.reward_step + 1⟩ := by
  induction rows generalizing pb rewards with
  | nil => simp [verifyRows]
  | cons r rows ih =>
    rw [verifyRows, List.all_cons, List.takeWhile_cons]
    by_cases hstep : r.reward_step = 0
    · rw [if_neg (not_not.2 hstep)]
      cases hperiod : T.getPeriod r.idx with
      | none => simp [rowAccepted, hperiod]
      | some tb =>
        by_cases htype : tb.type = type
        · have haccepted : rowAccepted T type r = true := by simp [rowAccepted, hperiod, hstep, htype]
          obtain ⟨hpass, hpb⟩ := ih (pb ++ [⟨r.idx, r.complete_count, r.reward_step + 1⟩])
            (rewards ++ [⟨source r.idx, tb.rewards⟩])
          simp only [htype, ne_eq, not_true_eq_false, if_false, questVerify, Bool.true_eq_false, haccepted, if_true,
            Bool.true_and]
          refine ⟨hpass, ?_⟩
          rw [hpb, List.append_assoc]
          rfl
        · have hrefused : rowAccepted T type r = false := by simp [rowAccepted, hperiod, htype]
          simp [htype, hrefused]
    · have hrefused : rowAccepted T type r = false := by
        unfold rowAccepted
        cases T.getPeriod r.idx <;> simp [hstep]
      simp [hstep, hrefused]

/-! ## Requests for rows -/

/-- the answers to a request for quests of a day or a week `id`: `entries` puts the entries into the packet, `store` the
rows into the database -/
inductive RowsReply (T : Tables) (c : Clock) (m : MainRow) (db : Db) (id update type : ℤ) (source : ℤ → Source)
    (rows : List QuestRow) (codes : List ℤ) (entries : List PbQuest → QuestInfo) (store : List QuestRow → Db) :
    Reply → Prop where
  | stale (hupdate : update ≠ id) :
    RowsReply T c m db id update type source rows codes entries store (renewDate T c db)
  | missing (hupdate : update = id) (hlength : (executeSelectList rows codes).length ≠ codes.length) :
    RowsReply T c m db id update type source rows codes entries store ⟨.FAIL, QuestInfo.empty, [], db⟩
  | refused (hupdate : update = id) (hlength : (executeSelectList rows codes).length = codes.length)
    {pb : List PbQuest} {rewards : List Reward}
    (hverify : verifyRows T type source (executeSelectList rows codes) [] [] = (false, pb, rewards)) :
    RowsReply T c m db id update type source rows codes entries store ⟨.FAIL, entries pb, [], db⟩
  | paid (hupdate : update = id) (hlength : (executeSelectList rows codes).length = codes.length)
    {pb : List PbQuest} {rewards : List Reward}
    (hverify : verifyRows T type source (executeSelectList rows codes) [] [] = (true, pb, rewards)) :
    RowsReply T c m db id update type source rows codes entries store
      ⟨.SUCCESS, fillMainPacket (entries pb) m, rewards, store (stepRows (executeSelectList rows codes) rows)⟩

theorem procDay_reply (T : Tables) (c : Clock) (m : MainRow) (db : Db) (quest_code : List ℤ) :
    RowsReply T c m db c.dayID m.update_day_id DAY_NORMAL .day db.day quest_code
      (fun day => { QuestInfo.empty with Day := day }) (fun rows => { db with day := rows })
      (procDay T c m db quest_code) := by
  unfold procDay
  dsimp only
  split_ifs with hupdate hlength
  · exact .stale hupdate
  · exact .missing (not_not.1 hupdate) hlength
  · split
    · exact .refused (not_not.1 hupdate) (not_not.1 hlength) ‹_›
    · exact .paid (not_not.1 hupdate) (not_not.1 hlength) ‹_›

theorem procWeek_reply (T : Tables) (c : Clock) (m : MainRow) (db : Db) (quest_code : List ℤ) :
    RowsReply T c m db c.weekID m.update_week_id WEEK_NORMAL .week db.week quest_code
      (fun week => { QuestInfo.empty with Week := week }) (fun rows => { db with week := rows })
      (procWeek T c m db quest_code) := by
  unfold procWeek
  dsimp only
  split_ifs with hupdate hlength
  · exact .stale hupdate
  · exact .missing (not_not.1 hupdate) hlength
  · split
    · exact .refused (not_not.1 hupdate) (not_not.1 hlength) ‹_›
    · exact .paid (not_not.1 hupdate) (not_not.1 hlength) ‹_›

/-! ## Complete rewards -/

/-- the answers to a request for the complete reward of a day or a week `id`: `f` marks the reward in the main row -/
inductive CompleteReply (T : Tables) (c : Clock) (m : MainRow) (db : Db) (id update reward : ℤ) (source : Source)
    (f : MainRow → MainRow) : Reply → Prop where
  | refused : CompleteReply T c m db id update reward source f ⟨.FAIL, QuestInfo.empty, [], db⟩
  | stale : CompleteReply T c m db id update reward source f (renewDate T c db)
  | paid (hupdate : update = id) (hreward : reward ≠ id) (items : List (ℤ × ℤ)) :
    CompleteReply T c m db id update reward source f
      ⟨.SUCCESS, fillMainPacket QuestInfo.empty (f m), [⟨source, items⟩], { db with main := db.main.map f }⟩

theorem procDayComplete_reply (T : Tables) (c : Clock) (m : MainRow) (db : Db) (quest_code : List ℤ) :
    CompleteReply T c m db c.dayID m.update_day_id m.reward_day_id .dayComplete
      (fun s => { s with reward_day_id := c.dayID }) (procDayComplete T c m db quest_code) := by
  unfold procDayComplete
  split
  · split_ifs with hreward hupdate
    · exact .refused
    · exact .stale
    · split
      · exact .refused
      · exact .paid (not_not.1 hupdate) hreward _
  · exact .refused

theorem procWeekComplete_reply (T : Tables) (c : Clock) (m : MainRow) (db : Db) (quest_code : List ℤ) :
    CompleteReply T c m db c.weekID m.update_week_id m.reward_week_id .weekComplete
      (fun s => { s with reward_week_id := c.weekID }) (procWeekComplete T c m db quest_code) := by
  unfold procWeekComplete
  split
  · split_ifs with hreward hupdate
    · exact .refused
    · exact .stale
    · split
      · exact .refused
      · exact .paid (not_not.1 hupdate) hreward _
  · exact .refused

end GameServer.Quest
