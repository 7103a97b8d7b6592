/-
Quest progress does not depend on the order of the occurrences or on how they are batched into calls of `QuestOccur`.

Each counter is one with a goal (`Core.toward`). An occurrence moves a counter by its count if type and condition match
(`gain`) and not at all otherwise, so a counter depends on the sum of the gains only. The working set of a call depends on
the occurrences too (the rows whose quest type occurs), but the rows that it leaves out gain nothing (`occurRows_eq`).

- `progress_eq`, `occurs_count`, `occurs_history`: a period quest, the main quest and the history after any occurrences;
- `questOccur_total`: what a call stores, as a function of the sums;
- `questOccur_append`: two calls with the same ids store what one call does (`heardOf_append`: any number of calls);
- `questOccur_order`: the law for every batching and every permutation, with the final counts.
-/
import Mathlib.Tactic
import GameServer.Core.Goal
import GameServer.Quest.ResetPaths

namespace GameServer.Quest

open GameServer.Core

/-! ## One counter -/

/-- what an occurrence adds to a quest of the given type and condition, before the cap -/
def gain (quest_type is_history condition : ℤ) (o : Occur) : ℤ :=
  if quest_type = o.type ∧ is_history = 0 ∧ (condition = 0 ∨ condition = o.condition) then o.count else 0

def PeriodQuest.gain (tb : PeriodQuest) : Occur → ℤ := Quest.gain tb.quest_type tb.is_history tb.condition

def MainQuest.gain (tb : MainQuest) : Occur → ℤ := Quest.gain tb.quest_type tb.is_history tb.condition

/-- counts are not negative -/
def Counts (L : List Occur) : Prop := ∀ o ∈ L, 0 ≤ o.count

instance (L : List Occur) : Decidable (Counts L) := by
  unfold Counts; infer_instance

theorem gain_nonneg {o : Occur} (h : 0 ≤ o.count) (quest_type is_history condition : ℤ) :
    0 ≤ gain quest_type is_history condition o := by
  unfold gain
  split_ifs
  · exact h
  · exact le_rfl

theorem Counts.period {L : List Occur} (h : Counts L) (tb : PeriodQuest) : ∀ k ∈ L.map tb.gain, 0 ≤ k := by
  intro k hk
  obtain ⟨o, ho, rfl⟩ := List.mem_map.1 hk
  exact gain_nonneg (h o ho) _ _ _

theorem Counts.main {L : List Occur} (h : Counts L) (tb : MainQuest) : ∀ k ∈ L.map tb.gain, 0 ≤ k := by
  intro k hk
  obtain ⟨o, ho, rfl⟩ := List.mem_map.1 hk
  exact gain_nonneg (h o ho) _ _ _

/-- the test of `QuestOccurOne` is a step toward the goal -/
theorem step_eq (goal n quest_type is_history condition : ℤ) (o : Occur) :
    (if quest_type = o.type ∧ is_history = 0 ∧ n < goal ∧ (condition = 0 ∨ condition = o.condition) then
        min goal (n + o.count) else n) = toward goal n (gain quest_type is_history condition o) := by
  by_cases hmatch : quest_type = o.type ∧ is_history = 0 ∧ (condition = 0 ∨ condition = o.condition)
  · rw [gain, if_pos hmatch, toward]
    exact if_congr ⟨fun h => h.2.2.1, fun h => ⟨hmatch.1, hmatch.2.1, h, hmatch.2.2⟩⟩ rfl rfl
  · rw [gain, if_neg hmatch, toward_zero, if_neg fun h => hmatch ⟨h.1, h.2.1, h.2.2.2⟩]

section Period

variable {T : Tables} {idx : ℤ} {tb : PeriodQuest} (htb : T.getPeriod idx = some tb)

include htb

theorem occurRow_toward (o : Occur) {w : Work} (hw : w.idx = idx) :
    (occurRow T o w).complete_count = toward tb.count w.complete_count (tb.gain o) := by
  rw [PeriodQuest.gain, ← step_eq]
  unfold occurRow
  rw [hw, htb]
  dsimp only
  split_ifs <;> rfl

theorem progress_foldl (L : List Occur) (n : ℤ) :
    progress T L idx n = (L.map tb.gain).foldl (toward tb.count) n := by
  induction L generalizing n with
  | nil => rfl
  | cons o L ih =>
    rw [progress, occurAll_cons, occurAll_count, occurRow_idx, occurRow_toward htb o rfl, List.map_cons, List.foldl_cons]
    exact ih _

/-- **A period quest counts up to its goal.** -/
theorem progress_eq {L : List Occur} (hL : Counts L) (n : ℤ) :
    progress T L idx n = max n (min tb.count (n + (L.map tb.gain).sum)) := by
  rw [progress_foldl htb, foldl_toward tb.count n (hL.period tb)]

end Period

/-- a code without a table row makes no progress -/
theorem progress_of_none {T : Tables} {idx : ℤ} (h : T.getPeriod idx = none) (L : List Occur) (n : ℤ) :
    progress T L idx n = n := by
  induction L generalizing n with
  | nil => rfl
  | cons o L ih =>
    have hrow : occurRow T o ⟨idx, n, 0, false, false⟩ = ⟨idx, n, 0, false, false⟩ := by
      unfold occurRow
      rw [h]
    rw [progress, occurAll_cons, hrow]
    exact ih n

theorem progress_append (T : Tables) (L L' : List Occur) (idx n : ℤ) :
    progress T (L ++ L') idx n = progress T L' idx (progress T L idx n) := by
  have hsplit : ∀ w, occurAll T (L ++ L') w = occurAll T L' (occurAll T L w) := by
    intro w
    simp only [occurAll, List.foldl_append]
  rw [progress, hsplit, occurAll_count, occurAll_idx]
  rfl

theorem progress_perm (T : Tables) {L L' : List Occur} (h : L.Perm L') (hL : Counts L) (idx n : ℤ) :
    progress T L idx n = progress T L' idx n := by
  cases htb : T.getPeriod idx with
  | none => rw [progress_of_none htb, progress_of_none htb]
  | some tb =>
    have hL' : Counts L' := fun o ho => hL o (h.mem_iff.2 ho)
    rw [progress_eq htb hL, progress_eq htb hL', (h.map tb.gain).sum_eq]

/-! ## The main quest and the history -/

section Main

variable {T : Tables} {tb : MainQuest}

theorem questOccurOne_valid {s : OccurState} (htb : T.getMain s.main.idx = some tb) (o : Occur) :
    (questOccurOne T s o).main =
        { s.main with
          complete_count := toward (mainNeedCount tb s.main.repeat_count) s.main.complete_count (tb.gain o) } ∧
      (questOccurOne T s o).history = s.history ++ occurHistory T o := by
  rw [MainQuest.gain, ← step_eq]
  unfold questOccurOne occurMain
  rw [htb]
  dsimp only
  split_ifs <;> exact ⟨rfl, rfl⟩

theorem occurs_foldl {s : OccurState} (htb : T.getMain s.main.idx = some tb) (L : List Occur) :
    (L.foldl (questOccurOne T) s).main =
        { s.main with
          complete_count :=
            (L.map tb.gain).foldl (toward (mainNeedCount tb s.main.repeat_count)) s.main.complete_count } ∧
      (L.foldl (questOccurOne T) s).history = s.history ++ L.flatMap (occurHistory T) := by
  induction L generalizing s with
  | nil => simp
  | cons o L ih =>
    obtain ⟨hmain, hhist⟩ := questOccurOne_valid htb o
    obtain ⟨ih1, ih2⟩ := ih (s := questOccurOne T s o) (by rw [hmain]; exact htb)
    rw [List.foldl_cons, ih1, ih2, hmain, hhist]
    simp

end Main

theorem addHistory_comm (h : HistoryRow) (a b : HistoryType × ℤ) :
    addHistory (addHistory h a) b = addHistory (addHistory h b) a := by
  unfold addHistory
  cases a.1 <;> cases b.1 <;> simp [add_right_comm]

theorem history_perm (T : Tables) {L L' : List Occur} (h : L.Perm L') (row : HistoryRow) :
    (L.flatMap (occurHistory T)).foldl addHistory row = (L'.flatMap (occurHistory T)).foldl addHistory row :=
  (h.flatMap_right _).foldl_eq' (fun a _ b _ row => addHistory_comm row a b) row

/-! ## One half -/

/-- what a call leaves in one half: nothing changes after the complete reward, else all quests make progress -/
def occurHalf (T : Tables) (type : ℤ) (stale rewarded : Bool) (rows : List QuestRow) (L : List Occur) : List QuestRow :=
  if stale = false ∧ rewarded = true then rows
  else (resetRows stale rows).map (advance T (T.getPeriodType type) L)

section Half

variable (T : Tables) (type : ℤ) (stale rewarded : Bool) (rows : List QuestRow) (L L' : List Occur)

theorem advance_idx (tb : List PeriodQuest) (r : QuestRow) : (advance T tb L r).idx = r.idx := by
  unfold advance
  split_ifs <;> rfl

theorem resetRows_idx : (resetRows stale rows).map (·.idx) = rows.map (·.idx) := by
  unfold resetRows
  split_ifs
  · exact Keyed.keys_map QuestRow.reset (fun _ => rfl) rows
  · rfl

theorem occurHalf_idx : (occurHalf T type stale rewarded rows L).map (·.idx) = rows.map (·.idx) := by
  unfold occurHalf
  split_ifs
  · rfl
  · rw [Keyed.keys_map _ (advance_idx T L _), resetRows_idx]

theorem advance_append (tb : List PeriodQuest) (r : QuestRow) :
    advance T tb L' (advance T tb L r) = advance T tb (L ++ L') r := by
  unfold advance
  by_cases h : r.idx ∈ tb.map (·.code)
  · simp only [if_pos h, progress_append]
  · simp only [if_neg h]

/-- after the first call the half is up to date, and the complete reward is the one taken before it -/
theorem occurHalf_append {rewarded' : Bool} (hgate : rewarded' = if stale then false else rewarded) :
    occurHalf T type false rewarded' (occurHalf T type stale rewarded rows L) L' =
      occurHalf T type stale rewarded rows (L ++ L') := by
  by_cases h : stale = false ∧ rewarded = true
  · have hrewarded : rewarded' = true := by rw [hgate, h.1, h.2]; rfl
    simp [occurHalf, h, hrewarded]
  · have hopen : ¬ (false = false ∧ rewarded' = true) := by
      rintro ⟨-, h'⟩
      rw [hgate] at h'
      cases stale with
      | true => cases h'
      | false => exact h ⟨rfl, h'⟩
    rw [occurHalf, if_neg hopen, occurHalf, if_neg h, occurHalf, if_neg h]
    change ((resetRows stale rows).map _).map _ = _
    rw [List.map_map]
    exact List.map_congr_left fun r _ => advance_append T L L' _ r

variable {L L'}

theorem occurHalf_perm (h : L.Perm L') (hL : Counts L) :
    occurHalf T type stale rewarded rows L = occurHalf T type stale rewarded rows L' := by
  unfold occurHalf
  split_ifs
  · rfl
  · apply List.map_congr_left
    intro r _
    unfold advance
    split_ifs
    · rw [progress_perm T h hL]
    · rfl

/-- **The final counts of a half** that is being recorded -/
theorem occurHalf_count (hopen : stale = true ∨ rewarded = false) (hL : Counts L) {q : PeriodQuest}
    (hq : q ∈ T.getPeriodType type) {r : QuestRow} (hr : r ∈ rows) (hidx : r.idx = q.code) :
    ∃ r' ∈ occurHalf T type stale rewarded rows L, r'.idx = q.code ∧
      r'.complete_count = max (if stale then 0 else r.complete_count)
        (min q.count ((if stale then 0 else r.complete_count) + (L.map q.gain).sum)) := by
  have hrec : ¬ (stale = false ∧ rewarded = true) := by
    rintro ⟨h1, h2⟩
    rw [h1, h2] at hopen
    simp at hopen
  have hcode : q.code ∈ (T.getPeriodType type).map (·.code) := List.mem_map_of_mem hq
  have htable := progress_eq (getPeriod_of_mem T hq) hL
  unfold occurHalf
  rw [if_neg hrec]
  cases stale with
  | true =>
    refine ⟨_, List.mem_map_of_mem (List.mem_map_of_mem hr), ?_, ?_⟩
    · rw [advance_idx]
      exact hidx
    · have hreset : r.reset.idx = q.code := hidx
      rw [advance, hreset, if_pos hcode]
      exact htable 0
  | false =>
    refine ⟨_, List.mem_map_of_mem hr, ?_, ?_⟩
    · rw [advance_idx]
      exact hidx
    · rw [advance, hidx, if_pos hcode]
      exact htable r.complete_count

end Half

/-! ## Calls -/

/-- the main row after a call -/
def occurredMain (c : Clock) (tb : MainQuest) (L : List Occur) (m : MainRow) : MainRow :=
  { refreshMain c m with
    complete_count := (L.map tb.gain).foldl (toward (mainNeedCount tb m.repeat_count)) m.complete_count }

/-- what the quests store after they have heard of `L`, call by call -/
def heardOf (T : Tables) (c : Clock) (L : List Occur) (db : Db) : Db :=
  if L = [] then db else (questOccur T c L db QuestInfo.empty).1

section Call

variable {T : Tables} {c : Clock} {db : Db} {m : MainRow} {tb : MainQuest} (hm : db.main = some m)
  (htb : T.getMain m.idx = some tb) (hday : Complete (T.getPeriodType DAY_NORMAL) db.day)
  (hweek : Complete (T.getPeriodType WEEK_NORMAL) db.week)

include hm htb hday hweek

/-- what a call stores for a valid main quest -/
theorem questOccur_valid (L : List Occur) (pb : QuestInfo) : (questOccur T c L db pb).1 =
    { db with
      main := some (occurredMain c tb L m)
      day := occurHalf T DAY_NORMAL (m.update_day_id ≠ c.dayID) (m.reward_day_id = c.dayID) db.day L
      week := occurHalf T WEEK_NORMAL (m.update_week_id ≠ c.weekID) (m.reward_week_id = c.weekID) db.week L
      history := db.history.map fun row => (L.flatMap (occurHistory T)).foldl addHistory row } := by
  have heff : effective T m L = L := by rw [effective, htb]
  have hstart : T.getMain (occurStart T c db m L).main.idx = some tb := by
    simp only [occurStart, refreshMain_eq]
    exact htb
  obtain ⟨hmain, hhist⟩ := occurs_foldl hstart L
  rw [questOccur_db T c L hm pb, heff, hmain, hhist, occurRows_eq T DAY_NORMAL _ _ hday (List.Subset.refl L),
    occurRows_eq T WEEK_NORMAL _ _ hweek (List.Subset.refl L)]
  simp only [occurStart, refreshMain_eq, List.nil_append, occurHalf, occurredMain]

theorem questOccur_perm {L L' : List Occur} (h : L.Perm L') (hL : Counts L) (pb pb' : QuestInfo) :
    (questOccur T c L db pb).1 = (questOccur T c L' db pb').1 := by
  have hL' : Counts L' := fun o ho => hL o (h.mem_iff.2 ho)
  have hmain : occurredMain c tb L m = occurredMain c tb L' m := by
    simp only [occurredMain, foldl_toward _ _ (hL.main tb), foldl_toward _ _ (hL'.main tb), (h.map tb.gain).sum_eq]
  rw [questOccur_valid hm htb hday hweek, questOccur_valid hm htb hday hweek, hmain,
    occurHalf_perm T DAY_NORMAL _ _ _ h hL, occurHalf_perm T WEEK_NORMAL _ _ _ h hL]
  simp only [history_perm T h]

/-- **Two calls with the same ids store what one call does.** Only the first one may meet a stale day or week. -/
theorem questOccur_append (hdayID : 0 < c.dayID) (hweekID : 0 < c.weekID) (L L' : List Occur) (pb pb' pb'' : QuestInfo) :
    (questOccur T c L' (questOccur T c L db pb).1 pb').1 = (questOccur T c (L ++ L') db pb'').1 := by
  have hfirst := questOccur_valid (c := c) hm htb hday hweek L pb
  generalize (questOccur T c L db pb).1 = db1 at hfirst
  subst hfirst
  have hidx : (occurredMain c tb L m).idx = m.idx := by rw [occurredMain, refreshMain_eq]
  have hday1 : Complete (T.getPeriodType DAY_NORMAL) (occurHalf T DAY_NORMAL (m.update_day_id ≠ c.dayID)
      (m.reward_day_id = c.dayID) db.day L) := by
    intro q hq
    rw [occurHalf_idx]
    exact hday q hq
  have hweek1 : Complete (T.getPeriodType WEEK_NORMAL) (occurHalf T WEEK_NORMAL (m.update_week_id ≠ c.weekID)
      (m.reward_week_id = c.weekID) db.week L) := by
    intro q hq
    rw [occurHalf_idx]
    exact hweek q hq
  have hsecond : occurredMain c tb L' (occurredMain c tb L m) = occurredMain c tb (L ++ L') m := by
    simp [occurredMain, refreshMain_eq, List.foldl_append]
  have hupdateDay : decide ((occurredMain c tb L m).update_day_id ≠ c.dayID) = false := by
    simp [occurredMain, refreshMain_eq]
  have hupdateWeek : decide ((occurredMain c tb L m).update_week_id ≠ c.weekID) = false := by
    simp [occurredMain, refreshMain_eq]
  rw [questOccur_valid rfl (hidx ▸ htb) hday1 hweek1, questOccur_valid hm htb hday hweek, hsecond, hupdateDay, hupdateWeek]
  dsimp only
  rw [occurHalf_append T DAY_NORMAL _ _ _ L L' (by
      simp only [occurredMain, refreshMain_eq]
      exact rewarded_refresh hdayID m.update_day_id m.reward_day_id),
    occurHalf_append T WEEK_NORMAL _ _ _ L L' (by
      simp only [occurredMain, refreshMain_eq]
      exact rewarded_refresh hweekID m.update_week_id m.reward_week_id)]
  simp only [List.flatMap_append, List.foldl_append, Option.map_map, Function.comp_def]

theorem heardOf_append (hdayID : 0 < c.dayID) (hweekID : 0 < c.weekID) (L : List Occur) {L' : List Occur} (hL' : L' ≠ [])
    (pb : QuestInfo) : (questOccur T c L' (heardOf T c L db) pb).1 = heardOf T c (L ++ L') db := by
  have happend : L ++ L' ≠ [] := fun h => hL' (List.append_eq_nil_iff.1 h).2
  rw [heardOf, heardOf, if_neg happend]
  split_ifs with hL
  · subst hL
    rw [List.nil_append, questOccur_db T c L' hm, questOccur_db T c L' hm]
  · exact questOccur_append hm htb hday hweek hdayID hweekID L L' _ _ _

end Call

/-- the final counts of one half: `stale` and `rewarded` are those before the call -/
def HalfTotals (tb : List PeriodQuest) (stale rewarded : Bool) (rows rows' : List QuestRow) (L : List Occur) : Prop :=
  rows'.map (·.idx) = rows.map (·.idx) ∧
    ((stale = true ∨ rewarded = false) → ∀ q ∈ tb, ∀ r ∈ rows, r.idx = q.code → ∃ r' ∈ rows', r'.idx = q.code ∧
      r'.complete_count = max (if stale then 0 else r.complete_count)
        (min q.count ((if stale then 0 else r.complete_count) + (L.map q.gain).sum)))

/-- the final counts after the occurrences `L`, in sum -/
structure Totals (T : Tables) (c : Clock) (m : MainRow) (tb : MainQuest) (db db' : Db) (L : List Occur) : Prop where
  main : ∃ m', db'.main = some m' ∧ m'.idx = m.idx ∧ m'.complete_count =
    max m.complete_count (min (mainNeedCount tb m.repeat_count) (m.complete_count + (L.map tb.gain).sum))
  day : HalfTotals (T.getPeriodType DAY_NORMAL) (m.update_day_id ≠ c.dayID) (m.reward_day_id = c.dayID) db.day db'.day L
  week : HalfTotals (T.getPeriodType WEEK_NORMAL) (m.update_week_id ≠ c.weekID) (m.reward_week_id = c.weekID) db.week
    db'.week L

theorem questOccur_totals {T : Tables} {c : Clock} {db : Db} {m : MainRow} {tb : MainQuest} (hm : db.main = some m)
    (htb : T.getMain m.idx = some tb) (hday : Complete (T.getPeriodType DAY_NORMAL) db.day)
    (hweek : Complete (T.getPeriodType WEEK_NORMAL) db.week) {L : List Occur} (hL : Counts L) (pb : QuestInfo) :
    Totals T c m tb db (questOccur T c L db pb).1 L := by
  rw [questOccur_valid hm htb hday hweek]
  refine ⟨⟨_, rfl, ?_, ?_⟩, ⟨occurHalf_idx T _ _ _ _ L, ?_⟩, ⟨occurHalf_idx T _ _ _ _ L, ?_⟩⟩
  · rw [occurredMain, refreshMain_eq]
  · rw [occurredMain, foldl_toward _ _ (hL.main tb)]
  · exact fun hopen q hq r hr => occurHalf_count T _ _ _ _ hopen hL hq hr
  · exact fun hopen q hq r hr => occurHalf_count T _ _ _ _ hopen hL hq hr

/-- **Quest progress does not depend on order or batching.** -/
theorem questOccur_order {T : Tables} {c : Clock} (hdayID : 0 < c.dayID) (hweekID : 0 < c.weekID) {db : Db} {m : MainRow}
    {tb : MainQuest} (hm : db.main = some m) (htb : T.getMain m.idx = some tb)
    (hday : Complete (T.getPeriodType DAY_NORMAL) db.day) (hweek : Complete (T.getPeriodType WEEK_NORMAL) db.week)
    {L1 L2 : List Occur} (hL1 : Counts L1) (hL2 : Counts L2) (pb pb' pb'' : QuestInfo) :
    (questOccur T c L2 (questOccur T c L1 db pb).1 pb').1 = (questOccur T c (L1 ++ L2) db pb'').1 ∧
      (∀ L, L.Perm (L1 ++ L2) → (questOccur T c L db pb).1 = (questOccur T c (L1 ++ L2) db pb'').1) ∧
      Totals T c m tb db (questOccur T c (L1 ++ L2) db pb'').1 (L1 ++ L2) := by
  have hL : Counts (L1 ++ L2) := by
    intro o ho
    rcases List.mem_append.1 ho with ho | ho
    · exact hL1 o ho
    · exact hL2 o ho
  refine ⟨questOccur_append hm htb hday hweek hdayID hweekID L1 L2 pb pb' pb'', fun L hperm => ?_,
    questOccur_totals hm htb hday hweek hL pb''⟩
  exact (questOccur_perm hm htb hday hweek hperm.symm hL pb'' pb).symm

/-- day 5 is new and week 1 goes on; three occurrences in one call, in two calls, and in another order -/
theorem questOccur_order_sample :
    (questOccur sampleTables ⟨5, 1⟩ [⟨30, 0, 4⟩]
        (questOccur sampleTables ⟨5, 1⟩ [⟨7, 0, 1⟩, ⟨7, 2, 3⟩] sampleDb QuestInfo.empty).1 QuestInfo.empty).1 =
      ⟨some ⟨1, 3, 0, 5, 0, 1, 0⟩, [⟨10, 2, 0⟩], [⟨20, 5, 0⟩], [], some ⟨7, 0⟩⟩ ∧
    (questOccur sampleTables ⟨5, 1⟩ [⟨7, 2, 3⟩, ⟨30, 0, 4⟩, ⟨7, 0, 1⟩] sampleDb QuestInfo.empty).1 =
      ⟨some ⟨1, 3, 0, 5, 0, 1, 0⟩, [⟨10, 2, 0⟩], [⟨20, 5, 0⟩], [], some ⟨7, 0⟩⟩ := by
  have hday : Complete (sampleTables.getPeriodType DAY_NORMAL) sampleDb.day := by unfold Complete; decide
  have hweek : Complete (sampleTables.getPeriodType WEEK_NORMAL) sampleDb.week := by unfold Complete; decide
  have hone : (questOccur sampleTables ⟨5, 1⟩ ([⟨7, 0, 1⟩, ⟨7, 2, 3⟩] ++ [⟨30, 0, 4⟩]) sampleDb QuestInfo.empty).1 =
      ⟨some ⟨1, 3, 0, 5, 0, 1, 0⟩, [⟨10, 2, 0⟩], [⟨20, 5, 0⟩], [], some ⟨7, 0⟩⟩ := by decide
  have hmain : sampleDb.main = some ⟨1, 1, 0, 4, 4, 1, 0⟩ := rfl
  have h1 : Counts [⟨7, 0, 1⟩, ⟨7, 2, 3⟩] := by decide
  have h2 : Counts [⟨30, 0, 4⟩] := by decide
  obtain ⟨htwo, horder, -⟩ := questOccur_order (T := sampleTables) (c := ⟨5, 1⟩) (by decide) (by decide) hmain rfl hday
    hweek h1 h2 QuestInfo.empty QuestInfo.empty QuestInfo.empty
  exact ⟨htwo.trans hone, (horder _ (by decide)).trans hone⟩

end GameServer.Quest
