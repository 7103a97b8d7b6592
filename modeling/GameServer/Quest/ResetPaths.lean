/-
The two period-reset paths agree: `QuestOccur` on a stale day or week against `QuestRefreshData` followed by `QuestOccur`.

On a stale half `QuestOccur` works on all table quests from zero; after a refresh it works on the stored rows whose quest
type occurs. Both are working sets that cover the rows that can change (`Covers`), and for any such set the write-back is
the same: every table quest makes its own progress (`saveRows_covers`).
-/
import Mathlib.Tactic
import GameServer.Quest.Rows

namespace GameServer.Quest

/-! ## One working row -/

/-- a working row after all occurrences -/
def occurAll (T : Tables) (L : List Occur) (w : Work) : Work := L.foldl (fun w o => occurRow T o w) w

/-- the count of a quest after all occurrences -/
def progress (T : Tables) (L : List Occur) (idx complete_count : ℤ) : ℤ :=
  (occurAll T L ⟨idx, complete_count, 0, false, false⟩).complete_count

section OneRow

variable (T : Tables)

@[simp] theorem occurAll_cons (o : Occur) (L : List Occur) (w : Work) :
    occurAll T (o :: L) w = occurAll T L (occurRow T o w) := rfl

@[simp] theorem occurRow_idx (o : Occur) (w : Work) : (occurRow T o w).idx = w.idx := by
  unfold occurRow
  split
  · rfl
  · split_ifs <;> rfl

/-- the new count depends on the code and the count only -/
theorem occurRow_count (o : Occur) {w w' : Work} (hidx : w.idx = w'.idx) (hcount : w.complete_count = w'.complete_count) :
    (occurRow T o w).complete_count = (occurRow T o w').complete_count := by
  unfold occurRow
  rw [hidx, hcount]
  split
  · exact hcount
  · split_ifs
    · rfl
    · exact hcount

/-- a row that is not to be written keeps its count -/
theorem occurRow_clean (o : Occur) {w : Work} (h : (occurRow T o w).need_update = false) : occurRow T o w = w := by
  unfold occurRow at h ⊢
  split
  · rfl
  · rename_i tb htb
    rw [htb] at h
    dsimp only at h
    split_ifs at h ⊢
    rfl

@[simp] theorem occurAll_idx (L : List Occur) (w : Work) : (occurAll T L w).idx = w.idx := by
  induction L generalizing w with
  | nil => rfl
  | cons o L ih => rw [occurAll_cons, ih, occurRow_idx]

theorem occurAll_count (L : List Occur) (w : Work) :
    (occurAll T L w).complete_count = progress T L w.idx w.complete_count := by
  have hgen : ∀ w w' : Work, w.idx = w'.idx → w.complete_count = w'.complete_count →
      (occurAll T L w).complete_count = (occurAll T L w').complete_count := by
    induction L with
    | nil => exact fun _ _ _ h => h
    | cons o L ih => exact fun w w' hidx hcount => ih _ _ (by simpa using hidx) (occurRow_count T o hidx hcount)
  exact hgen w _ rfl rfl

theorem occurRow_dirty (o : Occur) {w : Work} (h : w.need_update = true) : (occurRow T o w).need_update = true := by
  by_contra hne
  have hclean := occurRow_clean T o (by simpa using hne)
  rw [hclean] at hne
  exact hne h

theorem occurAll_dirty (L : List Occur) {w : Work} (h : w.need_update = true) : (occurAll T L w).need_update = true := by
  induction L generalizing w with
  | nil => exact h
  | cons o L ih => exact ih (occurRow_dirty T o h)

theorem occurAll_clean (L : List Occur) {w : Work} (h : (occurAll T L w).need_update = false) : occurAll T L w = w := by
  induction L generalizing w with
  | nil => rfl
  | cons o L ih =>
    have hone : (occurRow T o w).need_update = false := by
      by_contra hne
      have hdirty := occurAll_dirty T L (w := occurRow T o w) (by simpa using hne)
      rw [occurAll_cons, hdirty] at h
      cases h
    rw [occurAll_cons, occurRow_clean T o hone] at h ⊢
    exact ih h

/-- a quest whose type does not occur makes no progress -/
theorem progress_of_not_occurs {T : Tables} {idx : ℤ} {tb : PeriodQuest} (htb : T.getPeriod idx = some tb) {L : List Occur}
    (hL : ∀ o ∈ L, o.type ≠ tb.quest_type) (n : ℤ) : progress T L idx n = n := by
  have hrow : ∀ o ∈ L, ∀ w : Work, w.idx = idx → occurRow T o w = w := by
    intro o ho w hw
    have hne : ¬ (tb.quest_type = o.type) := fun heq => hL o ho heq.symm
    unfold occurRow
    rw [hw, htb]
    dsimp only
    rw [if_neg fun h => hne h.1]
  have hall : ∀ w : Work, w.idx = idx → occurAll T L w = w := by
    clear hL
    induction L with
    | nil => exact fun _ _ => rfl
    | cons o L ih =>
      intro w hw
      rw [occurAll_cons, hrow o List.mem_cons_self w hw]
      exact ih (fun o' ho' => hrow o' (List.mem_cons_of_mem o ho')) w hw
  rw [progress, hall _ rfl]

end OneRow

/-! ## The working rows of a call -/

/-- without a table row for the main quest an occurrence does nothing at all -/
def effective (T : Tables) (m : MainRow) (L : List Occur) : List Occur :=
  match T.getMain m.idx with
  | none => []
  | some _ => L

theorem effective_subset (T : Tables) (m : MainRow) (L : List Occur) : effective T m L ⊆ L := by
  unfold effective
  split
  · exact List.nil_subset L
  · exact List.Subset.refl L

theorem questOccurOne_main_idx (T : Tables) (s : OccurState) (o : Occur) : (questOccurOne T s o).main.idx = s.main.idx := by
  unfold questOccurOne
  split
  · rfl
  · unfold occurMain
    dsimp only
    split_ifs <;> rfl

theorem occurs_works (T : Tables) (s : OccurState) (L : List Occur) :
    (L.foldl (questOccurOne T) s).day = s.day.map (occurAll T (effective T s.main L)) ∧
      (L.foldl (questOccurOne T) s).week = s.week.map (occurAll T (effective T s.main L)) := by
  unfold effective
  cases hmain : T.getMain s.main.idx with
  | none =>
    have hfold : L.foldl (questOccurOne T) s = s := by
      induction L with
      | nil => rfl
      | cons o L ih =>
        have hone : questOccurOne T s o = s := by rw [questOccurOne, hmain]
        rw [List.foldl_cons, hone, ih]
    have hid : occurAll T [] = id := rfl
    rw [hfold, hid, List.map_id, List.map_id]
    exact ⟨rfl, rfl⟩
  | some tb =>
    induction L generalizing s with
    | nil =>
      have hid : occurAll T [] = id := rfl
      rw [List.foldl_nil, hid, List.map_id, List.map_id]
      exact ⟨rfl, rfl⟩
    | cons o L ih =>
      obtain ⟨h1, h2⟩ := ih (questOccurOne T s o) (by rw [questOccurOne_main_idx, hmain])
      have hday : (questOccurOne T s o).day = s.day.map (occurRow T o) := by
        rw [questOccurOne, hmain]; dsimp only; unfold occurMain; dsimp only; split_ifs <;> rfl
      have hweek : (questOccurOne T s o).week = s.week.map (occurRow T o) := by
        rw [questOccurOne, hmain]; dsimp only; unfold occurMain; dsimp only; split_ifs <;> rfl
      simp only [List.foldl_cons, h1, h2, hday, hweek, List.map_map]
      exact ⟨rfl, rfl⟩

/-- the main quest and the history do not look at the working rows -/
theorem occurs_congr (T : Tables) {s s' : OccurState} (hmain : s.main = s'.main) (hhist : s.history = s'.history)
    (L : List Occur) : (L.foldl (questOccurOne T) s).main = (L.foldl (questOccurOne T) s').main ∧
      (L.foldl (questOccurOne T) s).history = (L.foldl (questOccurOne T) s').history := by
  induction L generalizing s s' with
  | nil => exact ⟨hmain, hhist⟩
  | cons o L ih =>
    refine ih ?_ ?_
    · unfold questOccurOne
      rw [← hmain]
      split
      · exact hmain
      · unfold occurMain
        dsimp only
        rw [← hmain]
        split_ifs
        · rfl
        · exact hmain
    · unfold questOccurOne
      rw [← hmain]
      split
      · exact hhist
      · unfold occurMain
        dsimp only
        rw [← hmain]
        split_ifs <;> simp [hhist]

/-! ## Write-back -/

/-- a stored row after the occurrences: table quests make their progress -/
def advance (T : Tables) (tb : List PeriodQuest) (L : List Occur) (r : QuestRow) : QuestRow :=
  if r.idx ∈ tb.map (·.code) then { r with complete_count := progress T L r.idx r.complete_count } else r

theorem advance_nil (T : Tables) (tb : List PeriodQuest) (r : QuestRow) : advance T tb [] r = r := by
  unfold advance
  split_ifs <;> rfl

/-- a working set that agrees with the stored rows and misses no row that can change -/
structure Covers (tb : List PeriodQuest) (L : List Occur) (rows : List QuestRow) (ws : List Work) : Prop where
  nodup : (ws.map (·.idx)).Nodup
  table : ∀ w ∈ ws, w.idx ∈ tb.map (·.code)
  clean : ∀ w ∈ ws, w.need_update = false
  count : ∀ w ∈ ws, ∀ r ∈ rows, w.idx = r.idx → w.complete_count = r.complete_count
  covered : ∀ q ∈ tb, (∃ o ∈ L, o.type = q.quest_type) → ∀ r ∈ rows, r.idx = q.code → ∃ w ∈ ws, w.idx = q.code

theorem savedCount_of_not_mem {works : List Work} {r : QuestRow} (h : ∀ w ∈ works, w.idx ≠ r.idx) :
    savedCount works r = r.complete_count := by
  unfold savedCount
  have hfilter : ∀ w ∈ works.filter (·.need_update), w.idx ≠ r.idx := fun w hw => h w (List.mem_filter.1 hw).1
  generalize works.filter (·.need_update) = ws at hfilter
  induction ws with
  | nil => rfl
  | cons w ws ih =>
    rw [List.foldl_cons, if_neg (Ne.symm (hfilter w List.mem_cons_self))]
    exact ih fun w' hw' => hfilter w' (List.mem_cons_of_mem w hw')

/-- one working row a code: it decides the count, unless it is clean -/
theorem savedCount_of_mem {works : List Work} {r : QuestRow} {w : Work} (hnd : (works.map (·.idx)).Nodup) (hw : w ∈ works)
    (hidx : w.idx = r.idx) (hclean : w.need_update = false → w.complete_count = r.complete_count) :
    savedCount works r = w.complete_count := by
  induction works generalizing r with
  | nil => cases hw
  | cons w' works ih =>
    obtain ⟨hnotin, hnd'⟩ := List.nodup_cons.1 hnd
    rcases List.mem_cons.1 hw with rfl | hmem
    · -- the rest has no row of this code
      have hrest : ∀ n, savedCount works { r with complete_count := n } = n := fun n =>
        savedCount_of_not_mem fun w' hw' heq => hnotin (List.mem_map.2 ⟨w', hw', heq.trans hidx.symm⟩)
      by_cases hup : w.need_update = true
      · have := hrest w.complete_count
        unfold savedCount at this ⊢
        rw [List.filter_cons_of_pos hup, List.foldl_cons, if_pos hidx.symm]
        exact this
      · have := hrest r.complete_count
        unfold savedCount at this ⊢
        rw [List.filter_cons_of_neg hup]
        exact this.trans (hclean (by simpa using hup)).symm
    · have hne : r.idx ≠ w'.idx := fun heq => hnotin (List.mem_map.2 ⟨w, hmem, hidx.trans heq⟩)
      have := ih hnd' hmem hidx hclean
      unfold savedCount at this ⊢
      by_cases hup : w'.need_update = true
      · rw [List.filter_cons_of_pos hup, List.foldl_cons, if_neg hne]
        exact this
      · rw [List.filter_cons_of_neg hup]
        exact this

/-- **The write-back of a covering working set does not depend on the set.** Every stored table quest makes its own
progress. -/
theorem saveRows_covers {T : Tables} {tb : List PeriodQuest} (htb : ∀ q ∈ tb, T.getPeriod q.code = some q)
    {L L' : List Occur} (hL : L' ⊆ L) {rows : List QuestRow} {ws : List Work} (hc : Covers tb L rows ws) :
    saveRows rows (ws.map (occurAll T L')) = rows.map (advance T tb L') := by
  rw [saveRows_eq]
  apply List.map_congr_left
  intro r hr
  have hidx : (ws.map (occurAll T L')).map (·.idx) = ws.map (·.idx) := by simp [List.map_map, Function.comp_def]
  by_cases hex : ∃ w ∈ ws, w.idx = r.idx
  · obtain ⟨w, hw, hwr⟩ := hex
    have hcount := hc.count w hw r hr hwr
    have hsaved : savedCount (ws.map (occurAll T L')) r = (occurAll T L' w).complete_count := by
      refine savedCount_of_mem (hidx ▸ hc.nodup) (List.mem_map_of_mem hw) (by simpa using hwr) ?_
      intro hclean
      rw [occurAll_clean T L' hclean]
      exact hcount
    rw [hsaved, occurAll_count, hwr, hcount, advance, if_pos (hwr ▸ hc.table w hw)]
  · have hsaved : savedCount (ws.map (occurAll T L')) r = r.complete_count := by
      apply savedCount_of_not_mem
      intro w' hw' heq
      obtain ⟨w, hw, rfl⟩ := List.mem_map.1 hw'
      exact hex ⟨w, hw, by simpa using heq⟩
    rw [hsaved, advance]
    split_ifs with hcode
    · -- a table quest outside the working set has a type that does not occur
      obtain ⟨q, hq, hqr⟩ := List.mem_map.1 hcode
      have hno : ∀ o ∈ L', o.type ≠ q.quest_type := by
        intro o ho heq
        obtain ⟨w, hw, hwq⟩ := hc.covered q hq ⟨o, hL ho, heq⟩ r hr hqr.symm
        exact hex ⟨w, hw, hwq.trans hqr⟩
      rw [← hqr, progress_of_not_occurs (htb q hq) hno]
    · rfl

/-! ## The two working sets -/

/-- every table quest has exactly one stored row -/
def Complete (tb : List PeriodQuest) (rows : List QuestRow) : Prop :=
  ∀ q ∈ tb, (rows.map (·.idx)).count q.code = 1

theorem Complete.reset {tb : List PeriodQuest} {rows : List QuestRow} (h : Complete tb rows) :
    Complete tb (rows.map QuestRow.reset) := by
  intro q hq
  rw [List.map_map]
  exact h q hq

theorem Complete.insertMissing {tb : List PeriodQuest} {rows : List QuestRow} (h : Complete tb rows) :
    insertMissing tb rows = rows :=
  insertMissing_of_complete fun q hq => List.count_pos_iff.1 (by rw [h q hq]; exact Nat.one_pos)

/-- the only stored row of a table quest -/
theorem Complete.eq_of_idx {tb : List PeriodQuest} {rows : List QuestRow} (h : Complete tb rows) {q : PeriodQuest}
    (hq : q ∈ tb) {r r' : QuestRow} (hr : r ∈ rows) (hr' : r' ∈ rows) (hi : r.idx = q.code) (hi' : r'.idx = q.code) :
    r = r' := by
  have hlen : (rows.filter fun r => r.idx == q.code).length = 1 := by
    rw [← List.countP_eq_length_filter, ← h q hq, List.count_eq_countP, List.countP_map]
    rfl
  obtain ⟨r0, hr0⟩ := List.length_eq_one_iff.1 hlen
  have h1 : r ∈ rows.filter fun r => r.idx == q.code := List.mem_filter.2 ⟨hr, by simp [hi]⟩
  have h2 : r' ∈ rows.filter fun r => r.idx == q.code := List.mem_filter.2 ⟨hr', by simp [hi']⟩
  rw [hr0, List.mem_singleton] at h1 h2
  rw [h1, h2]

/-- the working set of a stale half: all table quests from zero -/
theorem covers_stale {tb : List PeriodQuest} (htb : (tb.map (·.code)).Nodup) (rewarded : Bool) (L : List Occur)
    (rows : List QuestRow) : Covers tb L (rows.map QuestRow.reset) (collect tb true rewarded rows L) := by
  unfold collect
  rw [if_pos rfl]
  refine ⟨?_, ?_, ?_, ?_, ?_⟩
  · rw [List.map_map]
    exact htb
  · intro w hw
    obtain ⟨q, hq, rfl⟩ := List.mem_map.1 hw
    exact List.mem_map_of_mem hq
  · intro w hw
    obtain ⟨q, -, rfl⟩ := List.mem_map.1 hw
    rfl
  · intro w hw r hr _
    obtain ⟨q, -, rfl⟩ := List.mem_map.1 hw
    obtain ⟨r0, -, rfl⟩ := List.mem_map.1 hr
    rfl
  · intro q hq _ r _ _
    exact ⟨_, List.mem_map_of_mem hq, rfl⟩

/-- the working set of a half that is up to date: the stored rows whose quest type occurs -/
theorem covers_fresh {tb : List PeriodQuest} {rows : List QuestRow} (h : Complete tb rows) (L : List Occur) :
    Covers tb L rows (collect tb false false rows L) := by
  set find_list := (tb.filter fun q => L.any fun o => o.type = q.quest_type).map (·.code) with hfind
  have hcollect : collect tb false false rows L = (executeSelectList rows find_list).map QuestRow.work := by
    simp only [collect, Bool.false_eq_true, if_false, ← hfind]
    split_ifs with hnil
    · simp [hnil, executeSelectList]
    · rfl
  have hmem : ∀ w ∈ collect tb false false rows L, ∃ q ∈ tb, ∃ r ∈ rows, r.idx = q.code ∧ w = r.work := by
    intro w hw
    rw [hcollect] at hw
    obtain ⟨r, hr, rfl⟩ := List.mem_map.1 hw
    obtain ⟨hrow, hin⟩ := List.mem_filter.1 hr
    obtain ⟨q, hq, hqr⟩ := List.mem_map.1 (of_decide_eq_true hin)
    exact ⟨q, (List.mem_filter.1 hq).1, r, hrow, hqr.symm, rfl⟩
  refine ⟨?_, ?_, ?_, ?_, ?_⟩
  · -- every selected code has one row
    rw [List.nodup_iff_count_le_one]
    intro code
    by_cases hcode : code ∈ (collect tb false false rows L).map (·.idx)
    · obtain ⟨w, hw, rfl⟩ := List.mem_map.1 hcode
      obtain ⟨q, hq, r, -, hi, rfl⟩ := hmem w hw
      have hsub : ((collect tb false false rows L).map (·.idx)).Sublist (rows.map (·.idx)) := by
        rw [hcollect, List.map_map]
        exact (List.filter_sublist).map _
      refine (hsub.count_le _).trans ?_
      have hone := h q hq
      rw [← hi] at hone
      exact hone.le
    · rw [List.count_eq_zero.2 hcode]
      exact Nat.zero_le 1
  · intro w hw
    obtain ⟨q, hq, r, -, hi, rfl⟩ := hmem w hw
    exact List.mem_map.2 ⟨q, hq, hi.symm⟩
  · intro w hw
    obtain ⟨-, -, r, -, -, rfl⟩ := hmem w hw
    rfl
  · intro w hw r hr hwr
    obtain ⟨q, hq, r0, hr0, hi, rfl⟩ := hmem w hw
    rw [h.eq_of_idx hq hr hr0 (hwr.symm.trans hi) hi]
    rfl
  · intro q hq hocc r hr hi
    refine ⟨r.work, ?_, hi⟩
    rw [hcollect]
    refine List.mem_map_of_mem (List.mem_filter.2 ⟨hr, decide_eq_true ?_⟩)
    rw [hi]
    exact List.mem_map_of_mem (List.mem_filter.2 ⟨hq, by simpa [List.any_eq_true] using hocc⟩)

/-! ## Both paths -/

theorem getPeriod_of_mem (T : Tables) {type : ℤ} {q : PeriodQuest} (hq : q ∈ T.getPeriodType type) :
    T.getPeriod q.code = some q := by
  have hmem : q ∈ T.period := (List.mem_filter.1 hq).1
  exact (Core.Keyed.find_eq_some T.period_codes).2 ⟨hmem, rfl⟩

/-- the rows that `QuestOccur` stores in one half -/
def occurRows (T : Tables) (type : ℤ) (stale rewarded : Bool) (rows : List QuestRow) (L L' : List Occur) :
    List QuestRow :=
  saveRows (resetRows stale rows) ((collect (T.getPeriodType type) stale rewarded rows L).map (occurAll T L'))

/-- what `QuestOccur` leaves in one half: nothing changes after the complete reward, else all quests make progress -/
theorem occurRows_eq (T : Tables) (type : ℤ) (stale rewarded : Bool) {rows : List QuestRow}
    (h : Complete (T.getPeriodType type) rows) {L L' : List Occur} (hL : L' ⊆ L) :
    occurRows T type stale rewarded rows L L' = if stale = false ∧ rewarded = true then rows
      else (resetRows stale rows).map (advance T (T.getPeriodType type) L') := by
  have htb : ∀ q ∈ T.getPeriodType type, T.getPeriod q.code = some q := fun q => getPeriod_of_mem T
  unfold occurRows
  cases stale with
  | true => exact saveRows_covers htb hL (covers_stale (getPeriodType_codes T type) rewarded L rows)
  | false =>
    cases rewarded with
    | true => simp [collect, saveRows, resetRows]
    | false => exact saveRows_covers htb hL (covers_fresh h L)

theorem refreshRows_complete {tb : List PeriodQuest} {rows : List QuestRow} (h : Complete tb rows) (stale : Bool) :
    (refreshRows tb stale rows).1 = resetRows stale rows := by
  unfold refreshRows resetRows
  rw [h.insertMissing]
  split_ifs <;> rfl

/-- without occurrences only the reset is left -/
theorem occurRows_nil (T : Tables) (type : ℤ) (stale rewarded : Bool) {rows : List QuestRow}
    (h : Complete (T.getPeriodType type) rows) : occurRows T type stale rewarded rows [] [] = resetRows stale rows := by
  have hid : advance T (T.getPeriodType type) [] = id := funext (advance_nil T _)
  rw [occurRows_eq T type stale rewarded h (List.nil_subset [])]
  split_ifs with hgate
  · rw [hgate.1]; rfl
  · rw [hid, List.map_id]

/-- the reset of a half: a refresh and an occurrence leave the same rows -/
theorem occurRows_refresh (T : Tables) (type : ℤ) (stale rewarded rewarded' : Bool) {rows : List QuestRow}
    (h : Complete (T.getPeriodType type) rows) {L L' : List Occur} (hL : L' ⊆ L)
    (hgate : rewarded' = if stale then false else rewarded) :
    occurRows T type false rewarded' (refreshRows (T.getPeriodType type) stale rows).1 L L' =
      occurRows T type stale rewarded rows L L' := by
  rw [refreshRows_complete h]
  cases stale with
  | false => rw [hgate]; rfl
  | true =>
    have hreset : Complete (T.getPeriodType type) (resetRows true rows) := h.reset
    rw [hgate, occurRows_eq T type false _ hreset hL, occurRows_eq T type true rewarded h hL]
    simp [resetRows]

/-- after a refresh the complete reward of this period is the one taken before it, and a stale half has none -/
theorem rewarded_refresh {id : ℤ} (hid : 0 < id) (update reward : ℤ) :
    decide ((if update ≠ id then 0 else reward) = id) = if decide (update ≠ id) then false else decide (reward = id) := by
  by_cases h : update = id
  · simp [h]
  · have hne : ¬ (0 = id) := hid.ne
    simp [h, hne]

/-- what `QuestOccur` stores -/
theorem questOccur_db (T : Tables) (c : Clock) (L : List Occur) {db : Db} {m : MainRow} (hm : db.main = some m)
    (pb : QuestInfo) :
    let s := L.foldl (questOccurOne T) (occurStart T c db m L)
    (questOccur T c L db pb).1 =
      { db with
        main := some s.main
        day := occurRows T DAY_NORMAL (m.update_day_id ≠ c.dayID) (m.reward_day_id = c.dayID) db.day L
          (effective T m L)
        week := occurRows T WEEK_NORMAL (m.update_week_id ≠ c.weekID) (m.reward_week_id = c.weekID) db.week L
          (effective T m L)
        history := db.history.map fun h => s.history.foldl addHistory h } := by
  intro s
  obtain ⟨hday, hweek⟩ := occurs_works T (occurStart T c db m L) L
  have hidx : effective T (occurStart T c db m L).main L = effective T m L := by
    simp only [effective, occurStart, refreshMain_eq]
  rw [hidx] at hday hweek
  unfold questOccur
  simp only [hm, occur_main_stored, hday, hweek]
  rfl

/-- **The two period-reset paths agree.** With a stored row for every table quest, `QuestOccur` leaves the same stored
quests with and without a `QuestRefreshData` before it, and without occurrences it is the refresh itself. -/
theorem questOccur_refresh (T : Tables) (c : Clock) (hdayID : 0 < c.dayID) (hweekID : 0 < c.weekID)
    (htable : T.getMainType MAIN_PROGRESS ≠ []) {db : Db} (hmain : db.main.isSome) (hhistory : db.history.isSome)
    (hday : Complete (T.getPeriodType DAY_NORMAL) db.day) (hweek : Complete (T.getPeriodType WEEK_NORMAL) db.week)
    (pb pb' pb'' : QuestInfo) :
    (∀ L, (questOccur T c L (questRefreshData T c db pb).2.1 pb').1 = (questOccur T c L db pb'').1) ∧
      (questOccur T c [] db pb'').1 = (questRefreshData T c db pb).2.1 := by
  obtain ⟨m, hm⟩ := Option.isSome_iff_exists.1 hmain
  obtain ⟨h, hh⟩ := Option.isSome_iff_exists.1 hhistory
  have hrefresh : (questRefreshData T c db pb).2.1 =
      { db with
        main := some (refreshMain c m)
        day := (refreshRows (T.getPeriodType DAY_NORMAL) (m.update_day_id ≠ c.dayID) db.day).1
        week := (refreshRows (T.getPeriodType WEEK_NORMAL) (m.update_week_id ≠ c.weekID) db.week).1 } := by
    unfold questRefreshData
    cases htab : T.getMainType MAIN_PROGRESS with
    | nil => exact absurd htab htable
    | cons tb_main _ => simp only [hm, hh, Option.getD_some]
  have hrefreshed : (questRefreshData T c db pb).2.1.main = some (refreshMain c m) := by rw [hrefresh]
  refine ⟨?_, ?_⟩
  · intro L
    have hL : effective T m L ⊆ L := effective_subset T m L
    have heff : effective T (refreshMain c m) L = effective T m L := by simp only [effective, refreshMain_eq]
    have hmain' : refreshMain c (refreshMain c m) = refreshMain c m := by simp [refreshMain_eq]
    have hstart : (occurStart T c (questRefreshData T c db pb).2.1 (refreshMain c m) L).main =
        (occurStart T c db m L).main := hmain'
    obtain ⟨h1, h2⟩ := occurs_congr T hstart rfl L
    have hd : occurRows T DAY_NORMAL ((refreshMain c m).update_day_id ≠ c.dayID)
        ((refreshMain c m).reward_day_id = c.dayID)
        (refreshRows (T.getPeriodType DAY_NORMAL) (m.update_day_id ≠ c.dayID) db.day).1 L (effective T m L) =
        occurRows T DAY_NORMAL (m.update_day_id ≠ c.dayID) (m.reward_day_id = c.dayID) db.day L (effective T m L) := by
      have hfresh : decide ((refreshMain c m).update_day_id ≠ c.dayID) = false := by simp [refreshMain_eq]
      rw [hfresh]
      exact occurRows_refresh T DAY_NORMAL _ _ _ hday hL
        (by rw [refreshMain_eq]; exact rewarded_refresh hdayID m.update_day_id m.reward_day_id)
    have hw : occurRows T WEEK_NORMAL ((refreshMain c m).update_week_id ≠ c.weekID)
        ((refreshMain c m).reward_week_id = c.weekID)
        (refreshRows (T.getPeriodType WEEK_NORMAL) (m.update_week_id ≠ c.weekID) db.week).1 L (effective T m L) =
        occurRows T WEEK_NORMAL (m.update_week_id ≠ c.weekID) (m.reward_week_id = c.weekID) db.week L
          (effective T m L) := by
      have hfresh : decide ((refreshMain c m).update_week_id ≠ c.weekID) = false := by simp [refreshMain_eq]
      rw [hfresh]
      exact occurRows_refresh T WEEK_NORMAL _ _ _ hweek hL
        (by rw [refreshMain_eq]; exact rewarded_refresh hweekID m.update_week_id m.reward_week_id)
    rw [questOccur_db T c L hrefreshed pb', questOccur_db T c L hm pb'', h1, h2, heff]
    simp only [hrefresh, hd, hw]
  · have heff : effective T m [] = [] := List.subset_nil.1 (effective_subset T m [])
    rw [questOccur_db T c [] hm pb'', heff, occurRows_nil T DAY_NORMAL _ _ hday, occurRows_nil T WEEK_NORMAL _ _ hweek,
      hrefresh, refreshRows_complete hday, refreshRows_complete hweek]
    simp [occurStart]

/-- day 5 is new, week 1 goes on: the main quest, the daily and the weekly quest of type 7 make progress on both paths -/
theorem questOccur_refresh_sample :
    (questOccur sampleTables ⟨5, 1⟩ [⟨7, 0, 1⟩]
        (questRefreshData sampleTables ⟨5, 1⟩ sampleDb QuestInfo.empty).2.1 QuestInfo.empty).1 =
      ⟨some ⟨1, 2, 0, 5, 0, 1, 0⟩, [⟨10, 1, 0⟩], [⟨20, 3, 0⟩], [], some ⟨3, 0⟩⟩ ∧
    (questOccur sampleTables ⟨5, 1⟩ [⟨7, 0, 1⟩] sampleDb QuestInfo.empty).1 =
      ⟨some ⟨1, 2, 0, 5, 0, 1, 0⟩, [⟨10, 1, 0⟩], [⟨20, 3, 0⟩], [], some ⟨3, 0⟩⟩ := by
  have hrun : (questOccur sampleTables ⟨5, 1⟩ [⟨7, 0, 1⟩] sampleDb QuestInfo.empty).1 =
      ⟨some ⟨1, 2, 0, 5, 0, 1, 0⟩, [⟨10, 1, 0⟩], [⟨20, 3, 0⟩], [], some ⟨3, 0⟩⟩ := by decide
  refine ⟨?_, hrun⟩
  rw [← hrun]
  have hday : Complete (sampleTables.getPeriodType DAY_NORMAL) sampleDb.day := by unfold Complete; decide
  have hweek : Complete (sampleTables.getPeriodType WEEK_NORMAL) sampleDb.week := by unfold Complete; decide
  exact (questOccur_refresh sampleTables ⟨5, 1⟩ (by decide) (by decide) (by decide) rfl rfl hday hweek QuestInfo.empty
    QuestInfo.empty QuestInfo.empty).1 [⟨7, 0, 1⟩]

end GameServer.Quest
