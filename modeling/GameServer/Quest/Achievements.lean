/-
Achievement rewards, `sp_QuestReward.__procAchieve`, over whole runs of the three entry points.

A claim names quest codes. Each code pays the step after the last one taken, and the stored step is a counter
(`Core.Serial`). The loop reads the step from rows selected before it, so a code that occurs twice in one claim pays the
same step twice; the increments are batched after the loop, so the stored step then jumps over the next one. `__procDay`
and `__procWeek` refuse such lists, since they select fewer rows than there are codes.

- `verifyAchieve_ok`: what the loop collects;
- `procAchieve_ok`: the stored steps and the rewards of a successful claim, for every list of codes;
- `serve_keeps`: no other request touches the achievements;
- `achieve_steps_iff`: in a run, every step is paid once and in order, exactly when no claim repeats a code;
- `achieve_step_twice`: a claim for one achievement twice.
-/
import Mathlib.Tactic
import GameServer.Core.Serial
import GameServer.Quest.OncePerPeriod

namespace GameServer.Quest

open GameServer.Core

/-! ## Stored and paid steps -/

/-- `QuestFindInList` on the achievements -/
abbrev userAchieve (rows : List AchieveRow) (q : ℤ) : Option AchieveRow := Keyed.find AchieveRow.idx q rows

/-- the stored step of an achievement, 0 without a row -/
def achieveStep (rows : List AchieveRow) (q : ℤ) : ℤ :=
  match userAchieve rows q with
  | none => 0
  | some r => r.reward_step

/-- stored steps are not negative -/
def StepsOk (rows : List AchieveRow) : Prop := ∀ r ∈ rows, 0 ≤ r.reward_step

instance (rows : List AchieveRow) : Decidable (StepsOk rows) := by
  unfold StepsOk; infer_instance

/-- the step of achievement q that a reward is for -/
def stepOf (q : ℤ) : Source → Option ℤ
  | .achieve code step => if code = q then some step else none
  | _ => none

/-- the steps of achievement q that were paid -/
def paidSteps (q : ℤ) (paid : List (Source × Clock)) : List ℤ := paid.filterMap fun e => stepOf q e.1

theorem paidSteps_append (q : ℤ) (paid : List (Source × Clock)) (c : Clock) (ws : List Reward) :
    paidSteps q (paid ++ ws.map fun w => (w.source, c)) = paidSteps q paid ++ (ws.map (·.source)).filterMap (stepOf q) := by
  unfold paidSteps
  rw [List.filterMap_append, List.filterMap_map, List.filterMap_map]
  rfl

/-- the rewards of a list of codes, each at the step of its code -/
theorem filterMap_stepOf (q : ℤ) (step : ℤ → ℤ) (codes : List ℤ) :
    (codes.map fun code => Source.achieve code (step code)).filterMap (stepOf q) =
      List.replicate (codes.count q) (step q) := by
  induction codes with
  | nil => rfl
  | cons code codes ih =>
    by_cases h : code = q
    · subst h
      simp [stepOf, List.replicate_succ, ih]
    · simp [stepOf, h, List.count_cons_of_ne h, ih]

/-! ## The loop -/

/-- the step that the loop reads -/
def stepIdx (rows : List AchieveRow) (q : ℤ) : ℕ :=
  match userAchieve rows q with
  | none => 0
  | some r => r.reward_step.toNat

theorem stepIdx_cast {rows : List AchieveRow} (h : StepsOk rows) (q : ℤ) : (stepIdx rows q : ℤ) = achieveStep rows q := by
  unfold stepIdx achieveStep
  cases hrow : userAchieve rows q with
  | none => rfl
  | some r => exact Int.toNat_of_nonneg (h r (Keyed.find_some hrow).1)

/-- the reward of one step of an achievement, as the table has it -/
def achieveReward (T : Tables) (q : ℤ) (step : ℕ) : Reward :=
  ⟨.achieve q step, match T.getAchieve q with
    | none => []
    | some tb => [(tb.reward_item.getD step 0, tb.reward_count.getD step 0)]⟩

theorem verifyAchieve_ok {T : Tables} {selected : List AchieveRow} {codes : List ℤ} {w w' : AchieveWork}
    (h : verifyAchieve T selected codes w = (true, w')) :
    w'.values_insert = w.values_insert ++ (codes.filter fun q => userAchieve selected q = none).map (fun q => (q, 1)) ∧
      w'.values_update = w.values_update ++ codes.filter (fun q => userAchieve selected q ≠ none) ∧
      w'.rewards = w.rewards ++ codes.map fun q => achieveReward T q (stepIdx selected q) := by
  induction codes generalizing w with
  | nil =>
    simp only [verifyAchieve, Prod.mk.injEq, true_and] at h
    simp [h]
  | cons qcode rest ih =>
    rw [verifyAchieve] at h
    split at h
    · simp at h
    · rename_i tb htb
      dsimp only at h
      split_ifs at h with h1 h2 h3
      · simp at h
      · simp at h
      · have hnone : userAchieve selected qcode = none := h3
        obtain ⟨ih1, ih2, ih3⟩ := ih h
        simp only [h3] at ih1 ih2 ih3
        refine ⟨?_, ?_, ?_⟩
        · rw [ih1, List.filter_cons_of_pos (by simpa using hnone)]
          simp
        · rw [ih2, List.filter_cons_of_neg (by simpa using hnone)]
        · rw [ih3]
          simp [stepIdx, hnone, achieveReward, htb]
      · have hsome : userAchieve selected qcode ≠ none := h3
        obtain ⟨ih1, ih2, ih3⟩ := ih h
        refine ⟨?_, ?_, ?_⟩
        · rw [ih1, List.filter_cons_of_neg (by simpa using hsome)]
        · rw [ih2, List.filter_cons_of_pos (by simpa using hsome)]
          simp
        · rw [ih3, List.append_assoc, List.map_cons, achieveReward, htb]
          rfl

/-! ## A successful claim -/

/-- the batch of increments -/
theorem incSteps_eq (qs : List ℤ) (rows : List AchieveRow) :
    qs.foldl (fun rs q => rs.map fun r => if r.idx = q then { r with reward_step := r.reward_step + 1 } else r) rows =
      rows.map fun r => { r with reward_step := r.reward_step + qs.count r.idx } := by
  induction qs generalizing rows with
  | nil => simp
  | cons q qs ih =>
    rw [List.foldl_cons, ih, List.map_map]
    apply List.map_congr_left
    intro r _
    by_cases h : r.idx = q
    · simp only [Function.comp, h, if_true, List.count_cons_self, Nat.cast_add, Nat.cast_one]
      congr 1
      ring
    · simp [h, List.count_cons_of_ne (Ne.symm h)]

/-- the selection before the loop has the rows of the listed codes -/
theorem userAchieve_selected (rows : List AchieveRow) {codes : List ℤ} {q : ℤ} (hq : q ∈ codes) :
    userAchieve (rows.filter fun r => r.idx ∈ codes) q = userAchieve rows q := by
  unfold userAchieve Keyed.find
  rw [List.find?_filter]
  congr 1
  funext r
  by_cases h : r.idx = q
  · simp [h, hq]
  · simp [h]

/-- a row after the increments of a claim: those of the codes that had a row -/
def claimedRow (codes : List ℤ) (rows : List AchieveRow) (r : AchieveRow) : AchieveRow :=
  { r with reward_step := r.reward_step + (codes.filter fun q => userAchieve rows q ≠ none).count r.idx }

/-- the rows after the inserts and the increments of a claim -/
def claimedRows (codes : List ℤ) (rows : List AchieveRow) : List AchieveRow :=
  (rows ++ (codes.filter fun q => userAchieve rows q = none).map fun q => (⟨q, 1⟩ : AchieveRow)).map
    (claimedRow codes rows)

theorem find_newRows (q : ℤ) (codes : List ℤ) :
    Keyed.find AchieveRow.idx q (codes.map fun q => ⟨q, 1⟩) = if q ∈ codes then some ⟨q, 1⟩ else none := by
  induction codes with
  | nil => rfl
  | cons code codes ih =>
    rw [List.map_cons, Keyed.find_cons, ih]
    by_cases h : code = q
    · simp [h]
    · simp [h, Ne.symm h]

theorem userAchieve_claimedRows (codes : List ℤ) (rows : List AchieveRow) (q : ℤ) :
    userAchieve (claimedRows codes rows) q = match userAchieve rows q with
      | some r => some { r with reward_step := r.reward_step + codes.count q }
      | none => if q ∈ codes then some ⟨q, 1⟩ else none := by
  have hmap : ∀ l : List AchieveRow, Keyed.find AchieveRow.idx q (l.map (claimedRow codes rows)) =
      (Keyed.find AchieveRow.idx q l).map (claimedRow codes rows) :=
    fun _ => Keyed.find_map (claimedRow codes rows) (fun _ => rfl) q
  rw [userAchieve, claimedRows, hmap, Keyed.find, List.find?_append]
  change Option.map _ ((userAchieve rows q).or (Keyed.find AchieveRow.idx q _)) = _
  rw [find_newRows]
  cases hrow : userAchieve rows q with
  | some r =>
    have hidx : r.idx = q := (Keyed.find_some hrow).2
    simp [claimedRow, hidx, List.count_filter, hrow]
  | none =>
    have hcount : (codes.filter fun q => userAchieve rows q ≠ none).count q = 0 :=
      List.count_eq_zero.2 fun hmem => absurd hrow (by simpa using (List.mem_filter.1 hmem).2)
    by_cases hq : q ∈ codes
    · have hnew : claimedRow codes rows ⟨q, 1⟩ = ⟨q, 1⟩ := by simp only [claimedRow, hcount, Nat.cast_zero, add_zero]
      simp [hq, hrow, hnew]
    · simp [hq]

theorem achieveStep_claimedRows (codes : List ℤ) (rows : List AchieveRow) (q : ℤ) :
    achieveStep (claimedRows codes rows) q =
      if userAchieve rows q = none then ((min (codes.count q) 1 : ℕ) : ℤ) else achieveStep rows q + codes.count q := by
  unfold achieveStep
  rw [userAchieve_claimedRows]
  cases hrow : userAchieve rows q with
  | some r => simp
  | none =>
    by_cases hq : q ∈ codes
    · have hpos : 1 ≤ codes.count q := List.count_pos_iff.2 hq
      rw [Nat.min_eq_right hpos]
      simp [hq]
    · simp [hq, List.count_eq_zero.2 hq]

/-- rows of other achievements stay -/
theorem filter_claimedRows {codes : List ℤ} {q : ℤ} (hq : q ∉ codes) (rows : List AchieveRow) :
    (claimedRows codes rows).filter (·.idx = q) = rows.filter (·.idx = q) := by
  unfold claimedRows
  rw [List.filter_map, List.filter_append]
  have hnew : ((codes.filter fun q => userAchieve rows q = none).map fun q => (⟨q, 1⟩ : AchieveRow)).filter
      (fun r => r.idx = q) = [] := by
    rw [List.filter_eq_nil_iff]
    intro r hr hidx
    obtain ⟨q', hq', rfl⟩ := List.mem_map.1 hr
    exact hq (of_decide_eq_true hidx ▸ (List.mem_filter.1 hq').1)
  have hsame : (fun r : AchieveRow => decide (r.idx = q)) ∘ claimedRow codes rows = fun r => decide (r.idx = q) := rfl
  rw [hsame, hnew, List.append_nil]
  conv_rhs => rw [← List.map_id (rows.filter fun r => r.idx = q)]
  apply List.map_congr_left
  intro r hr
  have hidx : r.idx = q := of_decide_eq_true (List.mem_filter.1 hr).2
  have hcount : (codes.filter fun q => userAchieve rows q ≠ none).count r.idx = 0 :=
    List.count_eq_zero.2 fun hmem => hq (hidx ▸ (List.mem_filter.1 hmem).1)
  simp only [claimedRow, hcount, Nat.cast_zero, add_zero, id]

theorem stepsOk_claimedRows (codes : List ℤ) {rows : List AchieveRow} (h : StepsOk rows) :
    StepsOk (claimedRows codes rows) := by
  intro r hr
  obtain ⟨r', hr', rfl⟩ := List.mem_map.1 hr
  have hold : 0 ≤ r'.reward_step := by
    rcases List.mem_append.1 hr' with hr' | hr'
    · exact h r' hr'
    · obtain ⟨q, -, rfl⟩ := List.mem_map.1 hr'
      exact Int.one_nonneg
  exact add_nonneg hold (Nat.cast_nonneg _)

/-- what a successful claim pays and stores -/
structure ClaimDone (T : Tables) (codes : List ℤ) (db : Db) (reply : Reply) : Prop where
  supplied : reply.supplied = codes.map fun q => achieveReward T q (stepIdx db.achieve q)
  rows : reply.db.achieve = claimedRows codes db.achieve

theorem procAchieve_ok {T : Tables} {m : MainRow} {db : Db} {codes : List ℤ}
    (hok : (procAchieve T m db codes).result = .SUCCESS) : ClaimDone T codes db (procAchieve T m db codes) := by
  unfold procAchieve at hok ⊢
  dsimp only at hok ⊢
  split at hok
  · cases hok
  · rename_i w hw
    obtain ⟨hinsert, hupdate, hrewards⟩ := verifyAchieve_ok hw
    have hrow : ∀ q ∈ codes, userAchieve (db.achieve.filter fun r => r.idx ∈ codes) q = userAchieve db.achieve q :=
      fun q hq => userAchieve_selected db.achieve hq
    simp only [List.nil_append] at hinsert hupdate hrewards
    rw [List.filter_congr fun q hq => by rw [hrow q hq]] at hinsert hupdate
    constructor
    · change w.rewards = _
      rw [hrewards]
      apply List.map_congr_left
      intro q hq
      simp only [stepIdx, hrow q hq]
    · simp only [incSteps_eq, hinsert, hupdate, List.map_map]
      rfl

theorem ClaimDone.sources {T : Tables} {codes : List ℤ} {db : Db} {reply : Reply} (h : ClaimDone T codes db reply)
    (hsteps : StepsOk db.achieve) :
    reply.supplied.map (·.source) = codes.map fun q => .achieve q (achieveStep db.achieve q) := by
  rw [h.supplied, List.map_map]
  apply List.map_congr_left
  intro q _
  rw [← stepIdx_cast hsteps]
  rfl

/-! ## Requests that are no achievement claims -/

/-- the reply leaves the achievements alone and pays nothing for them -/
def NoAchieve (db : Db) (reply : Reply) : Prop :=
  reply.db.achieve = db.achieve ∧ ∀ q, (reply.supplied.map (·.source)).filterMap (stepOf q) = []

theorem NoAchieve.of_supplied {db db' : Db} {result : ResultType} {pb : QuestInfo} {ws : List Reward}
    (hdb : db'.achieve = db.achieve) (hws : ∀ w ∈ ws, ∀ q, stepOf q w.source = none) :
    NoAchieve db ⟨result, pb, ws, db'⟩ := by
  refine ⟨hdb, fun q => ?_⟩
  rw [List.filterMap_map, List.filterMap_eq_nil_iff]
  exact fun w hw => hws w hw q

theorem NoAchieve.nil {db : Db} {result : ResultType} {pb : QuestInfo} : NoAchieve db ⟨result, pb, [], db⟩ :=
  .of_supplied rfl (by simp)

theorem refresh_achieve (T : Tables) (c : Clock) (db : Db) (pb : QuestInfo) :
    (questRefreshData T c db pb).2.1.achieve = db.achieve := by
  unfold questRefreshData
  cases T.getMainType MAIN_PROGRESS <;> rfl

theorem occur_achieve (T : Tables) (c : Clock) (L : List Occur) (db : Db) (pb : QuestInfo) :
    (questOccur T c L db pb).1.achieve = db.achieve := by
  unfold questOccur
  cases db.main <;> rfl

theorem renewDate_noAchieve (T : Tables) (c : Clock) (db : Db) : NoAchieve db (renewDate T c db) :=
  .of_supplied (refresh_achieve T c db QuestInfo.empty) (by simp)

theorem verifyRows_noAchieve {T : Tables} {type : ℤ} {source : ℤ → Source} {rows : List QuestRow} {pb : List PbQuest}
    {rewards : List Reward} (h : verifyRows T type source rows [] [] = (true, pb, rewards))
    (hsource : ∀ code q, stepOf q (source code) = none) : ∀ w ∈ rewards, ∀ q, stepOf q w.source = none := by
  intro w hw q
  have hmem : w.source ∈ rewards.map (·.source) := List.mem_map_of_mem hw
  rw [(verifyRows_ok h).2, List.map_nil, List.nil_append] at hmem
  obtain ⟨r, -, hr⟩ := List.mem_map.1 hmem
  rw [← hr]
  exact hsource r.idx q

theorem procMain_noAchieve (T : Tables) (m : MainRow) (db : Db) (codes : List ℤ) :
    NoAchieve db (procMain T m db codes) := by
  unfold procMain
  split
  · exact .nil
  · split
    · exact .nil
    · split
      · exact .nil
      · split
        · exact .nil
        · dsimp only
          split
          · exact .nil
          · exact .of_supplied rfl (by simp [stepOf])

theorem RowsReply.noAchieve {T : Tables} {c : Clock} {m : MainRow} {db : Db} {id update type : ℤ} {source : ℤ → Source}
    {rows : List QuestRow} {codes : List ℤ} {entries : List PbQuest → QuestInfo} {store : List QuestRow → Db} {reply : Reply}
    (h : RowsReply T c m db id update type source rows codes entries store reply)
    (hsource : ∀ code q, stepOf q (source code) = none) (hstore : ∀ rows', (store rows').achieve = db.achieve) :
    NoAchieve db reply := by
  cases h with
  | stale hupdate => exact renewDate_noAchieve T c db
  | missing hupdate hlength => exact .nil
  | refused hupdate hlength hverify => exact .nil
  | paid hupdate hlength hverify => exact .of_supplied (hstore _) (verifyRows_noAchieve hverify hsource)

theorem procDay_noAchieve (T : Tables) (c : Clock) (m : MainRow) (db : Db) (codes : List ℤ) :
    NoAchieve db (procDay T c m db codes) :=
  (procDay_reply T c m db codes).noAchieve (fun _ _ => rfl) (fun _ => rfl)

theorem procWeek_noAchieve (T : Tables) (c : Clock) (m : MainRow) (db : Db) (codes : List ℤ) :
    NoAchieve db (procWeek T c m db codes) :=
  (procWeek_reply T c m db codes).noAchieve (fun _ _ => rfl) (fun _ => rfl)

theorem CompleteReply.noAchieve {T : Tables} {c : Clock} {m : MainRow} {db : Db} {id update reward : ℤ} {source : Source}
    {f : MainRow → MainRow} {reply : Reply} (h : CompleteReply T c m db id update reward source f reply)
    (hsource : ∀ q, stepOf q source = none) : NoAchieve db reply := by
  cases h with
  | refused => exact .nil
  | stale => exact renewDate_noAchieve T c db
  | paid _ _ items => exact .of_supplied rfl (by simpa using hsource)

theorem reward_noAchieve (T : Tables) (c : Clock) (db : Db) {category : QuestCategory} (hc : category ≠ .ACHIEVE)
    (codes : List ℤ) : NoAchieve db (questReward T c category codes db) := by
  unfold questReward
  split_ifs
  · exact .nil
  · cases db.main with
    | none => exact .nil
    | some m =>
      cases category with
      | MAIN => exact procMain_noAchieve T m db codes
      | DAY => exact procDay_noAchieve T c m db codes
      | DAY_COMPLETE => exact (procDayComplete_reply T c m db codes).noAchieve fun _ => rfl
      | WEEK => exact procWeek_noAchieve T c m db codes
      | WEEK_COMPLETE => exact (procWeekComplete_reply T c m db codes).noAchieve fun _ => rfl
      | ACHIEVE => exact absurd rfl hc

/-! ## Whole runs -/

/-- the codes that a request claims -/
def claimedCodes : Clock × Request → List ℤ
  | (_, .reward .ACHIEVE codes) => codes
  | _ => []

/-- an achievement claim succeeds in the state that it meets -/
def claimSucceeds (T : Tables) (h : History) : Clock × Request → Prop
  | (c, .reward .ACHIEVE codes) => (questReward T c .ACHIEVE codes h.db).result = .SUCCESS
  | _ => True

theorem claimedRows_nil (rows : List AchieveRow) : claimedRows [] rows = rows := by
  have hid : claimedRow [] rows = id := by
    funext r
    simp [claimedRow]
  simp [claimedRows, hid]

/-- a request that claims nothing -/
theorem serve_keeps (T : Tables) (h : History) {r : Clock × Request} (hr : claimedCodes r = [])
    (hok : claimSucceeds T h r) :
    (serve T h r).db.achieve = h.db.achieve ∧ ∀ q, paidSteps q (serve T h r).paid = paidSteps q h.paid := by
  obtain ⟨c, req⟩ := r
  cases req with
  | refresh => exact ⟨refresh_achieve T c h.db QuestInfo.empty, fun _ => rfl⟩
  | occur L => exact ⟨occur_achieve T c L h.db QuestInfo.empty, fun _ => rfl⟩
  | reward category codes =>
    have hno : NoAchieve h.db (questReward T c category codes h.db) := by
      by_cases hc : category = .ACHIEVE
      · -- a claim without codes fails
        subst hc
        have hnil : codes = [] := hr
        subst hnil
        exact absurd hok (by simp [claimSucceeds, questReward])
      · exact reward_noAchieve T c h.db hc codes
    refine ⟨hno.1, fun q => ?_⟩
    simp only [serve, paidSteps_append, hno.2 q, List.append_nil]

/-- **Step lemma.** A code that a successful claim repeats is paid at one and the same step each time. -/
theorem serve_achieve {T : Tables} {h : History} {r : Clock × Request} (hsteps : StepsOk h.db.achieve)
    (hok : claimSucceeds T h r) : (serve T h r).db.achieve = claimedRows (claimedCodes r) h.db.achieve ∧
      ∀ q, paidSteps q (serve T h r).paid =
        paidSteps q h.paid ++ List.replicate ((claimedCodes r).count q) (achieveStep h.db.achieve q) := by
  by_cases hr : claimedCodes r = []
  · obtain ⟨h1, h2⟩ := serve_keeps T h hr hok
    rw [hr, claimedRows_nil]
    exact ⟨h1, fun q => by rw [h2 q]; simp⟩
  · obtain ⟨c, req⟩ := r
    cases req with
    | refresh => exact absurd rfl hr
    | occur L => exact absurd rfl hr
    | reward category codes =>
      cases category with
      | ACHIEVE =>
        have hne : codes ≠ [] := hr
        simp only [claimSucceeds, questReward, if_neg hne] at hok
        simp only [serve, questReward, if_neg hne]
        cases hm : h.db.main with
        | none =>
          rw [hm] at hok
          cases hok
        | some m =>
          simp only [hm, procReward] at hok ⊢
          have hdone := procAchieve_ok hok
          refine ⟨hdone.rows, fun q => ?_⟩
          rw [paidSteps_append, hdone.sources hsteps, filterMap_stepOf]
          rfl
      | _ => exact absurd rfl hr

/-- achievement q as a counter, with the log of the steps paid -/
abbrev StepsIssued (q : ℤ) (n : ℕ) (h h' : History) : Prop :=
  Issues (fun h => achieveStep h.db.achieve q) (fun h => paidSteps q h.paid) n h h'

theorem serve_issues {T : Tables} {h : History} {r : Clock × Request} (hsteps : StepsOk h.db.achieve)
    (hok : claimSucceeds T h r) (hnd : (claimedCodes r).Nodup) (q : ℤ) :
    StepsIssued q ((claimedCodes r).count q) h (serve T h r) := by
  obtain ⟨hrows, hpaid⟩ := serve_achieve hsteps hok
  have hle : (claimedCodes r).count q ≤ 1 := List.nodup_iff_count_le_one.1 hnd q
  constructor
  · rw [hpaid q]
    obtain h0 | h1 : (claimedCodes r).count q = 0 ∨ (claimedCodes r).count q = 1 := by omega
    · rw [h0]
      rfl
    · rw [h1, serial_one]
      rfl
  · rw [hrows, achieveStep_claimedRows]
    split_ifs with hnone
    · simp [achieveStep, hnone, Nat.min_eq_left hle]
    · rfl

/-- what a run does to achievement q: the paid steps follow each other, each once, and a row of an achievement that is not
claimed stays as it is -/
structure PaidInOrder (T : Tables) (h : History) (reqs : List (Clock × Request)) (q : ℤ) : Prop where
  steps : StepsIssued q ((reqs.flatMap claimedCodes).count q) h (run (serve T) h reqs)
  untouched : q ∉ reqs.flatMap claimedCodes →
    (run (serve T) h reqs).db.achieve.filter (·.idx = q) = h.db.achieve.filter (·.idx = q)

theorem PaidInOrder.of_nodup {T : Tables} {h : History} {reqs : List (Clock × Request)} (hsteps : StepsOk h.db.achieve)
    (hok : LegalRun (serve T) (claimSucceeds T) h reqs) (hnd : ∀ r ∈ reqs, (claimedCodes r).Nodup) (q : ℤ) :
    PaidInOrder T h reqs q := by
  induction reqs generalizing h with
  | nil => exact ⟨Issues.refl h, fun _ => rfl⟩
  | cons r reqs ih =>
    obtain ⟨hrows, -⟩ := serve_achieve hsteps hok.1
    have hnext : StepsOk (serve T h r).db.achieve := hrows ▸ stepsOk_claimedRows _ hsteps
    obtain ⟨ih1, ih2⟩ := ih hnext hok.2 fun r' hr' => hnd r' (List.mem_cons_of_mem _ hr')
    constructor
    · rw [List.flatMap_cons, List.count_append]
      exact (serve_issues hsteps hok.1 (hnd r List.mem_cons_self) q).trans ih1
    · intro hq
      rw [List.flatMap_cons, List.mem_append, not_or] at hq
      rw [run_cons, ih2 hq.2, hrows]
      exact filter_claimedRows hq.1 _

/-- a code that some claim repeats leaves a repetition in the log -/
theorem run_log {T : Tables} {h : History} {reqs : List (Clock × Request)} (hsteps : StepsOk h.db.achieve)
    (hok : LegalRun (serve T) (claimSucceeds T) h reqs) :
    ∃ new : ℤ → List ℤ, (∀ q, paidSteps q (run (serve T) h reqs).paid = paidSteps q h.paid ++ new q) ∧
      ((∀ q, (new q).Nodup) → ∀ r ∈ reqs, (claimedCodes r).Nodup) := by
  induction reqs generalizing h with
  | nil => exact ⟨fun _ => [], by simp, by simp⟩
  | cons r reqs ih =>
    obtain ⟨hrows, hpaid⟩ := serve_achieve hsteps hok.1
    have hnext : StepsOk (serve T h r).db.achieve := hrows ▸ stepsOk_claimedRows _ hsteps
    obtain ⟨new, hnew, hnodup⟩ := ih hnext hok.2
    refine ⟨fun q => List.replicate ((claimedCodes r).count q) (achieveStep h.db.achieve q) ++ new q, ?_, ?_⟩
    · intro q
      rw [run_cons, hnew q, hpaid q, List.append_assoc]
    · intro hall r' hr'
      rcases List.mem_cons.1 hr' with rfl | hr'
      · rw [List.nodup_iff_count_le_one]
        intro q
        exact List.nodup_replicate.1 (List.nodup_append.1 (hall q)).1
      · exact hnodup (fun q => (List.nodup_append.1 (hall q)).2.1) r' hr'

/-- every reward of an achievement claim is that of a step in the table -/
theorem achieve_rewards (T : Tables) (c : Clock) (codes : List ℤ) (db : Db) :
    ∀ w ∈ (questReward T c .ACHIEVE codes db).supplied, ∃ q ∈ codes, ∃ step, w = achieveReward T q step := by
  have hproc : ∀ m, ∀ w ∈ (procAchieve T m db codes).supplied, ∃ q ∈ codes, ∃ step, w = achieveReward T q step := by
    intro m w hw
    by_cases hok : (procAchieve T m db codes).result = .SUCCESS
    · rw [(procAchieve_ok hok).supplied] at hw
      obtain ⟨q, hq, rfl⟩ := List.mem_map.1 hw
      exact ⟨q, hq, _, rfl⟩
    · unfold procAchieve at hok hw
      dsimp only at hok hw
      split at hw
      · cases hw
      · rename_i hpassed
        rw [hpassed] at hok
        exact absurd rfl hok
  unfold questReward
  split_ifs
  · simp
  · cases db.main with
    | none => simp
    | some m => exact hproc m

/-- **Achievement steps are paid once and in order, exactly when no claim repeats a code.** The run is any one in which
the achievement claims succeed, from any stored state; the other requests are arbitrary. What is paid for a step is what
the table has for it. -/
theorem achieve_steps_iff {T : Tables} {h : History} {reqs : List (Clock × Request)} (hsteps : StepsOk h.db.achieve)
    (hok : LegalRun (serve T) (claimSucceeds T) h reqs) :
    ((∀ q, PaidInOrder T h reqs q) ↔ ∀ r ∈ reqs, (claimedCodes r).Nodup) ∧
      ∀ c codes db, ∀ w ∈ (questReward T c .ACHIEVE codes db).supplied, ∃ q ∈ codes, ∃ step, w = achieveReward T q step := by
  refine ⟨⟨?_, PaidInOrder.of_nodup hsteps hok⟩, achieve_rewards T⟩
  intro hpaid
  obtain ⟨new, hnew, hnodup⟩ := run_log hsteps hok
  exact hnodup fun q => (hpaid q).steps.new_nodup (hnew q)

/-- an achievement of three steps and one of a single step -/
def achieveTables : Tables :=
  { sampleTables with achieve := [⟨50, 7, 0, 0, [1, 5, 9], [901, 902, 903], [1, 1, 1]⟩, ⟨51, 7, 0, 0, [2], [904], [1]⟩] }

/-- step 1 of achievement 50 is the next one -/
def achieveDb : Db := { sampleDb with achieve := [⟨50, 1⟩] }

/-- both achievements are claimed, then the first one again -/
def achieveCalls : List (Clock × Request) :=
  [(⟨4, 1⟩, .reward .ACHIEVE [50, 51]), (⟨4, 1⟩, .refresh), (⟨5, 1⟩, .reward .ACHIEVE [50])]

theorem achieve_steps_two : PaidInOrder achieveTables ⟨achieveDb, [], ⟨4, 1⟩⟩ achieveCalls 50 ∧
    PaidInOrder achieveTables ⟨achieveDb, [], ⟨4, 1⟩⟩ achieveCalls 51 := by
  have hok : LegalRun (serve achieveTables) (claimSucceeds achieveTables) ⟨achieveDb, [], ⟨4, 1⟩⟩ achieveCalls :=
    ⟨rfl, trivial, rfl, trivial⟩
  have hall := (achieve_steps_iff (by decide) hok).1.2 (by decide)
  exact ⟨hall 50, hall 51⟩

/-- **One step is paid twice**: a claim that names achievement 50 twice gets step 1 twice, and step 2 is never paid -/
theorem achieve_step_twice : StepsOk achieveDb.achieve ∧
    LegalRun (serve achieveTables) (claimSucceeds achieveTables) ⟨achieveDb, [], ⟨4, 1⟩⟩
      [(⟨4, 1⟩, .reward .ACHIEVE [50, 50])] ∧
    paidSteps 50 (run (serve achieveTables) ⟨achieveDb, [], ⟨4, 1⟩⟩ [(⟨4, 1⟩, .reward .ACHIEVE [50, 50])]).paid = [1, 1] ∧
    ¬ PaidInOrder achieveTables ⟨achieveDb, [], ⟨4, 1⟩⟩ [(⟨4, 1⟩, .reward .ACHIEVE [50, 50])] 50 := by
  refine ⟨by decide, ⟨rfl, trivial⟩, by decide, fun hpaid => ?_⟩
  have hnd : [(1 : ℤ), 1].Nodup := hpaid.steps.new_nodup (by decide)
  exact absurd hnd (by decide)

end GameServer.Quest
