/-
What a quest claim tells the client, against the database, `sp_QuestReward` of `Python/Quest.py`.

`__procDay`, `__procWeek` and `__procAchieve` put an entry with the new reward step into the packet as soon as a code
passes, and write the steps after the loop. A later code that is refused returns in the middle of the loop: the entries
stay in the packet, and nothing is written.
- `verifyAchieve_spec`: the entries that the loop over achievement codes leaves (`verifyRows_spec` is the one over
  stored rows);
- `entries_refused_iff`, `entries_stored`: the entries of a loop that returns early, and of one that ends;
- `reply_agrees_iff`: the entries agree with the database exactly if every code passes or the first one is refused;
- `reply_disagrees`: two daily codes, of which the second one was rewarded before.
-/
import Mathlib.Tactic
import Mathlib.Data.List.TakeWhile
import GameServer.Quest.Achievements

namespace GameServer.Quest

open GameServer.Core

/-- the stored reward step of a daily or weekly quest -/
def rowStep (rows : List QuestRow) (code : ℤ) : Option ℤ := (questFindInList code rows).map QuestRow.reward_step

/-- every entry of the packet has the stored reward step; it is 0 for an achievement without a row -/
structure EntriesAgree (reply : Reply) : Prop where
  day : ∀ e ∈ reply.questInfo.Day, rowStep reply.db.day e.Code = some e.RewardStep
  week : ∀ e ∈ reply.questInfo.Week, rowStep reply.db.week e.Code = some e.RewardStep
  achieve : ∀ e ∈ reply.questInfo.Achieve, achieveStep reply.db.achieve e.Code = e.RewardStep

/-- all elements pass, or the first one is refused -/
def AllOrFirst {α : Type*} (p : α → Bool) (l : List α) : Prop := l.all p = true ∨ ∀ a, l.head? = some a → p a = false

/-- what the loop of `__procAchieve` asks of a code -/
def codeAccepted (T : Tables) (rows : List AchieveRow) (q : ℤ) : Bool :=
  match T.getAchieve q with
  | none => false
  | some tb => stepIdx rows q < tb.count.length

/-- the condition: the list is one that the loop is not entered with, or all of it passes, or its first element is
refused -/
def PassesOrFirstRefused (T : Tables) (c : Clock) (category : QuestCategory) (codes : List ℤ) (db : Db) : Prop :=
  ∀ m, db.main = some m →
    match category with
    | .DAY => m.update_day_id = c.dayID → (executeSelectList db.day codes).length = codes.length →
        AllOrFirst (rowAccepted T DAY_NORMAL) (executeSelectList db.day codes)
    | .WEEK => m.update_week_id = c.weekID → (executeSelectList db.week codes).length = codes.length →
        AllOrFirst (rowAccepted T WEEK_NORMAL) (executeSelectList db.week codes)
    | .ACHIEVE => AllOrFirst (codeAccepted T db.achieve) codes
    | _ => True

/-- the category has entries of its own -/
def ListCategory (category : QuestCategory) : Prop := category = .DAY ∨ category = .WEEK ∨ category = .ACHIEVE

section

variable {T : Tables} {c : Clock} {m : MainRow} {db : Db} {codes : List ℤ} {rows : List QuestRow}

theorem takeWhile_nil_iff {α : Type*} {p : α → Bool} {l : List α} :
    l.takeWhile p = [] ↔ ∀ a, l.head? = some a → p a = false := by
  cases l with
  | nil => simp
  | cons a l =>
    rw [List.takeWhile_cons, List.head?_cons]
    cases hp : p a with
    | true => simp [hp]
    | false => simp [hp]

theorem takeWhile_of_all {α : Type*} {p : α → Bool} {l : List α} (h : l.all p = true) : l.takeWhile p = l :=
  List.takeWhile_eq_self_iff.2 (List.all_eq_true.1 h)

/-! ## The entries of a reply -/

theorem entriesAgree_empty {result : ResultType} {supplied : List Reward} :
    EntriesAgree ⟨result, QuestInfo.empty, supplied, db⟩ :=
  ⟨by simp [QuestInfo.empty], by simp [QuestInfo.empty], by simp [QuestInfo.empty]⟩

/-- the main quest has no entry of these lists -/
theorem entriesAgree_fill {result : ResultType} {pb : QuestInfo} {supplied : List Reward} :
    EntriesAgree ⟨result, fillMainPacket pb m, supplied, db⟩ ↔ EntriesAgree ⟨result, pb, supplied, db⟩ :=
  ⟨fun h => ⟨h.day, h.week, h.achieve⟩, fun h => ⟨h.day, h.week, h.achieve⟩⟩

theorem entriesAgree_day {result : ResultType} {day : List PbQuest} {supplied : List Reward} :
    EntriesAgree ⟨result, { QuestInfo.empty with Day := day }, supplied, db⟩ ↔
      ∀ e ∈ day, rowStep db.day e.Code = some e.RewardStep :=
  ⟨EntriesAgree.day, fun h => ⟨h, by simp [QuestInfo.empty], by simp [QuestInfo.empty]⟩⟩

theorem entriesAgree_week {result : ResultType} {week : List PbQuest} {supplied : List Reward} :
    EntriesAgree ⟨result, { QuestInfo.empty with Week := week }, supplied, db⟩ ↔
      ∀ e ∈ week, rowStep db.week e.Code = some e.RewardStep :=
  ⟨EntriesAgree.week, fun h => ⟨by simp [QuestInfo.empty], h, by simp [QuestInfo.empty]⟩⟩

theorem entriesAgree_achieve {result : ResultType} {achieve : List PbQuest} {supplied : List Reward} :
    EntriesAgree ⟨result, { QuestInfo.empty with Achieve := achieve }, supplied, db⟩ ↔
      ∀ e ∈ achieve, achieveStep db.achieve e.Code = e.RewardStep :=
  ⟨EntriesAgree.achieve, fun h => ⟨by simp [QuestInfo.empty], by simp [QuestInfo.empty], h⟩⟩

/-! ## Daily and weekly quests -/

theorem rowStep_of_mem (h : Distinct rows) {r : QuestRow} (hr : r ∈ rows) : rowStep rows r.idx = some r.reward_step := by
  have hfind : questFindInList r.idx rows = some r := (Keyed.find_eq_some h).2 ⟨hr, rfl⟩
  rw [rowStep, hfind, Option.map_some]

theorem mem_executeSelectList {r : QuestRow} (hr : r ∈ executeSelectList rows codes) : r ∈ rows :=
  (List.mem_filter.1 hr).1

/-- the entries of a loop that returns early agree exactly if there are none -/
theorem entries_refused_iff (h : Distinct rows) (accepted : QuestRow → Bool) :
    (∀ e ∈ ((executeSelectList rows codes).takeWhile accepted).map
        fun r => (⟨r.idx, r.complete_count, r.reward_step + 1⟩ : PbQuest),
      rowStep rows e.Code = some e.RewardStep) ↔ (executeSelectList rows codes).takeWhile accepted = [] := by
  constructor
  · intro hall
    rw [List.eq_nil_iff_forall_not_mem]
    intro r hr
    have hstep := hall _ (List.mem_map_of_mem hr)
    dsimp only at hstep
    rw [rowStep_of_mem h (mem_executeSelectList ((List.takeWhile_sublist _).subset hr)), Option.some_inj] at hstep
    omega
  · intro hnil
    rw [hnil]
    simp

/-- after the update the stored steps are the ones of the entries -/
theorem entries_stored (h : Distinct rows) :
    ∀ e ∈ (executeSelectList rows codes).map fun r => (⟨r.idx, r.complete_count, r.reward_step + 1⟩ : PbQuest),
      rowStep (stepRows (executeSelectList rows codes) rows) e.Code = some e.RewardStep := by
  intro e he
  obtain ⟨r, hr, rfl⟩ := List.mem_map.1 he
  have hselected : Distinct (executeSelectList rows codes) := h.filter _
  have hone : ((executeSelectList rows codes).map (·.idx)).count r.idx = 1 :=
    List.count_eq_one_of_mem hselected (List.mem_map_of_mem hr)
  have hstored : Distinct (stepRows (executeSelectList rows codes) rows) := by
    rw [stepRows_eq]
    exact h.map fun _ => rfl
  have hmem :
      (⟨r.idx, r.complete_count, r.reward_step + 1⟩ : QuestRow) ∈ stepRows (executeSelectList rows codes) rows := by
    rw [stepRows_eq]
    refine List.mem_map.2 ⟨r, mem_executeSelectList hr, ?_⟩
    rw [hone]
    rfl
  exact rowStep_of_mem hstored hmem

/-- the entries of the verification loop against the rows that are stored in the end -/
theorem verifyRows_agrees (h : Distinct rows) {type : ℤ} {source : ℤ → Source} {passed : Bool} {pb : List PbQuest}
    {rewards : List Reward}
    (hverify : verifyRows T type source (executeSelectList rows codes) [] [] = (passed, pb, rewards)) :
    (∀ e ∈ pb, rowStep (if passed then stepRows (executeSelectList rows codes) rows else rows) e.Code =
        some e.RewardStep) ↔
      AllOrFirst (rowAccepted T type) (executeSelectList rows codes) := by
  obtain ⟨hpass, hentries⟩ := verifyRows_spec T type source (executeSelectList rows codes) [] []
  rw [hverify] at hpass hentries
  dsimp only at hpass hentries
  rw [List.nil_append] at hentries
  rw [hentries]
  unfold AllOrFirst
  rw [← hpass]
  cases hpassed : passed with
  | true =>
    rw [takeWhile_of_all (hpass.symm.trans hpassed)]
    exact iff_of_true (entries_stored h) (Or.inl rfl)
  | false =>
    rw [or_iff_right Bool.false_ne_true, ← takeWhile_nil_iff]
    exact entries_refused_iff h _

/-- a request for rows, with `hentries` for where its entries and its rows are -/
theorem RowsReply.agrees_iff {id update type : ℤ} {source : ℤ → Source} {entries : List PbQuest → QuestInfo}
    {store : List QuestRow → Db} {reply : Reply}
    (hreply : RowsReply T c m db id update type source rows codes entries store reply) (h : Distinct rows)
    (hself : store rows = db) (hentries : ∀ result pb supplied rows',
      EntriesAgree ⟨result, entries pb, supplied, store rows'⟩ ↔ ∀ e ∈ pb, rowStep rows' e.Code = some e.RewardStep) :
    (reply.result ≠ .RENEW_DATE → EntriesAgree reply) ↔
      (update = id → (executeSelectList rows codes).length = codes.length →
        AllOrFirst (rowAccepted T type) (executeSelectList rows codes)) := by
  cases hreply with
  | stale hupdate => exact iff_of_true (fun hne => absurd rfl hne) (fun hupdate' => absurd hupdate' hupdate)
  | missing hupdate hlength =>
    exact iff_of_true (fun _ => entriesAgree_empty) (fun _ hlength' => absurd hlength' hlength)
  | refused hupdate hlength hverify =>
    rw [forall_prop_of_true hupdate, forall_prop_of_true hlength, forall_prop_of_true (by simp),
      ← verifyRows_agrees h hverify]
    have hrows := hentries .FAIL
    rw [← hself, hrows]
    rfl
  | paid hupdate hlength hverify =>
    rw [forall_prop_of_true hupdate, forall_prop_of_true hlength, forall_prop_of_true (by simp),
      ← verifyRows_agrees h hverify, entriesAgree_fill, hentries]
    rfl

/-! ## Achievements -/

/-- one code of the loop -/
theorem verifyAchieve_cons (T : Tables) (selected : List AchieveRow) (q : ℤ) (codes : List ℤ) (w : AchieveWork) :
    (codeAccepted T selected q = false → verifyAchieve T selected (q :: codes) w = (false, w)) ∧
      (codeAccepted T selected q = true →
        ∃ w', verifyAchieve T selected (q :: codes) w = verifyAchieve T selected codes w' ∧
          w'.pb = w.pb ++ [⟨q, 0, stepIdx selected q + 1⟩]) := by
  rw [verifyAchieve]
  unfold codeAccepted stepIdx userAchieve Keyed.find
  cases htable : T.getAchieve q with
  | none => simp
  | some tb =>
    cases hrow : selected.find? fun r => decide (r.idx = q) with
    | none =>
      simp only [decide_eq_false_iff_not, decide_eq_true_eq, not_lt]
      refine ⟨fun hle => if_pos hle, fun hlt => ?_⟩
      rw [if_neg (not_le.2 hlt), if_neg (by simp [questVerify])]
      exact ⟨_, rfl, rfl⟩
    | some r =>
      simp only [decide_eq_false_iff_not, decide_eq_true_eq, not_lt]
      refine ⟨fun hle => if_pos hle, fun hlt => ?_⟩
      rw [if_neg (not_le.2 hlt), if_neg (by simp [questVerify])]
      exact ⟨_, rfl, rfl⟩

/-- the loop passes exactly if every code is accepted, and has an entry for each code before the first refused one -/
theorem verifyAchieve_spec (T : Tables) (selected : List AchieveRow) (codes : List ℤ) (w : AchieveWork) :
    (verifyAchieve T selected codes w).1 = codes.all (codeAccepted T selected) ∧
      (verifyAchieve T selected codes w).2.pb =
        w.pb ++ (codes.takeWhile (codeAccepted T selected)).map fun q => ⟨q, 0, stepIdx selected q + 1⟩ := by
  induction codes generalizing w with
  | nil => simp [verifyAchieve]
  | cons q codes ih =>
    obtain ⟨hrefused, haccepted⟩ := verifyAchieve_cons T selected q codes w
    rw [List.all_cons, List.takeWhile_cons]
    cases hcode : codeAccepted T selected q with
    | false =>
      rw [hrefused hcode]
      simp
    | true =>
      obtain ⟨w', hstep, hpb⟩ := haccepted hcode
      obtain ⟨hpass, hentries⟩ := ih w'
      rw [hstep, hpass, hentries, hpb, List.append_assoc]
      exact ⟨rfl, rfl⟩

/-- the step that the loop reads is the stored one -/
theorem stepIdx_selected {q : ℤ} (hq : q ∈ codes) (rows : List AchieveRow) :
    stepIdx (rows.filter fun r => r.idx ∈ codes) q = stepIdx rows q := by
  unfold stepIdx
  rw [userAchieve_selected rows hq]

theorem codeAccepted_selected {q : ℤ} (hq : q ∈ codes) (rows : List AchieveRow) :
    codeAccepted T (rows.filter fun r => r.idx ∈ codes) q = codeAccepted T rows q := by
  unfold codeAccepted
  rw [stepIdx_selected hq]

theorem takeWhile_congr {α : Type*} {p p' : α → Bool} {l : List α} (h : ∀ a ∈ l, p a = p' a) :
    l.takeWhile p = l.takeWhile p' := by
  induction l with
  | nil => rfl
  | cons a l ih =>
    rw [List.takeWhile_cons, List.takeWhile_cons, h a List.mem_cons_self, ih fun b hb => h b (List.mem_cons_of_mem a hb)]

/-- the entries of a claim: the next step of each code before the first refused one -/
theorem verifyAchieve_selected (codes : List ℤ) (rows : List AchieveRow) :
    (verifyAchieve T (rows.filter fun r => r.idx ∈ codes) codes ⟨[], [], [], []⟩).1 = codes.all (codeAccepted T rows) ∧
      (verifyAchieve T (rows.filter fun r => r.idx ∈ codes) codes ⟨[], [], [], []⟩).2.pb =
        (codes.takeWhile (codeAccepted T rows)).map fun q => ⟨q, 0, stepIdx rows q + 1⟩ := by
  have hcode : ∀ q ∈ codes, codeAccepted T (rows.filter fun r => r.idx ∈ codes) q = codeAccepted T rows q :=
    fun q hq => codeAccepted_selected hq rows
  obtain ⟨hpass, hpb⟩ := verifyAchieve_spec T (rows.filter fun r => r.idx ∈ codes) codes ⟨[], [], [], []⟩
  constructor
  · rw [hpass, Bool.eq_iff_iff, List.all_eq_true, List.all_eq_true]
    exact forall₂_congr fun q hq => by rw [hcode q hq]
  · rw [hpb, List.nil_append, takeWhile_congr hcode]
    apply List.map_congr_left
    intro q hq
    rw [stepIdx_selected ((List.takeWhile_sublist _).subset hq)]

theorem procAchieve_agrees_iff (hsteps : StepsOk db.achieve) (hcodes : codes.Nodup) :
    EntriesAgree (procAchieve T m db codes) ↔ AllOrFirst (codeAccepted T db.achieve) codes := by
  obtain ⟨hpass, hpb⟩ := verifyAchieve_selected (T := T) codes db.achieve
  have hdone : (procAchieve T m db codes).result = .SUCCESS → ClaimDone T codes db (procAchieve T m db codes) :=
    procAchieve_ok
  unfold procAchieve at hdone ⊢
  dsimp only at hdone ⊢
  unfold AllOrFirst
  rw [← hpass]
  cases hverify : verifyAchieve T (db.achieve.filter fun r => r.idx ∈ codes) codes ⟨[], [], [], []⟩ with
  | mk passed w =>
    rw [hverify] at hpass hpb hdone
    dsimp only at hpass hpb hdone ⊢
    cases passed with
    | true =>
      -- every code has got one step more
      rw [entriesAgree_fill, entriesAgree_achieve, hpb, takeWhile_of_all hpass.symm]
      refine iff_of_true (fun e he => ?_) (Or.inl rfl)
      obtain ⟨q, hq, rfl⟩ := List.mem_map.1 he
      have hrows := (hdone rfl).rows
      dsimp only at hrows
      rw [hrows, achieveStep_claimedRows, List.count_eq_one_of_mem hcodes hq, stepIdx_cast hsteps]
      split_ifs with hnone
      · have hzero : achieveStep db.achieve q = 0 := by rw [achieveStep, hnone]
        rw [hzero]
        rfl
      · rfl
    | false =>
      rw [entriesAgree_achieve, hpb, or_iff_right Bool.false_ne_true, ← takeWhile_nil_iff]
      constructor
      · intro hall
        rw [List.eq_nil_iff_forall_not_mem]
        intro q hq
        have hstep := hall _ (List.mem_map_of_mem hq)
        dsimp only at hstep
        rw [stepIdx_cast hsteps] at hstep
        omega
      · intro hnil
        rw [hnil]
        simp

/-! ## Whole requests -/

/-- **The entries of a reply agree with the database exactly if every code passes or the first one is refused.** -/
theorem reply_agrees_iff {category : QuestCategory} (hcategory : ListCategory category) (hday : Distinct db.day)
    (hweek : Distinct db.week) (hsteps : StepsOk db.achieve) (hcodes : codes.Nodup) :
    ((questReward T c category codes db).result ≠ .RENEW_DATE → EntriesAgree (questReward T c category codes db)) ↔
      PassesOrFirstRefused T c category codes db := by
  unfold questReward PassesOrFirstRefused
  by_cases hnil : codes = []
  · subst hnil
    rw [if_pos rfl]
    refine iff_of_true (fun _ => entriesAgree_empty) (fun m _ => ?_)
    have hselect : ∀ rows : List QuestRow, executeSelectList rows [] = [] := fun rows => by simp [executeSelectList]
    rcases hcategory with rfl | rfl | rfl
    · intro _ _
      rw [hselect]
      exact Or.inl rfl
    · intro _ _
      rw [hselect]
      exact Or.inl rfl
    · exact Or.inl rfl
  · rw [if_neg hnil]
    cases hmain : db.main with
    | none => exact iff_of_true (fun _ => entriesAgree_empty) (by simp)
    | some m =>
      simp only [Option.some.injEq, forall_eq']
      rcases hcategory with rfl | rfl | rfl
      · exact (procDay_reply T c m db codes).agrees_iff hday rfl fun _ _ _ _ => entriesAgree_day
      · exact (procWeek_reply T c m db codes).agrees_iff hweek rfl fun _ _ _ _ => entriesAgree_week
      · have hresult : (procAchieve T m db codes).result ≠ .RENEW_DATE := by
          unfold procAchieve
          dsimp only
          split <;> simp
        exact (forall_prop_of_true hresult).trans (procAchieve_agrees_iff hsteps hcodes)

end

/-- two daily quests -/
def dailyTables : Tables :=
  { sampleTables with
    period := [⟨10, DAY_NORMAL, 7, 0, 0, 2, [901], [1]⟩, ⟨12, DAY_NORMAL, 7, 0, 0, 2, [905], [1]⟩]
    period_codes := by decide }

/-- both quests are complete; the reward of the second one is taken or not -/
def twoDailyDb (taken : ℤ) : Db := ⟨some ⟨1, 1, 0, 4, 0, 1, 0⟩, [⟨10, 2, 0⟩, ⟨12, 2, taken⟩], [], [], some ⟨0, 0⟩⟩

theorem reply_agrees_sample : (questReward dailyTables ⟨4, 1⟩ .DAY [10, 12] (twoDailyDb 0)).result = .SUCCESS ∧
    EntriesAgree (questReward dailyTables ⟨4, 1⟩ .DAY [10, 12] (twoDailyDb 0)) := by
  have hsuccess : (questReward dailyTables ⟨4, 1⟩ .DAY [10, 12] (twoDailyDb 0)).result = .SUCCESS := by decide
  refine ⟨hsuccess, (reply_agrees_iff (Or.inl rfl) (by unfold Distinct; decide) (by unfold Distinct; decide) (by decide)
    (by decide)).2 (fun m hm => ?_) (by rw [hsuccess]; decide)⟩
  obtain rfl := Option.some.inj hm
  exact fun _ _ => Or.inl rfl

/-- **A refused request that tells the client that its first code was rewarded.** -/
theorem reply_disagrees : (questReward dailyTables ⟨4, 1⟩ .DAY [10, 12] (twoDailyDb 1)).result = .FAIL ∧
    (questReward dailyTables ⟨4, 1⟩ .DAY [10, 12] (twoDailyDb 1)).questInfo.Day = [⟨10, 2, 1⟩] ∧
    rowStep (questReward dailyTables ⟨4, 1⟩ .DAY [10, 12] (twoDailyDb 1)).db.day 10 = some 0 ∧
    ¬EntriesAgree (questReward dailyTables ⟨4, 1⟩ .DAY [10, 12] (twoDailyDb 1)) := by
  refine ⟨by decide, by decide, by decide, fun hagree => ?_⟩
  exact absurd (hagree.day ⟨10, 2, 1⟩ (by decide)) (by decide)

end GameServer.Quest
