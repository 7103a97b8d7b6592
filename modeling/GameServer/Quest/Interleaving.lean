/-
Interleaved reward requests of one user. `sp_QuestReward` reads the main row in one transaction, checks it outside, and
pays in a second transaction; between the two any other request may run.

A run is a list of transactions. `read i` is the first transaction of request i: it keeps the main row as it was
(`pending`). `commit i c` is its second one: the checks run on the kept row, at the ids `c` that the request read after its
first transaction, and the updates hit the rows as they are now. A `RENEW_DATE` reads the ids again.

The three once-only rewards are three logs with a cursor, in the sense of `Once`:
- a main step is paid at the cursor (repeat count, quest code), which then moves on;
- a daily (weekly) complete reward is paid at the update id, which then is marked by the reward id.
A commit that pays does so for the kept row. If that row is out of date, the reward may have been paid already
(`paid_twice`); if it still passes on the stored row (`fresh`), the logs keep their order (`commit_inv`), and so do whole
runs (`reward_once_interleaved`).
-/
import Mathlib.Tactic
import Mathlib.Data.Prod.Lex
import GameServer.Core.Run
import GameServer.Core.Periodic
import GameServer.Quest.Rows

namespace GameServer.Quest

open GameServer.Core

/-! ## Transactions -/

/-- a transaction of request i -/
inductive Tx where
  | read (i : ℕ) (category : QuestCategory) (quest_code : List ℤ)
  | commit (i : ℕ) (c : Clock)

/-- a request between its two transactions: the row it has read, and what it asks for -/
structure Pending where
  db_main : MainRow
  category : QuestCategory
  quest_code : List ℤ

structure Shared where
  db : Db
  pending : ℕ → Option Pending
  /-- the rewards paid so far, with the ids of their requests -/
  paid : List (Source × Clock)
  now : Clock

/-- the second transaction: the checks run on the kept row -/
def commitReply (T : Tables) (c now : Clock) (p : Pending) (db : Db) : Reply :=
  let reply := procReward T c p.db_main db p.category p.quest_code
  if reply.result = .RENEW_DATE then renewDate T now db else reply

def serveTx (T : Tables) (h : Shared) (e : Clock × Tx) : Shared :=
  match e.2 with
  | .read i category quest_code =>
    if quest_code = [] then { h with now := e.1 }
    else
      match h.db.main with
      | none => { h with now := e.1 }
      | some db_main =>
        { h with pending := Function.update h.pending i (some ⟨db_main, category, quest_code⟩), now := e.1 }
  | .commit i c =>
    match h.pending i with
    | none => { h with now := e.1 }
    | some p =>
      let reply := commitReply T c e.1 p h.db
      ⟨reply.db, Function.update h.pending i none, h.paid ++ reply.supplied.map fun w => (w.source, c), e.1⟩

/-- the categories that pay once -/
def OnceCategory (category : QuestCategory) : Prop :=
  category = .MAIN ∨ category = .DAY_COMPLETE ∨ category = .WEEK_COMPLETE

/-- the ids never decrease, and a request that commits has read its ids before -/
def legalTx (h : Shared) (e : Clock × Tx) : Prop :=
  (h.now.dayID ≤ e.1.dayID ∧ h.now.weekID ≤ e.1.weekID) ∧
    match e.2 with
    | .read _ category _ => OnceCategory category
    | .commit _ c => c.dayID ≤ e.1.dayID ∧ c.weekID ≤ e.1.weekID

def startTx (db : Db) (c : Clock) : Shared := ⟨db, fun _ => none, [], c⟩

/-! ## The three once-only rewards -/

/-- the main steps paid: repeat count and quest code -/
def mainSteps (paid : List (Source × Clock)) : List (ℤ × ℤ) :=
  paid.filterMap fun e => match e.1 with
    | .main code repeatCount => some (repeatCount, code)
    | _ => none

/-- the day ids of the daily-complete rewards paid -/
def completeDays (paid : List (Source × Clock)) : List ℤ :=
  paid.filterMap fun e => match e.1 with
    | .dayComplete => some e.2.dayID
    | _ => none

/-- the week ids of the weekly-complete rewards paid -/
def completeWeeks (paid : List (Source × Clock)) : List ℤ :=
  paid.filterMap fun e => match e.1 with
    | .weekComplete => some e.2.weekID
    | _ => none

/-- each main step, each day and each week is paid at most once -/
def PaidOnce (paid : List (Source × Clock)) : Prop :=
  (mainSteps paid).Nodup ∧ (completeDays paid).Nodup ∧ (completeWeeks paid).Nodup

/-- the check of the category, on a stored row: it is the row of the same step, or its id is current and not rewarded -/
def Passes (category : QuestCategory) (c : Clock) (read stored : MainRow) : Prop :=
  match category with
  | .MAIN => stored.idx = read.idx ∧ stored.repeat_count = read.repeat_count
  | .DAY_COMPLETE => stored.reward_day_id ≠ c.dayID ∧ stored.update_day_id = c.dayID
  | .WEEK_COMPLETE => stored.reward_week_id ≠ c.weekID ∧ stored.update_week_id = c.weekID
  | _ => True

instance (category : QuestCategory) (c : Clock) (read stored : MainRow) : Decidable (Passes category c read stored) := by
  cases category <;> unfold Passes <;> infer_instance

/-- a request that has passed its checks on the kept row passes them on the stored row too -/
def fresh (T : Tables) (h : Shared) (e : Clock × Tx) : Prop :=
  match e.2 with
  | .read .. => True
  | .commit i c =>
    match h.pending i, h.db.main with
    | some p, some m => (procReward T c p.db_main h.db p.category p.quest_code).result = .SUCCESS →
        Passes p.category c p.db_main m
    | _, _ => True

instance (h : Shared) (e : Clock × Tx) : Decidable (legalTx h e) := by
  unfold legalTx OnceCategory
  split <;> infer_instance

instance (T : Tables) (h : Shared) (e : Clock × Tx) : Decidable (fresh T h e) := by
  unfold fresh
  split
  · infer_instance
  · split <;> infer_instance

/-! ## What a reward request does -/

/-- a reply that pays: what it pays for, and the main row it leaves -/
structure Pays (db : Db) (source : Source) (f : MainRow → MainRow) (reply : Reply) : Prop where
  success : reply.result = .SUCCESS
  supplied : ∃ items, reply.supplied = [⟨source, items⟩]
  db : reply.db = { db with main := db.main.map f }

/-- a reply that pays nothing: a failure leaves the rows, and a stale day or week asks for a refresh -/
structure Refuses (db : Db) (reply : Reply) : Prop where
  result : reply.result = .FAIL ∧ reply.db = db ∨ reply.result = .RENEW_DATE
  supplied : reply.supplied = []

theorem Refuses.fail (db : Db) : Refuses db ⟨.FAIL, QuestInfo.empty, [], db⟩ := ⟨Or.inl ⟨rfl, rfl⟩, rfl⟩

/-- the next main step comes after the current one -/
theorem procMain_outcome (T : Tables) (m : MainRow) (db : Db) (quest_code : List ℤ) :
    Refuses db (procMain T m db quest_code) ∨ ∃ next_code next_repeat,
      toLex (m.repeat_count, m.idx) < toLex (next_repeat, next_code) ∧
        Pays db (.main m.idx m.repeat_count)
          (fun s => { s with idx := next_code, complete_count := 0, repeat_count := next_repeat })
          (procMain T m db quest_code) := by
  cases quest_code with
  | nil => exact Or.inl (Refuses.fail db)
  | cons current_code rest =>
    by_cases hcode : current_code = m.idx
    · subst hcode
      simp only [procMain, ne_eq, not_true_eq_false, if_false, questVerify, Bool.true_eq_false]
      cases T.getMain m.idx with
      | none => exact Or.inl (Refuses.fail db)
      | some tb_main =>
        cases hnext : T.getMain (m.idx + 1) with
        | some tb_next =>
          have hcode' : tb_next.code = m.idx + 1 := by simpa using List.find?_some hnext
          refine Or.inr ⟨tb_next.code, m.repeat_count, ?_, rfl, ⟨_, rfl⟩, rfl⟩
          rw [Prod.Lex.toLex_lt_toLex]
          exact Or.inr ⟨rfl, by rw [hcode']; exact lt_add_one _⟩
        | none =>
          cases T.getMainType MAIN_REPEAT with
          | nil => exact Or.inl (Refuses.fail db)
          | cons tb_repeat _ =>
            refine Or.inr ⟨tb_repeat.code, m.repeat_count + 1, ?_, rfl, ⟨_, rfl⟩, rfl⟩
            rw [Prod.Lex.toLex_lt_toLex]
            exact Or.inl (lt_add_one _)
    · rw [procMain, if_pos hcode]
      exact Or.inl (Refuses.fail db)

theorem CompleteReply.outcome {T : Tables} {c : Clock} {m : MainRow} {db : Db} {id update reward : ℤ} {source : Source}
    {f : MainRow → MainRow} {reply : Reply} (h : CompleteReply T c m db id update reward source f reply) :
    Refuses db reply ∨ Pays db source f reply := by
  cases h with
  | refused => exact Or.inl (Refuses.fail db)
  | stale => exact Or.inl ⟨Or.inr rfl, rfl⟩
  | paid _ _ items => exact Or.inr ⟨rfl, ⟨items, rfl⟩, rfl⟩

/-! ## The logs -/

theorem mainSteps_append (a b : List (Source × Clock)) : mainSteps (a ++ b) = mainSteps a ++ mainSteps b :=
  List.filterMap_append ..

theorem completeDays_append (a b : List (Source × Clock)) : completeDays (a ++ b) = completeDays a ++ completeDays b :=
  List.filterMap_append ..

theorem completeWeeks_append (a b : List (Source × Clock)) :
    completeWeeks (a ++ b) = completeWeeks a ++ completeWeeks b := List.filterMap_append ..

/-- the log of one complete reward: no id is repeated, and an id that is still current is marked -/
structure Half (update reward : ℤ) (log : List ℤ) (now : ℤ) : Prop where
  once : Once update (fun _ : Unit => reward = update) (log.map fun id => ((), id))
  noticed : log ≠ [] → update ≤ now

namespace Half

variable {update reward now now' : ℤ} {log : List ℤ}

theorem nil (update reward now : ℤ) : Half update reward [] now := ⟨Once.nil _ _, fun h => absurd rfl h⟩

theorem nodup (h : Half update reward log now) : log.Nodup := h.once.nodup.of_map _

theorem later (h : Half update reward log now) (hle : now ≤ now') : Half update reward log now' :=
  ⟨h.once, fun hlog => (h.noticed hlog).trans hle⟩

/-- a stale half starts a new id, without a mark -/
theorem refresh (h : Half update reward log now) : Half now (if update ≠ now then 0 else reward) log now := by
  by_cases hu : update = now
  · subst hu
    simpa using h
  · cases log with
    | nil => exact nil _ _ _
    | cons id log =>
      have hlt : update < now := lt_of_le_of_ne (h.noticed (List.cons_ne_nil id log)) hu
      exact ⟨h.once.advance hlt _, fun _ => le_rfl⟩

/-- the reward of the current id is paid and marked -/
theorem pay {id : ℤ} (h : Half update reward log now) (hu : update = id) (hr : reward ≠ id) (hle : id ≤ now) :
    Half update id (log ++ [id]) now := by
  subst hu
  refine ⟨?_, fun _ => hle⟩
  have hpaid : Once update (fun _ => update = update) (log.map (fun id => ((), id)) ++ [((), update)]) :=
    h.once.pay (List.nodup_singleton ()) (fun _ _ => hr) (fun _ _ => rfl) fun _ _ => rfl
  simpa using hpaid

end Half

/-- the log of the main steps: all of them lie before the current one -/
def Steps (m : MainRow) (log : List (ℤ × ℤ)) : Prop :=
  Once (toLex (m.repeat_count, m.idx)) (fun _ : Unit => False) (log.map fun p => ((), toLex p))

theorem Steps.nodup {m : MainRow} {log : List (ℤ × ℤ)} (h : Steps m log) : log.Nodup := Once.nodup h |>.of_map _

/-- the current step is paid, and the next one starts -/
theorem Steps.pay {m m' : MainRow} {log : List (ℤ × ℤ)} (h : Steps m log)
    (hlt : toLex (m.repeat_count, m.idx) < toLex (m'.repeat_count, m'.idx)) :
    Steps m' (log ++ [(m.repeat_count, m.idx)]) := by
  have hpaid : Once (toLex (m.repeat_count, m.idx)) (fun _ => True)
      (log.map (fun p => ((), toLex p)) ++ [((), toLex (m.repeat_count, m.idx))]) :=
    Once.pay h (List.nodup_singleton ()) (fun _ _ hf => hf) (fun _ hf => hf.elim) fun _ _ => trivial
  have hnext := hpaid.advance hlt fun _ => False
  simpa [Steps] using hnext

/-- the three logs of a stored main row -/
structure Ledger (m : MainRow) (paid : List (Source × Clock)) (now : Clock) : Prop where
  steps : Steps m (mainSteps paid)
  day : Half m.update_day_id m.reward_day_id (completeDays paid) now.dayID
  week : Half m.update_week_id m.reward_week_id (completeWeeks paid) now.weekID

theorem Ledger.nil (m : MainRow) (now : Clock) : Ledger m [] now := ⟨Once.nil _ _, Half.nil _ _ _, Half.nil _ _ _⟩

theorem Ledger.later {m : MainRow} {paid : List (Source × Clock)} {now now' : Clock} (h : Ledger m paid now)
    (hd : now.dayID ≤ now'.dayID) (hw : now.weekID ≤ now'.weekID) : Ledger m paid now' :=
  ⟨h.steps, h.day.later hd, h.week.later hw⟩

theorem Ledger.refresh {m : MainRow} {paid : List (Source × Clock)} {now : Clock} (h : Ledger m paid now) :
    Ledger (refreshMain now m) paid now := by
  rw [refreshMain_eq]
  exact ⟨h.steps, h.day.refresh, h.week.refresh⟩

/-! ## One transaction -/

/-- without a main row nothing was read or paid; with one, its logs are in order -/
structure InvTx (h : Shared) : Prop where
  asked : ∀ i p, h.pending i = some p → OnceCategory p.category
  unread : h.db.main = none → (∀ i, h.pending i = none) ∧ h.paid = []
  ledger : ∀ m, h.db.main = some m → Ledger m h.paid h.now

theorem InvTx.of_main {h : Shared} {m : MainRow} (hask : ∀ i p, h.pending i = some p → OnceCategory p.category)
    (hm : h.db.main = some m) (hl : Ledger m h.paid h.now) : InvTx h := by
  refine ⟨hask, ?_, ?_⟩
  · intro hnone
    rw [hm] at hnone
    cases hnone
  · intro m' hm'
    rw [← Option.some.inj (hm.symm.trans hm')]
    exact hl

theorem InvTx.start (db : Db) (c : Clock) : InvTx (startTx db c) :=
  ⟨fun _ _ h => (by cases h), fun _ => ⟨fun _ => rfl, rfl⟩, fun m _ => Ledger.nil m c⟩

/-- time passes -/
theorem InvTx.later {h : Shared} {now : Clock} (hinv : InvTx h) (hd : h.now.dayID ≤ now.dayID)
    (hw : h.now.weekID ≤ now.weekID) : InvTx { h with now := now } :=
  ⟨hinv.asked, hinv.unread, fun m hm => (hinv.ledger m hm).later hd hw⟩

/-- a refresh of the stored rows -/
theorem renewDate_main (T : Tables) (now : Clock) {db : Db} {m : MainRow} (hm : db.main = some m) :
    (renewDate T now db).db.main = some m ∨ (renewDate T now db).db.main = some (refreshMain now m) := by
  unfold renewDate questRefreshData
  cases T.getMainType MAIN_PROGRESS with
  | nil => exact Or.inl hm
  | cons tb_main _ =>
    simp only [hm, Option.getD_some]
    exact Or.inr trivial

/-- a request that pays keeps the logs, if its checks pass on the stored row -/
theorem pays_ledger {T : Tables} {c now : Clock} {p : Pending} {m : MainRow} {db : Db} {paid : List (Source × Clock)}
    (hm : db.main = some m) (hl : Ledger m paid now) (hd : c.dayID ≤ now.dayID) (hw : c.weekID ≤ now.weekID)
    (hcat : OnceCategory p.category)
    (hpass : (procReward T c p.db_main db p.category p.quest_code).result = .SUCCESS →
      Passes p.category c p.db_main m) :
    Refuses db (procReward T c p.db_main db p.category p.quest_code) ∨
      (procReward T c p.db_main db p.category p.quest_code).result = .SUCCESS ∧ ∃ m',
        (procReward T c p.db_main db p.category p.quest_code).db.main = some m' ∧
          Ledger m' (paid ++ (procReward T c p.db_main db p.category p.quest_code).supplied.map fun w => (w.source, c))
            now := by
  rcases hcat with hcat | hcat | hcat <;> rw [hcat] at hpass ⊢ <;> simp only [procReward] at hpass ⊢
  · rcases procMain_outcome T p.db_main db p.quest_code with hno | ⟨next_code, next_repeat, hlt, hpay⟩
    · exact Or.inl hno
    · obtain ⟨hidx, hrepeat⟩ := hpass hpay.success
      obtain ⟨items, hsup⟩ := hpay.supplied
      refine Or.inr ⟨hpay.success, { m with idx := next_code, complete_count := 0, repeat_count := next_repeat }, ?_, ?_⟩
      · rw [hpay.db, hm]
        rfl
      · rw [← hidx, ← hrepeat] at hlt hsup
        rw [hsup]
        refine ⟨?_, ?_, ?_⟩
        · rw [mainSteps_append]
          exact hl.steps.pay hlt
        · simpa [completeDays_append, completeDays] using hl.day
        · simpa [completeWeeks_append, completeWeeks] using hl.week
  · rcases (procDayComplete_reply T c p.db_main db p.quest_code).outcome with hno | hpay
    · exact Or.inl hno
    · obtain ⟨hreward, hupdate⟩ := hpass hpay.success
      obtain ⟨items, hsup⟩ := hpay.supplied
      refine Or.inr ⟨hpay.success, { m with reward_day_id := c.dayID }, by rw [hpay.db, hm]; rfl, ?_⟩
      rw [hsup]
      refine ⟨?_, ?_, ?_⟩
      · simpa [mainSteps_append, mainSteps, Steps] using hl.steps
      · rw [completeDays_append]
        exact hl.day.pay hupdate hreward hd
      · simpa [completeWeeks_append, completeWeeks] using hl.week
  · rcases (procWeekComplete_reply T c p.db_main db p.quest_code).outcome with hno | hpay
    · exact Or.inl hno
    · obtain ⟨hreward, hupdate⟩ := hpass hpay.success
      obtain ⟨items, hsup⟩ := hpay.supplied
      refine Or.inr ⟨hpay.success, { m with reward_week_id := c.weekID }, by rw [hpay.db, hm]; rfl, ?_⟩
      rw [hsup]
      refine ⟨?_, ?_, ?_⟩
      · simpa [mainSteps_append, mainSteps, Steps] using hl.steps
      · simpa [completeDays_append, completeDays] using hl.day
      · rw [completeWeeks_append]
        exact hl.week.pay hupdate hreward hw

/-- one request starts or ends -/
theorem InvTx.asked_update {h : Shared} (hinv : InvTx h) (i : ℕ) {v : Option Pending}
    (hv : ∀ p, v = some p → OnceCategory p.category) :
    ∀ j p, Function.update h.pending i v j = some p → OnceCategory p.category :=
  (Function.forall_update_iff h.pending fun _ w => ∀ p, w = some p → OnceCategory p.category).2
    ⟨hv, fun j _ => hinv.asked j⟩

/-- the first transaction -/
theorem read_inv {T : Tables} {h : Shared} {now : Clock} {i : ℕ} {category : QuestCategory} {quest_code : List ℤ}
    (hinv : InvTx h) (hl : legalTx h (now, .read i category quest_code)) :
    InvTx (serveTx T h (now, .read i category quest_code)) := by
  obtain ⟨⟨hd, hw⟩, hcat⟩ := hl
  have hlater := hinv.later hd hw
  simp only [serveTx]
  split_ifs
  · exact hlater
  · cases hm : h.db.main with
    | none => exact hlater
    | some m =>
      refine InvTx.of_main (hinv.asked_update i ?_) hm (hlater.ledger m hm)
      intro p hp
      rw [← Option.some.inj hp]
      exact hcat

/-- the second transaction -/
theorem commit_inv {T : Tables} {h : Shared} {now c : Clock} {i : ℕ} (hinv : InvTx h)
    (hl : legalTx h (now, .commit i c)) (hf : fresh T h (now, .commit i c)) :
    InvTx (serveTx T h (now, .commit i c)) := by
  obtain ⟨⟨hd, hw⟩, hcd, hcw⟩ := hl
  have hlater := hinv.later hd hw
  simp only [serveTx]
  cases hp : h.pending i with
  | none => exact hlater
  | some p =>
    have hask := hinv.asked_update i (v := none) fun p hnone => by cases hnone
    cases hm : h.db.main with
    | none =>
      -- nothing could have been read
      have := (hinv.unread hm).1 i
      rw [hp] at this
      cases this
    | some m =>
      have hledger : Ledger m h.paid now := hlater.ledger m hm
      have hpass : (procReward T c p.db_main h.db p.category p.quest_code).result = .SUCCESS →
          Passes p.category c p.db_main m := by simpa only [fresh, hp, hm] using hf
      unfold commitReply
      rcases pays_ledger hm hledger hcd hcw (hinv.asked i p hp) hpass with hno | ⟨hok, m', hm', hl'⟩
      · rcases hno.result with ⟨hfail, hdb⟩ | hrenew
        · have hr : ¬ (procReward T c p.db_main h.db p.category p.quest_code).result = .RENEW_DATE := by simp [hfail]
          simp only [if_neg hr, hdb, hno.supplied, List.map_nil, List.append_nil]
          exact InvTx.of_main hask hm hledger
        · simp only [if_pos hrenew]
          rcases renewDate_main T now hm with hsame | hreset
          · refine InvTx.of_main hask hsame ?_
            simpa [renewDate] using hledger
          · refine InvTx.of_main hask hreset ?_
            simpa [renewDate] using hledger.refresh
      · have hr : ¬ (procReward T c p.db_main h.db p.category p.quest_code).result = .RENEW_DATE := by simp [hok]
        simp only [if_neg hr]
        exact InvTx.of_main hask hm' hl'

/-! ## Whole runs -/

/-- step lemma -/
theorem serveTx_inv (T : Tables) (h : Shared) (e : Clock × Tx) (hinv : InvTx h) (hl : legalTx h e ∧ fresh T h e) :
    InvTx (serveTx T h e) := by
  obtain ⟨now, tx⟩ := e
  cases tx with
  | read i category quest_code => exact read_inv hinv hl.1
  | commit i c => exact commit_inv hinv hl.1 hl.2

theorem InvTx.paidOnce {h : Shared} (hinv : InvTx h) : PaidOnce h.paid := by
  cases hm : h.db.main with
  | none => simp [PaidOnce, (hinv.unread hm).2, mainSteps, completeDays, completeWeeks]
  | some m =>
    have hl := hinv.ledger m hm
    exact ⟨hl.steps.nodup, hl.day.nodup, hl.week.nodup⟩

/-- **Interleaved requests pay once, if no payment is checked against an outdated row.** The runs are all interleavings
of the transactions of any number of requests. -/
theorem reward_once_interleaved (T : Tables) (db : Db) (c : Clock) (txs : List (Clock × Tx))
    (hrun : LegalRun (serveTx T) (fun h e => legalTx h e ∧ fresh T h e) (startTx db c) txs) :
    PaidOnce (run (serveTx T) (startTx db c) txs).paid :=
  (run_inv (serveTx_inv T) (InvTx.start db c) hrun).paidOnce

/-- two main quests, and the complete quests of the small game -/
def raceTables : Tables :=
  { sampleTables with main := [⟨1, MAIN_PROGRESS, 7, 0, 0, 3, 0, 0, 900, 1⟩, ⟨2, MAIN_PROGRESS, 7, 0, 0, 3, 0, 0, 900, 1⟩] }

def raceDb : Db := ⟨some ⟨1, 3, 0, 5, 0, 1, 0⟩, [], [], [], some ⟨0, 0⟩⟩

/-- requests of different categories that overlap, with rows that are out of date when they pay; then a new day, and a
request for a main step that is over -/
def turns : List (Clock × Tx) :=
  [(⟨5, 1⟩, .read 0 .MAIN [1]), (⟨5, 1⟩, .read 1 .DAY_COMPLETE [11]), (⟨5, 1⟩, .read 2 .WEEK_COMPLETE [21]),
    (⟨5, 1⟩, .commit 1 ⟨5, 1⟩), (⟨5, 1⟩, .commit 0 ⟨5, 1⟩), (⟨5, 1⟩, .commit 2 ⟨5, 1⟩),
    (⟨6, 1⟩, .read 3 .DAY_COMPLETE [11]), (⟨6, 1⟩, .read 4 .MAIN [1]), (⟨6, 1⟩, .commit 3 ⟨6, 1⟩),
    (⟨6, 1⟩, .read 5 .DAY_COMPLETE [11]), (⟨6, 1⟩, .commit 4 ⟨6, 1⟩), (⟨6, 1⟩, .commit 5 ⟨6, 1⟩)]

theorem reward_once_interleaved_turns :
    (run (serveTx raceTables) (startTx raceDb ⟨5, 1⟩) turns).paid =
        [(.dayComplete, ⟨5, 1⟩), (.main 1 0, ⟨5, 1⟩), (.weekComplete, ⟨5, 1⟩), (.dayComplete, ⟨6, 1⟩)] ∧
      PaidOnce (run (serveTx raceTables) (startTx raceDb ⟨5, 1⟩) turns).paid := by
  refine ⟨by decide, reward_once_interleaved raceTables raceDb ⟨5, 1⟩ turns (by decide)⟩

/-- two requests for each reward that read the main row before either of them pays -/
def race : List (Clock × Tx) :=
  [(⟨5, 1⟩, .read 0 .MAIN [1]), (⟨5, 1⟩, .read 1 .MAIN [1]), (⟨5, 1⟩, .commit 0 ⟨5, 1⟩), (⟨5, 1⟩, .commit 1 ⟨5, 1⟩),
    (⟨5, 1⟩, .read 2 .DAY_COMPLETE [11]), (⟨5, 1⟩, .read 3 .DAY_COMPLETE [11]), (⟨5, 1⟩, .commit 2 ⟨5, 1⟩),
    (⟨5, 1⟩, .commit 3 ⟨5, 1⟩), (⟨5, 1⟩, .read 4 .WEEK_COMPLETE [21]), (⟨5, 1⟩, .read 5 .WEEK_COMPLETE [21]),
    (⟨5, 1⟩, .commit 4 ⟨5, 1⟩), (⟨5, 1⟩, .commit 5 ⟨5, 1⟩)]

/-- **The checks are made too early**: each of the three rewards is paid twice -/
theorem paid_twice : LegalRun (serveTx raceTables) legalTx (startTx raceDb ⟨5, 1⟩) race ∧
    mainSteps (run (serveTx raceTables) (startTx raceDb ⟨5, 1⟩) race).paid = [(0, 1), (0, 1)] ∧
    completeDays (run (serveTx raceTables) (startTx raceDb ⟨5, 1⟩) race).paid = [5, 5] ∧
    completeWeeks (run (serveTx raceTables) (startTx raceDb ⟨5, 1⟩) race).paid = [1, 1] ∧
    ¬ PaidOnce (run (serveTx raceTables) (startTx raceDb ⟨5, 1⟩) race).paid := by
  refine ⟨by decide, by decide, by decide, by decide, ?_⟩
  unfold PaidOnce
  decide

end GameServer.Quest
