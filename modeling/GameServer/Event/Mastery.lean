/-
The event masteries of one user, `Python/Event.py`: `sp_EventCommonMasteryUpgrade`. A mastery is a row of table 882; the
user's event row keeps a point balance and the level of each mastery.

One upgrade checks the level, the points, the wave and the prerequisite of one mastery, pays the price of the current
level and raises it by one. Levels never fall, so a prerequisite that was met once stays met; and the prices paid so far
are the prices of all levels reached (`Masteries`).

`json.loads` of the column `items_mastery` is a dictionary keyed by `str(idx)`; here it is keyed by the number. Not under
src/: the table with `get882EventMastery` and `MakeIdx`, and the event calendar.
-/
import Mathlib.Tactic
import GameServer.Core.Run
import GameServer.Core.Dictionary
import GameServer.Core.Keyed
import GameServer.Event.Pass

namespace GameServer.Event

open GameServer.Core

/-! ## Data -/

/-- a row of `882EventMastery` -/
structure MasteryRow where
  idx : ℤ
  max_lv : ℤ
  need_point : List ℤ
  condition_wave_clear : ℤ
  condition_mastery_code : ℤ
  condition_mastery_lv : ℤ
deriving DecidableEq

/-- the mastery columns of a user's event row; `items_mastery` may be null -/
structure MasteryUser where
  event_idx : ℤ
  event_uid : ℤ
  play_max_wave : ℤ
  mastery_point : ℤ
  items_mastery : Option (AList fun _ : ℤ => ℤ)

/-- `mastery_dict` -/
def MasteryUser.dict (row : MasteryUser) : AList fun _ : ℤ => ℤ := row.items_mastery.getD ∅

/-- `EventCommonResultType`, as far as it is used here -/
inductive MasteryResult where
  | SUCCESS | FAIL | NOT_EVENT_DATE | INCORRECT_DATA | MAX_LEVEL | NOT_ENOUGH_MASTERY_POINT | NOT_ENOUGH_WAVE
deriving DecidableEq, Repr

structure MasteryInfo where
  db_table_name : String
  db_column_max_wave : String
  db_column_mastery_point : String
  db_column_items_mastery : String
deriving DecidableEq, Repr

/-- `GetEventCommonMasteryInfo` -/
def getEventCommonMasteryInfo (E : Env) (event_type : ℤ) : Option MasteryInfo :=
  let table_name := getEventCommonTableInfo E event_type
  if table_name = "" then none else some ⟨table_name, "play_max_wave", "mastery_point", "items_mastery"⟩

/-- what a call meets outside: the `event_idx` of `GetEventStatus`, if the event is on, and `IsInvolvedEvent` -/
structure MasteryOutside where
  event_status : Option ℤ
  isInvolvedEvent : ℤ → ℤ → Bool

/-- the packet; a field that is not set is `none` -/
structure MasteryReply where
  result : Option MasteryResult
  EventIdx : Option ℤ
  MasteryLv : Option ℤ
  MasteryPoint : Option ℤ
  MasteryPointUsed : Option ℤ
deriving DecidableEq, Repr

/-! ## `sp_EventCommonMasteryUpgrade` -/

/-- the level of a mastery, 0 if it is not stored -/
def masteryLv (mastery_dict : AList fun _ : ℤ => ℤ) (idx : ℤ) : ℤ := (mastery_dict.lookup idx).getD 0

/-- the prerequisite of a mastery -/
def needMastery (info : MasteryRow) (mastery_dict : AList fun _ : ℤ => ℤ) : Bool :=
  if 0 < info.condition_mastery_code then
    match mastery_dict.lookup info.condition_mastery_code with
    | none => false
    | some lv => decide (info.condition_mastery_lv ≤ lv)
  else true

/-- the checks on the user's row, in the order of the code: the price of the next level, or a result to return -/
def upgradeCheck (info : MasteryRow) (row : MasteryUser) : Except (Option MasteryResult) ℤ :=
  let mastery_lv := masteryLv row.dict info.idx
  if info.max_lv ≤ mastery_lv then .error (some .MAX_LEVEL)
  else
    match info.need_point[mastery_lv.toNat]? with
    | none => .error none
    | some need_mastery_point =>
      if row.mastery_point < need_mastery_point then .error (some .NOT_ENOUGH_MASTERY_POINT)
      else if 0 < info.condition_wave_clear ∧ row.play_max_wave < info.condition_wave_clear then
        .error (some .NOT_ENOUGH_WAVE)
      else if needMastery info row.dict = false then .error (some .INCORRECT_DATA)
      else .ok need_mastery_point

/-- the row after the update -/
def upgradeRow (info : MasteryRow) (need_mastery_point : ℤ) (row : MasteryUser) : MasteryUser :=
  { row with
    mastery_point := row.mastery_point - need_mastery_point
    items_mastery := some (row.dict.insert info.idx (masteryLv row.dict info.idx + 1)) }

section

variable (E : Env) (get882EventMastery : ℤ → Option MasteryRow) (event_type : ℤ)

def masteryUpgrade (o : MasteryOutside) (mastery_number : ℤ) (db : Option MasteryUser) :
    MasteryReply × Option MasteryUser :=
  match o.event_status with
  | none => (⟨some .NOT_EVENT_DATE, none, none, none, none⟩, db)
  | some event_idx =>
    match getEventCommonMasteryInfo E event_type with
    | none => (⟨some .FAIL, some event_idx, none, none, none⟩, db)
    | some columns =>
      match get882EventMastery (E.makeIdx 882 event_type mastery_number) with
      | none => (⟨some .INCORRECT_DATA, some event_idx, none, none, none⟩, db)
      | some info =>
        match db with
        | none => (⟨none, some event_idx, none, none, none⟩, db)
        | some row =>
          if ¬ (E.hasColumn "event_idx" ∧ E.hasColumn "event_uid" ∧ E.hasColumn columns.db_column_max_wave ∧
              E.hasColumn columns.db_column_mastery_point ∧ E.hasColumn columns.db_column_items_mastery) then
            (⟨some .INCORRECT_DATA, some event_idx, none, none, none⟩, db)
          else if o.isInvolvedEvent row.event_idx row.event_uid = false then
            (⟨some .NOT_EVENT_DATE, some event_idx, none, none, none⟩, db)
          else
            match upgradeCheck info row with
            | .error result => (⟨result, some event_idx, none, none, none⟩, db)
            | .ok need_mastery_point =>
              (⟨some .SUCCESS, some event_idx, some (masteryLv row.dict info.idx + 1),
                some (row.mastery_point - need_mastery_point), some need_mastery_point⟩,
                some (upgradeRow info need_mastery_point row))

/-- a request, or a gain of mastery points -/
inductive MasteryOp where
  | upgrade (o : MasteryOutside) (mastery_number : ℤ)
  | gain (points : ℕ)

def gainPoints (points : ℕ) (row : MasteryUser) : MasteryUser :=
  { row with mastery_point := row.mastery_point + points }

def masteryStep (db : Option MasteryUser) : MasteryOp → Option MasteryUser
  | .upgrade o mastery_number => (masteryUpgrade E get882EventMastery event_type o mastery_number db).2
  | .gain points => db.map (gainPoints points)

/-! ## What an upgrade does -/

/-- a request ends in success with an upgraded row, or changes nothing -/
theorem masteryUpgrade_outcome (o : MasteryOutside) (mastery_number : ℤ) (db : Option MasteryUser) :
    (∃ key info row need, get882EventMastery key = some info ∧ db = some row ∧ upgradeCheck info row = .ok need ∧
        (masteryUpgrade E get882EventMastery event_type o mastery_number db).1.result = some .SUCCESS ∧
        (masteryUpgrade E get882EventMastery event_type o mastery_number db).2 = some (upgradeRow info need row)) ∨
      (masteryUpgrade E get882EventMastery event_type o mastery_number db).2 = db := by
  unfold masteryUpgrade
  split
  · exact Or.inr rfl
  · split
    · exact Or.inr rfl
    · split
      · exact Or.inr rfl
      · rename_i info hinfo
        split
        · exact Or.inr rfl
        · rename_i row
          split
          · exact Or.inr rfl
          · split
            · exact Or.inr rfl
            · split
              · exact Or.inr rfl
              · rename_i need hneed
                exact Or.inl ⟨_, info, row, need, hinfo, rfl, hneed, rfl, rfl⟩

end

/-- what a passed check says -/
structure Upgradable (info : MasteryRow) (row : MasteryUser) (need : ℤ) : Prop where
  level : masteryLv row.dict info.idx < info.max_lv
  price : info.need_point[(masteryLv row.dict info.idx).toNat]? = some need
  point : need ≤ row.mastery_point
  prerequisite : 0 < info.condition_mastery_code →
    ∃ lv, row.dict.lookup info.condition_mastery_code = some lv ∧ info.condition_mastery_lv ≤ lv

theorem upgradeCheck_ok {info : MasteryRow} {row : MasteryUser} {need : ℤ} (h : upgradeCheck info row = .ok need) :
    Upgradable info row need := by
  simp only [upgradeCheck] at h
  by_cases hlevel : info.max_lv ≤ masteryLv row.dict info.idx
  · rw [if_pos hlevel] at h
    cases h
  · rw [if_neg hlevel] at h
    cases hprice : info.need_point[(masteryLv row.dict info.idx).toNat]? with
    | none =>
      rw [hprice] at h
      cases h
    | some price =>
      simp only [hprice] at h
      split_ifs at h with hpoint hwave hneed
      obtain rfl := Except.ok.inj h
      refine ⟨not_le.1 hlevel, hprice, not_lt.1 hpoint, ?_⟩
      intro hpos
      rw [needMastery, if_pos hpos] at hneed
      cases hlookup : row.dict.lookup info.condition_mastery_code with
      | none => simp [hlookup] at hneed
      | some lv =>
        rw [hlookup] at hneed
        exact ⟨lv, rfl, by simpa using hneed⟩

/-! ## The invariant -/

/-- the prices of the levels reached in a mastery -/
def spent (table : List MasteryRow) (idx lv : ℤ) : ℤ :=
  match Keyed.find MasteryRow.idx idx table with
  | none => 0
  | some info => (info.need_point.take lv.toNat).sum

/-- a stored mastery is a row of the table, its level is bounded, and its prerequisite is met -/
structure Stored (dict : AList fun _ : ℤ => ℤ) (info : MasteryRow) (lv : ℤ) : Prop where
  pos : 1 ≤ lv
  max : lv ≤ info.max_lv
  length : lv ≤ info.need_point.length
  prerequisite : 0 < info.condition_mastery_code →
    ∃ l, dict.lookup info.condition_mastery_code = some l ∧ info.condition_mastery_lv ≤ l

/-- `budget` is the initial balance and the points gained -/
structure Masteries (table : List MasteryRow) (budget : ℤ) (row : MasteryUser) : Prop where
  known : ∀ idx lv, row.dict.lookup idx = some lv → ∃ info ∈ table, info.idx = idx
  stored : ∀ info ∈ table, ∀ lv, row.dict.lookup info.idx = some lv → Stored row.dict info lv
  point : 0 ≤ row.mastery_point
  ledger : row.mastery_point + Dictionary.total (spent table) row.dict = budget

theorem Masteries.start {row : MasteryUser} (hnone : row.dict = ∅) (hpoint : 0 ≤ row.mastery_point)
    (table : List MasteryRow) : Masteries table row.mastery_point row := by
  refine ⟨?_, ?_, hpoint, ?_⟩
  · intro idx lv h
    rw [hnone] at h
    cases h
  · intro info _ lv h
    rw [hnone] at h
    cases h
  · rw [hnone, Dictionary.total_empty, add_zero]

theorem Masteries.gain {table : List MasteryRow} {budget : ℤ} {row : MasteryUser} (h : Masteries table budget row)
    (points : ℕ) : Masteries table (budget + points) (gainPoints points row) := by
  refine ⟨h.known, h.stored, ?_, ?_⟩
  · exact add_nonneg h.point (Int.natCast_nonneg points)
  · rw [← h.ledger]
    simp only [gainPoints, MasteryUser.dict]
    ring

/-- the next level costs the price that the check has read -/
theorem spent_succ {table : List MasteryRow} (hdistinct : (table.map MasteryRow.idx).Nodup) {info : MasteryRow}
    (hmem : info ∈ table) {lv need : ℤ} (hlv : 0 ≤ lv) (hprice : info.need_point[lv.toNat]? = some need) :
    spent table info.idx (lv + 1) = spent table info.idx lv + need := by
  have hnat : (lv + 1).toNat = lv.toNat + 1 := by omega
  have hfind : Keyed.find MasteryRow.idx info.idx table = some info := (Keyed.find_eq_some hdistinct).2 ⟨hmem, rfl⟩
  simp only [spent, hfind, hnat]
  rw [List.take_add_one, hprice, List.sum_append]
  simp

theorem spent_zero (table : List MasteryRow) (idx : ℤ) : spent table idx 0 = 0 := by
  unfold spent
  split <;> simp

/-- what the dictionary spends on a mastery is the price of its levels -/
theorem share_spent (table : List MasteryRow) (dict : AList fun _ : ℤ => ℤ) (idx : ℤ) :
    Dictionary.share (spent table) dict idx = spent table idx (masteryLv dict idx) := by
  unfold Dictionary.share masteryLv
  cases dict.lookup idx with
  | none => exact (spent_zero table idx).symm
  | some lv => rfl

theorem Masteries.lv_nonneg {table : List MasteryRow} {budget : ℤ} {row : MasteryUser} (h : Masteries table budget row)
    {info : MasteryRow} (hmem : info ∈ table) : 0 ≤ masteryLv row.dict info.idx := by
  unfold masteryLv
  cases hold : row.dict.lookup info.idx with
  | none => exact le_rfl
  | some old =>
    have hpos := (h.stored info hmem old hold).pos
    simp only [Option.getD_some]
    omega

theorem lookup_upgradeRow (info : MasteryRow) (need : ℤ) (row : MasteryUser) (idx : ℤ) :
    (upgradeRow info need row).dict.lookup idx =
      if idx = info.idx then some (masteryLv row.dict info.idx + 1) else row.dict.lookup idx :=
  Dictionary.lookup_insert row.dict info.idx idx _

/-- levels only rise, so a prerequisite that is met stays met -/
theorem met_upgrade {row : MasteryUser} {info : MasteryRow} {need code lv : ℤ}
    (h : ∃ l, row.dict.lookup code = some l ∧ lv ≤ l) :
    ∃ l, (upgradeRow info need row).dict.lookup code = some l ∧ lv ≤ l := by
  obtain ⟨l, hl, hle⟩ := h
  rw [lookup_upgradeRow]
  split_ifs with hcode
  · subst hcode
    refine ⟨_, rfl, ?_⟩
    rw [masteryLv, hl, Option.getD_some]
    omega
  · exact ⟨l, hl, hle⟩

/-- step lemma -/
theorem Masteries.upgrade {table : List MasteryRow} (hdistinct : (table.map MasteryRow.idx).Nodup) {budget need : ℤ}
    {row : MasteryUser} {info : MasteryRow} (h : Masteries table budget row) (hmem : info ∈ table)
    (hup : Upgradable info row need) : Masteries table budget (upgradeRow info need row) := by
  have hnonneg := h.lv_nonneg hmem
  refine ⟨?_, ?_, ?_, ?_⟩
  · intro idx lv hlv
    rw [lookup_upgradeRow] at hlv
    split_ifs at hlv with hidx
    · exact ⟨info, hmem, hidx.symm⟩
    · exact h.known idx lv hlv
  · intro info' hmem' lv hlv
    rw [lookup_upgradeRow] at hlv
    split_ifs at hlv with hidx
    · -- the upgraded mastery: its row is unique
      obtain rfl : info' = info := List.inj_on_of_nodup_map hdistinct hmem' hmem hidx
      obtain rfl := Option.some.inj hlv
      obtain ⟨hlt, -⟩ := List.getElem?_eq_some_iff.1 hup.price
      have hlevel := hup.level
      refine ⟨by omega, by omega, by omega, ?_⟩
      intro hpos
      exact met_upgrade (hup.prerequisite hpos)
    · have hold := h.stored info' hmem' lv hlv
      refine ⟨hold.pos, hold.max, hold.length, ?_⟩
      intro hpos
      exact met_upgrade (hold.prerequisite hpos)
  · exact sub_nonneg.2 hup.point
  · have htotal : Dictionary.total (spent table) (upgradeRow info need row).dict =
        Dictionary.total (spent table) row.dict + need := by
      calc Dictionary.total (spent table) (upgradeRow info need row).dict
          = Dictionary.total (spent table) row.dict - spent table info.idx (masteryLv row.dict info.idx) +
              spent table info.idx (masteryLv row.dict info.idx + 1) := by
            rw [← share_spent]
            exact Dictionary.total_insert (spent table) row.dict info.idx _
        _ = Dictionary.total (spent table) row.dict + need := by
            rw [spent_succ hdistinct hmem hnonneg hup.price]
            ring
    rw [htotal, ← h.ledger]
    simp only [upgradeRow]
    ring

/-! ## Every run -/

/-- the points gained in a run -/
def gained : List MasteryOp → ℤ
  | [] => 0
  | .upgrade _ _ :: ops => gained ops
  | .gain points :: ops => points + gained ops

section

variable (E : Env) (get882EventMastery : ℤ → Option MasteryRow) (event_type : ℤ)

/-- run lemma -/
theorem Masteries.run {table : List MasteryRow} (hdistinct : (table.map MasteryRow.idx).Nodup)
    (hget : ∀ key info, get882EventMastery key = some info → info ∈ table) {budget : ℤ} {row : MasteryUser}
    (h : Masteries table budget row) (ops : List MasteryOp) :
    ∃ row', run (masteryStep E get882EventMastery event_type) (some row) ops = some row' ∧
      Masteries table (budget + gained ops) row' := by
  induction ops generalizing budget row with
  | nil => exact ⟨row, rfl, by simpa [gained] using h⟩
  | cons op ops ih =>
    cases op with
    | gain points =>
      obtain ⟨row', hrun, hrow'⟩ := ih (h.gain points)
      refine ⟨row', hrun, ?_⟩
      rw [gained, ← add_assoc]
      exact hrow'
    | upgrade o mastery_number =>
      have hnext : ∃ row₁, masteryStep E get882EventMastery event_type (some row) (.upgrade o mastery_number) =
          some row₁ ∧ Masteries table budget row₁ := by
        rcases masteryUpgrade_outcome E get882EventMastery event_type o mastery_number (some row) with
          ⟨key, info, row₀, need, hinfo, hrow, hcheck, -, hdb⟩ | hsame
        · obtain rfl := Option.some.inj hrow
          exact ⟨_, hdb, h.upgrade hdistinct (hget key info hinfo) (upgradeCheck_ok hcheck)⟩
        · exact ⟨row, hsame, h⟩
      obtain ⟨row₁, hstep, hrow₁⟩ := hnext
      rw [run_cons, hstep]
      exact ih hrow₁

/-- **Levels, prerequisites and points of the masteries are in order in every run**, and a request without success
changes nothing. -/
theorem masteries_consistent (table : List MasteryRow) (hdistinct : (table.map MasteryRow.idx).Nodup)
    (hget : ∀ key info, get882EventMastery key = some info → info ∈ table) (row : MasteryUser) (hnone : row.dict = ∅)
    (hpoint : 0 ≤ row.mastery_point) (ops : List MasteryOp) :
    (∃ row', run (masteryStep E get882EventMastery event_type) (some row) ops = some row' ∧
      Masteries table (row.mastery_point + gained ops) row') ∧
    ∀ o mastery_number db,
      (masteryUpgrade E get882EventMastery event_type o mastery_number db).1.result ≠ some .SUCCESS →
        (masteryUpgrade E get882EventMastery event_type o mastery_number db).2 = db := by
  refine ⟨Masteries.run E get882EventMastery event_type hdistinct hget (Masteries.start hnone hpoint table) ops, ?_⟩
  intro o mastery_number db hno
  rcases masteryUpgrade_outcome E get882EventMastery event_type o mastery_number db with
    ⟨key, info, row₀, need, -, -, -, hsuccess, -⟩ | hsame
  · exact absurd hsuccess hno
  · exact hsame

end

/-- mastery 1 has two levels, mastery 2 needs both of them -/
def sampleMasteries : List MasteryRow := [⟨1, 2, [3, 5], 0, 0, 0⟩, ⟨2, 1, [4], 0, 1, 2⟩]

def sampleMasteryEnv : Env where
  DEFENCE := [7]
  THREE_MATCH_B := []
  SURVIVAL := []
  hasColumn _ := true
  makeIdx _ _ number := number
  get881EventPass _ := none
  get881EventPassListByType _ := []
  get808EventIAPByIdx _ := none
  CARROT_OIL := 0

/-- mastery 2 is refused at first; the balance is 2 in the end -/
theorem masteries_consistent_chain :
    ∃ row', run (masteryStep sampleMasteryEnv (fun key => Keyed.find MasteryRow.idx key sampleMasteries) 7)
        (some ⟨1, 1, 0, 4, none⟩) ([2, 1, 1, 1, 2].flatMap fun n =>
          [.gain 2, .upgrade ⟨some 1, fun _ _ => true⟩ n]) = some row' ∧
      Masteries sampleMasteries 14 row' ∧ row'.mastery_point = 2 := by
  obtain ⟨⟨row', hrun, hrow'⟩, -⟩ := masteries_consistent sampleMasteryEnv
    (fun key => Keyed.find MasteryRow.idx key sampleMasteries) 7 sampleMasteries (by decide)
    (fun key info hinfo => (Keyed.find_some hinfo).1) ⟨1, 1, 0, 4, none⟩ rfl (by decide)
    ([2, 1, 1, 1, 2].flatMap fun n => [.gain 2, .upgrade ⟨some 1, fun _ _ => true⟩ n])
  have hpoint : Option.map MasteryUser.mastery_point (some row') = some 2 := by
    rw [← hrun]
    decide
  exact ⟨row', hrun, hrow', Option.some.inj hpoint⟩

end GameServer.Event
