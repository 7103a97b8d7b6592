/-
Skills of one user, `Python/Skill.py`: `sp_SkillGetData`, `sp_SkillOpen`, `sp_SkillEquip` and `sp_SkillLevelUp`.

A skill is opened with one skill book, and every further level costs the books of its row in table 302. Six slots hold
the equipped skills; a slot with 0 (or less) is empty. A level-up is also an occurrence for the quests.

Every request is one transaction. Not under src/: the tables, the level that a new row gets (its column has a default),
and the `Helper`. `Goods` is what the requests rely on: a consumption fails, or takes exactly what was asked for from what
is there. `ExecuteSelectList` returns every row whose `idx` is in the list once.
-/
import Mathlib.Tactic
import GameServer.Quest.Model

namespace GameServer.Skill

/-! ## Stored rows and tables -/

/-- a row of `TB_USER_SKILL` -/
structure SkillRow where
  idx : ℤ
  lv : ℤ
deriving DecidableEq, Repr

/-- the slots of a preset -/
abbrev Equips := {e : List ℤ // e.length = 6}

/-- a row of `TB_USER_SKILL_PRESET`: `skill_idx1` to `skill_idx6` -/
structure PresetRow where
  idx : ℤ
  skill_idx : Equips
deriving DecidableEq

/-- a row of `SkillNew120` -/
structure SkillInfo where
  type : ℤ
  category : String
  max_level : ℤ
  skillbook_code : ℤ
deriving DecidableEq, Repr

/-- an entry of `helper.ResultDatas` -/
structure ResultData where
  idx : ℤ
  add_count : ℤ
  result_count : ℤ
deriving DecidableEq, Repr

/-- the goods of a user, and `ConsumeUserResourceAsCommander` on them: `none` if the helper's `Result` is false -/
structure Goods (ρ : Type) where
  balance : ρ → ℤ → ℤ
  consume : ρ → ℤ → ℤ → Option (ρ × List ResultData)
  enough : ∀ {r idx count r' data}, consume r idx count = some (r', data) → count ≤ balance r idx
  taken : ∀ {r idx count r' data}, consume r idx count = some (r', data) →
    ∀ i, balance r' i = balance r i - if i = idx then count else 0

structure Env (ρ : Type) where
  goods : Goods ρ
  /-- `getDataByName('SkillNew120', idx)` -/
  skillNew120 : ℤ → Option SkillInfo
  /-- `skillbook_count` of `get302SkillUpgradeByRarityGrade(rarity, grade)` -/
  skillUpgrade302 : ℤ → ℤ → Option ℤ
  /-- the default of the column `lv` -/
  default_lv : ℤ
  /-- `QUEST_TYPE.SKILL_LEVEL_UP` -/
  SKILL_LEVEL_UP : ℤ
  quests : Quest.Tables

structure Db (ρ : Type) where
  skill : List SkillRow
  preset : List PresetRow
  resource : ρ
  quest : Quest.Db

/-! ## Packets -/

/-- the `ResultType`s of the four packets -/
inductive ResultType where
  | FAIL | SUCCESS | NON_EXIST_SKILL | ALREADY_OPEN | NOT_ENOUGH_RESOURCE | INCORRECT_EQUIP_COUNT | DUPLICATE_EQUIP
  | NON_OWNED_SKILL | MAX_LV
deriving DecidableEq, Repr

/-- the fields of the four packets; what a request does not set stays empty -/
structure Reply where
  result : ResultType
  Skills : List SkillRow
  Equips : List ℤ
  /-- `Skill` of the packet -/
  row : Option SkillRow
  ResultItems : List ResultData
  QuestInfo : Quest.QuestInfo
deriving DecidableEq

def refuse (result : ResultType) : Reply := ⟨result, [], [], none, [], Quest.QuestInfo.empty⟩

/-! ## The requests -/

section

variable {ρ : Type} (E : Env ρ)

/-- `sp_SkillGetData` -/
def skillGetData (db : Db ρ) : Reply :=
  { refuse .SUCCESS with
    Skills := db.skill
    Equips := match db.preset with
      | [] => [0, 0, 0, 0, 0, 0]
      | sk :: _ => sk.skill_idx.1 }

/-- the rows of one skill -/
def rowsOf (skillidx : ℤ) (db : Db ρ) : List SkillRow := db.skill.filter fun row => row.idx = skillidx

/-- `sp_SkillOpen` -/
def skillOpen (skillidx : ℤ) (db : Db ρ) : Reply × Db ρ :=
  match E.skillNew120 skillidx with
  | none => (refuse .NON_EXIST_SKILL, db)
  | some tableInfo =>
    if rowsOf skillidx db ≠ [] then (refuse .ALREADY_OPEN, db)
    else
      match E.goods.consume db.resource tableInfo.skillbook_code 1 with
      | none => (refuse .NOT_ENOUGH_RESOURCE, db)
      | some (resource, data) =>
        ({ refuse .SUCCESS with row := some ⟨skillidx, 1⟩, ResultItems := data },
          { db with skill := db.skill ++ [⟨skillidx, E.default_lv⟩], resource := resource })

/-- the loop of `sp_SkillEquip` over the slots from `rest` on: `skill_list`, or the result of the slot that fails -/
def skillList (equips : List ℤ) : List ℤ → Except ResultType (List ℤ)
  | [] => .ok []
  | equip :: rest =>
    if 0 < equip then
      if 2 ≤ equips.count equip then .error .DUPLICATE_EQUIP
      else
        match E.skillNew120 equip with
        | none => .error .NON_EXIST_SKILL
        | some skillinfo =>
          if skillinfo.type ≠ 1 ∨ skillinfo.category ≠ "ACTIVE" then .error .NON_EXIST_SKILL
          else (skillList equips rest).map (equip :: ·)
    else skillList equips rest

/-- `ExecuteSelectList` on `TB_USER_SKILL` -/
def executeSelectList (skill_list : List ℤ) (db : Db ρ) : List SkillRow := db.skill.filter fun row => row.idx ∈ skill_list

/-- `UPDATE TB_USER_SKILL_PRESET ... WHERE idx = 1` -/
def setPreset (e : Equips) (preset : List PresetRow) : List PresetRow :=
  preset.map fun row => if row.idx = 1 then { row with skill_idx := e } else row

/-- `sp_SkillEquip` -/
def skillEquip (equips : List ℤ) (db : Db ρ) : Reply × Db ρ :=
  if hlen : equips.length = 6 then
    match skillList E equips equips with
    | .error result => (refuse result, db)
    | .ok skill_list =>
      if skill_list ≠ [] ∧ (executeSelectList skill_list db).length ≠ skill_list.length then
        (refuse .NON_OWNED_SKILL, db)
      else
        ({ refuse .SUCCESS with Equips := equips }, { db with preset := setPreset ⟨equips, hlen⟩ db.preset })
  else (refuse .INCORRECT_EQUIP_COUNT, db)

/-- `UPDATE TB_USER_SKILL SET lv` -/
def setLv (skillidx lv : ℤ) (skill : List SkillRow) : List SkillRow :=
  skill.map fun row => if row.idx = skillidx then { row with lv := lv } else row

/-- `sp_SkillLevelUp` -/
def skillLevelUp (c : Quest.Clock) (skillidx : ℤ) (db : Db ρ) : Reply × Db ρ :=
  match E.skillNew120 skillidx with
  | none => (refuse .NON_EXIST_SKILL, db)
  | some skillinfo =>
    if skillinfo.type ≠ 1 then (refuse .NON_EXIST_SKILL, db)
    else
      match rowsOf skillidx db with
      | [] => (refuse .NON_OWNED_SKILL, db)
      | row :: _ =>
        if skillinfo.max_level ≤ row.lv then (refuse .MAX_LV, db)
        else
          match E.skillUpgrade302 1 row.lv with
          | none => (refuse .NON_EXIST_SKILL, db)
          | some skillbook_count =>
            match E.goods.consume db.resource skillinfo.skillbook_code skillbook_count with
            | none => (refuse .NOT_ENOUGH_RESOURCE, db)
            | some (resource, data) =>
              let occur := Quest.questOccur E.quests c [⟨E.SKILL_LEVEL_UP, 0, 1⟩] db.quest Quest.QuestInfo.empty
              ({ refuse .SUCCESS with row := some ⟨skillidx, row.lv + 1⟩, ResultItems := data, QuestInfo := occur.2 },
                { db with skill := setLv skillidx (row.lv + 1) db.skill, resource := resource, quest := occur.1 })

/-- a request of the user; a level-up carries the ids of its day and week -/
inductive SkillOp where
  | getData
  | opens (skillidx : ℤ)
  | equip (equips : List ℤ)
  | levelUp (c : Quest.Clock) (skillidx : ℤ)

def serve (db : Db ρ) : SkillOp → Reply × Db ρ
  | .getData => (skillGetData db, db)
  | .opens skillidx => skillOpen E skillidx db
  | .equip equips => skillEquip E equips db
  | .levelUp c skillidx => skillLevelUp E c skillidx db

def skillStep (db : Db ρ) (o : SkillOp) : Db ρ := (serve E db o).2

/-! ## What a request does -/

/-- what an accepted loop has checked -/
structure Listed (equips skill_list : List ℤ) : Prop where
  list : skill_list = equips.filter fun e => 0 < e
  once : ∀ e ∈ skill_list, equips.count e < 2
  active : ∀ e ∈ skill_list, ∃ info, E.skillNew120 e = some info ∧ info.type = 1 ∧ info.category = "ACTIVE"

theorem skillList_ok {equips rest skill_list : List ℤ} (h : skillList E equips rest = .ok skill_list) :
    skill_list = rest.filter (fun e => 0 < e) ∧ (∀ e ∈ skill_list, equips.count e < 2) ∧
      ∀ e ∈ skill_list, ∃ info, E.skillNew120 e = some info ∧ info.type = 1 ∧ info.category = "ACTIVE" := by
  induction rest generalizing skill_list with
  | nil =>
    obtain rfl := Except.ok.inj h
    simp
  | cons equip rest ih =>
    rw [skillList] at h
    by_cases hpos : 0 < equip
    · rw [if_pos hpos] at h
      split_ifs at h with hcount
      cases hinfo : E.skillNew120 equip with
      | none => simp [hinfo] at h
      | some info =>
        simp only [hinfo] at h
        split_ifs at h with hkind
        cases htail : skillList E equips rest with
        | error e => simp [htail, Except.map] at h
        | ok tail =>
          rw [htail] at h
          obtain rfl := Except.ok.inj h
          obtain ⟨hlist, honce, hactive⟩ := ih htail
          rw [not_or, not_not, not_not] at hkind
          refine ⟨?_, ?_, ?_⟩
          · rw [List.filter_cons_of_pos (by simpa using hpos), hlist]
          · intro e he
            rcases List.mem_cons.1 he with rfl | he
            · omega
            · exact honce e he
          · intro e he
            rcases List.mem_cons.1 he with rfl | he
            · exact ⟨info, hinfo, hkind⟩
            · exact hactive e he
    · rw [if_neg hpos] at h
      rw [List.filter_cons_of_neg (by simpa using hpos)]
      exact ih h

theorem skillList_listed {equips skill_list : List ℤ} (h : skillList E equips equips = .ok skill_list) :
    Listed E equips skill_list := by
  obtain ⟨hlist, honce, hactive⟩ := skillList_ok E h
  exact ⟨hlist, honce, hactive⟩

/-- an accepted opening -/
structure Opens (skillidx : ℤ) (db db' : Db ρ) : Prop where
  absent : ∀ row ∈ db.skill, row.idx ≠ skillidx
  paid : ∃ info resource data, E.skillNew120 skillidx = some info ∧
    E.goods.consume db.resource info.skillbook_code 1 = some (resource, data) ∧
    db' = { db with skill := db.skill ++ [⟨skillidx, E.default_lv⟩], resource := resource }

/-- an accepted choice of skills -/
structure EquipsOk (equips : List ℤ) (db db' : Db ρ) : Prop where
  written : ∃ (hlen : equips.length = 6) (skill_list : List ℤ), Listed E equips skill_list ∧
    (executeSelectList skill_list db).length = skill_list.length ∧
    db' = { db with preset := setPreset ⟨equips, hlen⟩ db.preset }

/-- an accepted level-up -/
structure LevelsUp (c : Quest.Clock) (skillidx : ℤ) (db db' : Db ρ) : Prop where
  paid : ∃ info row skillbook_count resource data, E.skillNew120 skillidx = some info ∧ info.type = 1 ∧
    row ∈ db.skill ∧ row.idx = skillidx ∧ row.lv < info.max_level ∧
    E.skillUpgrade302 1 row.lv = some skillbook_count ∧
    E.goods.consume db.resource info.skillbook_code skillbook_count = some (resource, data) ∧
    db' = { db with
      skill := setLv skillidx (row.lv + 1) db.skill
      resource := resource
      quest := (Quest.questOccur E.quests c [⟨E.SKILL_LEVEL_UP, 0, 1⟩] db.quest Quest.QuestInfo.empty).1 }

theorem rowsOf_eq_nil {skillidx : ℤ} {db : Db ρ} : rowsOf skillidx db = [] ↔ ∀ row ∈ db.skill, row.idx ≠ skillidx := by
  simp [rowsOf, List.filter_eq_nil_iff]

theorem skillOpen_outcome (skillidx : ℤ) (db : Db ρ) :
    Opens E skillidx db (skillOpen E skillidx db).2 ∨ (skillOpen E skillidx db).2 = db := by
  unfold skillOpen
  cases hinfo : E.skillNew120 skillidx with
  | none => exact Or.inr rfl
  | some info =>
    by_cases habsent : rowsOf skillidx db = []
    · dsimp only
      rw [if_neg (not_not.2 habsent)]
      cases hpaid : E.goods.consume db.resource info.skillbook_code 1 with
      | none => exact Or.inr rfl
      | some p => exact Or.inl ⟨rowsOf_eq_nil.1 habsent, info, p.1, p.2, hinfo, hpaid, rfl⟩
    · dsimp only
      rw [if_pos habsent]
      exact Or.inr rfl

theorem skillEquip_outcome (equips : List ℤ) (db : Db ρ) :
    EquipsOk E equips db (skillEquip E equips db).2 ∨ (skillEquip E equips db).2 = db := by
  unfold skillEquip
  by_cases hlen : equips.length = 6
  · rw [dif_pos hlen]
    cases hlist : skillList E equips equips with
    | error result => exact Or.inr rfl
    | ok skill_list =>
      dsimp only
      split_ifs with howned
      · exact Or.inr rfl
      · refine Or.inl ⟨hlen, skill_list, skillList_listed E hlist, ?_, rfl⟩
        rw [not_and_or, not_not, not_not] at howned
        rcases howned with hnil | howned
        · simp [hnil, executeSelectList]
        · exact howned
  · rw [dif_neg hlen]
    exact Or.inr rfl

theorem skillLevelUp_outcome (c : Quest.Clock) (skillidx : ℤ) (db : Db ρ) :
    ((skillLevelUp E c skillidx db).1.result = .SUCCESS ∧ LevelsUp E c skillidx db (skillLevelUp E c skillidx db).2) ∨
      ((skillLevelUp E c skillidx db).1.result ≠ .SUCCESS ∧ (skillLevelUp E c skillidx db).2 = db) := by
  unfold skillLevelUp
  cases hinfo : E.skillNew120 skillidx with
  | none => exact Or.inr ⟨by simp [refuse], rfl⟩
  | some info =>
    dsimp only
    by_cases htype : info.type = 1
    · rw [if_neg (not_not.2 htype)]
      cases hrows : rowsOf skillidx db with
      | nil => exact Or.inr ⟨by simp [refuse], rfl⟩
      | cons row rows =>
        obtain ⟨hmem, hidx⟩ : row ∈ db.skill ∧ row.idx = skillidx := by
          have hrow : row ∈ rowsOf skillidx db := hrows ▸ List.mem_cons_self
          simpa [rowsOf] using hrow
        dsimp only
        by_cases hmax : info.max_level ≤ row.lv
        · rw [if_pos hmax]
          exact Or.inr ⟨by simp [refuse], rfl⟩
        · rw [if_neg hmax]
          cases hprice : E.skillUpgrade302 1 row.lv with
          | none => exact Or.inr ⟨by simp [refuse], rfl⟩
          | some skillbook_count =>
            dsimp only
            cases hpaid : E.goods.consume db.resource info.skillbook_code skillbook_count with
            | none => exact Or.inr ⟨by simp [refuse], rfl⟩
            | some p =>
              exact Or.inl ⟨rfl, info, row, skillbook_count, p.1, p.2, hinfo, htype, hmem, hidx, not_le.1 hmax, hprice,
                hpaid, rfl⟩
    · rw [if_pos htype]
      exact Or.inr ⟨by simp [refuse], rfl⟩

end

/-! ## A small game -/

/-- goods as counts -/
def sampleGoods : Goods (ℤ → ℤ) where
  balance r := r
  consume r idx count :=
    if count ≤ r idx then some (Function.update r idx (r idx - count), [⟨idx, -count, r idx - count⟩]) else none
  enough := by
    intro r idx count r' data h
    split_ifs at h with hle
    exact hle
  taken := by
    intro r idx count r' data h i
    split_ifs at h with hle
    obtain ⟨rfl, -⟩ := Prod.mk.inj (Option.some.inj h)
    by_cases hi : i = idx
    · subst hi
      simp
    · simp [hi]

/-- two active skills, with books 70 and 80; a level costs twice its number -/
def sampleEnv : Env (ℤ → ℤ) where
  goods := sampleGoods
  skillNew120 idx := if idx = 5 then some ⟨1, "ACTIVE", 3, 70⟩ else if idx = 6 then some ⟨1, "ACTIVE", 3, 80⟩ else none
  skillUpgrade302 _ lv := if lv < 3 then some (2 * lv) else none
  default_lv := 1
  SKILL_LEVEL_UP := 7
  quests := Quest.sampleTables

/-- eight books of each kind, and an empty preset -/
def sampleDb : Db (ℤ → ℤ) := ⟨[], [⟨1, [0, 0, 0, 0, 0, 0], rfl⟩], fun _ => 8, Quest.sampleDb⟩

/-- open both, raise the first twice, and equip both -/
def sampleOps : List SkillOp :=
  [.opens 5, .opens 6, .levelUp ⟨5, 1⟩ 5, .levelUp ⟨5, 1⟩ 5, .equip [5, 0, 6, 0, 0, 0], .opens 5]

end GameServer.Skill
