/-
What every run of skill requests keeps, `Python/Skill.py`.

- `Skills`: one row a skill, levels between the default and the maximum, and a preset whose skills are owned, active and
  pairwise different. Nothing ever removes a row, so what was owned when it was equipped stays owned;
- `books_conserved`: the books of a kind, those left and those in the levels, add up to what there was;
- `levels_counted`: the quests hear of exactly the levels gained, whichever requests brought them.
-/
import Mathlib.Tactic
import GameServer.Core.Run
import GameServer.Core.Keyed
import GameServer.Core.Range
import GameServer.Quest.Progress
import GameServer.Skill.Model

namespace GameServer.Skill

open GameServer.Core

variable {ρ : Type} {E : Env ρ} {db db' : Db ρ}

/-! ## The invariant -/

/-- the positive slots hold active skills, each once -/
structure Equipped (E : Env ρ) (skill : List SkillRow) (e : Equips) : Prop where
  once : ∀ i ∈ e.1, 0 < i → e.1.count i = 1
  active : ∀ i ∈ e.1, 0 < i → ∃ info, E.skillNew120 i = some info ∧ info.type = 1 ∧ info.category = "ACTIVE"
  owned : ∀ i ∈ e.1, 0 < i → i ∈ skill.map SkillRow.idx

/-- a level of a known skill -/
def LevelOk (E : Env ρ) (row : SkillRow) : Prop :=
  E.default_lv ≤ row.lv ∧ ∃ info, E.skillNew120 row.idx = some info ∧ row.lv ≤ max E.default_lv info.max_level

structure Skills (E : Env ρ) (db : Db ρ) : Prop where
  nodup : (db.skill.map SkillRow.idx).Nodup
  level : ∀ row ∈ db.skill, LevelOk E row
  preset : ∀ row ∈ db.preset, row.idx = 1 → Equipped E db.skill row.skill_idx

theorem Equipped.mono {skill skill' : List SkillRow} {e : Equips} (h : Equipped E skill e)
    (hsub : ∀ i ∈ skill.map SkillRow.idx, i ∈ skill'.map SkillRow.idx) : Equipped E skill' e :=
  ⟨h.once, h.active, fun i hi hpos => hsub i (h.owned i hi hpos)⟩

/-! ## Single requests -/

theorem setLv_idx (skillidx lv : ℤ) (skill : List SkillRow) :
    (setLv skillidx lv skill).map SkillRow.idx = skill.map SkillRow.idx := by
  refine Keyed.keys_map _ ?_ skill
  intro row
  split_ifs <;> rfl

theorem Skills.opens {skillidx : ℤ} (h : Skills E db) (ho : Opens E skillidx db db') : Skills E db' := by
  obtain ⟨habsent, info, resource, data, hinfo, -, rfl⟩ := ho
  refine ⟨?_, ?_, ?_⟩
  · rw [List.map_append]
    refine List.nodup_append.2 ⟨h.nodup, List.nodup_singleton _, ?_⟩
    intro i hi j hj hij
    obtain ⟨row, hrow, rfl⟩ := List.mem_map.1 hi
    exact habsent row hrow (hij.trans (List.mem_singleton.1 hj))
  · intro row hrow
    rcases List.mem_append.1 hrow with hrow | hrow
    · exact h.level row hrow
    · rw [List.mem_singleton.1 hrow]
      exact ⟨le_rfl, info, hinfo, le_max_left _ _⟩
  · intro row hrow hone
    refine (h.preset row hrow hone).mono ?_
    intro i hi
    rw [List.map_append]
    exact List.mem_append_left _ hi

theorem Skills.equip {equips : List ℤ} (h : Skills E db) (he : EquipsOk E equips db db') : Skills E db' := by
  obtain ⟨hlen, skill_list, hlisted, hlength, rfl⟩ := he
  have hlisted' : ∀ i ∈ equips, 0 < i → i ∈ skill_list := by
    intro i hi hpos
    rw [hlisted.list]
    exact List.mem_filter.2 ⟨hi, by simpa using hpos⟩
  refine ⟨h.nodup, h.level, ?_⟩
  intro row hrow hone
  obtain ⟨old, hold, rfl⟩ := List.mem_map.1 hrow
  split_ifs at hone ⊢ with hidx
  · refine ⟨?_, ?_, ?_⟩
    · intro i hi hpos
      have htwo := hlisted.once i (hlisted' i hi hpos)
      have hone : 0 < equips.count i := List.count_pos_iff.2 hi
      dsimp only
      omega
    · exact fun i hi hpos => hlisted.active i (hlisted' i hi hpos)
    · exact fun i hi hpos => Keyed.mem_keys_of_length h.nodup hlength i (hlisted' i hi hpos)
  · exact absurd hone hidx

theorem Skills.levelUp {c : Quest.Clock} {skillidx : ℤ} (h : Skills E db) (hl : LevelsUp E c skillidx db db') :
    Skills E db' := by
  obtain ⟨info, row, count, resource, data, hinfo, -, hmem, rfl, hmax, -, -, rfl⟩ := hl
  refine ⟨?_, ?_, ?_⟩
  · rw [setLv_idx]
    exact h.nodup
  · intro row' hrow'
    obtain ⟨old, hold, rfl⟩ := List.mem_map.1 hrow'
    split_ifs with hidx
    · obtain ⟨hlow, -⟩ := h.level row hmem
      refine ⟨?_, info, ?_, ?_⟩
      · dsimp only
        omega
      · dsimp only
        rw [hidx, hinfo]
      · exact le_max_of_le_right hmax
    · exact h.level old hold
  · intro preset hpreset hone
    refine (h.preset preset hpreset hone).mono ?_
    intro i hi
    rw [setLv_idx]
    exact hi

/-- what a step does -/
theorem skillStep_cases (E : Env ρ) (db : Db ρ) (o : SkillOp) :
    (∃ skillidx, o = .opens skillidx ∧ Opens E skillidx db (skillStep E db o)) ∨
      (∃ equips, o = .equip equips ∧ EquipsOk E equips db (skillStep E db o)) ∨
      (∃ c skillidx, o = .levelUp c skillidx ∧ LevelsUp E c skillidx db (skillStep E db o)) ∨
      skillStep E db o = db := by
  cases o with
  | getData => exact Or.inr (Or.inr (Or.inr rfl))
  | opens skillidx =>
    rcases skillOpen_outcome E skillidx db with ho | hsame
    · exact Or.inl ⟨skillidx, rfl, ho⟩
    · exact Or.inr (Or.inr (Or.inr hsame))
  | equip equips =>
    rcases skillEquip_outcome E equips db with he | hsame
    · exact Or.inr (Or.inl ⟨equips, rfl, he⟩)
    · exact Or.inr (Or.inr (Or.inr hsame))
  | levelUp c skillidx =>
    rcases skillLevelUp_outcome E c skillidx db with ⟨-, hl⟩ | ⟨-, hsame⟩
    · exact Or.inr (Or.inr (Or.inl ⟨c, skillidx, rfl, hl⟩))
    · exact Or.inr (Or.inr (Or.inr hsame))

/-- step lemma -/
theorem Skills.step (h : Skills E db) (o : SkillOp) : Skills E (skillStep E db o) := by
  rcases skillStep_cases E db o with ⟨skillidx, -, ho⟩ | ⟨equips, -, he⟩ | ⟨c, skillidx, -, hl⟩ | hsame
  · exact h.opens ho
  · exact h.equip he
  · exact h.levelUp hl
  · rw [hsame]
    exact h

/-- no skill is lost, and no level -/
def Grown (db db' : Db ρ) : Prop := ∀ row ∈ db.skill, ∃ row' ∈ db'.skill, row'.idx = row.idx ∧ row.lv ≤ row'.lv

theorem Grown.refl (db : Db ρ) : Grown db db := fun row hrow => ⟨row, hrow, rfl, le_rfl⟩

theorem Grown.trans {db'' : Db ρ} (h : Grown db db') (h' : Grown db' db'') : Grown db db'' := by
  intro row hrow
  obtain ⟨row1, hrow1, hidx1, hlv1⟩ := h row hrow
  obtain ⟨row2, hrow2, hidx2, hlv2⟩ := h' row1 hrow1
  exact ⟨row2, hrow2, hidx2.trans hidx1, hlv1.trans hlv2⟩

theorem Skills.grown (h : Skills E db) (o : SkillOp) : Grown db (skillStep E db o) := by
  rcases skillStep_cases E db o with ⟨skillidx, -, ho⟩ | ⟨equips, -, he⟩ | ⟨c, skillidx, -, hl⟩ | hsame
  · obtain ⟨-, info, resource, data, -, -, hdb⟩ := ho
    rw [hdb]
    exact fun row hrow => ⟨row, List.mem_append_left _ hrow, rfl, le_rfl⟩
  · obtain ⟨hlen, skill_list, -, -, hdb⟩ := he
    rw [hdb]
    exact Grown.refl db
  · obtain ⟨info, top, count, resource, data, -, -, hmem, htop, -, -, -, hdb⟩ := hl
    rw [hdb]
    intro row hrow
    refine ⟨if row.idx = skillidx then { row with lv := top.lv + 1 } else row, List.mem_map_of_mem hrow, ?_⟩
    split_ifs with hidx
    · -- the only row of the skill is the one that was read
      obtain rfl : row = top := List.inj_on_of_nodup_map h.nodup hrow hmem (hidx.trans htop.symm)
      refine ⟨rfl, ?_⟩
      dsimp only
      omega
    · exact ⟨rfl, le_rfl⟩
  · rw [hsame]
    exact Grown.refl db

/-- **Skills stay sound in every run**, and what was opened or reached before is still there. -/
theorem skills_sound (h : Skills E db) (ops : List SkillOp) :
    Skills E (run (skillStep E) db ops) ∧ Grown db (run (skillStep E) db ops) :=
  run_inv_all (I := fun s => Skills E s ∧ Grown db s)
    (fun _ o hs => ⟨hs.1.step o, hs.2.trans (hs.1.grown o)⟩) ⟨h, Grown.refl db⟩ ops

theorem sampleDb_skills : Skills sampleEnv sampleDb := by
  refine ⟨List.nodup_nil, ?_, ?_⟩
  · intro row hrow
    cases hrow
  · intro row hrow _
    rw [List.mem_singleton.1 hrow]
    refine ⟨?_, ?_, ?_⟩ <;> simp

theorem skills_sound_sample :
    (Skills sampleEnv (run (skillStep sampleEnv) sampleDb sampleOps) ∧
      Grown sampleDb (run (skillStep sampleEnv) sampleDb sampleOps)) ∧
    (run (skillStep sampleEnv) sampleDb sampleOps).skill = [⟨5, 3⟩, ⟨6, 1⟩] :=
  ⟨skills_sound sampleDb_skills sampleOps, by decide⟩

/-! ## Books -/

/-- the books of the next level -/
def Env.price (E : Env ρ) (lv : ℤ) : ℤ := (E.skillUpgrade302 1 lv).getD 0

/-- the books in a level: one to open the skill, and the prices of the levels since -/
def Env.books (E : Env ρ) (lv : ℤ) : ℤ :=
  1 + ((Int.range E.default_lv lv).map E.price).sum

/-- the books of one kind in the skills of a user -/
def invested (E : Env ρ) (code : ℤ) (skill : List SkillRow) : ℤ :=
  (skill.map fun row => if (E.skillNew120 row.idx).map SkillInfo.skillbook_code = some code then E.books row.lv else 0).sum

/-- what a row adds to `invested` -/
def bookShare (E : Env ρ) (code : ℤ) (row : SkillRow) : ℤ :=
  if (E.skillNew120 row.idx).map SkillInfo.skillbook_code = some code then E.books row.lv else 0

theorem invested_eq (code : ℤ) (skill : List SkillRow) : invested E code skill = (skill.map (bookShare E code)).sum := rfl

theorem books_default (E : Env ρ) : E.books E.default_lv = 1 := by
  simp [Env.books, Range.self]

theorem books_succ {lv count : ℤ} (hlow : E.default_lv ≤ lv) (hprice : E.skillUpgrade302 1 lv = some count) :
    E.books (lv + 1) = E.books lv + count := by
  have hcount : E.price lv = count := by simp [Env.price, hprice]
  rw [Env.books, Env.books, Range.succ hlow, List.map_append, List.sum_append, List.map_singleton, List.sum_singleton,
    hcount]
  ring

/-- the books of a kind, in the inventory and in the skills -/
def allBooks (E : Env ρ) (code : ℤ) (db : Db ρ) : ℤ := E.goods.balance db.resource code + invested E code db.skill

theorem Opens.books {skillidx : ℤ} (ho : Opens E skillidx db db') (code : ℤ) : allBooks E code db' = allBooks E code db := by
  obtain ⟨-, info, resource, data, hinfo, hpaid, rfl⟩ := ho
  have hshare : bookShare E code ⟨skillidx, E.default_lv⟩ = if code = info.skillbook_code then 1 else 0 := by
    simp only [bookShare, hinfo, Option.map_some, Option.some.injEq, books_default]
    exact if_congr eq_comm rfl rfl
  unfold allBooks
  rw [E.goods.taken hpaid code, invested_eq, invested_eq, List.map_append, List.sum_append, List.map_singleton,
    List.sum_singleton, hshare]
  ring

theorem LevelsUp.books {c : Quest.Clock} {skillidx : ℤ} (h : Skills E db) (hl : LevelsUp E c skillidx db db') (code : ℤ) :
    allBooks E code db' = allBooks E code db := by
  obtain ⟨info, row, count, resource, data, hinfo, -, hmem, rfl, -, hprice, hpaid, rfl⟩ := hl
  have hnew : bookShare E code { row with lv := row.lv + 1 } =
      bookShare E code row + if code = info.skillbook_code then count else 0 := by
    simp only [bookShare, hinfo, Option.map_some, Option.some.injEq, books_succ (h.level row hmem).1 hprice,
      eq_comm (a := info.skillbook_code)]
    split_ifs <;> ring
  have hsum := Keyed.sum_map_update h.nodup hmem (fun r => { r with lv := row.lv + 1 }) (bookShare E code)
  unfold allBooks
  rw [E.goods.taken hpaid code, invested_eq, invested_eq, setLv, hsum, hnew]
  ring

theorem allBooks_step (h : Skills E db) (o : SkillOp) (code : ℤ) :
    allBooks E code (skillStep E db o) = allBooks E code db := by
  rcases skillStep_cases E db o with ⟨skillidx, -, ho⟩ | ⟨equips, -, he⟩ | ⟨c, skillidx, -, hl⟩ | hsame
  · exact ho.books code
  · obtain ⟨hlen, skill_list, -, -, hdb⟩ := he
    rw [hdb]
    rfl
  · exact hl.books h code
  · rw [hsame]

/-- no request overdraws -/
theorem balance_step {code : ℤ} (hpos : 0 ≤ E.goods.balance db.resource code) (o : SkillOp) :
    0 ≤ E.goods.balance (skillStep E db o).resource code := by
  have hpay : ∀ {idx count resource data}, E.goods.consume db.resource idx count = some (resource, data) →
      0 ≤ E.goods.balance resource code := by
    intro idx count resource data hpaid
    have henough := E.goods.enough hpaid
    rw [E.goods.taken hpaid code]
    split_ifs with hidx
    · subst hidx
      omega
    · omega
  rcases skillStep_cases E db o with ⟨skillidx, -, ho⟩ | ⟨equips, -, he⟩ | ⟨c, skillidx, -, hl⟩ | hsame
  · obtain ⟨-, info, resource, data, -, hpaid, hdb⟩ := ho
    rw [hdb]
    exact hpay hpaid
  · obtain ⟨hlen, skill_list, -, -, hdb⟩ := he
    rw [hdb]
    exact hpos
  · obtain ⟨info, row, count, resource, data, -, -, -, -, -, -, hpaid, hdb⟩ := hl
    rw [hdb]
    exact hpay hpaid
  · rw [hsame]
    exact hpos

/-- **Skill books are conserved.** In every run the books of each kind, those left and those in the levels, are as many
as at the start, and no balance goes below zero. -/
theorem books_conserved (h : Skills E db) (ops : List SkillOp) (code : ℤ) :
    allBooks E code (run (skillStep E) db ops) = allBooks E code db ∧
      (0 ≤ E.goods.balance db.resource code → 0 ≤ E.goods.balance (run (skillStep E) db ops).resource code) := by
  constructor
  · exact (run_inv_all (I := fun s => Skills E s ∧ allBooks E code s = allBooks E code db)
      (fun s o hs => ⟨hs.1.step o, (allBooks_step hs.1 o code).trans hs.2⟩) ⟨h, rfl⟩ ops).2
  · intro hpos
    exact run_inv_all (I := fun s : Db ρ => 0 ≤ E.goods.balance s.resource code) (fun s o hs => balance_step hs o) hpos ops

theorem books_conserved_sample :
    (allBooks sampleEnv 70 (run (skillStep sampleEnv) sampleDb sampleOps) = allBooks sampleEnv 70 sampleDb ∧
      (0 ≤ sampleEnv.goods.balance sampleDb.resource 70 →
        0 ≤ sampleEnv.goods.balance (run (skillStep sampleEnv) sampleDb sampleOps).resource 70)) ∧
    (run (skillStep sampleEnv) sampleDb sampleOps).resource 70 = 1 :=
  ⟨books_conserved sampleDb_skills sampleOps 70, by decide⟩

/-! ## Quests -/

/-- the levels above the default, in sum -/
def totalLevel (E : Env ρ) (db : Db ρ) : ℤ := (db.skill.map fun row => row.lv - E.default_lv).sum

/-- the occurrence of one level-up -/
def Env.levelUpOccur (E : Env ρ) : Quest.Occur := ⟨E.SKILL_LEVEL_UP, 0, 1⟩

/-- a request is served on the day and in the week of `c` -/
def OnDay (c : Quest.Clock) (o : SkillOp) : Prop := ∀ c' skillidx, o = .levelUp c' skillidx → c' = c

theorem Opens.totalLevel {skillidx : ℤ} (ho : Opens E skillidx db db') : totalLevel E db' = totalLevel E db := by
  obtain ⟨-, info, resource, data, -, -, rfl⟩ := ho
  simp [Skill.totalLevel]

theorem LevelsUp.totalLevel {c : Quest.Clock} {skillidx : ℤ} (h : Skills E db) (hl : LevelsUp E c skillidx db db') :
    totalLevel E db' = totalLevel E db + 1 := by
  obtain ⟨info, row, count, resource, data, -, -, hmem, rfl, -, -, -, rfl⟩ := hl
  have hsum := Keyed.sum_map_update h.nodup hmem (fun r => { r with lv := row.lv + 1 }) fun r => r.lv - E.default_lv
  unfold Skill.totalLevel
  rw [setLv, hsum]
  ring

/-- what the quests have heard of after `n` level-ups -/
def heard (E : Env ρ) (c : Quest.Clock) (quest : Quest.Db) (n : ℕ) : Quest.Db :=
  if n = 0 then quest else (Quest.questOccur E.quests c (List.replicate n E.levelUpOccur) quest Quest.QuestInfo.empty).1

theorem heard_eq (c : Quest.Clock) (quest : Quest.Db) (n : ℕ) :
    heard E c quest n = Quest.heardOf E.quests c (List.replicate n E.levelUpOccur) quest := by
  simp [heard, Quest.heardOf, List.replicate_eq_nil_iff]

/-- **The quests count the levels gained.** After any run on one day the stored quests are those of a single call with
one occurrence for each level that the skills have gained since. -/
theorem levels_counted {c : Quest.Clock} (hdayID : 0 < c.dayID) (hweekID : 0 < c.weekID) {m : Quest.MainRow}
    {tb : Quest.MainQuest} (hm : db.quest.main = some m) (htb : E.quests.getMain m.idx = some tb)
    (hday : Quest.Complete (E.quests.getPeriodType Quest.DAY_NORMAL) db.quest.day)
    (hweek : Quest.Complete (E.quests.getPeriodType Quest.WEEK_NORMAL) db.quest.week) (h : Skills E db)
    {ops : List SkillOp} (hops : ∀ o ∈ ops, OnDay c o) :
    ∃ n : ℕ, totalLevel E (run (skillStep E) db ops) = totalLevel E db + n ∧
      (run (skillStep E) db ops).quest = heard E c db.quest n := by
  have hkept : Skills E (run (skillStep E) db ops) ∧
      ∃ n : ℕ, totalLevel E (run (skillStep E) db ops) = totalLevel E db + n ∧
        (run (skillStep E) db ops).quest = heard E c db.quest n := by
    refine run_inv_of (P := OnDay c)
      (I := fun s => Skills E s ∧ ∃ n : ℕ, totalLevel E s = totalLevel E db + n ∧ s.quest = heard E c db.quest n)
      ?_ ⟨h, 0, by simp, rfl⟩ hops
    rintro s o hday' ⟨hskills, n, htotal, hquest⟩
    refine ⟨hskills.step o, ?_⟩
    rcases skillStep_cases E s o with ⟨skillidx, -, ho⟩ | ⟨equips, -, he⟩ | ⟨c', skillidx, rfl, hl⟩ | hsame
    · refine ⟨n, ho.totalLevel.trans htotal, ?_⟩
      obtain ⟨-, info, resource, data, -, -, hdb⟩ := ho
      rw [hdb]
      exact hquest
    · obtain ⟨hlen, skill_list, -, -, hdb⟩ := he
      rw [hdb]
      exact ⟨n, htotal, hquest⟩
    · obtain rfl := hday' c' skillidx rfl
      refine ⟨n + 1, ?_, ?_⟩
      · rw [hl.totalLevel hskills, htotal]
        push_cast
        ring
      · -- one call with all of them, in place of one for each
        obtain ⟨info, row, count, resource, data, -, -, -, -, -, -, -, hdb⟩ := hl
        rw [hdb]
        dsimp only
        rw [hquest, heard_eq, heard_eq, List.replicate_succ']
        exact Quest.heardOf_append hm htb hday hweek hdayID hweekID _ (by simp) _
    · rw [hsame]
      exact ⟨n, htotal, hquest⟩
  exact hkept.2

theorem levels_counted_sample :
    (∃ n : ℕ, totalLevel sampleEnv (run (skillStep sampleEnv) sampleDb sampleOps) = totalLevel sampleEnv sampleDb + n ∧
      (run (skillStep sampleEnv) sampleDb sampleOps).quest = heard sampleEnv ⟨5, 1⟩ sampleDb.quest n) ∧
    (run (skillStep sampleEnv) sampleDb sampleOps).quest.day = [⟨10, 2, 0⟩] := by
  have hday : Quest.Complete (sampleEnv.quests.getPeriodType Quest.DAY_NORMAL) sampleDb.quest.day := by
    unfold Quest.Complete; decide
  have hweek : Quest.Complete (sampleEnv.quests.getPeriodType Quest.WEEK_NORMAL) sampleDb.quest.week := by
    unfold Quest.Complete; decide
  have hops : ∀ o ∈ sampleOps, OnDay ⟨5, 1⟩ o := by
    intro o ho c' skillidx hc
    subst hc
    simp only [sampleOps, List.mem_cons, SkillOp.levelUp.injEq, reduceCtorEq, List.not_mem_nil, or_false, false_or] at ho
    rcases ho with ⟨hc, -⟩ | ⟨hc, -⟩ <;> exact hc
  have hmain : sampleDb.quest.main = some ⟨1, 1, 0, 4, 4, 1, 0⟩ := rfl
  exact ⟨levels_counted (by decide) (by decide) hmain rfl hday hweek sampleDb_skills hops, by decide⟩

end GameServer.Skill
