/-
Summons and what is told about them, `Python/Summon.py`: `sp_Summon`, with `QuestOccur` of `Python/Quest.py`.

`sp_Summon` hands a request on to the equipment, fly or pickup summon. If it succeeds, the missions and the quests hear
of the number of its results: per kind of equipment, and for flies under two quest types. A pickup tells the missions
only.

- `summons_counted`: over every run on one day, of all kinds of summons and their rewards. The quests are those of one
  call with everything told, and what was told of a kind of equipment is what its level and experience have gained.

Not under src/: the missions (`missions` are the calls of `MissionOccur`), and `sp_EventSummonPickupSummon` (its outcome
is part of the request). Goods and items may change between the requests.
-/
import Mathlib.Tactic
import GameServer.Core.Run
import GameServer.Core.Tally
import GameServer.Quest.Progress
import GameServer.Summon.Fly
import GameServer.Summon.Ledger

namespace GameServer.Summon

open GameServer.Core GameServer.Core.Ladder

/-! ## Data -/

/-- `CSummonType` -/
inductive SummonType where
  | EQUIPMENT | FLY | PICKUP | other
deriving DecidableEq, Repr

/-- the names of the missions -/
inductive Mission where
  | SUMMON_WEAPON | SUMMON_ARMOR | SUMMON_BAG | SUMMON_FLY | WATCH_ADV
deriving DecidableEq, Repr

structure GameEnv (ρ : Type) where
  equip : Env ρ
  quests : Quest.Tables
  /-- `QUEST_TYPE` -/
  SUMMON_WEAPON : ℤ
  SUMMON_ARMOR : ℤ
  SUMMON_ACCESSORY : ℤ
  SUMMON_FLY : ℤ
  SUMMON_FLY_TOTAL : ℤ

/-- the stored rows of a user by type and index, what was told, and what was claimed -/
structure Game (ρ : Type) where
  summon : ℤ → Option SummonRow
  equipment : ℤ → Option ℤ
  summonFly : ℤ → Option FlyRow
  flies : ℤ → ℤ
  resource : ρ
  quest : Quest.Db
  missions : List (Mission × ℤ)
  /-- type and count of the occurrences in the calls of `QuestOccur` -/
  occurs : List (ℤ × ℤ)
  /-- the reward steps gone through and the supplied rewards, by type -/
  steps : ℤ → List ℤ
  supplies : ℤ → List Supply
  /-- the results of pickup summons -/
  pickups : ℤ

/-- `Type`, `Index`, `Count` and `CostType` of the request -/
structure SummonReq where
  type : SummonType
  index : ℤ
  count : ℤ
  cost_type : CostType
deriving DecidableEq, Repr

/-- the outcome of `sp_EventSummonPickupSummon` -/
structure Pickup (ρ : Type) where
  result : ResultType
  RewardItems : List ResultData
  SummonResults : List ResultData
  resource : ρ
  flies : ℤ → ℤ

/-- what a request meets outside -/
structure Outside (ρ : Type) where
  box : Box
  fly : FlyEnv ρ
  pickup : Pickup ρ

/-- `OnSummon`; the missions in it are not under src/ -/
structure OnSummon where
  result : ResultType
  RewardItems : List ResultData
  SummonResults : List ResultData
  Equipment : Option EquipmentInfo
  Fly : Option FlyInfo
  QuestInfo : Quest.QuestInfo

section

variable {ρ : Type} (G : GameEnv ρ) (c : Quest.Clock)

/-! ## `sp_Summon` -/

def Game.equipDb (g : Game ρ) (index : ℤ) : Db ρ := ⟨g.summon index, g.equipment, g.resource⟩

def Game.setEquip (g : Game ρ) (index : ℤ) (db : Db ρ) : Game ρ :=
  { g with summon := Function.update g.summon index db.summon, equipment := db.equipment, resource := db.resource }

def Game.flyDb (g : Game ρ) (index : ℤ) : FlyDb ρ := ⟨g.summonFly index, g.flies, g.resource⟩

def Game.setFly (g : Game ρ) (index : ℤ) (db : FlyDb ρ) : Game ρ :=
  { g with summonFly := Function.update g.summonFly index db.summonFly, flies := db.flies, resource := db.resource }

def Game.setGoods (g : Game ρ) (resource : ρ) (equipment : ℤ → Option ℤ) (flies : ℤ → ℤ) : Game ρ :=
  { g with resource := resource, equipment := equipment, flies := flies }

/-- `MissionOccur` -/
def missionOccur (mission : Mission) (count : ℤ) (g : Game ρ) : Game ρ :=
  { g with missions := g.missions ++ [(mission, count)] }

/-- one call of `QuestOccur` with an occurrence for each type -/
def tellQuests (types : List ℤ) (count : ℤ) (g : Game ρ) : Quest.QuestInfo × Game ρ :=
  let occur := Quest.questOccur G.quests c (types.map fun type => ⟨type, 0, count⟩) g.quest Quest.QuestInfo.empty
  (occur.2, { g with quest := occur.1, occurs := g.occurs ++ types.map fun type => (type, count) })

/-- quest type and mission of a kind of equipment -/
def equipmentOccur (index : ℤ) : Option (ℤ × Mission) :=
  if index = G.equip.WEAPON then some (G.SUMMON_WEAPON, .SUMMON_WEAPON)
  else if index = G.equip.ARMOR then some (G.SUMMON_ARMOR, .SUMMON_ARMOR)
  else if index = G.equip.BAG then some (G.SUMMON_ACCESSORY, .SUMMON_BAG)
  else none

/-- the mission of a watched advertisement -/
def tellAds (cost_type : CostType) (g : Game ρ) : Game ρ :=
  if cost_type = .ADS then missionOccur .WATCH_ADV 1 g else g

/-- what is told of an equipment summon -/
def tellEquipment (index count : ℤ) (g : Game ρ) : Quest.QuestInfo × Game ρ :=
  match equipmentOccur G index with
  | none => (Quest.QuestInfo.empty, g)
  | some (quest_type, mission) => tellQuests G c [quest_type] count (missionOccur mission count g)

/-- what is told of a fly summon -/
def tellFly (count : ℤ) (g : Game ρ) : Quest.QuestInfo × Game ρ :=
  tellQuests G c [G.SUMMON_FLY, G.SUMMON_FLY_TOTAL] count (missionOccur .SUMMON_FLY count g)

/-- what is told of a pickup summon -/
def tellPickup (count : ℤ) (g : Game ρ) : Game ρ :=
  missionOccur .SUMMON_FLY count { g with pickups := g.pickups + count }

/-- `sp_Summon.execute` -/
def summon (req : SummonReq) (o : Outside ρ) (g : Game ρ) : OnSummon × Game ρ :=
  match req.type with
  | .EQUIPMENT =>
    let r := summonEquipment G.equip req.index req.count req.cost_type o.box (g.equipDb req.index)
    if r.result = .SUCCESS then
      let told := tellEquipment G c req.index r.SummonResults.length (g.setEquip req.index r.db)
      (⟨r.result, r.RewardItems, r.SummonResults, r.Equipment, none, told.1⟩, tellAds req.cost_type told.2)
    else
      (⟨r.result, r.RewardItems, r.SummonResults, r.Equipment, none, Quest.QuestInfo.empty⟩, g.setEquip req.index r.db)
  | .FLY =>
    let r := summonFlyNew o.fly ⟨req.index, req.count, req.cost_type⟩ (g.flyDb req.index)
    if r.result = .SUCCESS then
      let told := tellFly G c r.SummonResults.length (g.setFly req.index r.db)
      (⟨r.result, r.RewardItems, r.SummonResults, none, r.Fly, told.1⟩, tellAds req.cost_type told.2)
    else (⟨r.result, r.RewardItems, r.SummonResults, none, r.Fly, Quest.QuestInfo.empty⟩, g.setFly req.index r.db)
  | .PICKUP =>
    let r := o.pickup
    (⟨r.result, r.RewardItems, r.SummonResults, none, none, Quest.QuestInfo.empty⟩,
      if r.result = .SUCCESS then tellPickup r.SummonResults.length (g.setGoods r.resource g.equipment r.flies)
      else g.setGoods r.resource g.equipment r.flies)
  | .other => (⟨.FAIL, [], [], none, none, Quest.QuestInfo.empty⟩, g)

/-- a request of the user -/
inductive GameOp (ρ : Type) where
  | summon (c : Quest.Clock) (req : SummonReq) (o : Outside ρ)
  /-- `sp_SummonReward` for equipment and for flies -/
  | rewardEquipment (index : ℤ)
  | rewardFly (index : ℤ) (F : FlyEnv ρ)
  /-- goods and items change otherwise -/
  | goods (resource : ρ) (equipment : ℤ → Option ℤ) (flies : ℤ → ℤ)

def gameStep (g : Game ρ) : GameOp ρ → Game ρ
  | .summon c req o => (summon G c req o g).2
  | .rewardEquipment index =>
    let r := summonReward G.equip index (g.equipDb index)
    { g.setEquip index r.db with
      steps := Function.update g.steps index (g.steps index ++ r.steps)
      supplies := Function.update g.supplies index (g.supplies index ++ r.supplies) }
  | .rewardFly index F => g.setFly index (summonRewardFly F (g.flyDb index)).db
  | .goods resource equipment flies => g.setGoods resource equipment flies

/-- a request is served on the day and in the week of `c` -/
def GameOp.OnDay (o : GameOp ρ) : Prop := ∀ c' req out, o = .summon c' req out → c' = c

/-! ## What the game keeps -/

/-- the occurrences of the calls so far -/
def occurList (occurs : List (ℤ × ℤ)) : List Quest.Occur := occurs.map fun e => ⟨e.1, 0, e.2⟩

def GameEnv.types : List ℤ := [G.SUMMON_WEAPON, G.SUMMON_ARMOR, G.SUMMON_ACCESSORY, G.SUMMON_FLY, G.SUMMON_FLY_TOTAL]

/-- the ladder of a kind of equipment, with as many summons as its quest type and its mission have heard of -/
structure Climbed (M : ℤ) (row₀ : SummonRow) (index : ℤ) (told : ℤ × Mission) (g : Game ρ) (n : ℕ) : Prop where
  ladder : ∃ row, Inv G.equip index M row₀ ⟨g.equipDb index, n, g.steps index, g.supplies index⟩ row
  quests : Tally.sumAt told.1 g.occurs = n
  missions : Tally.sumAt told.2 g.missions = n

structure Kept (M : ℤ → ℤ) (row₀ : ℤ → SummonRow) (quest₀ : Quest.Db) (g : Game ρ) : Prop where
  quest : g.quest = Quest.heardOf G.quests c (occurList g.occurs) quest₀
  climbed : ∀ index told, equipmentOccur G index = some told → ∃ n, Climbed G (M index) (row₀ index) index told g n
  flies : Tally.sumAt G.SUMMON_FLY_TOTAL g.occurs = Tally.sumAt G.SUMMON_FLY g.occurs
  flyMissions : Tally.sumAt .SUMMON_FLY g.missions = Tally.sumAt G.SUMMON_FLY g.occurs + g.pickups

variable {G c} {M : ℤ → ℤ} {row₀ : ℤ → SummonRow} {quest₀ : Quest.Db} {g : Game ρ}

/-- the ladder reads the stored row only -/
theorem Inv.of_db {E : Env ρ} {type N : ℤ} {r₀ row : SummonRow} {db db' : Db ρ} {n : ℕ} {steps : List ℤ}
    {supplies : List Supply} (h : Inv E type N r₀ ⟨db, n, steps, supplies⟩ row) (hdb : db'.summon = db.summon) :
    Inv E type N r₀ ⟨db', n, steps, supplies⟩ row :=
  ⟨hdb.trans h.stored, h.virtual, h.below, h.rest, h.nonneg, h.step_ge, h.step_le, h.steps, h.supplies⟩

/-! ## Kinds -/

theorem equipmentOccur_cases {index : ℤ} {told : ℤ × Mission} (h : equipmentOccur G index = some told) :
    (index = G.equip.WEAPON ∧ told = (G.SUMMON_WEAPON, .SUMMON_WEAPON)) ∨
      (index ≠ G.equip.WEAPON ∧ index = G.equip.ARMOR ∧ told = (G.SUMMON_ARMOR, .SUMMON_ARMOR)) ∨
      (index ≠ G.equip.WEAPON ∧ index ≠ G.equip.ARMOR ∧ index = G.equip.BAG ∧
        told = (G.SUMMON_ACCESSORY, .SUMMON_BAG)) := by
  unfold equipmentOccur at h
  split_ifs at h with hweapon harmor hbag
  · exact Or.inl ⟨hweapon, (Option.some.inj h).symm⟩
  · exact Or.inr (Or.inl ⟨hweapon, harmor, (Option.some.inj h).symm⟩)
  · exact Or.inr (Or.inr ⟨hweapon, harmor, hbag, (Option.some.inj h).symm⟩)

/-- each kind of equipment has its own quest type and mission -/
theorem equipmentOccur_inj (hT : G.types.Nodup) {i j : ℤ} {told told' : ℤ × Mission}
    (hi : equipmentOccur G i = some told) (hj : equipmentOccur G j = some told') :
    (told.1 = told'.1 ↔ i = j) ∧ (told.2 = told'.2 ↔ i = j) := by
  simp only [GameEnv.types, List.nodup_cons, List.mem_cons, not_or] at hT
  rcases equipmentOccur_cases hi with ⟨hi, rfl⟩ | ⟨hi1, hi, rfl⟩ | ⟨hi1, hi2, hi, rfl⟩ <;>
    rcases equipmentOccur_cases hj with ⟨hj, rfl⟩ | ⟨hj1, hj, rfl⟩ | ⟨hj1, hj2, hj, rfl⟩ <;> grind

/-- and not one of the flies -/
theorem equipmentOccur_other (hT : G.types.Nodup) {index : ℤ} {told : ℤ × Mission}
    (h : equipmentOccur G index = some told) :
    told.1 ≠ G.SUMMON_FLY ∧ told.1 ≠ G.SUMMON_FLY_TOTAL ∧ told.2 ≠ .SUMMON_FLY ∧ told.2 ≠ .WATCH_ADV := by
  simp only [GameEnv.types, List.nodup_cons, List.mem_cons, not_or] at hT
  rcases equipmentOccur_cases h with ⟨-, rfl⟩ | ⟨-, -, rfl⟩ | ⟨-, -, -, rfl⟩ <;> simp [hT]

/-! ## Steps -/

/-- tables and rows at the start: level tables and stored rows in order, and quests that are under way -/
structure Setting (G : GameEnv ρ) (c : Quest.Clock) (M : ℤ → ℤ) (row₀ : ℤ → SummonRow) (quest₀ : Quest.Db) : Prop where
  types : G.types.Nodup
  levels : ∀ index told, equipmentOccur G index = some told → Levels G.equip index (M index)
  normal : ∀ index told, equipmentOccur G index = some told → Normal (nextCount G.equip index) (M index) (row₀ index).pos
  dayID : 0 < c.dayID
  weekID : 0 < c.weekID
  main : ∃ m tb, quest₀.main = some m ∧ G.quests.getMain m.idx = some tb
  day : Quest.Complete (G.quests.getPeriodType Quest.DAY_NORMAL) quest₀.day
  week : Quest.Complete (G.quests.getPeriodType Quest.WEEK_NORMAL) quest₀.week

/-- a call more is one call with more occurrences -/
theorem tellQuests_quest (hS : Setting G c M row₀ quest₀)
    (h : g.quest = Quest.heardOf G.quests c (occurList g.occurs) quest₀) {types : List ℤ} (hne : types ≠ []) (count : ℤ) :
    (tellQuests G c types count g).2.quest =
      Quest.heardOf G.quests c (occurList (tellQuests G c types count g).2.occurs) quest₀ := by
  obtain ⟨m, tb, hm, htb⟩ := hS.main
  have hlist : occurList (tellQuests G c types count g).2.occurs =
      occurList g.occurs ++ types.map fun type => ⟨type, 0, count⟩ := by
    simp [tellQuests, occurList]
  rw [hlist, ← Quest.heardOf_append hm htb hS.day hS.week hS.dayID hS.weekID _ (by simpa using hne) Quest.QuestInfo.empty,
    ← h]
  rfl

/-- goods and fly rows are not told -/
theorem Kept.frame (h : Kept G c M row₀ quest₀ g) (resource : ρ) (equipment : ℤ → Option ℤ)
    (summonFly : ℤ → Option FlyRow) (flies : ℤ → ℤ) :
    Kept G c M row₀ quest₀
      { g with resource := resource, equipment := equipment, summonFly := summonFly, flies := flies } := by
  refine ⟨h.quest, ?_, h.flies, h.flyMissions⟩
  intro index told htold
  obtain ⟨n, ⟨row, hinv⟩, hquests, hmissions⟩ := h.climbed index told htold
  exact ⟨n, ⟨row, hinv.of_db rfl⟩, hquests, hmissions⟩

theorem Kept.ads (h : Kept G c M row₀ quest₀ g) (hS : Setting G c M row₀ quest₀) (cost_type : CostType) :
    Kept G c M row₀ quest₀ (tellAds cost_type g) := by
  unfold tellAds
  split_ifs
  · refine ⟨h.quest, ?_, h.flies, ?_⟩
    · intro index told htold
      obtain ⟨-, -, -, hads⟩ := equipmentOccur_other hS.types htold
      obtain ⟨n, hladder, hquests, hmissions⟩ := h.climbed index told htold
      refine ⟨n, hladder, hquests, ?_⟩
      rw [missionOccur, Tally.sumAt_append, hmissions]
      simp [Ne.symm hads]
    · rw [missionOccur, Tally.sumAt_append, h.flyMissions]
      simp
  · exact h

theorem Kept.fly (h : Kept G c M row₀ quest₀ g) (hS : Setting G c M row₀ quest₀) (count : ℤ) :
    Kept G c M row₀ quest₀ (tellFly G c count g).2 := by
  have hdistinct : G.SUMMON_FLY ≠ G.SUMMON_FLY_TOTAL := by
    have hT := hS.types
    simp only [GameEnv.types, List.nodup_cons, List.mem_cons, not_or] at hT
    exact hT.2.2.2.1.1
  refine ⟨tellQuests_quest hS h.quest (by simp) count, ?_, ?_, ?_⟩
  · intro index told htold
    obtain ⟨hfly, htotal, hmission, -⟩ := equipmentOccur_other hS.types htold
    obtain ⟨n, ⟨row, hinv⟩, hquests, hmissions⟩ := h.climbed index told htold
    refine ⟨n, ⟨row, hinv.of_db rfl⟩, ?_, ?_⟩
    · simp [tellFly, tellQuests, missionOccur, hquests, Ne.symm hfly, Ne.symm htotal]
    · simp [tellFly, tellQuests, missionOccur, hmissions, Ne.symm hmission]
  · have hflies := h.flies
    simp [tellFly, tellQuests, missionOccur, hflies, hdistinct, Ne.symm hdistinct]
  · have hflies := h.flyMissions
    simp [tellFly, tellQuests, missionOccur, hflies, Ne.symm hdistinct]
    ring

theorem Kept.pickup (h : Kept G c M row₀ quest₀ g) (hS : Setting G c M row₀ quest₀) (count : ℤ) :
    Kept G c M row₀ quest₀ (tellPickup count g) := by
  refine ⟨h.quest, ?_, h.flies, ?_⟩
  · intro index told htold
    obtain ⟨-, -, hmission, -⟩ := equipmentOccur_other hS.types htold
    obtain ⟨n, ⟨row, hinv⟩, hquests, hmissions⟩ := h.climbed index told htold
    refine ⟨n, ⟨row, hinv.of_db rfl⟩, hquests, ?_⟩
    simp [tellPickup, missionOccur, hmissions, Ne.symm hmission]
  · have hflies := h.flyMissions
    simp [tellPickup, missionOccur, hflies]
    ring

/-- the reward of a kind of equipment -/
theorem Kept.reward (h : Kept G c M row₀ quest₀ g) (hS : Setting G c M row₀ quest₀) (index : ℤ) :
    Kept G c M row₀ quest₀ (gameStep G g (.rewardEquipment index)) := by
  refine ⟨h.quest, ?_, h.flies, h.flyMissions⟩
  intro index' told htold
  obtain ⟨n, ⟨row, hinv⟩, hquests, hmissions⟩ := h.climbed index' told htold
  refine ⟨n, ?_, hquests, hmissions⟩
  by_cases heq : index' = index
  · subst heq
    obtain ⟨row', hinv', -⟩ := hinv.reward (hS.levels _ _ htold) (hS.normal _ _ htold)
    refine ⟨row', ?_⟩
    simp only [gameStep, Game.setEquip, Game.equipDb, Function.update_self]
    exact hinv'.of_db rfl
  · refine ⟨row, ?_⟩
    simp only [gameStep, Game.setEquip, Game.equipDb, Function.update_of_ne heq]
    exact hinv.of_db rfl

/-- the ladders after an equipment summon -/
theorem Kept.climb (h : Kept G c M row₀ quest₀ g) (hS : Setting G c M row₀ quest₀) (index count : ℤ)
    (cost_type : CostType) (box : Box) {index' : ℤ} {told : ℤ × Mission} (htold : equipmentOccur G index' = some told) :
    ∃ n row, Inv G.equip index' (M index') (row₀ index')
        ⟨(g.setEquip index (summonEquipment G.equip index count cost_type box (g.equipDb index)).db).equipDb index',
          n + if index' = index then
            (summonEquipment G.equip index count cost_type box (g.equipDb index)).SummonResults.length else 0,
          g.steps index', g.supplies index'⟩ row ∧
      Tally.sumAt told.1 g.occurs = n ∧ Tally.sumAt told.2 g.missions = n := by
  obtain ⟨n, ⟨row, hinv⟩, hquests, hmissions⟩ := h.climbed index' told htold
  by_cases heq : index' = index
  · subst heq
    obtain ⟨row', hinv', -⟩ := hinv.summon (hS.levels _ _ htold) (hS.normal _ _ htold) count cost_type box
    refine ⟨n, row', ?_, hquests, hmissions⟩
    rw [if_pos rfl]
    simp only [Game.setEquip, Game.equipDb, Function.update_self]
    exact hinv'.of_db rfl
  · refine ⟨n, row, ?_, hquests, hmissions⟩
    rw [if_neg heq]
    simp only [Game.setEquip, Game.equipDb, Function.update_of_ne heq]
    exact hinv.of_db rfl

/-- a request that fails has no results -/
theorem summonEquipment_fail {E : Env ρ} {type count : ℤ} {cost_type : CostType} {box : Box} {db : Db ρ}
    (h : (summonEquipment E type count cost_type box db).result ≠ .SUCCESS) :
    (summonEquipment E type count cost_type box db).SummonResults = [] := by
  unfold summonEquipment at h ⊢
  cases hread : summonRead E type count cost_type db with
  | error result => rfl
  | ok work =>
    cases hdraw : summonDraw E type box work.summon_count.toNat 0 work with
    | none => simp [hdraw]
    | some w =>
      cases hcost : consumeCost E w db with
      | none => simp [hdraw, summonWrite, hcost]
      | some p => simp [hread, hdraw, summonWrite, hcost] at h

theorem Kept.refused (h : Kept G c M row₀ quest₀ g) (hS : Setting G c M row₀ quest₀) {index count : ℤ}
    {cost_type : CostType} {box : Box}
    (hfail : (summonEquipment G.equip index count cost_type box (g.equipDb index)).result ≠ .SUCCESS) :
    Kept G c M row₀ quest₀
      (g.setEquip index (summonEquipment G.equip index count cost_type box (g.equipDb index)).db) := by
  refine ⟨h.quest, ?_, h.flies, h.flyMissions⟩
  intro index' told htold
  obtain ⟨n, row, hinv, hquests, hmissions⟩ := h.climb hS index count cost_type box htold
  rw [summonEquipment_fail hfail, List.length_nil, ite_self, Nat.add_zero] at hinv
  exact ⟨n, ⟨row, hinv⟩, hquests, hmissions⟩

/-- a kind of equipment has gained what is told of it -/
theorem Kept.equipment (h : Kept G c M row₀ quest₀ g) (hS : Setting G c M row₀ quest₀) (index count : ℤ)
    (cost_type : CostType) (box : Box) :
    Kept G c M row₀ quest₀
      (tellEquipment G c index (summonEquipment G.equip index count cost_type box (g.equipDb index)).SummonResults.length
        (g.setEquip index (summonEquipment G.equip index count cost_type box (g.equipDb index)).db)).2 := by
  have hclimb := fun index' told (htold : equipmentOccur G index' = some told) =>
    h.climb hS index count cost_type box htold
  revert hclimb
  generalize summonEquipment G.equip index count cost_type box (g.equipDb index) = r
  intro hclimb
  unfold tellEquipment
  cases hkind : equipmentOccur G index with
  | none =>
    refine ⟨h.quest, ?_, h.flies, h.flyMissions⟩
    intro index' told htold
    have hother : index' ≠ index := by
      rintro rfl
      simp [hkind] at htold
    obtain ⟨n, row, hinv, hquests, hmissions⟩ := hclimb index' told htold
    rw [if_neg hother] at hinv
    exact ⟨n, ⟨row, hinv⟩, hquests, hmissions⟩
  | some kind =>
    obtain ⟨hfly, htotal, hmission, -⟩ := equipmentOccur_other hS.types hkind
    refine ⟨?_, ?_, ?_, ?_⟩
    · exact tellQuests_quest hS (g := missionOccur kind.2 r.SummonResults.length (g.setEquip index r.db)) h.quest
        (by simp) _
    · intro index' told htold
      obtain ⟨n, row, hinv, hquests, hmissions⟩ := hclimb index' told htold
      obtain ⟨hq, hm⟩ := equipmentOccur_inj hS.types hkind htold
      refine ⟨_, ⟨row, hinv.of_db rfl⟩, ?_, ?_⟩
      · simp [tellQuests, missionOccur, Game.setEquip, hquests, hq, eq_comm (a := index)]
      · simp [tellQuests, missionOccur, Game.setEquip, hmissions, hm, eq_comm (a := index)]
    · have hflies := h.flies
      simp [tellQuests, missionOccur, Game.setEquip, hflies, hfly, htotal]
    · have hflies := h.flyMissions
      simp [tellQuests, missionOccur, Game.setEquip, hflies, hfly, hmission]

/-- step lemma -/
theorem Kept.step (h : Kept G c M row₀ quest₀ g) (hS : Setting G c M row₀ quest₀) {o : GameOp ρ} (ho : o.OnDay c) :
    Kept G c M row₀ quest₀ (gameStep G g o) := by
  cases o with
  | summon c' req out =>
    obtain rfl := ho c' req out rfl
    rw [gameStep, summon]
    cases htype : req.type with
    | EQUIPMENT =>
      dsimp only
      split_ifs with hresult
      · exact (h.equipment hS req.index req.count req.cost_type out.box).ads hS req.cost_type
      · exact h.refused hS hresult
    | FLY =>
      dsimp only
      split_ifs
      · exact ((h.frame _ _ _ _).fly hS _).ads hS req.cost_type
      · exact h.frame _ _ _ _
    | PICKUP =>
      dsimp only
      split_ifs
      · exact (h.frame _ _ _ _).pickup hS _
      · exact h.frame _ _ _ _
    | other => exact h
  | rewardEquipment index => exact h.reward hS index
  | rewardFly index F => exact h.frame _ _ _ _
  | goods resource equipment flies => exact h.frame _ _ _ _

/-! ## Whole runs -/

/-- what was told of a kind of equipment, against what its row has gained -/
structure Gained (E : Env ρ) (index M : ℤ) (row₀ : SummonRow) (told : ℤ × Mission) (g : Game ρ) (row : SummonRow) :
    Prop where
  stored : g.summon index = some row
  missions : Tally.sumAt told.2 g.missions = Tally.sumAt told.1 g.occurs
  conserved : levelSum E index row.level + row.exp + nextCount E index M * repeats (g.supplies index) =
    levelSum E index row₀.level + row₀.exp + Tally.sumAt told.1 g.occurs

structure Counted (G : GameEnv ρ) (c : Quest.Clock) (M : ℤ → ℤ) (row₀ : ℤ → SummonRow) (quest₀ : Quest.Db) (g : Game ρ) :
    Prop where
  quest : g.quest = Quest.heardOf G.quests c (occurList g.occurs) quest₀
  gained : ∀ index told, equipmentOccur G index = some told →
    ∃ row, Gained G.equip index (M index) (row₀ index) told g row
  flies : Tally.sumAt G.SUMMON_FLY_TOTAL g.occurs = Tally.sumAt G.SUMMON_FLY g.occurs
  flyMissions : Tally.sumAt .SUMMON_FLY g.missions = Tally.sumAt G.SUMMON_FLY g.occurs + g.pickups

theorem Kept.counted (h : Kept G c M row₀ quest₀ g) (hS : Setting G c M row₀ quest₀) : Counted G c M row₀ quest₀ g := by
  refine ⟨h.quest, ?_, h.flies, h.flyMissions⟩
  intro index told htold
  obtain ⟨n, ⟨row, hinv⟩, hquests, hmissions⟩ := h.climbed index told htold
  have hledger := hinv.ledger (hS.levels _ _ htold) (hS.normal _ _ htold)
  exact ⟨row, hledger.stored, hmissions.trans hquests.symm, by rw [hquests]; exact hledger.conserved⟩

/-- nothing told and nothing claimed yet -/
structure Fresh (G : GameEnv ρ) (row₀ : ℤ → SummonRow) (g : Game ρ) : Prop where
  rows : ∀ index told, equipmentOccur G index = some told →
    g.summon index = some (row₀ index) ∧ (row₀ index).reward_step ≤ (row₀ index).level
  untold : g.missions = [] ∧ g.occurs = [] ∧ g.pickups = 0
  unclaimed : ∀ index, g.steps index = [] ∧ g.supplies index = []

theorem Fresh.kept (h : Fresh G row₀ g) (hS : Setting G c M row₀ g.quest) : Kept G c M row₀ g.quest g := by
  obtain ⟨hmissions, hoccurs, hpickups⟩ := h.untold
  refine ⟨by simp [hoccurs, occurList, Quest.heardOf], ?_, by simp [hoccurs], by simp [hmissions, hoccurs, hpickups]⟩
  intro index told htold
  obtain ⟨hrow, hstep⟩ := h.rows index told htold
  obtain ⟨hsteps, hsupplies⟩ := h.unclaimed index
  refine ⟨0, ?_, by simp [hoccurs], by simp [hmissions]⟩
  rw [hsteps, hsupplies]
  have hstored : (g.equipDb index).summon = some (row₀ index) := hrow
  exact run_inv_row (hS.levels _ _ htold) (hS.normal _ _ htold) hstored hstep []

/-- **What is told is what was summoned.** Over every run on one day, whatever mix of summons and rewards: the quests are
those of one call with everything told; a kind of equipment has gained exactly the points that its quest type and its
mission have heard of, the exchanged ones included; and the missions of flies also count the pickups. -/
theorem summons_counted (hS : Setting G c M row₀ g.quest) (hg : Fresh G row₀ g) {ops : List (GameOp ρ)}
    (hops : ∀ o ∈ ops, o.OnDay c) : Counted G c M row₀ g.quest (run (gameStep G) g ops) := by
  have hkept : Kept G c M row₀ g.quest (run (gameStep G) g ops) := by
    refine run_inv_of (I := Kept G c M row₀ g.quest) ?_ (hg.kept hS) hops
    intro s o ho h
    exact h.step hS ho
  exact hkept.counted hS

/-- each kind of equipment has the three levels of the sample table -/
def sampleGameEnv : GameEnv ℤ where
  equip := { sampleEnv with table := fun _ => [⟨1, 2, 71, 501, 1⟩, ⟨2, 3, 72, 0, 0⟩, ⟨3, 4, 73, 503, 1⟩] }
  quests := Quest.sampleTables
  SUMMON_WEAPON := 7
  SUMMON_ARMOR := 8
  SUMMON_ACCESSORY := 9
  SUMMON_FLY := 32
  SUMMON_FLY_TOTAL := 31

def sampleGame : Game ℤ where
  summon _ := some ⟨1, 0, 0, 0, 5⟩
  equipment _ := none
  summonFly _ := some ⟨0, 0, 0⟩
  flies _ := 0
  resource := 100
  quest := Quest.sampleDb
  missions := []
  occurs := []
  steps _ := []
  supplies _ := []
  pickups := 0

def sampleOutside : Outside ℤ := ⟨sampleBox, sampleFlyEnv true, ⟨.SUCCESS, [], [⟨5, 1, 1, 0⟩], 50, fun _ => 1⟩⟩

/-- weapons and their reward, an armor for an advertisement, flies, a pickup, and weapons again -/
def sampleGameOps : List (GameOp ℤ) :=
  [.summon ⟨5, 1⟩ ⟨.EQUIPMENT, 0, 3, .COMMON⟩ sampleOutside, .rewardEquipment 0,
    .summon ⟨5, 1⟩ ⟨.EQUIPMENT, 1, 1, .ADS⟩ sampleOutside, .summon ⟨5, 1⟩ ⟨.FLY, 0, 1, .COMMON⟩ sampleOutside,
    .summon ⟨5, 1⟩ ⟨.PICKUP, 0, 1, .COMMON⟩ sampleOutside, .summon ⟨5, 1⟩ ⟨.EQUIPMENT, 0, 9, .COMMON⟩ sampleOutside]

theorem sampleGame_setting : Setting sampleGameEnv ⟨5, 1⟩ (fun _ => 3) (fun _ => ⟨1, 0, 0, 0, 5⟩) sampleGame.quest where
  types := by decide
  levels _ _ _ := by
    have hL : Levels sampleGameEnv.equip 0 3 := ⟨by decide, by decide⟩
    exact ⟨hL.levels, hL.positive⟩
  normal _ _ _ := by
    have hnormal : Normal (nextCount sampleGameEnv.equip 0) 3 ⟨1, 0⟩ := ⟨by decide, by decide, by decide⟩
    exact hnormal
  dayID := by decide
  weekID := by decide
  main := ⟨_, _, rfl, rfl⟩
  day := by unfold Quest.Complete; decide
  week := by unfold Quest.Complete; decide

theorem summons_counted_sample :
    Counted sampleGameEnv ⟨5, 1⟩ (fun _ => 3) (fun _ => ⟨1, 0, 0, 0, 5⟩) sampleGame.quest
        (run (gameStep sampleGameEnv) sampleGame sampleGameOps) ∧
      (run (gameStep sampleGameEnv) sampleGame sampleGameOps).occurs = [(7, 3), (8, 2), (32, 1), (31, 1), (7, 9)] := by
  refine ⟨summons_counted sampleGame_setting ⟨fun _ _ _ => ⟨rfl, by decide⟩, ⟨rfl, rfl, rfl⟩, fun _ => ⟨rfl, rfl⟩⟩ ?_,
    by decide⟩
  intro o ho c' req out hc
  subst hc
  simp only [sampleGameOps, List.mem_cons, GameOp.summon.injEq, reduceCtorEq, List.not_mem_nil, or_false, false_or] at ho
  rcases ho with ⟨hc, -⟩ | ⟨hc, -⟩ | ⟨hc, -⟩ | ⟨hc, -⟩ | ⟨hc, -⟩ <;> exact hc

end

end GameServer.Summon
