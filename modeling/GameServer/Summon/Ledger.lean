/-
The equipment summon ledger over whole runs.

`Inv.virtual` adds the exchanged experience back to the stored position. A claim does not move it (`Inv.reward`), and a
summon of n draws moves it n points up the ladder (`Inv.summon`), so after any run it is the starting position moved by the
number of summons, whatever the requests were (`run_inv_row`). The total, the bounds and the independence of the split
follow. The claimed steps are exactly the levels between the two reward steps (`Inv.steps`).

What the ledger logs is what the helper has carried out: the stored goods are those of the start with the logged rewards
supplied and the costs consumed, in order, and the replies list what came of it (`run_paid`).
-/
import Mathlib.Tactic
import GameServer.Core.Run
import GameServer.Core.Ladder
import GameServer.Core.Keyed
import GameServer.Core.Payout
import GameServer.Summon.Equipment

namespace GameServer.Summon

open GameServer.Core GameServer.Core.Ladder

section

variable {ρ : Type} (E : Env ρ) (type : ℤ)

/-! ## Runs -/

inductive Call where
  | summon (count : ℤ) (cost_type : CostType) (box : Box)
  | reward

/-- the stored rows, the number of summons, the reward steps gone through and the supplied rewards -/
structure History (ρ : Type) where
  db : Db ρ
  summons : ℕ
  steps : List ℤ
  supplies : List Supply

def serve (h : History ρ) : Call → History ρ
  | .summon count cost_type box =>
    let r := summonEquipment E type count cost_type box h.db
    ⟨r.db, h.summons + r.SummonResults.length, h.steps, h.supplies⟩
  | .reward =>
    let r := summonReward E type h.db
    ⟨r.db, h.summons, h.steps ++ r.steps, h.supplies ++ r.supplies⟩

/-- the number of exchanges at the last level -/
def repeats (supplies : List Supply) : ℕ := supplies.countP fun s => s.source = .repeated

/-! ## The level table -/

def nextCount (level : ℤ) : ℤ :=
  match E.byTypeLevel type level with
  | some info => info.next_count
  | none => 0

/-- levels 1..M in order, each with a positive threshold -/
structure Levels (M : ℤ) : Prop where
  levels : (E.table type).map (·.level) = Int.range 1 (M + 1)
  positive : ∀ row ∈ E.table type, 0 < row.next_count

section Table

variable {E type} {M : ℤ} (hL : Levels E type M)
include hL

theorem Levels.nodup : ((E.table type).map (·.level)).Nodup := by
  rw [hL.levels]
  exact Range.nodup 1 (M + 1)

theorem Levels.row {l : ℤ} (h1 : 1 ≤ l) (h2 : l ≤ M) :
    ∃ info, E.byTypeLevel type l = some info ∧ info.level = l ∧ info.next_count = nextCount E type l ∧
      0 < info.next_count := by
  have hmem : l ∈ (E.table type).map (·.level) := by
    rw [hL.levels, Int.mem_range_iff]
    omega
  obtain ⟨info, hinfo, hlevel⟩ := List.mem_map.1 hmem
  have hfind : E.byTypeLevel type l = some info := (Keyed.find_eq_some hL.nodup).2 ⟨hinfo, hlevel⟩
  exact ⟨info, hfind, hlevel, by rw [nextCount, hfind], hL.positive info hinfo⟩

theorem Levels.none {l : ℤ} (h : M < l) : E.byTypeLevel type l = none := by
  apply Keyed.find_eq_none.2
  intro hmem
  rw [hL.levels, Int.mem_range_iff] at hmem
  omega

theorem Levels.nextCount_pos {l : ℤ} (h1 : 1 ≤ l) (h2 : l ≤ M) : 0 < nextCount E type l := by
  obtain ⟨info, -, -, hnext, hpos⟩ := hL.row h1 h2
  exact hnext ▸ hpos

/-- the last row of the table is the row of the last level -/
theorem Levels.last (hM : 1 ≤ M) : ∃ info, (E.table type).getLast? = some info ∧ info.level = M ∧
    info.next_count = nextCount E type M := by
  have hlast : ((E.table type).map (·.level)).getLast? = some M := by
    rw [hL.levels, Range.succ hM, List.getLast?_append]
    rfl
  rw [List.getLast?_map, Option.map_eq_some_iff] at hlast
  obtain ⟨info, hinfo, hlevel⟩ := hlast
  have hfind : E.byTypeLevel type M = some info :=
    (Keyed.find_eq_some hL.nodup).2 ⟨List.mem_of_getLast? hinfo, hlevel⟩
  exact ⟨info, hinfo, hlevel, by rw [nextCount, hfind]⟩

end Table

/-! ## Draws climb the ladder -/

def Work.pos (w : Work) : Pos := ⟨w.level, w.exp⟩

def SummonRow.pos (row : SummonRow) : Pos := ⟨row.level, row.exp⟩

section Draws

variable {E type} {M : ℤ} (hL : Levels E type M)
include hL

/-- one summon is one point, and the table row moves along -/
theorem gainExp_up {w : Work} (h1 : 1 ≤ w.level) (hinfo : E.byTypeLevel type w.level = some w.info) :
    (gainExp E type w).pos = up (nextCount E type) M w.pos ∧
      E.byTypeLevel type (gainExp E type w).level = some (gainExp E type w).info := by
  have hnext : w.info.next_count = nextCount E type w.level := by rw [nextCount, hinfo]
  unfold gainExp up Work.pos
  dsimp only
  rw [hnext]
  split_ifs with hfull hup hup
  · obtain ⟨info, hrow, -⟩ := hL.row (l := w.level + 1) (by omega) (by omega)
    rw [hrow]
    exact ⟨rfl, hrow⟩
  · rw [hL.none (by omega : M < w.level + 1)]
    exact ⟨rfl, hinfo⟩
  · exact absurd hup.1 hfull
  · exact ⟨rfl, hinfo⟩

theorem summonDraw_up {box : Box} {n i : ℕ} {w w' : Work} (h : summonDraw E type box n i w = some w')
    (h1 : 1 ≤ w.level) (h2 : w.level ≤ M) (hinfo : E.byTypeLevel type w.level = some w.info) :
    w'.pos = (up (nextCount E type) M)^[n] w.pos ∧ w'.summon_results.length = w.summon_results.length + n := by
  induction n generalizing i w with
  | zero =>
    rw [summonDraw, Option.some.injEq] at h
    subst h
    exact ⟨rfl, rfl⟩
  | succ n ih =>
    rw [summonDraw] at h
    split at h
    · cases h
    · rename_i result_idx result_count _ _
      obtain ⟨hpos, hinfo'⟩ := gainExp_up hL h1 hinfo
      have hlevel : (gainExp E type w).level = (up (nextCount E type) M w.pos).level := congrArg Pos.level hpos
      have hle : w.level ≤ (up (nextCount E type) M w.pos).level := up_level w.pos
      have hM : (up (nextCount E type) M w.pos).level ≤ M := up_level_le h2
      obtain ⟨i1, i2⟩ := ih h (by change 1 ≤ (gainExp E type w).level; omega)
        (by change (gainExp E type w).level ≤ M; omega) hinfo'
      have hpos' : (addResult result_idx result_count (gainExp E type w)).pos = up (nextCount E type) M w.pos := hpos
      have hlen : (gainExp E type w).summon_results = w.summon_results := by
        unfold gainExp
        dsimp only
        split_ifs
        · split <;> rfl
        · rfl
      refine ⟨by rw [i1, hpos', Function.iterate_succ_apply], ?_⟩
      rw [i2, addResult, hlen, List.length_append, List.length_singleton]
      omega

end Draws


/-- what the read transaction hands on -/
theorem summonRead_ok {count : ℤ} {cost_type : CostType} {db : Db ρ} {row : SummonRow} {w : Work}
    (hrow : db.summon = some row) (h : summonRead E type count cost_type db = .ok w) :
    w.pos = row.pos ∧ levelInfo E type row.level = some w.info ∧ w.summon_results = [] := by
  unfold summonRead at h
  rw [hrow] at h
  dsimp only at h
  split at h
  · cases h
  · rename_i info hinfo
    rw [hinfo]
    split at h
    · split_ifs at h
      cases h
      exact ⟨rfl, rfl, rfl⟩
    · split_ifs at h
      split at h
      · cases h
      · split_ifs at h
        cases h
        exact ⟨rfl, rfl, rfl⟩
    · split at h
      · cases h
      · cases h
        exact ⟨rfl, rfl, rfl⟩
    · cases h

/-- **A summon request moves the stored position up by the number of its summons**, and leaves the reward step alone. -/
theorem summonEquipment_up {M : ℤ} (hL : Levels E type M) (count : ℤ) (cost_type : CostType) (box : Box) {db : Db ρ}
    {row : SummonRow} (hrow : db.summon = some row) (h1 : 1 ≤ row.level) (h2 : row.level ≤ M) :
    let r := summonEquipment E type count cost_type box db
    ∃ row', r.db.summon = some row' ∧ row'.reward_step = row.reward_step ∧
      row'.pos = (up (nextCount E type) M)^[r.SummonResults.length] row.pos := by
  unfold summonEquipment
  split
  · exact ⟨row, hrow, rfl, rfl⟩
  · rename_i w hread
    obtain ⟨hpos, hlevel, hnil⟩ := summonRead_ok E type hrow hread
    obtain ⟨info, hinfo, -⟩ := hL.row h1 h2
    have hw : w.level = row.level := congrArg Pos.level hpos
    have hsync : E.byTypeLevel type w.level = some w.info := by
      rw [hw, ← hlevel, levelInfo, hinfo]
    split
    · exact ⟨row, hrow, rfl, rfl⟩
    · rename_i w' hdraw
      obtain ⟨hpos', hlen⟩ := summonDraw_up hL hdraw (hw ▸ h1) (hw ▸ h2) hsync
      unfold summonWrite
      split
      · exact ⟨row, hrow, rfl, rfl⟩
      · rw [hnil, List.length_nil, Nat.zero_add] at hlen
        have hup : w'.pos = (up (nextCount E type) M)^[w'.summon_results.length] row.pos := by
          rw [hlen, ← hpos]
          exact hpos'
        refine ⟨{ row with
          level := w'.level, exp := w'.exp, ads_count := w'.ads_count, ads_reset_day := w'.ads_reset_day }, ?_, rfl, hup⟩
        rw [hrow]
        rfl

/-! ## Claims keep the virtual position -/

/-- the supply of one level step, if its row has a reward -/
def stepSupply (step_level : ℤ) : Option Supply :=
  match E.byTypeLevel type step_level with
  | none => none
  | some info =>
    if info.reward_code = 0 then none else some ⟨.step step_level, info.reward_code, info.reward_count⟩

theorem rewardStep_supplies (step_level : ℤ) (s : Supplied ρ) :
    (rewardStep E type step_level s).supplies = s.supplies ++ (stepSupply E type step_level).toList := by
  cases hinfo : E.byTypeLevel type step_level with
  | none => simp [rewardStep, stepSupply, hinfo]
  | some info =>
    by_cases hcode : info.reward_code = 0
    · simp [rewardStep, stepSupply, hinfo, hcode]
    · simp [rewardStep, stepSupply, hinfo, hcode, supply]

theorem rewardSteps_supplies (steps : List ℤ) (s : Supplied ρ) :
    (steps.foldl (fun s step_level => rewardStep E type step_level s) s).supplies =
      s.supplies ++ steps.filterMap (stepSupply E type) := by
  induction steps generalizing s with
  | nil => simp
  | cons step_level steps ih =>
    rw [List.foldl_cons, ih, rewardStep_supplies, List.append_assoc]
    cases hs : stepSupply E type step_level with
    | none => simp [hs]
    | some x => simp [hs]

theorem exchange_eq (info : LevelRow) (n : ℕ) (exp : ℤ) (s : Supplied ρ) :
    (exchange E info n (exp, s)).1 = exp - n * info.next_count ∧
      (exchange E info n (exp, s)).2.supplies =
        s.supplies ++ List.replicate n ⟨.repeated, info.reward_code, info.reward_count⟩ := by
  induction n generalizing exp s with
  | zero => simp [exchange]
  | succ n ih =>
    obtain ⟨h1, h2⟩ := ih (exp - info.next_count) (supply E .repeated info s)
    rw [exchange]
    refine ⟨?_, ?_⟩
    · rw [h1]
      push_cast
      ring
    · rw [h2, List.replicate_succ, supply, List.append_assoc]
      rfl

theorem stepSupply_source {step_level : ℤ} {s : Supply} (h : stepSupply E type step_level = some s) :
    s.source = .step step_level := by
  unfold stepSupply at h
  split at h
  · cases h
  · split_ifs at h
    cases h
    rfl

/-- the exchanges and the step supplies of a log -/
theorem repeats_append (a b : List Supply) : repeats (a ++ b) = repeats a + repeats b := List.countP_append

theorem repeats_steps (steps : List ℤ) : repeats (steps.filterMap (stepSupply E type)) = 0 := by
  apply List.countP_eq_zero.2
  intro s hs
  obtain ⟨step_level, -, hstep⟩ := List.mem_filterMap.1 hs
  simp [stepSupply_source E type hstep]

theorem repeats_replicate (n : ℕ) (code count : ℤ) : repeats (List.replicate n ⟨.repeated, code, count⟩) = n := by
  simp [repeats, List.countP_replicate]

theorem filter_steps (steps : List ℤ) :
    (steps.filterMap (stepSupply E type)).filter (fun s => s.source ≠ .repeated) = steps.filterMap (stepSupply E type) := by
  apply List.filter_eq_self.2
  intro s hs
  obtain ⟨step_level, -, hstep⟩ := List.mem_filterMap.1 hs
  simp [stepSupply_source E type hstep]

/-- what the exchange leaves of the experience -/
theorem exchange_rest (exp : ℤ) {need : ℤ} (hneed : 0 < need) :
    exp - (exp.tdiv need).toNat * need < need ∧ (0 ≤ exp → 0 ≤ exp - (exp.tdiv need).toNat * need) ∧
      (exp < 0 → (exp.tdiv need).toNat = 0) := by
  rcases le_or_gt 0 exp with hexp | hexp
  · have hdiv : (((exp.tdiv need).toNat : ℕ) : ℤ) = exp / need := by
      rw [Int.toNat_of_nonneg (Int.tdiv_nonneg hexp hneed.le), Int.tdiv_eq_ediv_of_nonneg hexp]
    have hmod : exp - exp / need * need = exp % need :=
      calc exp - exp / need * need = exp - need * (exp / need) := by rw [mul_comm]
        _ = exp % need := (Int.emod_def exp need).symm
    rw [hdiv, hmod]
    exact ⟨Int.emod_lt_of_pos exp hneed, fun _ => Int.emod_nonneg exp hneed.ne', fun h => absurd hexp (not_le.2 h)⟩
  · -- a negative value exchanges nothing
    have hdiv : exp.tdiv need ≤ 0 := by
      have hneg : 0 ≤ (-exp).tdiv need := Int.tdiv_nonneg (by omega) hneed.le
      rw [Int.neg_tdiv] at hneg
      omega
    rw [Int.toNat_of_nonpos hdiv]
    exact ⟨by push_cast; omega, fun h => by omega, fun _ => rfl⟩

/-! ## What is paid -/

/-- a call of the helper: a reward is supplied, or a cost is consumed -/
inductive Good where
  | supply (s : Supply)
  | cost (idx count : ℤ)

/-- `SupplyUserResourceAsCommander` and `ConsumeUserResource` -/
def Good.pay (resource : ρ) : Good → Option (ρ × List ResultData)
  | .supply s => some (E.supplyUserResource resource s.code s.count)
  | .cost idx count => E.consumeUserResource resource idx count

def Good.supplied : Good → Option Supply
  | .supply s => some s
  | .cost _ _ => none

/-- claims supply, summons cost -/
def Good.SentBy : Call → Good → Prop
  | .summon _ _ _, .cost _ _ => True
  | .reward, .supply _ => True
  | _, _ => False

/-- `RewardItems` of the reply -/
def rewardItems (h : History ρ) : Call → List ResultData
  | .summon count cost_type box => (summonEquipment E type count cost_type box h.db).RewardItems
  | .reward => (summonReward E type h.db).RewardItems

/-- what a request has supplied so far is in the resources and in its entries -/
def Supplied.Paid (resource : ρ) (s : Supplied ρ) : Prop :=
  Payout.carry (Good.pay E) resource (s.supplies.map Good.supply) = some (s.resource, s.resultDatas)

/-- what supplies keep, a claim keeps -/
theorem summonReward_rule {P : Supplied ρ → Prop} (db : Db ρ) (hstart : P ⟨db.resource, [], []⟩)
    (hstep : ∀ step_level info s, P s → P (supply E (.step step_level) info s))
    (hrepeat : ∀ info s, (E.table type).getLast? = some info → P s → P (supply E .repeated info s)) :
    P ⟨(summonReward E type db).db.resource, (summonReward E type db).RewardItems, (summonReward E type db).supplies⟩ := by
  have hsteps : ∀ steps : List ℤ,
      P (steps.foldl (fun s step_level => rewardStep E type step_level s) ⟨db.resource, [], []⟩) := by
    intro steps
    refine List.foldlRecOn (motive := P) _ _ hstart fun s hs step_level _ => ?_
    unfold rewardStep
    split
    · exact hs
    · split_ifs
      · exact hs
      · exact hstep _ _ s hs
  have hexchange : ∀ info, (E.table type).getLast? = some info → ∀ (n : ℕ) (exp : ℤ) (s : Supplied ρ), P s →
      P (exchange E info n (exp, s)).2 := by
    intro info hlast n
    induction n with
    | zero => exact fun _ _ hs => hs
    | succ n ih => exact fun _ _ hs => ih _ _ (hrepeat info _ hlast hs)
  unfold summonReward
  cases db.summon with
  | none => exact hstart
  | some row =>
    cases hlast : (E.table type).getLast? with
    | none => exact hstart
    | some max_info =>
      dsimp only
      generalize (if row.reward_step < row.level then Int.range (row.reward_step + 1) (row.level + 1) else []) = steps
      generalize (if row.reward_step < row.level then row.level else row.reward_step) = reward_step
      generalize (if reward_step = row.level ∧ max_info.level = row.level then row.exp.tdiv max_info.next_count else 0) =
        reward_count
      by_cases hdue : row.reward_step < row.level ∨ 0 < reward_count
      · simp only [if_pos hdue]
        exact hexchange max_info hlast _ _ _ (hsteps steps)
      · simp only [if_neg hdue]
        exact hstart

/-- **A claim pays what it logs**: the logged rewards are supplied in order, and `RewardItems` are their entries. -/
theorem summonReward_paid (db : Db ρ) :
    Payout.carry (Good.pay E) db.resource ((summonReward E type db).supplies.map Good.supply) =
      some ((summonReward E type db).db.resource, (summonReward E type db).RewardItems) := by
  have hsupply : ∀ source info (s : Supplied ρ), s.Paid E db.resource → (supply E source info s).Paid E db.resource := by
    intro source info s hs
    unfold Supplied.Paid supply at *
    rw [List.map_append]
    exact Payout.carry_snoc hs rfl
  exact summonReward_rule E type (P := fun s => s.Paid E db.resource) db rfl (fun _ => hsupply _) fun info s _ =>
    hsupply _ info s

/-- a summon request pays its cost, if there is one -/
theorem summonEquipment_paid (count : ℤ) (cost_type : CostType) (box : Box) (db : Db ρ) :
    ∃ costs : List (ℤ × ℤ), Payout.carry (Good.pay E) db.resource (costs.map fun c => Good.cost c.1 c.2) =
      some ((summonEquipment E type count cost_type box db).db.resource,
        (summonEquipment E type count cost_type box db).RewardItems) := by
  unfold summonEquipment
  split
  · exact ⟨[], rfl⟩
  · split
    · exact ⟨[], rfl⟩
    · rename_i w _
      unfold summonWrite
      split
      · exact ⟨[], rfl⟩
      · rename_i resource resultDatas hcost
        unfold consumeCost at hcost
        split_ifs at hcost with hpos
        · exact ⟨[(w.summon_cost_idx, w.summon_cost)], Payout.carry_one hcost⟩
        · obtain ⟨rfl, rfl⟩ := Prod.mk.inj (Option.some.inj hcost)
          exact ⟨[], rfl⟩

/-- every exchange supplies the reward of the last level -/
def Exchanged (supplies : List Supply) : Prop :=
  ∀ s ∈ supplies, s.source = .repeated →
    ∃ info, (E.table type).getLast? = some info ∧ s.code = info.reward_code ∧ s.count = info.reward_count

theorem summonReward_exchanged (db : Db ρ) : Exchanged E type (summonReward E type db).supplies := by
  refine summonReward_rule E type (P := fun s => Exchanged E type s.supplies) db (fun s hs => by cases hs) ?_ ?_
  · intro step_level info s hs supply hsupply hsource
    rcases List.mem_append.1 hsupply with hsupply | hsupply
    · exact hs supply hsupply hsource
    · rw [List.mem_singleton.1 hsupply] at hsource
      cases hsource
  · intro info s hlast hs supply hsupply hsource
    rcases List.mem_append.1 hsupply with hsupply | hsupply
    · exact hs supply hsupply hsource
    · rw [List.mem_singleton.1 hsupply]
      exact ⟨info, hlast, rfl, rfl⟩

/-- the log of the supplies is what has been paid: from the goods at the start, with all entries of the replies -/
structure Paid (resource₀ : ρ) (calls : List Call) (h : History ρ) (items : List ResultData) : Prop where
  goods : ∃ goods : List Good, h.supplies = goods.filterMap Good.supplied ∧
    (∀ good ∈ goods, ∃ call ∈ calls, good.SentBy call) ∧
    Payout.carry (Good.pay E) resource₀ goods = some (h.db.resource, items)
  exchanged : Exchanged E type h.supplies

/-- step lemma -/
theorem serve_paid (h : History ρ) (call : Call) :
    ∃ goods : List Good, (serve E type h call).supplies = h.supplies ++ goods.filterMap Good.supplied ∧
      (∀ good ∈ goods, good.SentBy call) ∧
      Payout.carry (Good.pay E) h.db.resource goods = some ((serve E type h call).db.resource, rewardItems E type h call) := by
  cases call with
  | summon count cost_type box =>
    obtain ⟨costs, hcosts⟩ := summonEquipment_paid E type count cost_type box h.db
    refine ⟨_, ?_, ?_, hcosts⟩
    · have hnone : (costs.map fun c => Good.cost c.1 c.2).filterMap Good.supplied = [] := by simp [Good.supplied]
      rw [hnone, List.append_nil]
      rfl
    · intro good hgood
      obtain ⟨c, -, rfl⟩ := List.mem_map.1 hgood
      trivial
  | reward =>
    refine ⟨_, ?_, ?_, summonReward_paid E type h.db⟩
    · rw [List.filterMap_map]
      exact congrArg (h.supplies ++ ·) List.filterMap_some.symm
    · intro good hgood
      obtain ⟨s, -, rfl⟩ := List.mem_map.1 hgood
      trivial

/-- run lemma -/
theorem run_paid (db : Db ρ) (calls : List Call) :
    Paid E type db.resource calls (run (serve E type) ⟨db, 0, [], []⟩ calls)
      (Payout.gathered (serve E type) (rewardItems E type) ⟨db, 0, [], []⟩ calls) := by
  constructor
  · exact Payout.run_carries (serve_paid E type) ⟨db, 0, [], []⟩ calls
  · refine run_inv_all (I := fun h : History ρ => Exchanged E type h.supplies) ?_ (fun s hs => by cases hs) calls
    intro h call hexchanged
    cases call with
    | summon count cost_type box => exact hexchanged
    | reward =>
      intro s hs
      rcases List.mem_append.1 hs with hs | hs
      · exact hexchanged s hs
      · exact summonReward_exchanged E type h.db s hs

/-- **What a claim leaves.** All steps up to the level are gone through, and at the last level the experience is exchanged
until less than one threshold is left. -/
structure Claimed (M : ℤ) (row : SummonRow) (r : RewardReply ρ) (row' : SummonRow) : Prop where
  stored : r.db.summon = some row'
  level : row'.level = row.level
  step : row'.reward_step = row.level
  steps : r.steps = Int.range (row.reward_step + 1) (row.level + 1)
  supplies : r.supplies.filter (fun s => s.source ≠ .repeated) = r.steps.filterMap (stepSupply E type)
  exp : row'.exp + nextCount E type M * repeats r.supplies = row.exp
  below : row.level < M → repeats r.supplies = 0
  nonneg : 0 ≤ row.exp → 0 ≤ row'.exp
  negative : row.exp < 0 → repeats r.supplies = 0
  top : row.level = M → row'.exp < nextCount E type M

/-- the exchanges that are due, `$count` of a claim -/
def exchanges (M : ℤ) (row : SummonRow) : ℤ := if M = row.level then row.exp.tdiv (nextCount E type M) else 0

theorem exchanges_below {M : ℤ} {row : SummonRow} (h : row.level < M) : (exchanges E type M row).toNat = 0 := by
  rw [exchanges, if_neg h.ne']
  rfl

/-- the experience after the exchanges -/
theorem exchanges_rest {M : ℤ} (hpos : 0 < nextCount E type M) (row : SummonRow) :
    (row.level = M → row.exp - (exchanges E type M row).toNat * nextCount E type M < nextCount E type M) ∧
      (0 ≤ row.exp → 0 ≤ row.exp - (exchanges E type M row).toNat * nextCount E type M) ∧
      (row.exp < 0 → (exchanges E type M row).toNat = 0) := by
  obtain ⟨h1, h2, h3⟩ := exchange_rest row.exp hpos
  unfold exchanges
  split_ifs with hM
  · exact ⟨fun _ => h1, h2, h3⟩
  · exact ⟨fun h => absurd h.symm hM, fun h0 => by simpa using h0, fun _ => rfl⟩

theorem summonReward_claimed {M : ℤ} (hL : Levels E type M) {db : Db ρ} {row : SummonRow} (hrow : db.summon = some row)
    (h1 : 1 ≤ row.level) (h2 : row.level ≤ M) (hstep : row.reward_step ≤ row.level) :
    ∃ row', Claimed E type M row (summonReward E type db) row' := by
  obtain ⟨info, hlast, hlevel, hnext⟩ := hL.last (h1.trans h2)
  obtain ⟨htop, hnonneg, hnegative⟩ := exchanges_rest E type (hL.nextCount_pos (h1.trans h2) le_rfl) row
  unfold summonReward
  simp only [hrow, hlast, Range.catch_up_steps hstep, Range.catch_up hstep, hlevel, hnext, true_and]
  change ∃ row', Claimed E type M row (if row.reward_step < row.level ∨ 0 < exchanges E type M row then _ else _) row'
  set count := exchanges E type M row with hcount
  set steps := Int.range (row.reward_step + 1) (row.level + 1) with hrange
  obtain ⟨hexp, hsupplies⟩ := exchange_eq E info count.toNat row.exp
    (steps.foldl (fun s step_level => rewardStep E type step_level s) ⟨db.resource, [], []⟩)
  rw [rewardSteps_supplies, List.nil_append] at hsupplies
  rw [hnext] at hexp
  have hrep : repeats (exchange E info count.toNat (row.exp, steps.foldl
      (fun s step_level => rewardStep E type step_level s) ⟨db.resource, [], []⟩)).2.supplies = count.toNat := by
    rw [hsupplies, repeats_append, repeats_steps, repeats_replicate, Nat.zero_add]
  by_cases hdone : row.reward_step < row.level ∨ 0 < count
  · rw [if_pos hdone]
    refine ⟨_, rfl, rfl, rfl, rfl, ?_, ?_, ?_, ?_, ?_, ?_⟩
    · change (exchange E info count.toNat _).2.supplies.filter _ = _
      rw [hsupplies, List.filter_append, filter_steps]
      simp
    · change (exchange E info count.toNat _).1 + _ * (repeats (exchange E info count.toNat _).2.supplies : ℤ) = _
      rw [hrep, hexp]
      ring
    · exact fun hlt => hrep.trans (exchanges_below E type hlt)
    · exact fun h0 => (hnonneg h0).trans_eq hexp.symm
    · exact fun h0 => hrep.trans (hnegative h0)
    · exact fun hM => hexp.trans_lt (htop hM)
  · -- nothing was due
    rw [if_neg hdone]
    rw [not_or, not_lt, not_lt] at hdone
    have hzero : count.toNat = 0 := Int.toNat_of_nonpos hdone.2
    have heq : row.reward_step = row.level := le_antisymm hstep hdone.1
    rw [hzero] at htop
    refine ⟨row, hrow, rfl, heq, ?_, rfl, ?_, fun _ => rfl, fun h => h, fun _ => rfl, fun h => by simpa using htop h⟩
    · rw [heq, Range.self]
    · simp [repeats]

/-! ## Whole runs -/

/-- what a reached state has in common with the starting row -/
structure Inv (M : ℤ) (row₀ : SummonRow) (h : History ρ) (row : SummonRow) : Prop where
  stored : h.db.summon = some row
  virtual : (⟨row.level, row.exp + nextCount E type M * repeats h.supplies⟩ : Pos) =
    (up (nextCount E type) M)^[h.summons] row₀.pos
  below : row.level < M → repeats h.supplies = 0
  rest : 0 < repeats h.supplies → 0 ≤ row.exp
  nonneg : 0 ≤ row₀.exp → 0 ≤ row.exp
  step_ge : row₀.reward_step ≤ row.reward_step
  step_le : row.reward_step ≤ row.level
  steps : h.steps = Int.range (row₀.reward_step + 1) (row.reward_step + 1)
  supplies : h.supplies.filter (fun s => s.source ≠ .repeated) = h.steps.filterMap (stepSupply E type)

section Runs

variable {E type} {M : ℤ} (hL : Levels E type M) {row₀ : SummonRow} (hnormal : Normal (nextCount E type) M row₀.pos)
include hL hnormal

/-- the virtual position is in normal form -/
theorem Inv.normal {h : History ρ} {row : SummonRow} (hinv : Inv E type M row₀ h row) :
    1 ≤ row.level ∧ row.level ≤ M ∧ (row.level < M → row.exp < nextCount E type row.level) := by
  have hn := iterate_normal (fun l h1 h2 => hL.nextCount_pos h1 h2) hnormal h.summons
  rw [← hinv.virtual] at hn
  refine ⟨hn.level_pos, hn.level_le, fun hlt => ?_⟩
  have hexp := hn.exp_lt hlt
  simpa [hinv.below hlt] using hexp

/-- step lemma of a request -/
theorem Inv.summon {h : History ρ} {row : SummonRow} (hinv : Inv E type M row₀ h row) (count : ℤ) (cost_type : CostType)
    (box : Box) :
    ∃ row', Inv E type M row₀ (serve E type h (.summon count cost_type box)) row' ∧ row.level ≤ row'.level ∧
      row.reward_step ≤ row'.reward_step := by
  obtain ⟨h1, h2, -⟩ := hinv.normal hL hnormal
  obtain ⟨row', hrow', hstep', hpos'⟩ := summonEquipment_up E type hL count cost_type box hinv.stored h1 h2
  set n := (summonEquipment E type count cost_type box h.db).SummonResults.length with hn
  have hlevel : row.level ≤ row'.level := by
    have hiter : row.pos.level ≤ ((up (nextCount E type) M)^[n] row.pos).level := iterate_level n
    rwa [← hpos'] at hiter
  have hnonneg : 0 ≤ row.exp → 0 ≤ row'.exp := by
    intro h0
    have hiter : 0 ≤ ((up (nextCount E type) M)^[n] row.pos).exp := iterate_exp_nonneg h0 n
    rwa [← hpos'] at hiter
  refine ⟨row', ⟨hrow', ?_, fun hlt => hinv.below (hlevel.trans_lt hlt), fun hr => hnonneg (hinv.rest hr),
    fun h0 => hnonneg (hinv.nonneg h0), hinv.step_ge.trans hstep'.ge, hstep'.le.trans (hinv.step_le.trans hlevel),
    hstep' ▸ hinv.steps, hinv.supplies⟩, hlevel, hstep'.ge⟩
  have hsum : (serve E type h (.summon count cost_type box)).summons = n + h.summons := Nat.add_comm _ _
  have hrep : (serve E type h (.summon count cost_type box)).supplies = h.supplies := rfl
  rw [hsum, hrep, Function.iterate_add_apply, ← hinv.virtual]
  rcases h2.lt_or_eq with hlt | heq
  · rw [hinv.below hlt]
    simpa [SummonRow.pos] using hpos'
  · -- at the top the exchanged experience stays aside
    have htop : row.pos = ⟨M, row.exp⟩ := by rw [SummonRow.pos, heq]
    rw [htop, iterate_top] at hpos'
    have hl : row'.level = M := congrArg Pos.level hpos'
    have he : row'.exp = row.exp + n := congrArg Pos.exp hpos'
    rw [heq, iterate_top, hl, he]
    simp only [Pos.mk.injEq, true_and]
    ring

/-- step lemma of a claim -/
theorem Inv.reward {h : History ρ} {row : SummonRow} (hinv : Inv E type M row₀ h row) :
    ∃ row', Inv E type M row₀ (serve E type h .reward) row' ∧ Claimed E type M row (summonReward E type h.db) row' := by
  obtain ⟨h1, h2, -⟩ := hinv.normal hL hnormal
  obtain ⟨row', hc⟩ := summonReward_claimed E type hL hinv.stored h1 h2 hinv.step_le
  have hsum : (serve E type h .reward).summons = h.summons := rfl
  have hsteps : (serve E type h .reward).steps = h.steps ++ (summonReward E type h.db).steps := rfl
  have hsupplies : (serve E type h .reward).supplies = h.supplies ++ (summonReward E type h.db).supplies := rfl
  have hrep : repeats (serve E type h .reward).supplies =
      repeats h.supplies + repeats (summonReward E type h.db).supplies := repeats_append _ _
  have hexp := hc.exp
  refine ⟨row', ⟨hc.stored, ?_, fun hlt => ?_, fun hr => ?_, fun h0 => hc.nonneg (hinv.nonneg h0), ?_, ?_, ?_, ?_⟩, hc⟩
  · rw [hsum, hrep, hc.level, ← hinv.virtual, Pos.mk.injEq]
    refine ⟨rfl, ?_⟩
    push_cast
    linarith
  · rw [hc.level] at hlt
    rw [hrep, hinv.below hlt, hc.below hlt]
  · by_cases h0 : row.exp < 0
    · rw [hrep, hc.negative h0] at hr
      exact absurd (hinv.rest hr) (not_le.2 h0)
    · exact hc.nonneg (not_lt.1 h0)
  · exact hinv.step_ge.trans (hinv.step_le.trans hc.step.ge)
  · rw [hc.step, hc.level]
  · have hge := hinv.step_ge
    have hle := hinv.step_le
    rw [hsteps, hinv.steps, hc.steps, hc.step, Range.append (by omega) (by omega)]
  · rw [hsteps, hsupplies, List.filter_append, hinv.supplies, hc.supplies, List.filterMap_append]

/-- step lemma -/
theorem serve_inv {h : History ρ} {row : SummonRow} (hinv : Inv E type M row₀ h row) (call : Call) :
    ∃ row', Inv E type M row₀ (serve E type h call) row' ∧ row.level ≤ row'.level ∧
      row.reward_step ≤ row'.reward_step := by
  cases call with
  | summon count cost_type box => exact hinv.summon hL hnormal count cost_type box
  | reward =>
    obtain ⟨row', hinv', hc⟩ := hinv.reward hL hnormal
    exact ⟨row', hinv', hc.level.ge, hinv.step_le.trans hc.step.ge⟩

/-- run lemma -/
theorem run_inv_row {db : Db ρ} (hrow : db.summon = some row₀) (hstep : row₀.reward_step ≤ row₀.level)
    (calls : List Call) : ∃ row, Inv E type M row₀ (run (serve E type) ⟨db, 0, [], []⟩ calls) row := by
  have hstart : Inv E type M row₀ (⟨db, 0, [], []⟩ : History ρ) row₀ :=
    ⟨hrow, by simp [repeats, SummonRow.pos], fun _ => rfl, fun h => absurd h (lt_irrefl 0), fun h => h, le_rfl, hstep,
      (Range.self _).symm, rfl⟩
  refine run_inv_all (I := fun h => ∃ row, Inv E type M row₀ h row) ?_ ⟨row₀, hstart⟩ calls
  rintro h call ⟨row, hinv⟩
  obtain ⟨row', hinv', -⟩ := serve_inv hL hnormal hinv call
  exact ⟨row', hinv'⟩

end Runs

/-- less than one threshold is left, so no more exchanges were possible -/
theorem rest_le {need e e' : ℤ} {n n' : ℕ} (hneed : 0 < need) (heq : e + need * n = e' + need * n') (h : e < need)
    (hn' : 0 < n' → 0 ≤ e') : n' ≤ n := by
  by_contra hlt
  rw [not_le] at hlt
  have he' := hn' (by omega)
  have hless : e + need * n < e' + need * n' :=
    calc e + need * n < need + need * n := by linarith
      _ = need * (n + 1) := by ring
      _ ≤ need * n' := mul_le_mul_of_nonneg_left (by exact_mod_cast hlt) hneed.le
      _ ≤ e' + need * n' := by linarith
  exact hless.ne heq

theorem rest_unique {need e e' : ℤ} {n n' : ℕ} (hneed : 0 < need) (heq : e + need * n = e' + need * n') (h : e < need)
    (h' : e' < need) (hn : 0 < n → 0 ≤ e) (hn' : 0 < n' → 0 ≤ e') : n = n' :=
  le_antisymm (rest_le hneed heq.symm h' hn) (rest_le hneed heq h hn')

/-- the sum of the thresholds below a level -/
def levelSum (level : ℤ) : ℤ := ((Int.range 1 level).map (nextCount E type)).sum

/-- the ledger of a reached state, against the row of the start -/
structure Ledger (M : ℤ) (row₀ : SummonRow) (h : History ρ) (row : SummonRow) : Prop where
  stored : h.db.summon = some row
  level_le : row.level ≤ M
  exp_nonneg : 0 ≤ row₀.exp → 0 ≤ row.exp
  exp_lt : row.level < M → row.exp < nextCount E type row.level
  /-- no call lowers the level or the reward step -/
  monotone : ∀ call, ∃ row', (serve E type h call).db.summon = some row' ∧ row.level ≤ row'.level ∧
    row.reward_step ≤ row'.reward_step
  /-- experience is neither lost nor made -/
  conserved : levelSum E type row.level + row.exp + nextCount E type M * repeats h.supplies =
    levelSum E type row₀.level + row₀.exp + h.summons
  /-- every step between the reward steps was gone through once, and no other -/
  steps : ∀ step, h.steps.count step = if row₀.reward_step < step ∧ step ≤ row.reward_step then 1 else 0
  supplies : h.supplies.filter (fun s => s.source ≠ .repeated) = h.steps.filterMap (stepSupply E type)
  /-- a claim at the last level leaves less than one threshold -/
  claim : ∀ row', (serve E type h .reward).db.summon = some row' → row'.level = M → row'.exp < nextCount E type M

/-- two states are the same to a claim -/
structure SameClaim (h h' : History ρ) : Prop where
  row : ∀ row row', (serve E type h .reward).db.summon = some row → (serve E type h' .reward).db.summon = some row' →
    row.level = row'.level ∧ row.exp = row'.exp ∧ row.reward_step = row'.reward_step
  steps : (serve E type h .reward).steps = (serve E type h' .reward).steps
  repeats : repeats (serve E type h .reward).supplies = repeats (serve E type h' .reward).supplies

section Result

variable {E type} {M : ℤ} (hL : Levels E type M) {row₀ : SummonRow} (hnormal : Normal (nextCount E type) M row₀.pos)
include hL hnormal

theorem Inv.claim {h : History ρ} {row row' : SummonRow} (hinv : Inv E type M row₀ h row)
    (hrow' : (serve E type h .reward).db.summon = some row') :
    Inv E type M row₀ (serve E type h .reward) row' ∧ row'.reward_step = row'.level ∧
      (row'.level = M → row'.exp < nextCount E type M) := by
  obtain ⟨k, hk, hc⟩ := hinv.reward hL hnormal
  obtain rfl : k = row' := Option.some.inj (hk.stored.symm.trans hrow')
  exact ⟨hk, hc.step.trans hc.level.symm, fun hM => hc.top (hc.level.symm.trans hM)⟩

theorem Inv.ledger {h : History ρ} {row : SummonRow} (hinv : Inv E type M row₀ h row) : Ledger E type M row₀ h row := by
  obtain ⟨h1, h2, h3⟩ := hinv.normal hL hnormal
  refine ⟨hinv.stored, h2, hinv.nonneg, h3, fun call => ?_, ?_, fun step => ?_, hinv.supplies, fun row' hrow' =>
    (hinv.claim hL hnormal hrow').2.2⟩
  · obtain ⟨row', hinv', hlevel, hstep⟩ := serve_inv hL hnormal hinv call
    exact ⟨row', hinv'.stored, hlevel, hstep⟩
  · have htotal := iterate_total (fun l h1 h2 => hL.nextCount_pos h1 h2) hnormal h.summons
    rw [← hinv.virtual] at htotal
    simp only [total, SummonRow.pos] at htotal
    unfold levelSum
    linarith
  · rw [hinv.steps]
    have hnd := Range.nodup (row₀.reward_step + 1) (row.reward_step + 1)
    split_ifs with hin
    · exact List.count_eq_one_of_mem hnd (Int.mem_range_iff.2 ⟨by omega, by omega⟩)
    · refine List.count_eq_zero.2 fun hmem => hin ?_
      rw [Int.mem_range_iff] at hmem
      omega

/-- the number of summons decides everything after a claim -/
theorem Inv.sameClaim {h h' : History ρ} {row row' : SummonRow} (hinv : Inv E type M row₀ h row)
    (hinv' : Inv E type M row₀ h' row') (hsum : h.summons = h'.summons) : SameClaim E type h h' := by
  obtain ⟨k, hk, -⟩ := serve_inv hL hnormal hinv .reward
  obtain ⟨k', hk', -⟩ := serve_inv hL hnormal hinv' .reward
  obtain ⟨-, hstep, htop⟩ := hinv.claim hL hnormal hk.stored
  obtain ⟨-, hstep', htop'⟩ := hinv'.claim hL hnormal hk'.stored
  have hvirtual : (⟨k.level, k.exp + nextCount E type M * repeats (serve E type h .reward).supplies⟩ : Pos) =
      ⟨k'.level, k'.exp + nextCount E type M * repeats (serve E type h' .reward).supplies⟩ :=
    calc _ = (up (nextCount E type) M)^[h.summons] row₀.pos := hk.virtual
      _ = (up (nextCount E type) M)^[h'.summons] row₀.pos := by rw [hsum]
      _ = _ := hk'.virtual.symm
  have hlevel : k.level = k'.level := congrArg Pos.level hvirtual
  have hexp : k.exp + nextCount E type M * repeats (serve E type h .reward).supplies =
      k'.exp + nextCount E type M * repeats (serve E type h' .reward).supplies := congrArg Pos.exp hvirtual
  obtain ⟨h1, h2, -⟩ := hk.normal hL hnormal
  have hrep : repeats (serve E type h .reward).supplies = repeats (serve E type h' .reward).supplies := by
    rcases h2.lt_or_eq with hlt | heq
    · rw [hk.below hlt, hk'.below (hlevel ▸ hlt)]
    · exact rest_unique (hL.nextCount_pos (h1.trans h2) le_rfl) hexp (htop heq) (htop' (hlevel ▸ heq)) hk.rest hk'.rest
  refine ⟨?_, ?_, hrep⟩
  · intro r r' hr hr'
    obtain rfl : k = r := Option.some.inj (hk.stored.symm.trans hr)
    obtain rfl : k' = r' := Option.some.inj (hk'.stored.symm.trans hr')
    rw [hrep] at hexp
    exact ⟨hlevel, by linarith, by rw [hstep, hstep', hlevel]⟩
  · rw [hk.steps, hk'.steps, hstep, hstep', hlevel]

/-- **The equipment summon ledger.** In every run from a stored row in normal form the ledger balances, its supplies are what
the user's goods and the replies show, and everything a claim leaves depends on the number of summons only. -/
theorem summon_ledger {db : Db ρ} (hrow : db.summon = some row₀) (hstep : row₀.reward_step ≤ row₀.level)
    (calls : List Call) :
    (∃ row, Ledger E type M row₀ (run (serve E type) ⟨db, 0, [], []⟩ calls) row) ∧
      Paid E type db.resource calls (run (serve E type) ⟨db, 0, [], []⟩ calls)
        (Payout.gathered (serve E type) (rewardItems E type) ⟨db, 0, [], []⟩ calls) ∧
      ∀ calls', (run (serve E type) ⟨db, 0, [], []⟩ calls').summons =
          (run (serve E type) ⟨db, 0, [], []⟩ calls).summons →
        SameClaim E type (run (serve E type) ⟨db, 0, [], []⟩ calls') (run (serve E type) ⟨db, 0, [], []⟩ calls) := by
  obtain ⟨row, hinv⟩ := run_inv_row hL hnormal hrow hstep calls
  refine ⟨⟨row, hinv.ledger hL hnormal⟩, run_paid E type db calls, fun calls' hsum => ?_⟩
  obtain ⟨row', hinv'⟩ := run_inv_row hL hnormal hrow hstep calls'
  exact hinv'.sameClaim hL hnormal hinv hsum

end Result

/-- three levels of 2, 3 and 4 summons; the resource is the number of diamonds, and so are the rewards -/
def sampleEnv : Env ℤ where
  table type := if type = 0 then [⟨1, 2, 71, 501, 1⟩, ⟨2, 3, 72, 0, 0⟩, ⟨3, 4, 73, 503, 1⟩] else []
  SUMMON_EQUIPMENT_1_COUNT := 1
  SUMMON_EQUIPMENT_2_COUNT := 5
  SUMMON_EQUIPMENT_3_COUNT := 10
  SUMMON_EQUIPMENT_PRICE := 3
  SUMMON_EQUIPMENT_ADS_COUNT := 2
  SUMMON_ADS_LIMIT := 3
  DIAMOND := 1
  SUMMON_WEAPON_TICKET := 21
  SUMMON_ARMOR_TICKET := 22
  SUMMON_BAG_TICKET := 23
  WEAPON := 0
  ARMOR := 1
  BAG := 2
  getUserResource r _ := r
  getUserItemCount _ _ := 0
  consumeUserResource r _ cost := if r < cost then none else some (r - cost, [])
  supplyUserResource r code count := (r + count, [⟨code, count, r + count, 0⟩])
  watchAds count day limit := if count < limit then some (count + 1, day) else none
  mergeHelperResultData results := results.map fun d => (d.idx, d.result_count)

def sampleDb : Db ℤ := ⟨some ⟨1, 0, 0, 0, 5⟩, fun _ => none, 100⟩

/-- every box gives one item 9 -/
def sampleBox : Box := fun _ _ => [(9, 1)]

/-- a claim between two requests, one of them free -/
def sampleCalls : List Call :=
  [.summon 3 .COMMON sampleBox, .reward, .summon 10 .COMMON sampleBox, .summon 1 .ADS sampleBox,
    .summon 0 .COMMON sampleBox]

/-- fifteen summons: levels 1 and 2 took five, the other ten wait at level 3 for two exchanges; a last claim pays them after
the reward of level 3 -/
theorem summon_ledger_sample :
    ((run (serve sampleEnv 0) ⟨sampleDb, 0, [], []⟩ sampleCalls).db.summon = some ⟨3, 10, 2, 1, 5⟩ ∧
      (run (serve sampleEnv 0) ⟨sampleDb, 0, [], []⟩ (sampleCalls ++ [.reward])).db.summon = some ⟨3, 2, 3, 1, 5⟩ ∧
      repeats (run (serve sampleEnv 0) ⟨sampleDb, 0, [], []⟩ (sampleCalls ++ [.reward])).supplies = 2 ∧
      (run (serve sampleEnv 0) ⟨sampleDb, 0, [], []⟩ (sampleCalls ++ [.reward])).db.resource = 65) ∧
    (∃ row, Ledger sampleEnv 0 3 ⟨1, 0, 0, 0, 5⟩ (run (serve sampleEnv 0) ⟨sampleDb, 0, [], []⟩ sampleCalls) row) ∧
    Paid sampleEnv 0 100 (sampleCalls ++ [.reward])
      (run (serve sampleEnv 0) ⟨sampleDb, 0, [], []⟩ (sampleCalls ++ [.reward]))
      [⟨501, 1, 92, 0⟩, ⟨503, 1, 63, 0⟩, ⟨503, 1, 64, 0⟩, ⟨503, 1, 65, 0⟩] := by
  have hL : Levels sampleEnv 0 3 := ⟨by decide, by decide⟩
  have hrow : sampleDb.summon = some ⟨1, 0, 0, 0, 5⟩ := rfl
  have hruns := summon_ledger hL ⟨by decide, by decide, by decide⟩ hrow (by decide)
  have hitems : Payout.gathered (serve sampleEnv 0) (rewardItems sampleEnv 0) ⟨sampleDb, 0, [], []⟩
      (sampleCalls ++ [.reward]) = [⟨501, 1, 92, 0⟩, ⟨503, 1, 63, 0⟩, ⟨503, 1, 64, 0⟩, ⟨503, 1, 65, 0⟩] := by decide
  refine ⟨⟨by decide, by decide, by decide, by decide⟩, (hruns sampleCalls).1, ?_⟩
  rw [← hitems]
  exact (hruns (sampleCalls ++ [.reward])).2.1

end

end GameServer.Summon
