/-
Fly summons of one user and one index, `Python/Summon.py`: `sp_SummonFlyNew` and the fly part of `sp_SummonReward`.

`sp_SummonFlyNew` reads in one transaction (`flyRead`), draws without a connection (`flyDraw`), and pays, credits and
stores in a second one (`flyWrite`): a failed payment is rolled back, a failed credit is only logged. A ceiling reward
draws and credits in turn (`ceilingLoop`); a box without a result returns in the middle of the transaction.
- `summonFlyNew_iff`, `summonRewardFly_iff`: when a request is all-or-nothing;
- `fly_all_or_nothing_iff`: both together.

Not under src/: the table `708SummonFly`, the box draws and the outcomes of the stored procedure, each by the number of
its call, the `Helper` with its resources, and `WatchAds` (`FlyEnv`). A credit that fails changes nothing. Logs are left
out.
-/
import Mathlib.Tactic
import GameServer.Core.Credits
import GameServer.Summon.Equipment

namespace GameServer.Summon

open GameServer.Core

/-! ## Stored rows and tables -/

/-- a row of `TB_USER_SUMMON_FLY` -/
structure FlyRow where
  mileage : ℤ
  ads_count : ℤ
  ads_reset_day : ℤ
deriving DecidableEq, Repr

/-- the rows of one user and one index; `ρ` holds goods and items -/
structure FlyDb (ρ : Type) where
  summonFly : Option FlyRow
  /-- the count of a fly -/
  flies : ℤ → ℤ
  resource : ρ

structure FlyEnv (ρ : Type) where
  /-- `code` of `get708SummonFlyByTypeIdx(0, index)` -/
  table708 : ℤ → Option ℤ
  SUMMON_FLY_1_COUNT : ℤ
  SUMMON_FLY_3_COUNT : ℤ
  SUMMON_FLY_PRICE : ℤ
  SUMMON_FLY_ADS_COUNT : ℤ
  SUMMON_ADS_LIMIT : ℤ
  SUMMON_FLY_CEILING_REWARD : ℤ
  SUMMON_FLY_CEILING_REWARD_GROUP : ℤ
  DIAMOND : ℤ
  SUMMON_FLY_TICKET : ℤ
  getUserResource : ρ → ℤ → ℤ
  getUserItemCount : ρ → ℤ → ℤ
  /-- `none` if the helper's `Result` is false; the entries go to `ResultDatas` -/
  consumeUserResource : ρ → ℤ → ℤ → Option (ρ × List ResultData)
  watchAds : ℤ → ℤ → ℤ → Option (ℤ × ℤ)
  /-- `items` of the i-th `Get708SummonFlyResultByCode`, if its `result` is true -/
  summonFlyResult : ℕ → ℤ → Option (List ℤ)
  /-- whether the i-th `SP_USER_FLY_NEW_ADD` of a request answers 1 -/
  flyNewAdd : ℕ → ℤ × ℤ → Bool
  /-- the i-th `Get107RandomBoxProbResult(group, 1)` of a request -/
  randomBox : Box
  /-- whether the i-th supply of a fly credits it, with its entries for `ResultDatas` -/
  supplyUserFly : ℕ → ℤ → Bool × List ResultData

/-- the arguments of `sp_SummonFlyNew` after the user -/
structure FlyReq where
  index : ℤ
  count : ℤ
  cost_type : CostType
deriving DecidableEq, Repr

section

variable {ρ : Type} (E : FlyEnv ρ)

/-! ## `sp_SummonFlyNew` -/

/-- what a request carries to the second transaction -/
structure FlyWork where
  summon_code : ℤ
  mileage : ℤ
  ads_count : ℤ
  ads_reset_day : ℤ
  summon_count : ℤ
  summon_cost_idx : ℤ
  summon_cost : ℤ
deriving DecidableEq, Repr

/-- steps 1 to 3: the table, the stored row and the cost -/
def flyRead (req : FlyReq) (db : FlyDb ρ) : Except ResultType FlyWork :=
  match E.table708 req.index with
  | none => .error .FAIL
  | some summon_code =>
    match db.summonFly with
    | none => .error .FAIL
    | some row =>
      let work : FlyWork := ⟨summon_code, row.mileage, row.ads_count, row.ads_reset_day, req.count, E.DIAMOND, 0⟩
      match req.cost_type with
      | .COMMON =>
        if req.count ≤ 0 then .error .FAIL
        else if max E.SUMMON_FLY_1_COUNT E.SUMMON_FLY_3_COUNT < req.count then .error .NOT_CONDITION
        else
          let summon_cost := req.count * E.SUMMON_FLY_PRICE
          if E.getUserResource db.resource E.DIAMOND < summon_cost then .error .LACK_RESOURCE
          else .ok { work with summon_cost := summon_cost }
      | .TICKET =>
        if req.count ≤ 0 then .error .FAIL
        else if max E.SUMMON_FLY_1_COUNT E.SUMMON_FLY_3_COUNT < req.count then .error .NOT_CONDITION
        else if E.getUserItemCount db.resource E.SUMMON_FLY_TICKET < req.count then .error .LACK_RESOURCE
        else .ok { work with summon_cost_idx := E.SUMMON_FLY_TICKET, summon_cost := req.count }
      | .ADS =>
        match E.watchAds row.ads_count row.ads_reset_day E.SUMMON_ADS_LIMIT with
        | none => .error .NOT_SUMMON_ADS_COOL_TIME
        | some (ads_count, ads_reset_day) =>
          .ok { work with summon_count := E.SUMMON_FLY_ADS_COUNT, ads_count := ads_count, ads_reset_day := ads_reset_day }
      | .other => .error .FAIL

/-- step 4: `n` more draws from the i-th on, with the mileage and `summon_list` -/
def flyDraw (summon_code : ℤ) : ℕ → ℕ → ℤ × List ℤ → Option (ℤ × List ℤ)
  | 0, _, s => some s
  | n + 1, i, (mileage, summon_list) =>
    match E.summonFlyResult i summon_code with
    | none => none
    | some items => flyDraw summon_code n (i + 1) (mileage + 1, summon_list ++ items)

/-- step 5: the cost, if there is one -/
def flyCost (work : FlyWork) (db : FlyDb ρ) : Option (ρ × List ResultData) :=
  if 0 < work.summon_cost then E.consumeUserResource db.resource work.summon_cost_idx work.summon_cost
  else some (db.resource, [])

/-- `db_add_dic` -/
def dbAddDic (summon_list : List ℤ) : List (ℤ × ℤ) := Tally.addAll [] (summon_list.map fun idx => (idx, 1))

/-- step 6: the calls of `SP_USER_FLY_NEW_ADD` from the i-th on; one that fails is logged -/
def addFlies : ℕ → List (ℤ × ℤ) → (ℤ → ℤ) → ℤ → ℤ
  | _, [], flies => flies
  | i, e :: dic, flies => addFlies (i + 1) dic (if E.flyNewAdd i e then credit flies e else flies)

/-- `Fly` of the packet -/
structure FlyInfo where
  index : ℤ
  mileage : ℤ
  adsCount : ℤ
  adsResetDay : ℤ
deriving DecidableEq, Repr

structure FlyReply (ρ : Type) where
  result : ResultType
  RewardItems : List ResultData
  SummonResults : List ResultData
  Fly : Option FlyInfo
  db : FlyDb ρ

/-- steps 5 to 7; a failed cost is rolled back -/
def flyWrite (index : ℤ) (work : FlyWork) (mileage : ℤ) (summon_list : List ℤ) (db : FlyDb ρ) : FlyReply ρ :=
  match flyCost E work db with
  | none => ⟨.LACK_RESOURCE, [], [], none, db⟩
  | some (resource, resultDatas) =>
    ⟨.SUCCESS, resultDatas, summon_list.map fun idx => ⟨idx, 1, 1, 0⟩,
      some ⟨index, mileage, work.ads_count, work.ads_reset_day⟩,
      { summonFly := db.summonFly.map fun _ => ⟨mileage, work.ads_count, work.ads_reset_day⟩
        flies := addFlies E 0 (dbAddDic summon_list) db.flies
        resource := resource }⟩

/-- `sp_SummonFlyNew.execute` -/
def summonFlyNew (req : FlyReq) (db : FlyDb ρ) : FlyReply ρ :=
  match flyRead E req db with
  | .error result => ⟨result, [], [], none, db⟩
  | .ok work =>
    match flyDraw E work.summon_code work.summon_count.toNat 0 (work.mileage, []) with
    | none => ⟨.FAIL, [], [], none, db⟩
    | some (mileage, summon_list) => flyWrite E req.index work mileage summon_list db

/-! ## `sp_SummonReward`, flies -/

structure CeilingState where
  mileage : ℤ
  flies : ℤ → ℤ
  fly_codes : List ℤ
  resultDatas : List ResultData

/-- `n` more exchanges from the i-th on; false is a box without a result -/
def ceilingLoop : ℕ → ℕ → CeilingState → Bool × CeilingState
  | 0, _, s => (true, s)
  | n + 1, i, s =>
    let mileage := s.mileage - E.SUMMON_FLY_CEILING_REWARD
    match E.randomBox i E.SUMMON_FLY_CEILING_REWARD_GROUP with
    | [] => (false, { s with mileage := mileage })
    | (fly_idx, _) :: _ =>
      let supplied := E.supplyUserFly i fly_idx
      ceilingLoop n (i + 1)
        ⟨mileage, if supplied.1 then credit s.flies (fly_idx, 1) else s.flies, s.fly_codes ++ [fly_idx],
          s.resultDatas ++ supplied.2⟩

structure FlyRewardReply (ρ : Type) where
  result : ResultType
  Mileage : Option ℤ
  RewardItems : List ResultData
  db : FlyDb ρ

/-- `int(mileage / need_mileage)`, if the division does not raise an exception -/
def ceilingCount (mileage : ℤ) : ℤ := mileage.tdiv E.SUMMON_FLY_CEILING_REWARD

/-- `sp_SummonReward.execute` for `CSummonType.FLY`. The return in the loop leaves the transaction without a rollback. A
division by zero leaves the result that was set first. -/
def summonRewardFly (db : FlyDb ρ) : FlyRewardReply ρ :=
  match db.summonFly with
  | none => ⟨.FAIL, none, [], db⟩
  | some row =>
    if E.SUMMON_FLY_CEILING_REWARD = 0 then ⟨.FAIL, none, [], db⟩
    else if 0 < ceilingCount E row.mileage then
      match ceilingLoop E (ceilingCount E row.mileage).toNat 0 ⟨row.mileage, db.flies, [], []⟩ with
      | (false, s) => ⟨.FAIL, none, [], { db with flies := s.flies }⟩
      | (true, s) =>
        ⟨.SUCCESS, some s.mileage, s.resultDatas,
          { db with summonFly := some { row with mileage := s.mileage }, flies := s.flies }⟩
    else ⟨.ALREADY_REWARD, some row.mileage, [], db⟩

/-! ## All or nothing -/

/-- what a successful summon has done: every fly that was drawn is reported and credited, the mileage has grown by the
number of summons and the cost is paid -/
structure FlySummoned (work : FlyWork) (db : FlyDb ρ) (reply : FlyReply ρ) : Prop where
  drawn : ∃ mileage, flyDraw E work.summon_code work.summon_count.toNat 0 (work.mileage, []) =
    some (mileage, reply.SummonResults.map ResultData.idx)
  credited : reply.db.flies = creditAll db.flies (reply.SummonResults.map fun data => (data.idx, data.add_count))
  row : reply.db.summonFly = db.summonFly.map fun row =>
    ⟨row.mileage + work.summon_count.toNat, work.ads_count, work.ads_reset_day⟩
  paid : flyCost E work db = some (reply.db.resource, reply.RewardItems)

/-- success means that everything has happened, and any other result that nothing has -/
def FlyNewAllOrNothing (req : FlyReq) (db : FlyDb ρ) : Prop :=
  ((summonFlyNew E req db).result = .SUCCESS →
    ∃ work, flyRead E req db = .ok work ∧ FlySummoned E work db (summonFlyNew E req db)) ∧
  ((summonFlyNew E req db).result ≠ .SUCCESS → (summonFlyNew E req db).db = db)

/-- the fly of the i-th box of a ceiling reward -/
def boxFly (i : ℕ) : Option ℤ := (E.randomBox i E.SUMMON_FLY_CEILING_REWARD_GROUP).head?.map Prod.fst

/-- the flies of `n` boxes from the i-th on -/
def boxFlies (i n : ℕ) : List ℤ := (List.range' i n).filterMap (boxFly E)

def FlyRewardAllOrNothing (db : FlyDb ρ) : Prop :=
  ((summonRewardFly E db).result = .SUCCESS → ∃ row, db.summonFly = some row ∧
    (summonRewardFly E db).db.flies =
      creditAll db.flies ((boxFlies E 0 (ceilingCount E row.mileage).toNat).map fun idx => (idx, 1)) ∧
    (summonRewardFly E db).db.summonFly =
      some { row with mileage := row.mileage - ceilingCount E row.mileage * E.SUMMON_FLY_CEILING_REWARD } ∧
    (summonRewardFly E db).db.resource = db.resource) ∧
  ((summonRewardFly E db).result ≠ .SUCCESS → (summonRewardFly E db).db = db)

/-- every credit that a summon gets to succeeds -/
def EveryAddSucceeds (req : FlyReq) (db : FlyDb ρ) : Prop :=
  ∀ work mileage summon_list, flyRead E req db = .ok work →
    flyDraw E work.summon_code work.summon_count.toNat 0 (work.mileage, []) = some (mileage, summon_list) →
    flyCost E work db ≠ none → ∀ i e, (dbAddDic summon_list)[i]? = some e → E.flyNewAdd i e = true

/-- the first `m` supplies of a ceiling reward all have the outcome `b` -/
def SuppliesAre (b : Bool) (m : ℕ) : Prop := ∀ i < m, ∀ idx, boxFly E i = some idx → (E.supplyUserFly i idx).1 = b

/-- with `n` full boxes every supply succeeds, and none does before an empty box -/
structure SuppliesMatch (n : ℕ) : Prop where
  full : (∀ i < n, boxFly E i ≠ none) → SuppliesAre E true n
  cut : ∀ m < n, boxFly E m = none → (∀ i < m, boxFly E i ≠ none) → SuppliesAre E false m

/-- the condition for a ceiling reward -/
def CeilingMatches (db : FlyDb ρ) : Prop :=
  ∀ row, db.summonFly = some row → E.SUMMON_FLY_CEILING_REWARD ≠ 0 → SuppliesMatch E (ceilingCount E row.mileage).toNat

variable {E} {req : FlyReq} {db : FlyDb ρ} {work : FlyWork}

/-! ## `sp_SummonFlyNew` is all-or-nothing if no credit fails -/

theorem flyRead_error {result : ResultType} (h : flyRead E req db = .error result) : result ≠ .SUCCESS := by
  unfold flyRead at h
  rintro rfl
  cases htable : E.table708 req.index with
  | none => simp [htable] at h
  | some summon_code =>
    cases hrow : db.summonFly with
    | none => simp [htable, hrow] at h
    | some row =>
      simp only [htable, hrow] at h
      cases hcost : req.cost_type with
      | COMMON =>
        simp only [hcost] at h
        split_ifs at h <;> cases h
      | TICKET =>
        simp only [hcost] at h
        split_ifs at h <;> cases h
      | ADS =>
        simp only [hcost] at h
        split at h <;> cases h
      | other => simp [hcost] at h

/-- the first transaction carries the stored mileage on -/
theorem flyRead_ok (h : flyRead E req db = .ok work) : ∃ row, db.summonFly = some row ∧ work.mileage = row.mileage := by
  unfold flyRead at h
  cases htable : E.table708 req.index with
  | none => simp [htable] at h
  | some summon_code =>
    cases hrow : db.summonFly with
    | none => simp [htable, hrow] at h
    | some row =>
      refine ⟨row, rfl, ?_⟩
      simp only [htable, hrow] at h
      cases hcost : req.cost_type with
      | COMMON =>
        simp only [hcost] at h
        split_ifs at h
        obtain rfl := Except.ok.inj h
        rfl
      | TICKET =>
        simp only [hcost] at h
        split_ifs at h
        obtain rfl := Except.ok.inj h
        rfl
      | ADS =>
        simp only [hcost] at h
        split at h
        · cases h
        · obtain rfl := Except.ok.inj h
          rfl
      | other => simp [hcost] at h

/-- every draw is a point of mileage -/
theorem flyDraw_mileage {summon_code : ℤ} {n i : ℕ} {s s' : ℤ × List ℤ} (h : flyDraw E summon_code n i s = some s') :
    s'.1 = s.1 + n := by
  induction n generalizing i s with
  | zero =>
    obtain rfl := Option.some.inj h
    simp
  | succ n ih =>
    rw [flyDraw] at h
    cases hitems : E.summonFlyResult i summon_code with
    | none => simp [hitems] at h
    | some items =>
      simp only [hitems] at h
      rw [ih h]
      push_cast
      ring

/-- the calls with their outcomes -/
def addOps (E : FlyEnv ρ) (i : ℕ) (dic : List (ℤ × ℤ)) : List (Bool × ℤ × ℤ) :=
  dic.mapIdx fun j e => (E.flyNewAdd (i + j) e, e)

theorem addFlies_eq (i : ℕ) (dic : List (ℤ × ℤ)) (flies : ℤ → ℤ) :
    addFlies E i dic flies = creditAll flies (granted (addOps E i dic)) := by
  induction dic generalizing i flies with
  | nil => rfl
  | cons e dic ih =>
    have hshift : (fun j e => (E.flyNewAdd (i + (j + 1)) e, e)) = fun j e => (E.flyNewAdd (i + 1 + j) e, e) := by
      funext j e
      rw [Nat.add_right_comm, Nat.add_assoc]
    have hops : addOps E i (e :: dic) = (E.flyNewAdd i e, e) :: addOps E (i + 1) dic := by
      unfold addOps
      rw [List.mapIdx_cons, hshift, Nat.add_zero]
    rw [addFlies, ih, hops, creditAll_granted_cons]

theorem map_snd_addOps (i : ℕ) (dic : List (ℤ × ℤ)) : (addOps E i dic).map Prod.snd = dic := by
  apply List.ext_getElem?
  intro j
  rw [addOps, List.getElem?_map, List.getElem?_mapIdx, Option.map_map]
  cases dic[j]? with
  | none => rfl
  | some e => rfl

theorem dbAddDic_pos (summon_list : List ℤ) : ∀ e ∈ dbAddDic summon_list, 0 < e.2 := by
  apply Tally.addAll_pos
  · simp
  · intro e he
    obtain ⟨idx, -, rfl⟩ := List.mem_map.1 he
    exact Int.one_pos

theorem creditAll_dbAddDic (flies : ℤ → ℤ) (summon_list : List ℤ) :
    creditAll flies (dbAddDic summon_list) = creditAll flies (summon_list.map fun idx => (idx, 1)) := by
  rw [creditAll_eq_iff]
  intro idx
  rw [dbAddDic, Tally.sumAt_addAll, Tally.sumAt_nil, zero_add]

/-- every drawn fly is credited exactly if no call fails -/
theorem addFlies_credits_iff (flies : ℤ → ℤ) (summon_list : List ℤ) :
    addFlies E 0 (dbAddDic summon_list) flies = creditAll flies (summon_list.map fun idx => (idx, 1)) ↔
      ∀ i e, (dbAddDic summon_list)[i]? = some e → E.flyNewAdd i e = true := by
  have hpos : ∀ o ∈ addOps E 0 (dbAddDic summon_list), 0 < o.2.2 := by
    intro o ho
    have hmem : o.2 ∈ (addOps E 0 (dbAddDic summon_list)).map Prod.snd := List.mem_map_of_mem ho
    rw [map_snd_addOps] at hmem
    exact dbAddDic_pos summon_list o.2 hmem
  have hall := creditAll_granted_eq_all (s := flies) hpos
  rw [map_snd_addOps] at hall
  rw [addFlies_eq, ← creditAll_dbAddDic, hall]
  constructor
  · intro h i e he
    have hmem : (E.flyNewAdd i e, e) ∈ addOps E 0 (dbAddDic summon_list) := by
      apply List.mem_of_getElem? (i := i)
      rw [addOps, List.getElem?_mapIdx, he, Option.map_some, Nat.zero_add]
    exact h _ hmem
  · intro h o ho
    obtain ⟨i, hi, hget⟩ := List.mem_iff_getElem.1 ho
    unfold addOps at hget hi
    rw [List.getElem_mapIdx] at hget
    rw [List.length_mapIdx] at hi
    rw [← hget, Nat.zero_add]
    exact h i _ (List.getElem?_eq_getElem hi)

/-- the entries of the reply are the drawn flies -/
theorem summonResults_idx (summon_list : List ℤ) :
    (summon_list.map fun idx => (⟨idx, 1, 1, 0⟩ : ResultData)).map ResultData.idx = summon_list := by
  rw [List.map_map]
  exact List.map_id _

theorem summonResults_pairs (summon_list : List ℤ) :
    (summon_list.map fun idx => (⟨idx, 1, 1, 0⟩ : ResultData)).map (fun data => (data.idx, data.add_count)) =
      summon_list.map fun idx => (idx, 1) := by
  rw [List.map_map]
  rfl

/-- a paid summon has done everything exactly if no credit fails -/
theorem flyWrite_summoned_iff {mileage : ℤ} {summon_list : List ℤ} (hread : flyRead E req db = .ok work)
    (hdraw : flyDraw E work.summon_code work.summon_count.toNat 0 (work.mileage, []) = some (mileage, summon_list))
    (hpaid : flyCost E work db ≠ none) : FlySummoned E work db (flyWrite E req.index work mileage summon_list db) ↔
      ∀ i e, (dbAddDic summon_list)[i]? = some e → E.flyNewAdd i e = true := by
  unfold flyWrite
  cases hcost : flyCost E work db with
  | none => exact absurd hcost hpaid
  | some paid =>
    dsimp only
    rw [← addFlies_credits_iff db.flies]
    constructor
    · intro h
      have hcredited := h.credited
      dsimp only at hcredited
      rwa [summonResults_pairs] at hcredited
    · intro hcredited
      obtain ⟨row, hrow, hmileage⟩ := flyRead_ok hread
      have hpoints := flyDraw_mileage hdraw
      refine ⟨⟨mileage, ?_⟩, ?_, ?_, hcost⟩
      · dsimp only
        rw [summonResults_idx, hdraw]
      · dsimp only
        rw [summonResults_pairs]
        exact hcredited
      · dsimp only at hpoints ⊢
        rw [hrow, Option.map_some, Option.map_some, hpoints, hmileage]

/-- **A fly summon is all-or-nothing exactly if no credit that it gets to fails.** -/
theorem summonFlyNew_iff : FlyNewAllOrNothing E req db ↔ EveryAddSucceeds E req db := by
  unfold FlyNewAllOrNothing EveryAddSucceeds summonFlyNew
  cases hread : flyRead E req db with
  | error result =>
    have hresult := flyRead_error hread
    simp [hresult]
  | ok work =>
    dsimp only
    cases hdraw : flyDraw E work.summon_code work.summon_count.toNat 0 (work.mileage, []) with
    | none =>
      refine ⟨fun _ work' mileage summon_list hwork hdrawn => ?_, fun _ => ⟨by simp, fun _ => rfl⟩⟩
      obtain rfl := Except.ok.inj hwork
      rw [hdraw] at hdrawn
      cases hdrawn
    | some drawn =>
      obtain ⟨mileage, summon_list⟩ := drawn
      dsimp only
      by_cases hcost : flyCost E work db = none
      · have hrefused : flyWrite E req.index work mileage summon_list db = ⟨.LACK_RESOURCE, [], [], none, db⟩ := by
          rw [flyWrite, hcost]
        rw [hrefused]
        refine ⟨fun _ work' mileage' summon_list' hwork _ hpaid => ?_, fun _ => ⟨by simp, fun _ => rfl⟩⟩
        obtain rfl := Except.ok.inj hwork
        exact absurd hcost hpaid
      · have hsuccess : (flyWrite E req.index work mileage summon_list db).result = .SUCCESS := by
          obtain ⟨paid, hpaid⟩ := Option.ne_none_iff_exists'.1 hcost
          rw [flyWrite, hpaid]
        have hiff := flyWrite_summoned_iff hread hdraw hcost
        constructor
        · rintro ⟨hdone, -⟩ work' mileage' summon_list' hwork hdrawn -
          obtain ⟨work'', hwork'', hsummoned⟩ := hdone hsuccess
          obtain rfl := Except.ok.inj hwork
          obtain rfl := Except.ok.inj hwork''
          rw [hdraw] at hdrawn
          obtain ⟨rfl, rfl⟩ := Prod.mk.inj (Option.some.inj hdrawn)
          exact hiff.1 hsummoned
        · intro hadds
          refine ⟨fun _ => ⟨work, rfl, hiff.2 ?_⟩, fun hfail => absurd hsuccess hfail⟩
          exact hadds work mileage summon_list rfl hdraw hcost

/-! ## A ceiling reward is all-or-nothing if its supplies match its boxes -/

/-- the supplies of `n` boxes from the i-th on, with their outcomes -/
def supplyOps (E : FlyEnv ρ) (i n : ℕ) : List (Bool × ℤ × ℤ) :=
  (List.range' i n).filterMap fun j => (boxFly E j).map fun idx => ((E.supplyUserFly j idx).1, idx, 1)

theorem map_snd_supplyOps (i n : ℕ) : (supplyOps E i n).map Prod.snd = (boxFlies E i n).map fun idx => (idx, 1) := by
  unfold supplyOps boxFlies
  rw [List.map_filterMap, List.map_filterMap]
  apply List.filterMap_congr
  intro j _
  rw [Option.map_map]
  rfl

theorem forall_supplyOps (b : Bool) (n : ℕ) : (∀ o ∈ supplyOps E 0 n, o.1 = b) ↔ SuppliesAre E b n := by
  unfold SuppliesAre
  constructor
  · intro h i hi idx hidx
    apply h ((E.supplyUserFly i idx).1, idx, 1)
    refine List.mem_filterMap.2 ⟨i, List.mem_range'_1.2 (by omega), ?_⟩
    rw [hidx, Option.map_some]
  · intro h o ho
    obtain ⟨i, hi, hsome⟩ := List.mem_filterMap.1 ho
    obtain ⟨idx, hidx, rfl⟩ := Option.map_eq_some_iff.1 hsome
    rw [List.mem_range'_1] at hi
    exact h i (by omega) idx hidx

theorem supplyOps_pos (i n : ℕ) : ∀ o ∈ supplyOps E i n, 0 < o.2.2 := by
  intro o ho
  obtain ⟨j, -, hsome⟩ := List.mem_filterMap.1 ho
  obtain ⟨idx, -, rfl⟩ := Option.map_eq_some_iff.1 hsome
  exact Int.one_pos

/-- the loop supplies the flies of the boxes before the first empty one -/
theorem ceilingLoop_spec (n i : ℕ) (s : CeilingState) : ∃ m ≤ n, (∀ k < m, boxFly E (i + k) ≠ none) ∧
    (ceilingLoop E n i s).2.flies = creditAll s.flies (granted (supplyOps E i m)) ∧
    ((m = n ∧ (ceilingLoop E n i s).1 = true ∧
        (ceilingLoop E n i s).2.mileage = s.mileage - n * E.SUMMON_FLY_CEILING_REWARD) ∨
      (m < n ∧ boxFly E (i + m) = none ∧ (ceilingLoop E n i s).1 = false)) := by
  induction n generalizing i s with
  | zero => exact ⟨0, le_rfl, by simp, rfl, Or.inl ⟨rfl, rfl, by simp [ceilingLoop]⟩⟩
  | succ n ih =>
    rw [ceilingLoop]
    cases hbox : E.randomBox i E.SUMMON_FLY_CEILING_REWARD_GROUP with
    | nil =>
      have hempty : boxFly E i = none := by simp [boxFly, hbox]
      exact ⟨0, Nat.zero_le _, by simp, rfl, Or.inr ⟨Nat.succ_pos n, hempty, rfl⟩⟩
    | cons first others =>
      have hfly : boxFly E i = some first.1 := by simp [boxFly, hbox]
      dsimp only
      obtain ⟨m, hm, hfull, hflies, hend⟩ := ih (i + 1) ⟨s.mileage - E.SUMMON_FLY_CEILING_REWARD,
        if (E.supplyUserFly i first.1).1 then credit s.flies (first.1, 1) else s.flies, s.fly_codes ++ [first.1],
        s.resultDatas ++ (E.supplyUserFly i first.1).2⟩
      refine ⟨m + 1, by omega, ?_, ?_, ?_⟩
      · intro k hk
        cases k with
        | zero =>
          rw [Nat.add_zero, hfly]
          simp
        | succ k =>
          rw [Nat.add_comm k 1, ← Nat.add_assoc]
          exact hfull k (by omega)
      · have hops : supplyOps E i (m + 1) = ((E.supplyUserFly i first.1).1, first.1, 1) :: supplyOps E (i + 1) m := by
          unfold supplyOps
          rw [List.range'_succ, List.filterMap_cons_some (by rw [hfly, Option.map_some])]
        rw [hflies, hops, creditAll_granted_cons]
      · rw [Nat.add_comm m 1, ← Nat.add_assoc]
        rcases hend with ⟨rfl, hok, hmileage⟩ | ⟨hlt, hempty, hfail⟩
        · refine Or.inl ⟨Nat.add_comm 1 m, hok, ?_⟩
          rw [hmileage]
          push_cast
          ring
        · exact Or.inr ⟨by omega, hempty, hfail⟩

/-- the ways through a ceiling reward: nothing to do, all boxes full, or an empty box in the middle -/
theorem summonRewardFly_cases (E : FlyEnv ρ) (db : FlyDb ρ) :
    ((summonRewardFly E db).result ≠ .SUCCESS ∧ (summonRewardFly E db).db = db ∧
      ∀ row, db.summonFly = some row → E.SUMMON_FLY_CEILING_REWARD ≠ 0 → (ceilingCount E row.mileage).toNat = 0) ∨
    ∃ row, db.summonFly = some row ∧ E.SUMMON_FLY_CEILING_REWARD ≠ 0 ∧
      (((∀ i < (ceilingCount E row.mileage).toNat, boxFly E i ≠ none) ∧ (summonRewardFly E db).result = .SUCCESS ∧
          (summonRewardFly E db).db = ⟨some { row with
            mileage := row.mileage - ceilingCount E row.mileage * E.SUMMON_FLY_CEILING_REWARD },
            creditAll db.flies (granted (supplyOps E 0 (ceilingCount E row.mileage).toNat)), db.resource⟩) ∨
        ∃ m < (ceilingCount E row.mileage).toNat, boxFly E m = none ∧ (∀ i < m, boxFly E i ≠ none) ∧
          (summonRewardFly E db).result = .FAIL ∧
          (summonRewardFly E db).db = { db with flies := creditAll db.flies (granted (supplyOps E 0 m)) }) := by
  unfold summonRewardFly
  cases hrow : db.summonFly with
  | none => exact Or.inl ⟨by simp, rfl, by simp⟩
  | some row =>
    dsimp only
    by_cases hneed : E.SUMMON_FLY_CEILING_REWARD = 0
    · rw [if_pos hneed]
      exact Or.inl ⟨by simp, rfl, fun _ _ hne => absurd hneed hne⟩
    · rw [if_neg hneed]
      by_cases hcount : 0 < ceilingCount E row.mileage
      · right
        rw [if_pos hcount]
        have hcast : ((ceilingCount E row.mileage).toNat : ℤ) = ceilingCount E row.mileage :=
          Int.toNat_of_nonneg hcount.le
        have hspec := ceilingLoop_spec (E := E) (ceilingCount E row.mileage).toNat 0 ⟨row.mileage, db.flies, [], []⟩
        revert hspec
        generalize ceilingLoop E (ceilingCount E row.mileage).toNat 0 ⟨row.mileage, db.flies, [], []⟩ = out
        rintro ⟨m, hm, hfull, hflies, ⟨rfl, hok, hmileage⟩ | ⟨hlt, hempty, hfail⟩⟩
        · obtain ⟨ok, s⟩ := out
          dsimp only at hok hflies hmileage
          subst hok
          simp only [Nat.zero_add] at hfull
          refine ⟨row, rfl, hneed, Or.inl ⟨hfull, rfl, ?_⟩⟩
          dsimp only
          rw [hflies, hmileage, hcast]
        · obtain ⟨ok, s⟩ := out
          dsimp only at hfail hflies
          subst hfail
          simp only [Nat.zero_add] at hfull hempty
          refine ⟨row, rfl, hneed, Or.inr ⟨m, hlt, hempty, hfull, rfl, ?_⟩⟩
          dsimp only
          rw [hflies]
      · left
        rw [if_neg hcount]
        refine ⟨by simp, rfl, fun row' hrow' _ => ?_⟩
        obtain rfl := Option.some.inj hrow'
        exact Int.toNat_of_nonpos (not_lt.1 hcount)

/-- **A ceiling reward is all-or-nothing exactly if its supplies match its boxes.** -/
theorem summonRewardFly_iff : FlyRewardAllOrNothing E db ↔ CeilingMatches E db := by
  unfold FlyRewardAllOrNothing CeilingMatches
  rcases summonRewardFly_cases E db with ⟨hresult, hdb, hzero⟩ | ⟨row, hrow, hneed, hend⟩
  · refine ⟨fun _ row hrow hneed => ?_, fun _ => ⟨fun hsuccess => absurd hsuccess hresult, fun _ => hdb⟩⟩
    rw [hzero row hrow hneed]
    exact ⟨fun _ i hi => absurd hi (Nat.not_lt_zero i), fun m hm => absurd hm (Nat.not_lt_zero m)⟩
  · have hone : ∀ row', db.summonFly = some row' → row' = row := fun row' hrow' =>
      Option.some.inj (hrow'.symm.trans hrow)
    rcases hend with ⟨hfull, hresult, hdb⟩ | ⟨m, hlt, hempty, hfull, hresult, hdb⟩
    · -- every box is full, and everything has to be credited
      have hcredited := (creditAll_granted_eq_all (s := db.flies) (supplyOps_pos (E := E) 0 _)).trans
        (forall_supplyOps (E := E) true (ceilingCount E row.mileage).toNat)
      rw [map_snd_supplyOps] at hcredited
      rw [hresult, hdb]
      constructor
      · rintro ⟨hsuccess, -⟩ row' hrow' -
        obtain ⟨row'', hrow'', hcredit, -⟩ := hsuccess rfl
        obtain rfl := hone row' hrow'
        obtain rfl := hone row'' hrow''
        exact ⟨fun _ => hcredited.1 hcredit, fun m hm hempty => absurd hempty (hfull m hm)⟩
      · intro hmatch
        refine ⟨fun _ => ⟨row, hrow, ?_, rfl, rfl⟩, fun hfail => absurd rfl hfail⟩
        exact hcredited.2 ((hmatch row hrow hneed).full hfull)
    · -- nothing may have been credited before the empty box
      have hkept := (creditAll_granted_eq_self (s := db.flies) (supplyOps_pos (E := E) 0 m)).trans
        (forall_supplyOps (E := E) false m)
      rw [hresult, hdb]
      constructor
      · rintro ⟨-, hfail⟩ row' hrow' -
        obtain rfl := hone row' hrow'
        have hsame : creditAll db.flies (granted (supplyOps E 0 m)) = db.flies := congrArg FlyDb.flies (hfail (by simp))
        refine ⟨fun hfull' => absurd hempty (hfull' m hlt), fun m' hm' hempty' hfull' => ?_⟩
        -- there is one first empty box
        rcases lt_trichotomy m' m with hlt' | rfl | hgt
        · exact absurd hempty' (hfull m' hlt')
        · exact hkept.1 hsame
        · exact absurd hempty (hfull' m hgt)
      · intro hmatch
        refine ⟨fun hsuccess => absurd hsuccess (by simp), fun _ => ?_⟩
        rw [hkept.2 ((hmatch row hrow hneed).cut m hlt hempty hfull)]

/-- **Fly summons and ceiling rewards are all-or-nothing exactly if no credit of a summon fails, and the supplies of a
reward match its boxes.** -/
theorem fly_all_or_nothing_iff : (FlyNewAllOrNothing E req db ∧ FlyRewardAllOrNothing E db) ↔
    (EveryAddSucceeds E req db ∧ CeilingMatches E db) :=
  and_congr summonFlyNew_iff summonRewardFly_iff

end

/-- an environment where a summon draws the fly 5 for ten diamonds, five points of mileage give a reward, and there are
boxes for the first reward only -/
def sampleFlyEnv (adds : Bool) : FlyEnv ℤ where
  table708 _ := some 1
  SUMMON_FLY_1_COUNT := 1
  SUMMON_FLY_3_COUNT := 3
  SUMMON_FLY_PRICE := 10
  SUMMON_FLY_ADS_COUNT := 1
  SUMMON_ADS_LIMIT := 1
  SUMMON_FLY_CEILING_REWARD := 5
  SUMMON_FLY_CEILING_REWARD_GROUP := 7
  DIAMOND := 1
  SUMMON_FLY_TICKET := 2
  getUserResource diamonds _ := diamonds
  getUserItemCount _ _ := 0
  consumeUserResource diamonds idx cost := some (diamonds - cost, [⟨idx, -cost, diamonds - cost, 0⟩])
  watchAds _ _ _ := none
  summonFlyResult _ _ := some [5]
  flyNewAdd _ _ := adds
  randomBox i _ := if i = 0 then [(6, 1)] else []
  supplyUserFly _ idx := (true, [⟨idx, 1, 1, 0⟩])

def sampleFlyDb (mileage : ℤ) : FlyDb ℤ := ⟨some ⟨mileage, 0, 0⟩, fun _ => 0, 100⟩

/-- **Three drawn flies are paid for and not credited, and a reward whose second box is empty keeps the fly of the
first.** -/
theorem fly_not_all_or_nothing :
    ((summonFlyNew (sampleFlyEnv false) ⟨1, 3, .COMMON⟩ (sampleFlyDb 0)).result = .SUCCESS ∧
      (summonFlyNew (sampleFlyEnv false) ⟨1, 3, .COMMON⟩ (sampleFlyDb 0)).db.resource = 70 ∧
      (summonFlyNew (sampleFlyEnv false) ⟨1, 3, .COMMON⟩ (sampleFlyDb 0)).db.flies 5 = 0 ∧
      ¬FlyNewAllOrNothing (sampleFlyEnv false) ⟨1, 3, .COMMON⟩ (sampleFlyDb 0)) ∧
    (summonRewardFly (sampleFlyEnv true) (sampleFlyDb 12)).result = .FAIL ∧
    (summonRewardFly (sampleFlyEnv true) (sampleFlyDb 12)).db.flies 6 = 1 ∧
    (summonRewardFly (sampleFlyEnv true) (sampleFlyDb 12)).db.summonFly = some ⟨12, 0, 0⟩ ∧
    ¬FlyRewardAllOrNothing (sampleFlyEnv true) (sampleFlyDb 12) := by
  refine ⟨⟨by decide, by decide, by decide, fun hall => ?_⟩, by decide, by decide, by decide, fun hall => ?_⟩
  · obtain ⟨work, -, hsummoned⟩ := hall.1 (by decide)
    have hfly := congrFun hsummoned.credited 5
    rw [creditAll_apply] at hfly
    exact absurd hfly (by decide)
  · have hfly := congrArg (fun db : FlyDb ℤ => db.flies 6) (hall.2 (by decide))
    exact absurd hfly (by decide)

end GameServer.Summon
