/-
Material cards and items, `__IsCheckCommonGrow` and `IsCanSkillLvUp` in `C++/CardContents.cpp`.

A request names material cards and counts of material items. The common check bounds their number and then hands every
material to a callback; the skill level-up adds up levels in its callbacks. Number and level are narrowed to `uint8_t`:
- the number is compared with the limit after the conversion, so a request of 256 materials counts as empty-handed
  (`commonGrow_count_iff`);
- the level runs modulo 256 and is compared with the maximum only at the end (`skillLvUp_sum_iff`).

Not under src/, and therefore parameters (`GrowTables`): the card and item tables, the balance constants, the default of
`_maxMaterCnt`, `GetTotalStackCnt` of a request, and `_IsCheckItemWhenGetResult`, of which `CallsOnce` says what the callers
rely on. `GetTotalStackCnt` of an item list is the sum of its counts.
-/
import Mathlib.Tactic
import GameServer.Core.Wrap
import GameServer.Card.Model

namespace GameServer.Card

open GameServer.Core

/-! ## Data -/

/-- the results (`eTMIErrNum`) of the modelled functions; `other` is any error of a function that is not under src/ -/
inductive GrowErr where
  | comErrLackGold
  | comErrAlreadyMaxLevel
  | svrCardComErrNotExistInst
  | comErrNotExistTableData
  | comErrEmptyNeedMaterial
  | comErrOverRequestCount
  | comErrDuplicateMaterial
  | comErrDontWorkToLocked
  | comErrPosErrApplyCharacter
  | comErrPosErrApplyFacility
  | comErrPosErrApplyWhere
  | svrCardLvErrNotExistMaterial
  | comErrLvLockedMaterial
  | comErrLvUsingCharacterMaterial
  | comErrLvNotExistTableDataMaterial
  | comErrEixstTargetInMaterial
  | svrCardLvErrNotSameTypeMaterial
  | comErrLvOtherTypeMaterial
  | other (code : ℕ)
deriving DecidableEq, Repr

/-- an entry of `PktInfoItemCntVec` -/
structure ItemCnt where
  uid : ℕ
  cnt : ℕ
deriving DecidableEq, Repr

/-- `PktInfoProductComGrowReq` -/
structure GrowReq where
  targetUID : ℕ
  maters : List ℕ
  materItems : List ItemCnt
deriving DecidableEq, Repr

/-- `PktInfoProductComGrowAck`; `req` is the request that `DoMoveInit` moves into it -/
structure GrowAck (κ : Type) where
  req : GrowReq
  materItems : κ
  exp : ℕ
  lv : ℕ
  targetUID : ℕ
  userGold : ℕ
deriving DecidableEq, Repr

/-- `PktInfoCardGrow`, the fields that `IsCanSkillLvUp` fills in -/
structure SkillLvUp (κ : Type) where
  comGrow : GrowAck κ
  retWake : ℕ
  retSkillLv : ℕ
deriving DecidableEq, Repr

/-- tables and functions that are not under src/; `ι` is `PktInfoItem::Piece`, `κ` what becomes of the material items -/
structure GrowTables (ι κ : Type) where
  /-- `Table().IsNull()` and `GetGrade` by the table id of a card -/
  tableIsNull : ℕ → Bool
  getGrade : ℕ → ℕ
  getCardSkillLevelupCostByGrade : ℕ → ℕ
  reqTotalStackCnt : GrowReq → ℕ
  cardMaxSkillLevel : ℕ
  /-- the default of `_maxMaterCnt` -/
  maxMaterCnt : ℕ
  cardMaxSkillLevel_lt : cardMaxSkillLevel < 2 ^ 8
  maxMaterCnt_lt : maxMaterCnt < 2 ^ 8
  /-- the item of a UID; `IsCanSkillLvUp`, `IsCanUseMaterial(MATERIAL_CARD_SLVUP)` and `GetLvFromValue` of an item -/
  itemPiece : ℕ → ι
  isCanSkillLvUp : ι → ℕ → Bool
  isCanUseMaterial : ι → Bool
  getLvFromValue : ι → ℕ
  /-- `_IsCheckItemWhenGetResult`; the callback works on a state of type `σ` -/
  isCheckItemWhenGetResult : {σ : Type} → (σ → ι → ℕ → Except GrowErr σ) → σ → List ItemCnt → Except GrowErr (σ × κ)

variable {ι κ : Type} {σ : Type}

/-- `_IsCheckItemWhenGetResult` calls the callback once for each listed item, and fails if the callback fails -/
def CallsOnce (T : GrowTables ι κ) : Prop :=
  ∀ {σ : Type} (itemWork : σ → ι → ℕ → Except GrowErr σ) (st st' : σ) (items : List ItemCnt) (out : κ),
    T.isCheckItemWhenGetResult itemWork st items = .ok (st', out) →
      ∃ order : List ItemCnt, order.Perm items ∧
        order.foldlM (fun st item => itemWork st (T.itemPiece item.uid) item.cnt) st = .ok st'

/-! ## `__IsCheckCommonGrow` -/

/-- `GetTotalStackCnt` of an item list -/
def getTotalStackCnt (items : List ItemCnt) : ℕ := (items.map (·.cnt)).sum

/-- the number of material cards and items -/
def totalMaterSize (req : GrowReq) : ℕ := req.maters.length + getTotalStackCnt req.materItems

section

variable (E : Env) (T : GrowTables ι κ) (s : St)

/-- `__IsCheckUseKind` -/
def isCheckUseKind (pkt : CardPiece) : Except GrowErr Unit :=
  if pkt.posKind = E.kNone then .ok ()
  else if pkt.posKind = E.kChar then .error .comErrPosErrApplyCharacter
  else if pkt.posKind = E.kFacility then .error .comErrPosErrApplyFacility
  else .error .comErrPosErrApplyWhere

/-- `__IsCheckCanSell` -/
def isCheckCanSell (uid : ℕ) : Except GrowErr CardPiece :=
  let piece := s.card (s.getInst uid)
  if piece.isNull E then .error .svrCardComErrNotExistInst
  else if piece.lock then .error .comErrDontWorkToLocked
  else if T.tableIsNull piece.tableID then .error .comErrNotExistTableData
  else
    match isCheckUseKind E piece with
    | .error err => .error err
    | .ok () => .ok piece

/-- the errors of a material -/
def materialErr : GrowErr → GrowErr
  | .svrCardComErrNotExistInst => .svrCardLvErrNotExistMaterial
  | .comErrDontWorkToLocked => .comErrLvLockedMaterial
  | .comErrPosErrApplyCharacter => .comErrLvUsingCharacterMaterial
  | .comErrNotExistTableData => .comErrLvNotExistTableDataMaterial
  | err => err

/-- the loop over the material cards -/
def materialLoop (targetUID : ℕ) (matWork : σ → CardPiece → Except GrowErr σ) : List ℕ → σ → Except GrowErr σ
  | [], st => .ok st
  | matUID :: maters, st =>
    if matUID ∈ maters then .error .comErrDuplicateMaterial
    else
      match isCheckCanSell E T s matUID with
      | .error err => .error (materialErr err)
      | .ok materPiece =>
        if targetUID = materPiece.cardUID then .error .comErrEixstTargetInMaterial
        else
          match matWork st materPiece with
          | .error err => .error err
          | .ok st' => materialLoop targetUID matWork maters st'

/-- `__IsCheckCommonGrow` -/
def isCheckCommonGrow (req : GrowReq) (piece : CardPiece) (matWork : σ → CardPiece → Except GrowErr σ)
    (itemWork : σ → ι → ℕ → Except GrowErr σ) (maxMaterCnt : ℕ) (st : σ) : Except GrowErr (σ × κ) :=
  if piece.isNull E then .error .svrCardComErrNotExistInst
  else if T.tableIsNull piece.tableID then .error .comErrNotExistTableData
  else if totalMaterSize req = 0 then .error .comErrEmptyNeedMaterial
  -- the number is narrowed to uint8_t
  else if maxMaterCnt < totalMaterSize req % 2 ^ 8 then .error .comErrOverRequestCount
  else
    match materialLoop E T s piece.cardUID matWork req.maters st with
    | .error err => .error err
    | .ok st' => T.isCheckItemWhenGetResult itemWork st' req.materItems

/-! ## `IsCanSkillLvUp` -/

/-- `materWork`; the sum is stored in a `uint8_t` -/
def skillMaterWork (targetTID : ℕ) (skillLv : ℕ) (mater : CardPiece) : Except GrowErr ℕ :=
  if targetTID ≠ mater.tableID then .error .svrCardLvErrNotSameTypeMaterial
  else .ok ((skillLv + mater.skillLv) % 2 ^ 8)

/-- `itemWork`; the product is narrowed to `uint8_t` before the sum is -/
def skillItemWork (chkGrade : ℕ) (skillLv : ℕ) (piece : ι) (cnt : ℕ) : Except GrowErr ℕ :=
  if T.isCanSkillLvUp piece chkGrade = false ∨ T.isCanUseMaterial piece = false then .error .comErrLvOtherTypeMaterial
  else .ok ((skillLv + T.getLvFromValue piece * cnt % 2 ^ 8) % 2 ^ 8)

/-- `IsCanSkillLvUp` -/
def isCanSkillLvUp (myNowGold : ℕ) (req : GrowReq) (ignoreCost : Bool) : Except GrowErr (SkillLvUp κ) :=
  let piece := s.card (s.getInst req.targetUID)
  let lvUpCost := if ignoreCost then 0
    else T.getCardSkillLevelupCostByGrade (T.getGrade piece.tableID) * T.reqTotalStackCnt req % 2 ^ 64
  if ignoreCost = false ∧ myNowGold < lvUpCost then .error .comErrLackGold
  else if T.cardMaxSkillLevel ≤ piece.skillLv then .error .comErrAlreadyMaxLevel
  else
    match isCheckCommonGrow E T s req piece (skillMaterWork piece.tableID) (skillItemWork T (T.getGrade piece.tableID))
        T.maxMaterCnt piece.skillLv with
    | .error err => .error err
    | .ok (skillLv, materItems) =>
      .ok {
        comGrow := ⟨req, materItems, piece.exp, piece.lv, req.targetUID, myNowGold - lvUpCost⟩
        retWake := piece.wake
        retSkillLv := if T.cardMaxSkillLevel < skillLv then T.cardMaxSkillLevel else skillLv }

end

/-! ## What an accepted request has passed -/

section

variable {E : Env} {T : GrowTables ι κ} {s : St}

variable (E T s) in
/-- a material card: it exists, it is unlocked and in no use, and it is not the target -/
structure Material (targetUID uid : ℕ) : Prop where
  exists_inst : (s.card (s.getInst uid)).isNull E = false
  unlocked : (s.card (s.getInst uid)).lock = false
  table : T.tableIsNull (s.card (s.getInst uid)).tableID = false
  unused : (s.card (s.getInst uid)).posKind = E.kNone
  not_target : targetUID ≠ (s.card (s.getInst uid)).cardUID

theorem isCheckUseKind_ok {pkt : CardPiece} (h : isCheckUseKind E pkt = .ok ()) : pkt.posKind = E.kNone := by
  unfold isCheckUseKind at h
  split_ifs at h with hkind
  exact hkind

theorem isCheckCanSell_ok {targetUID uid : ℕ} {piece : CardPiece} (h : isCheckCanSell E T s uid = .ok piece)
    (htarget : targetUID ≠ piece.cardUID) : piece = s.card (s.getInst uid) ∧ Material E T s targetUID uid := by
  unfold isCheckCanSell at h
  dsimp only at h
  split_ifs at h with hnull hlock htable
  cases hkind : isCheckUseKind E (s.card (s.getInst uid)) with
  | error err =>
    rw [hkind] at h
    cases h
  | ok u =>
    rw [hkind] at h
    obtain rfl := Except.ok.inj h
    refine ⟨rfl, ?_, ?_, ?_, isCheckUseKind_ok hkind, htarget⟩
    · simpa using hnull
    · simpa using hlock
    · simpa using htable

/-- an accepted loop has checked every card once, and handed it to the callback -/
theorem materialLoop_ok {targetUID : ℕ} {matWork : σ → CardPiece → Except GrowErr σ} {maters : List ℕ} {st st' : σ}
    (h : materialLoop E T s targetUID matWork maters st = .ok st') :
    maters.Nodup ∧ (∀ uid ∈ maters, Material E T s targetUID uid) ∧
      maters.foldlM (fun st uid => matWork st (s.card (s.getInst uid))) st = .ok st' := by
  induction maters generalizing st with
  | nil => exact ⟨List.nodup_nil, by simp, h⟩
  | cons uid maters ih =>
    unfold materialLoop at h
    split_ifs at h with hdup
    split at h
    · cases h
    · rename_i materPiece hsell
      split_ifs at h with htarget
      obtain ⟨rfl, hmaterial⟩ := isCheckCanSell_ok hsell htarget
      split at h
      · cases h
      · rename_i st₁ hwork
        obtain ⟨hnodup, hall, hfold⟩ := ih h
        refine ⟨List.nodup_cons.2 ⟨hdup, hnodup⟩, List.forall_mem_cons.2 ⟨hmaterial, hall⟩, ?_⟩
        rw [List.foldlM_cons, hwork]
        exact hfold

variable {req : GrowReq} {piece : CardPiece} {matWork : σ → CardPiece → Except GrowErr σ}
  {itemWork : σ → ι → ℕ → Except GrowErr σ} {maxMaterCnt : ℕ} {st st' : σ} {out : κ}

/-- **What the common check has checked**; only the low byte of the number of materials is bounded. -/
theorem isCheckCommonGrow_ok (h : isCheckCommonGrow E T s req piece matWork itemWork maxMaterCnt st = .ok (st', out)) :
    totalMaterSize req ≠ 0 ∧ totalMaterSize req % 2 ^ 8 ≤ maxMaterCnt ∧ req.maters.Nodup ∧
      (∀ uid ∈ req.maters, Material E T s piece.cardUID uid) ∧
      ∃ st₁, req.maters.foldlM (fun st uid => matWork st (s.card (s.getInst uid))) st = .ok st₁ ∧
        T.isCheckItemWhenGetResult itemWork st₁ req.materItems = .ok (st', out) := by
  unfold isCheckCommonGrow at h
  split_ifs at h with hnull htable hempty hover
  split at h
  · cases h
  · rename_i st₁ hloop
    obtain ⟨hnodup, hall, hfold⟩ := materialLoop_ok hloop
    exact ⟨hempty, Nat.le_of_not_lt hover, hnodup, hall, st₁, hfold, h⟩

/-- **The limit is enforced exactly for requests below 256 materials.** -/
theorem commonGrow_count_iff (hmax : maxMaterCnt < 2 ^ 8)
    (h : isCheckCommonGrow E T s req piece matWork itemWork maxMaterCnt st = .ok (st', out)) :
    (1 ≤ totalMaterSize req ∧ totalMaterSize req ≤ maxMaterCnt) ↔ totalMaterSize req < 2 ^ 8 := by
  obtain ⟨hpos, hlow, -⟩ := isCheckCommonGrow_ok h
  rw [and_iff_right (Nat.one_le_iff_ne_zero.2 hpos)]
  exact narrow_le_iff hmax hlow

/-! ## The level -/

variable (s) in
/-- the levels of the material cards -/
def cardGains (req : GrowReq) : List ℕ := req.maters.map fun uid => (s.card (s.getInst uid)).skillLv

variable (T) in
/-- the levels of the material items -/
def itemGains (req : GrowReq) : List ℕ := req.materItems.map fun item => T.getLvFromValue (T.itemPiece item.uid) * item.cnt

variable (T s) in
/-- the level without a maximum, in exact integers -/
def exactSkillLv (req : GrowReq) : ℕ :=
  (s.card (s.getInst req.targetUID)).skillLv + (cardGains s req ++ itemGains T req).sum

variable (T s) in
/-- the result is the exact level up to the maximum, and a positive contribution raises the level -/
structure SkillLvExact (req : GrowReq) (retSkillLv : ℕ) : Prop where
  sum : retSkillLv = min T.cardMaxSkillLevel (exactSkillLv T s req)
  grows : (∃ gain ∈ cardGains s req ++ itemGains T req, 0 < gain) →
    (s.card (s.getInst req.targetUID)).skillLv < retSkillLv

theorem skillMaterWork_ok {targetTID skillLv skillLv' : ℕ} {mater : CardPiece}
    (h : skillMaterWork targetTID skillLv mater = .ok skillLv') : skillLv' = (skillLv + mater.skillLv) % 2 ^ 8 := by
  unfold skillMaterWork at h
  split_ifs at h
  exact (Except.ok.inj h).symm

theorem skillItemWork_ok {chkGrade skillLv skillLv' cnt : ℕ} {item : ι}
    (h : skillItemWork T chkGrade skillLv item cnt = .ok skillLv') :
    skillLv' = (skillLv + T.getLvFromValue item * cnt) % 2 ^ 8 := by
  unfold skillItemWork at h
  split_ifs at h
  rw [← Except.ok.inj h, Nat.add_mod_mod]

/-- the running level after all materials is the exact level modulo 256 -/
theorem isCheckCommonGrow_skillLv (hcalls : CallsOnce T) {targetTID chkGrade skillLv skillLv' : ℕ} (hlt : skillLv < 2 ^ 8)
    (h : isCheckCommonGrow E T s req piece (skillMaterWork targetTID) (skillItemWork T chkGrade) maxMaterCnt skillLv =
      .ok (skillLv', out)) :
    skillLv' = (skillLv + (cardGains s req ++ itemGains T req).sum) % 2 ^ 8 := by
  obtain ⟨-, -, -, -, lv₁, hcards, hitems⟩ := isCheckCommonGrow_ok h
  obtain ⟨order, hperm, hitems⟩ := hcalls _ _ _ _ _ hitems
  have h1 : lv₁ = wrapSum (2 ^ 8) skillLv (cardGains s req) := by
    rw [cardGains, wrapSum, List.foldl_map]
    exact foldlM_ok_eq (fun _ _ _ hstep => skillMaterWork_ok hstep) hcards
  have h2 : skillLv' = wrapSum (2 ^ 8) lv₁ (order.map fun item => T.getLvFromValue (T.itemPiece item.uid) * item.cnt) := by
    rw [wrapSum, List.foldl_map]
    exact foldlM_ok_eq (fun _ _ _ hstep => skillItemWork_ok hstep) hitems
  have hlt₁ : lv₁ < 2 ^ 8 := by
    rw [h1, wrapSum_eq hlt]
    exact Nat.mod_lt _ (by decide)
  have hsum : (order.map fun item => T.getLvFromValue (T.itemPiece item.uid) * item.cnt).sum = (itemGains T req).sum :=
    (hperm.map _).sum_eq
  calc skillLv' = (lv₁ + (itemGains T req).sum) % 2 ^ 8 := by rw [h2, wrapSum_eq hlt₁, hsum]
    _ = ((skillLv + (cardGains s req).sum) % 2 ^ 8 + (itemGains T req).sum) % 2 ^ 8 := by rw [h1, wrapSum_eq hlt]
    _ = (skillLv + (cardGains s req ++ itemGains T req).sum) % 2 ^ 8 := by
      rw [Nat.mod_add_mod, List.sum_append, Nat.add_assoc]

theorem isCanSkillLvUp_ok (hcalls : CallsOnce T) {myNowGold : ℕ} {ignoreCost : Bool} {res : SkillLvUp κ}
    (h : isCanSkillLvUp E T s myNowGold req ignoreCost = .ok res) :
    (s.card (s.getInst req.targetUID)).skillLv < T.cardMaxSkillLevel ∧
      res.retSkillLv = min T.cardMaxSkillLevel (exactSkillLv T s req % 2 ^ 8) := by
  unfold isCanSkillLvUp at h
  extract_lets piece lvUpCost at h
  split_ifs at h with hgold hmax
  split at h
  · cases h
  · rename_i skillLv materItems hcheck
    obtain rfl := Except.ok.inj h
    have hlt := Nat.lt_of_not_le hmax
    have hlv := isCheckCommonGrow_skillLv hcalls (hlt.trans T.cardMaxSkillLevel_lt) hcheck
    refine ⟨hlt, ?_⟩
    rw [exactSkillLv, ← hlv, Nat.min_def]
    dsimp only
    split_ifs <;> omega

end

/-- **The levels add up exactly as long as their sum fits into 8 bits, or reaches the maximum in its low byte.** -/
theorem skillLvUp_sum_iff {ι κ : Type} {E : Env} {T : GrowTables ι κ} {s : St} (hcalls : CallsOnce T) {myNowGold : ℕ}
    {req : GrowReq} {ignoreCost : Bool} {res : SkillLvUp κ}
    (h : isCanSkillLvUp E T s myNowGold req ignoreCost = .ok res) :
    SkillLvExact T s req res.retSkillLv ↔
      exactSkillLv T s req < 2 ^ 8 ∨ T.cardMaxSkillLevel ≤ exactSkillLv T s req % 2 ^ 8 := by
  obtain ⟨hlt, hret⟩ := isCanSkillLvUp_ok hcalls h
  rw [← min_mod_eq_iff T.cardMaxSkillLevel_lt, ← hret]
  constructor
  · exact SkillLvExact.sum
  · intro hsum
    refine ⟨hsum, ?_⟩
    intro ⟨gain, hmem, hpos⟩
    rw [hsum, lt_min_iff]
    have hle := List.le_sum_of_mem hmem
    exact ⟨hlt, by rw [exactSkillLv]; omega⟩

/-! ## Two cards of one kind -/

/-- maximal level 5, at most 10 materials; the UID of an item is its level value -/
def sampleTables : GrowTables ℕ (List ItemCnt) where
  tableIsNull tid := decide (tid = 0)
  getGrade _ := 1
  getCardSkillLevelupCostByGrade _ := 100
  reqTotalStackCnt := totalMaterSize
  cardMaxSkillLevel := 5
  maxMaterCnt := 10
  cardMaxSkillLevel_lt := by decide
  maxMaterCnt_lt := by decide
  itemPiece uid := uid
  isCanSkillLvUp _ _ := true
  isCanUseMaterial _ := true
  getLvFromValue item := item
  isCheckItemWhenGetResult itemWork st items :=
    match items.foldlM (fun st item => itemWork st item.uid item.cnt) st with
    | .error err => .error err
    | .ok st' => .ok (st', items)

theorem sampleTables_callsOnce : CallsOnce sampleTables := by
  intro σ itemWork st st' items out h
  refine ⟨items, List.Perm.refl items, ?_⟩
  simp only [sampleTables] at h ⊢
  split at h
  · cases h
  · rename_i st₁ hfold
    rw [← (Prod.mk.inj (Except.ok.inj h)).1]
    exact hfold

/-- cards 1 and 2 of table id 10, on skill level 1 -/
def growSt : St :=
  doInit sampleEnv (fun _ => sampleEnv.nullCard) (fun _ => sampleEnv.nullBook)
    [(sampleCard 1 10 0 0 0, 100), (sampleCard 2 10 0 0 0, 200)] []

/-- card 2 and three items of level 0 for card 1 -/
def growReq : GrowReq := ⟨1, [2], [⟨0, 3⟩]⟩

/-- 256 items of level 1 for card 1 -/
def hugeReq : GrowReq := ⟨1, [], [⟨1, 256⟩]⟩

theorem commonGrow_count_sample : 1 ≤ totalMaterSize growReq ∧ totalMaterSize growReq ≤ 10 := by
  have hok : isCheckCommonGrow sampleEnv sampleTables growSt growReq (sampleCard 1 10 0 0 0) (skillMaterWork 10)
      (skillItemWork sampleTables 1) 10 1 = .ok (2, [⟨0, 3⟩]) := by decide
  exact (commonGrow_count_iff (by decide) hok).2 (by decide)

theorem skillLvUp_sum_sample : SkillLvExact sampleTables growSt growReq 2 := by
  have hok : isCanSkillLvUp sampleEnv sampleTables growSt 1000 growReq false =
      .ok ⟨⟨growReq, [⟨0, 3⟩], 0, 1, 1, 600⟩, 0, 2⟩ := by decide
  exact (skillLvUp_sum_iff sampleTables_callsOnce hok).2 (Or.inl (by decide))

/-- **A request of 256 materials passes every limit.** -/
theorem commonGrow_count_huge :
    isCheckCommonGrow sampleEnv sampleTables growSt hugeReq (sampleCard 1 10 0 0 0) (skillMaterWork 10)
        (skillItemWork sampleTables 1) 10 1 = .ok (1, [⟨1, 256⟩]) ∧
      ¬ totalMaterSize hugeReq ≤ 10 := by
  decide

/-- **256 items of level 1 leave the level where it was.** -/
theorem skillLvUp_sum_huge :
    CallsOnce sampleTables ∧
      isCanSkillLvUp sampleEnv sampleTables growSt 30000 hugeReq false =
        .ok ⟨⟨hugeReq, [⟨1, 256⟩], 0, 1, 1, 4400⟩, 0, 1⟩ ∧
      ¬ SkillLvExact sampleTables growSt hugeReq 1 := by
  refine ⟨sampleTables_callsOnce, by decide +kernel, ?_⟩
  intro h
  exact absurd h.sum (by decide)

end GameServer.Card
