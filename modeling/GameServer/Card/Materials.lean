/-
The material cards of a growth request, `__IsCheckCommonGrow` in `C++/CardContents.cpp`: what an accepted list says, and
which error a refused list returns.

The loop looks for a repetition of a card only among the cards after it, and can leave at every card for one of seven
reasons (`Offence`, in the order of the checks). So nothing is known of the cards behind the one that it leaves at:
- `materialLoop_ok`: an accepted loop has left at no card, and two equal cards would have stopped it at the first of them;
- `materialLoop_error_iff`: a refused loop has passed a front part of the list, in which no card occurs a second time, and
  returns the error of the next card (`FirstOffence`).
`commonGrow_materials` is both, for cards that are stored under their own UIDs.
-/
import Mathlib.Tactic
import GameServer.Card.Grow

namespace GameServer.Card

section

variable {ι κ σ : Type} (E : Env) (T : GrowTables ι κ) (s : St)

/-! ## Vocabulary -/

/-- cards are stored under their own UIDs, and the null card is null -/
structure KeyedCards : Prop where
  keys : ∀ u a, s.cont u = some a → (s.cards a).cardUID = u
  null : s.msNullCard.isNull E = true

/-- a card that may be consumed for a target: owned, unlocked, in the table, placed nowhere, and not the target -/
structure Usable (targetUID uid : ℕ) : Prop where
  owned : ∃ a, s.cont uid = some a
  unlocked : (s.card (s.getInst uid)).lock = false
  table : T.tableIsNull (s.card (s.getInst uid)).tableID = false
  unplaced : (s.card (s.getInst uid)).posKind = E.kNone
  not_target : uid ≠ targetUID

/-- the checks before the first material card -/
structure CardPartReached (req : GrowReq) (piece : CardPiece) (maxMaterCnt : ℕ) : Prop where
  target : piece.isNull E = false
  table : T.tableIsNull piece.tableID = false
  some_mater : totalMaterSize req ≠ 0
  limit : totalMaterSize req % 2 ^ 8 ≤ maxMaterCnt

/-- the error of a placed material: a card of a character has an error of its own -/
def placedErr (posKind : ℕ) : GrowErr :=
  if posKind = E.kChar then .comErrLvUsingCharacterMaterial
  else if posKind = E.kFacility then .comErrPosErrApplyFacility
  else .comErrPosErrApplyWhere

/-- why the loop leaves at a card, with the cards after it; every reason presumes that the ones before do not apply -/
inductive Offence (targetUID : ℕ) (matWork : σ → CardPiece → Except GrowErr σ) (st : σ) (uid : ℕ) (after : List ℕ) :
    GrowErr → Prop
  | repeated (h : uid ∈ after) : Offence targetUID matWork st uid after .comErrDuplicateMaterial
  | missing (hnew : uid ∉ after) (h : (s.card (s.getInst uid)).isNull E = true) :
    Offence targetUID matWork st uid after .svrCardLvErrNotExistMaterial
  | locked (hnew : uid ∉ after) (hfound : (s.card (s.getInst uid)).isNull E = false)
    (h : (s.card (s.getInst uid)).lock = true) : Offence targetUID matWork st uid after .comErrLvLockedMaterial
  | noTable (hnew : uid ∉ after) (hfound : (s.card (s.getInst uid)).isNull E = false)
    (hunlocked : (s.card (s.getInst uid)).lock = false) (h : T.tableIsNull (s.card (s.getInst uid)).tableID = true) :
    Offence targetUID matWork st uid after .comErrLvNotExistTableDataMaterial
  | placed (hnew : uid ∉ after) (hfound : (s.card (s.getInst uid)).isNull E = false)
    (hunlocked : (s.card (s.getInst uid)).lock = false)
    (htable : T.tableIsNull (s.card (s.getInst uid)).tableID = false)
    (h : (s.card (s.getInst uid)).posKind ≠ E.kNone) :
    Offence targetUID matWork st uid after (placedErr E (s.card (s.getInst uid)).posKind)
  | target (hnew : uid ∉ after) (hfound : (s.card (s.getInst uid)).isNull E = false)
    (hunlocked : (s.card (s.getInst uid)).lock = false)
    (htable : T.tableIsNull (s.card (s.getInst uid)).tableID = false)
    (hunplaced : (s.card (s.getInst uid)).posKind = E.kNone) (h : targetUID = (s.card (s.getInst uid)).cardUID) :
    Offence targetUID matWork st uid after .comErrEixstTargetInMaterial
  | callback (hnew : uid ∉ after) (hmaterial : Material E T s targetUID uid) {err : GrowErr}
    (h : matWork st (s.card (s.getInst uid)) = .error err) : Offence targetUID matWork st uid after err

/-- the error of the first card at which the loop leaves: the cards before it occur once, may be consumed, and have been
handed to the callback -/
def FirstOffence (targetUID : ℕ) (matWork : σ → CardPiece → Except GrowErr σ) (maters : List ℕ) (st : σ) (err : GrowErr) :
    Prop :=
  ∃ before uid after st₁, maters = before ++ uid :: after ∧
    (∀ v ∈ before, maters.count v = 1 ∧ Material E T s targetUID v) ∧
    before.foldlM (fun st v => matWork st (s.card (s.getInst v))) st = .ok st₁ ∧
    Offence E T s targetUID matWork st₁ uid after err

variable {E T s} {targetUID uid : ℕ} {matWork : σ → CardPiece → Except GrowErr σ} {maters : List ℕ} {st st' : σ}
  {err : GrowErr}

theorem KeyedCards.usable (hkeyed : KeyedCards E s) (h : Material E T s targetUID uid) : Usable E T s targetUID uid := by
  cases hcont : s.cont uid with
  | none =>
    have hnull : (s.card (s.getInst uid)).isNull E = true := by
      rw [St.getInst, hcont]
      exact hkeyed.null
    rw [h.exists_inst] at hnull
    cases hnull
  | some a =>
    refine ⟨⟨a, hcont⟩, h.unlocked, h.table, h.unused, ?_⟩
    have huid : (s.card (s.getInst uid)).cardUID = uid := by
      rw [St.getInst, hcont]
      exact hkeyed.keys uid a hcont
    rintro rfl
    exact h.not_target huid.symm

/-! ## One card -/

theorem isCheckUseKind_error {pkt : CardPiece} (h : isCheckUseKind E pkt = .error err) :
    pkt.posKind ≠ E.kNone ∧ materialErr err = placedErr E pkt.posKind := by
  unfold isCheckUseKind at h
  unfold placedErr
  split_ifs at h with hnone hchar hfacility
  · obtain rfl := Except.error.inj h
    exact ⟨hnone, by rw [if_pos hchar]; rfl⟩
  · obtain rfl := Except.error.inj h
    exact ⟨hnone, by rw [if_neg hchar, if_pos hfacility]; rfl⟩
  · obtain rfl := Except.error.inj h
    exact ⟨hnone, by rw [if_neg hchar, if_neg hfacility]; rfl⟩

/-- a card that cannot be sold is an offence under the material's error -/
theorem isCheckCanSell_error {after : List ℕ} (hnew : uid ∉ after) (h : isCheckCanSell E T s uid = .error err) :
    Offence E T s targetUID matWork st uid after (materialErr err) := by
  unfold isCheckCanSell at h
  dsimp only at h
  split_ifs at h with hnull hlock htable
  · obtain rfl := Except.error.inj h
    exact .missing hnew hnull
  · obtain rfl := Except.error.inj h
    exact .locked hnew (by simpa using hnull) hlock
  · obtain rfl := Except.error.inj h
    exact .noTable hnew (by simpa using hnull) (by simpa using hlock) htable
  · cases hkind : isCheckUseKind E (s.card (s.getInst uid)) with
    | ok u =>
      rw [hkind] at h
      cases h
    | error err' =>
      rw [hkind] at h
      obtain rfl := Except.error.inj h
      obtain ⟨hplaced, herr⟩ := isCheckUseKind_error hkind
      rw [herr]
      exact .placed hnew (by simpa using hnull) (by simpa using hlock) (by simpa using htable) hplaced

theorem isCheckCanSell_found (hfound : (s.card (s.getInst uid)).isNull E = false)
    (hunlocked : (s.card (s.getInst uid)).lock = false)
    (htable : T.tableIsNull (s.card (s.getInst uid)).tableID = false) :
    isCheckCanSell E T s uid = (isCheckUseKind E (s.card (s.getInst uid))).map fun _ => s.card (s.getInst uid) := by
  unfold isCheckCanSell
  simp only [hfound, hunlocked, htable, Bool.false_eq_true, if_false]
  cases isCheckUseKind E (s.card (s.getInst uid)) <;> rfl

theorem isCheckCanSell_material (h : Material E T s targetUID uid) :
    isCheckCanSell E T s uid = .ok (s.card (s.getInst uid)) := by
  rw [isCheckCanSell_found h.exists_inst h.unlocked h.table, isCheckUseKind, if_pos h.unused]
  rfl

theorem isCheckUseKind_placed {pkt : CardPiece} (h : pkt.posKind ≠ E.kNone) :
    ∃ err, isCheckUseKind E pkt = .error err ∧ materialErr err = placedErr E pkt.posKind := by
  cases hkind : isCheckUseKind E pkt with
  | ok u => exact absurd (isCheckUseKind_ok hkind) h
  | error err => exact ⟨err, rfl, (isCheckUseKind_error hkind).2⟩

/-- a card that passes -/
theorem materialLoop_pass (hnew : uid ∉ maters) (h : Material E T s targetUID uid)
    (hwork : matWork st (s.card (s.getInst uid)) = .ok st') :
    materialLoop E T s targetUID matWork (uid :: maters) st = materialLoop E T s targetUID matWork maters st' := by
  rw [materialLoop, if_neg hnew, isCheckCanSell_material h]
  dsimp only
  rw [if_neg h.not_target, hwork]

/-- a card at which the loop leaves -/
theorem materialLoop_offence (h : Offence E T s targetUID matWork st uid maters err) :
    materialLoop E T s targetUID matWork (uid :: maters) st = .error err := by
  cases h with
  | repeated h => rw [materialLoop, if_pos h]
  | missing hnew h =>
    rw [materialLoop, if_neg hnew, isCheckCanSell]
    simp only [h, if_true]
    rfl
  | locked hnew hfound h =>
    rw [materialLoop, if_neg hnew, isCheckCanSell]
    simp only [hfound, h, Bool.false_eq_true, if_false, if_true]
    rfl
  | noTable hnew hfound hunlocked h =>
    rw [materialLoop, if_neg hnew, isCheckCanSell]
    simp only [hfound, hunlocked, h, Bool.false_eq_true, if_false, if_true]
    rfl
  | placed hnew hfound hunlocked htable h =>
    obtain ⟨err', hkind, herr⟩ := isCheckUseKind_placed h
    rw [materialLoop, if_neg hnew, isCheckCanSell_found hfound hunlocked htable, hkind, ← herr]
    rfl
  | target hnew hfound hunlocked htable hunplaced h =>
    rw [materialLoop, if_neg hnew, isCheckCanSell_found hfound hunlocked htable, isCheckUseKind, if_pos hunplaced]
    exact if_pos h
  | callback hnew hmaterial h =>
    rw [materialLoop, if_neg hnew, isCheckCanSell_material hmaterial]
    dsimp only
    rw [if_neg hmaterial.not_target, h]

/-- one card of a refused loop: it is the offence, or it passes and the rest is refused -/
theorem materialLoop_cons_error (h : materialLoop E T s targetUID matWork (uid :: maters) st = .error err) :
    Offence E T s targetUID matWork st uid maters err ∨
      ∃ st₁, uid ∉ maters ∧ Material E T s targetUID uid ∧ matWork st (s.card (s.getInst uid)) = .ok st₁ ∧
        materialLoop E T s targetUID matWork maters st₁ = .error err := by
  unfold materialLoop at h
  split_ifs at h with hrepeated
  · obtain rfl := Except.error.inj h
    exact Or.inl (.repeated hrepeated)
  · split at h
    · rename_i err' hsell
      obtain rfl := Except.error.inj h
      exact Or.inl (isCheckCanSell_error hrepeated hsell)
    · rename_i mater hsell
      have hmater : ∀ {t : ℕ}, t ≠ mater.cardUID → mater = s.card (s.getInst uid) ∧ Material E T s t uid := fun ht =>
        isCheckCanSell_ok hsell ht
      split_ifs at h with htarget
      · obtain rfl := Except.error.inj h
        -- any other target would have let the card pass
        obtain ⟨rfl, hmaterial⟩ := hmater (Nat.succ_ne_self mater.cardUID)
        exact Or.inl (.target hrepeated hmaterial.exists_inst hmaterial.unlocked hmaterial.table hmaterial.unused htarget)
      · obtain ⟨rfl, hmaterial⟩ := hmater htarget
        split at h
        · rename_i err' hwork
          obtain rfl := Except.error.inj h
          exact Or.inl (.callback hrepeated hmaterial hwork)
        · rename_i st₁ hwork
          exact Or.inr ⟨st₁, hrepeated, hmaterial, hwork, h⟩

/-! ## The loop -/

theorem count_cons_passed {v : ℕ} (hnew : uid ∉ maters) (hv : v ∈ maters) : (uid :: maters).count v = maters.count v :=
  List.count_cons_of_ne (by rintro rfl; exact hnew hv)

/-- the first offence of the cards behind one that passes -/
theorem FirstOffence.cons (hnew : uid ∉ maters) (hmaterial : Material E T s targetUID uid)
    (hwork : matWork st (s.card (s.getInst uid)) = .ok st') (h : FirstOffence E T s targetUID matWork maters st' err) :
    FirstOffence E T s targetUID matWork (uid :: maters) st err := by
  obtain ⟨before, v, after, st₁, rfl, hbefore, hfold, hoffence⟩ := h
  refine ⟨uid :: before, v, after, st₁, rfl, ?_, ?_, hoffence⟩
  · intro v' hv'
    rcases List.mem_cons.1 hv' with rfl | hv'
    · exact ⟨by rw [List.count_cons_self, List.count_eq_zero_of_not_mem hnew], hmaterial⟩
    · obtain ⟨hcount, hv⟩ := hbefore v' hv'
      exact ⟨by rw [count_cons_passed hnew (List.mem_append_left _ hv'), hcount], hv⟩
  · rw [List.foldlM_cons, hwork]
    exact hfold

/-- the first offence is the first card, or this card passes -/
theorem FirstOffence.uncons (h : FirstOffence E T s targetUID matWork (uid :: maters) st err) :
    Offence E T s targetUID matWork st uid maters err ∨
      ∃ st₁, uid ∉ maters ∧ Material E T s targetUID uid ∧ matWork st (s.card (s.getInst uid)) = .ok st₁ ∧
        FirstOffence E T s targetUID matWork maters st₁ err := by
  obtain ⟨before, v, after, st₁, hsplit, hbefore, hfold, hoffence⟩ := h
  cases before with
  | nil =>
    obtain ⟨rfl, rfl⟩ := List.cons.inj hsplit
    obtain rfl := Except.ok.inj hfold
    exact Or.inl hoffence
  | cons u before =>
    right
    rw [List.cons_append] at hsplit
    obtain ⟨rfl, rfl⟩ := List.cons.inj hsplit
    obtain ⟨hcount, hmaterial⟩ := hbefore uid List.mem_cons_self
    have hnew : uid ∉ before ++ v :: after := by
      rw [List.count_cons_self] at hcount
      exact List.count_eq_zero.1 (Nat.succ.inj hcount)
    rw [List.foldlM_cons] at hfold
    cases hwork : matWork st (s.card (s.getInst uid)) with
    | error e =>
      rw [hwork] at hfold
      cases hfold
    | ok st₂ =>
      rw [hwork] at hfold
      refine ⟨st₂, hnew, hmaterial, rfl, before, v, after, st₁, rfl, fun v' hv' => ?_, hfold, hoffence⟩
      obtain ⟨hcount', hv⟩ := hbefore v' (List.mem_cons_of_mem uid hv')
      rw [count_cons_passed hnew (List.mem_append_left _ hv')] at hcount'
      exact ⟨hcount', hv⟩

/-- **A refused loop returns the error of the first offending card.** -/
theorem materialLoop_error_iff : materialLoop E T s targetUID matWork maters st = .error err ↔
    FirstOffence E T s targetUID matWork maters st err := by
  induction maters generalizing st with
  | nil =>
    constructor
    · intro h
      cases h
    · rintro ⟨before, uid, after, st₁, hsplit, -⟩
      simp at hsplit
  | cons uid maters ih =>
    constructor
    · intro h
      rcases materialLoop_cons_error h with hoffence | ⟨st₁, hnew, hmaterial, hwork, hrest⟩
      · exact ⟨[], uid, maters, st, rfl, by simp, rfl, hoffence⟩
      · exact (ih.1 hrest).cons hnew hmaterial hwork
    · intro h
      rcases h.uncons with hoffence | ⟨st₁, hnew, hmaterial, hwork, hrest⟩
      · exact materialLoop_offence hoffence
      · rw [materialLoop_pass hnew hmaterial hwork]
        exact ih.2 hrest

/-- **Accepted materials are safe to consume, and a refused list names its first offence.** -/
theorem commonGrow_materials (hkeyed : KeyedCards E s) (req : GrowReq) (piece : CardPiece)
    (matWork : σ → CardPiece → Except GrowErr σ) (itemWork : σ → ι → ℕ → Except GrowErr σ) (maxMaterCnt : ℕ) (st : σ) :
    (∀ st' out, isCheckCommonGrow E T s req piece matWork itemWork maxMaterCnt st = .ok (st', out) →
      req.maters.Nodup ∧ (∀ uid ∈ req.maters, Usable E T s piece.cardUID uid) ∧
        ∃ st₁, req.maters.foldlM (fun st uid => matWork st (s.card (s.getInst uid))) st = .ok st₁ ∧
          T.isCheckItemWhenGetResult itemWork st₁ req.materItems = .ok (st', out)) ∧
    ∀ err, CardPartReached E T req piece maxMaterCnt →
      materialLoop E T s piece.cardUID matWork req.maters st = .error err →
        isCheckCommonGrow E T s req piece matWork itemWork maxMaterCnt st = .error err ∧
          FirstOffence E T s piece.cardUID matWork req.maters st err := by
  constructor
  · intro st' out h
    obtain ⟨-, -, hnodup, hall, hrun⟩ := isCheckCommonGrow_ok h
    exact ⟨hnodup, fun uid hmem => hkeyed.usable (hall uid hmem), hrun⟩
  · intro err hreached h
    refine ⟨?_, materialLoop_error_iff.1 h⟩
    unfold isCheckCommonGrow
    rw [if_neg (by simp [hreached.target]), if_neg (by simp [hreached.table]), if_neg hreached.some_mater,
      if_neg (Nat.not_lt.2 hreached.limit), h]

end

theorem growSt_keyed : KeyedCards sampleEnv growSt := by
  refine ⟨?_, by decide⟩
  intro u a h
  have hcont : growSt.cont u = if u = 2 then some 200 else if u = 1 then some 100 else none := by
    simp [growSt, doInit, doAdd, addCard, storeCard, sampleCard, sampleEnv, construct, Function.update_apply]
  rw [hcont] at h
  split_ifs at h with h2 h1
  · obtain rfl := Option.some.inj h
    rw [h2]
    decide
  · obtain rfl := Option.some.inj h
    rw [h1]
    decide

/-- card 2 twice for card 1 -/
def twiceReq : GrowReq := ⟨1, [2, 2], []⟩

/-- card 2 for card 1 is accepted, and card 2 twice is refused at its first occurrence -/
theorem commonGrow_materials_sample :
    Usable sampleEnv sampleTables growSt 1 2 ∧
      FirstOffence sampleEnv sampleTables growSt 1 (skillMaterWork 10) twiceReq.maters 1 .comErrDuplicateMaterial := by
  have hok : isCheckCommonGrow sampleEnv sampleTables growSt growReq (sampleCard 1 10 0 0 0) (skillMaterWork 10)
      (skillItemWork sampleTables 1) 10 1 = .ok (2, [⟨0, 3⟩]) := by decide
  have hloop : materialLoop sampleEnv sampleTables growSt 1 (skillMaterWork 10) twiceReq.maters 1 =
      .error .comErrDuplicateMaterial := by decide
  obtain ⟨-, husable, -⟩ := (commonGrow_materials growSt_keyed growReq (sampleCard 1 10 0 0 0) (skillMaterWork 10)
    (skillItemWork sampleTables 1) 10 1).1 _ _ hok
  have hreached : CardPartReached sampleEnv sampleTables twiceReq (sampleCard 1 10 0 0 0) 10 :=
    ⟨by decide, by decide, by decide, by decide⟩
  obtain ⟨-, hfirst⟩ := (commonGrow_materials growSt_keyed twiceReq (sampleCard 1 10 0 0 0) (skillMaterWork 10)
    (skillItemWork sampleTables 1) 10 1).2 _ hreached hloop
  exact ⟨husable 2 (by decide), hfirst⟩

end GameServer.Card
