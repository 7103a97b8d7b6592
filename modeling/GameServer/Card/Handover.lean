/-
Supporters that are handed over to other contents in the middle of a run: `GetInfo` there, `DoInit` here, and the requests
go on. `C++/CardContents.cpp`.

- `isCanApplyPosCard_alike`: a placement is accepted on both sides or on neither, though the slot vectors were made by
  different requests;
- `serveCare_alike`: a step keeps two contents alike, though the pools hand out other objects;
- `handover`: so nobody can tell from the cards, the books and the slots that a run was handed over, at any point of it.
-/
import Mathlib.Tactic
import GameServer.Core.Run
import GameServer.Card.Settled
import GameServer.Card.Alike

namespace GameServer.Card

open GameServer.Core GameServer.Core.Flags

variable {ι κ υ ρ π : Type} {E : Env} {T : CareTables ι κ} {F : FlagEnv υ ρ π} {P : ProductTables} {s t : St}

/-! ## Accepted placements -/

/-- the work of a batch placement does not look at pointers -/
def PointerBlind (checkWork : CardPiece → ℕ → ErrNum) : Prop := ∀ c d loop, SameCard c d → checkWork c loop = checkWork d loop

theorem applyPosCardsLoop_alike (h : Alike s t) (hs : KeyedCards E s) (ht : KeyedCards E t)
    {checkWork : CardPiece → ℕ → ErrNum} (hwork : PointerBlind checkWork) (kind value loop : ℕ) (uids same : List ℕ)
    (out : List SlotPos) : applyPosCardsLoop E s kind value checkWork loop uids same out =
      applyPosCardsLoop E t kind value checkWork loop uids same out := by
  induction uids generalizing loop same out with
  | nil => rfl
  | cons uid uids ih =>
    rw [applyPosCardsLoop, applyPosCardsLoop]
    rcases h.lookup hs ht uid with ⟨hnull, hnull'⟩ | ⟨p, a, b, -, -, hcard', hcard⟩
    · rw [if_pos hnull, if_pos hnull']
    · rw [hcard, hcard']
      dsimp only
      rw [hwork { t.cards b with book := p } (t.cards b) loop ⟨p, rfl⟩, ih]
      rfl

/-- `IsCanApplyPosCards` -/
theorem isCanApplyPosCards_alike (h : Alike s t) (hs : KeyedCards E s) (ht : KeyedCards E t)
    {checkWork : CardPiece → ℕ → ErrNum} (hwork : PointerBlind checkWork) (uids : List ℕ) (kind value : ℕ) :
    isCanApplyPosCards E s uids kind value checkWork = isCanApplyPosCards E t uids kind value checkWork := by
  unfold isCanApplyPosCards
  rw [applyPosCardsLoop_alike h hs ht hwork]

/-- two pointers to null cards, or to the same card -/
def SamePtr (E : Env) (s t : St) (p q : Option Addr) : Prop :=
  (s.card p).isNull E = true ∧ (t.card q).isNull E = true ∨ SameCard (s.card p) (t.card q)

/-- the scan goes the same way over the same cards -/
theorem scanSlots_alike {vec vec' : InstVec} (skip : ℕ → Bool) (dst tid : ℕ) {ns : List ℕ}
    (hvec : ∀ n ∈ ns, SamePtr E s t (vec n) (vec' n)) {old old' : Option Addr} (hold : SamePtr E s t old old') :
    scanSlots E s vec skip dst tid ns old = none ∧ scanSlots E t vec' skip dst tid ns old' = none ∨
      ∃ r r', scanSlots E s vec skip dst tid ns old = some r ∧ scanSlots E t vec' skip dst tid ns old' = some r' ∧
        SamePtr E s t r r' := by
  induction ns generalizing old old' with
  | nil => exact Or.inr ⟨old, old', rfl, rfl, hold⟩
  | cons n ns ih =>
    have hhead : SamePtr E s t (vec n) (vec' n) := hvec n List.mem_cons_self
    have htail : ∀ m ∈ ns, SamePtr E s t (vec m) (vec' m) := fun m hm => hvec m (List.mem_cons_of_mem n hm)
    rw [scanSlots, scanSlots]
    by_cases hskip : skip n = true
    · rw [if_pos hskip, if_pos hskip]
      exact ih htail hold
    rw [if_neg hskip, if_neg hskip]
    by_cases hdst : n = dst
    · rw [if_pos hdst, if_pos hdst]
      exact ih htail hhead
    rw [if_neg hdst, if_neg hdst]
    rcases hhead with ⟨hnull, hnull'⟩ | ⟨p, hcard⟩
    · rw [if_pos hnull, if_pos hnull']
      exact ih htail hold
    · have hnull : (s.card (vec n)).isNull E = (t.card (vec' n)).isNull E := by
        rw [hcard]
        rfl
      have htid : (s.card (vec n)).tableID = (t.card (vec' n)).tableID := by rw [hcard]
      rw [hnull, htid]
      split_ifs
      · exact ih htail hold
      · exact Or.inl ⟨rfl, rfl⟩
      · exact ih htail hold

/-- no vector, no other card -/
theorem scanSlots_empty (hnull : s.msNullCard.isNull E = true) (skip : ℕ → Bool) (dst tid : ℕ) (ns : List ℕ) :
    scanSlots E s emptyVec skip dst tid ns none = some none := by
  induction ns with
  | nil => rfl
  | cons n ns ih =>
    have hslot : (s.card (emptyVec n)).isNull E = true := hnull
    rw [scanSlots, if_pos hslot]
    split_ifs
    · exact ih
    · exact ih
    · exact ih

/-- the placement scans a vector of free slots where there is no vector -/
theorem isCanApplyPosCard_scan {C : UserChecks} {pkt : ApplyPos} {limit : ℕ} (hnull : s.msNullCard.isNull E = true)
    (hguard : applyPosGuard E C s pkt = .ok limit) : isCanApplyPosCard E C s pkt =
      match scanSlots E s ((s.posCont pkt.posKind pkt.posValue).getD emptyVec)
        (fun n => decide ((s.card (s.getInst pkt.cardUID)).posValue = pkt.posValue ∧
          (s.card (s.getInst pkt.cardUID)).posSlotNum = n)) pkt.slotNum (s.card (s.getInst pkt.cardUID)).tableID
        (List.range limit) none with
      | none => .error .svrCardPosErrAlreadySameUsedInSlot
      | some old => .ok (fillOldCard E s pkt old) := by
  have hkind : ¬ E.kMax ≤ pkt.posKind := not_le.2 (applyPosGuard_ok hguard).valid.2.1
  unfold isCanApplyPosCard
  rw [hguard]
  dsimp only
  rw [getInstVecToPosValue, if_neg hkind]
  cases s.posCont pkt.posKind pkt.posValue with
  | some vec => rfl
  | none =>
    rw [Option.getD_none, scanSlots_empty hnull]
    exact congrArg Except.ok (if_pos hnull).symm

theorem applyPosGuard_alike (h : Alike s t) (hs : KeyedCards E s) (ht : KeyedCards E t) (C : UserChecks) (pkt : ApplyPos) :
    applyPosGuard E C s pkt = applyPosGuard E C t pkt := by
  unfold applyPosGuard
  rcases h.lookup hs ht pkt.cardUID with ⟨hnull, hnull'⟩ | ⟨p, a, b, -, -, hcard', hcard⟩
  · dsimp only
    rw [if_pos hnull, if_pos hnull']
  · rw [hcard, hcard']
    rfl

/-- the two slot indexes point to the same card -/
theorem Alike.samePtr (h : Alike s t) (hs : Inv E s) (ht : Inv E t) {k v n : ℕ} (hvalid : ValidPos E (k, v, n)) :
    SamePtr E s t (slotAt s k v n) (slotAt t k v n) := by
  have hocc : ∀ s, occ E s (k, v, n) = slotAt s k v n := fun s => if_pos hvalid
  rcases h.slot hs ht (k, v, n) with ⟨hfree, hfree'⟩ | ⟨u, a, b, ha, hb, hu, hu'⟩
  · rw [hocc] at hfree hfree'
    rw [hfree, hfree']
    exact Or.inl ⟨hs.null, ht.null⟩
  · rw [hocc] at ha hb
    rw [ha, hb]
    rcases h.card u with ⟨hnone, -⟩ | ⟨a', b', ha', hb', heq⟩
    · rw [hnone] at hu
      cases hu
    · obtain rfl := Option.some.inj (ha'.symm.trans hu)
      obtain rfl := Option.some.inj (hb'.symm.trans hu')
      exact Or.inr (noBook_eq heq)

theorem fillOldCard_alike (h : Alike s t) (hs : KeyedCards E s) (ht : KeyedCards E t) {pkt : ApplyPos}
    (hfound : (s.card (s.getInst pkt.cardUID)).isNull E = false) {old old' : Option Addr} (hold : SamePtr E s t old old') :
    fillOldCard E s pkt old = fillOldCard E t pkt old' := by
  unfold fillOldCard
  rcases h.lookup hs ht pkt.cardUID with ⟨hnull, -⟩ | ⟨p, a, b, -, -, hcard', hcard⟩
  · rw [hnull] at hfound
    cases hfound
  · rcases hold with ⟨hnull, hnull'⟩ | ⟨q, hsame⟩
    · dsimp only
      rw [if_pos hnull, if_pos hnull']
    · rw [hcard, hcard', hsame]
      rfl

/-- `IsCanApplyPosCard` -/
theorem isCanApplyPosCard_alike (h : Alike s t) (hs : Inv E s) (ht : Inv E t) (C : UserChecks) (pkt : ApplyPos) :
    Matched Eq (isCanApplyPosCard E C s pkt) (isCanApplyPosCard E C t pkt) := by
  have hkeyed : KeyedCards E s := ⟨hs.keys, hs.null⟩
  have hkeyed' : KeyedCards E t := ⟨ht.keys, ht.null⟩
  have hsame := applyPosGuard_alike h hkeyed hkeyed' C pkt
  cases hguard : applyPosGuard E C s pkt with
  | error e =>
    rw [hguard] at hsame
    rw [isCanApplyPosCard, isCanApplyPosCard, hguard, ← hsame]
    exact trivial
  | ok limit =>
    rw [hguard] at hsame
    have hg := applyPosGuard_ok hguard
    rw [isCanApplyPosCard_scan hs.null hguard, isCanApplyPosCard_scan ht.null hsame.symm]
    have hvec : ∀ n ∈ List.range limit, SamePtr E s t ((s.posCont pkt.posKind pkt.posValue).getD emptyVec n)
        ((t.posCont pkt.posKind pkt.posValue).getD emptyVec n) := by
      intro n hn
      rw [slotAt_getD, slotAt_getD]
      exact h.samePtr hs ht ⟨hg.valid.1, hg.valid.2.1, (List.mem_range.1 hn).trans_le hg.limit_le⟩
    have hnone : SamePtr E s t none none := Or.inl ⟨hs.null, ht.null⟩
    rcases h.lookup hkeyed hkeyed' pkt.cardUID with ⟨hnull, -⟩ | ⟨p, a, b, -, -, hcard', hcard⟩
    · exact absurd (hnull.symm.trans hg.exist) (by decide)
    · rw [hcard, hcard']
      dsimp only
      rcases scanSlots_alike (fun n => decide ((t.cards b).posValue = pkt.posValue ∧ (t.cards b).posSlotNum = n))
        pkt.slotNum (t.cards b).tableID hvec hnone with ⟨hscan, hscan'⟩ | ⟨old, old', hscan, hscan', hold⟩
      · rw [hscan, hscan']
        exact trivial
      · rw [hscan, hscan']
        exact fillOldCard_alike h hkeyed hkeyed' hg.exist hold

/-! ## Growth and removal -/

/-- an accepted growth, and its materials -/
theorem Alike.grow (h : Alike s t) (hs : Sound E T s) (ht : Sound E T t) (g : CardGrow) (maters : List ℕ) :
    Alike (delMaters E (doApplyCommonGrow s g).2 maters) (delMaters E (doApplyCommonGrow t g).2 maters) := by
  have hwrite : Alike (s.setCard (s.getInst g.targetUID) g.write) (t.setCard (t.getInst g.targetUID) g.write) := by
    refine h.setCard hs.keyed.unshared ht.keyed.unshared g.targetUID rfl rfl fun c d heq => ?_
    obtain ⟨p, rfl⟩ := noBook_eq heq
    rfl
  have hgrown : Alike (doApplyCommonGrow s g).2 (doApplyCommonGrow t g).2 := by
    refine hwrite.updateBook ?_ ?_ g.bookState
    · unfold UnsharedBooks
      rw [setCard_bookCont]
      exact hs.booked.unshared
    · unfold UnsharedBooks
      rw [setCard_bookCont]
      exact ht.booked.unshared
  have hcont : ∀ s : St, (doApplyCommonGrow s g).2.cont = s.cont := by
    intro s
    obtain ⟨objs, null, heq⟩ := doUpdateBook_frame (s.setCard (s.getInst g.targetUID) g.write) g.bookState
    have hall : (doApplyCommonGrow s g).2 =
        { s.setCard (s.getInst g.targetUID) g.write with books := objs, msNullBook := null } := heq
    rw [hall]
    exact setCard_cont ..
  exact hgrown.removed (delMaters_removed (hs.keyed.unshared.congr (hcont s)) maters)
    (delMaters_removed (ht.keyed.unshared.congr (hcont t)) maters)

/-! ## Steps and runs -/

/-- nothing that comes with the request looks at pointers -/
def CareOp.PointerBlind : CareOp ι υ π → Prop
  | .lvUp O _ _ => O.PointerBlind
  | .applyPosCards _ _ _ checkWork => Card.PointerBlind checkWork
  | _ => True

/-- the same request; a grant may get other objects from the pool -/
inductive SameOp : CareOp ι υ π → CareOp ι υ π → Prop
  | grant {items items' : List GrantItem} (bookAddr bookAddr' : ℕ → Addr)
      (told : items.map GrantItem.told = items'.map GrantItem.told) :
      SameOp (.grant items bookAddr) (.grant items' bookAddr')
  | same {op : CareOp ι υ π} (blind : op.PointerBlind) : SameOp op op

/-- **Contents stay alike**: step lemma -/
theorem serveCare_alike (hG : StateBlind T.toGrowTables) (h : Alike s t) (hs : Ready E T s) (ht : Ready E T t)
    {op op' : CareOp ι υ π} (hop : SameOp op op') (hl : legalCare E T P s op) (hl' : legalCare E T P t op') :
    Alike (serveCare E T F P s op) (serveCare E T F P t op') := by
  have hkeyed := hs.sound.keyed
  have hkeyed' := ht.sound.keyed
  have hbooked := hs.sound.booked
  have hbooked' := ht.sound.booked
  rcases hop with @⟨items, items', bookAddr, bookAddr', told⟩ | @⟨op, blind⟩
  · exact h.grant hs.sound ht.sound told hl hl'
  cases op with
  | grant items bookAddr => exact h.grant hs.sound ht.sound rfl hl hl'
  | applyPos C pkt =>
    rw [serveCare, serveCare, serve, serve]
    rcases (isCanApplyPosCard_alike h hs.inv ht.inv C pkt).cases with ⟨e, e', hv, hv'⟩ | ⟨x, y, hv, hv', rfl⟩
    · rw [hv, hv']
      exact h
    · rw [hv, hv']
      exact h.applyPosCard hkeyed hkeyed' x
  | applyPosCards uids kind value checkWork =>
    rw [serveCare, serveCare, serve, serve, isCanApplyPosCards_alike h hkeyed hkeyed' blind]
    split
    · exact h.applyPosCards hkeyed hkeyed' _
    · exact h
  | applyOutPos uid => exact (h.delPosUid hkeyed hkeyed' uid).2
  | applyOutPosCards uids => exact h.outPosCards hkeyed hkeyed' uids
  | lock uid lock =>
    rw [serveCare, serveCare]
    rcases (isCanLockFlag_alike h hkeyed hkeyed' uid lock).cases with ⟨e, e', hv, hv'⟩ | ⟨x, y, hv, hv', -⟩
    · rw [hv, hv']
      exact h
    · rw [hv, hv']
      have hlock : Alike (doSetLock s uid lock).2 (doSetLock t uid lock).2 := by
        refine h.setCard (f := fun c => { c with lock := lock }) hkeyed.unshared hkeyed'.unshared uid rfl rfl ?_
        intro c d heq
        obtain ⟨p, rfl⟩ := noBook_eq heq
        rfl
      exact hlock
  | sell O uid =>
    rw [serveCare, serveCare]
    rcases (isCanSell_alike (T := T) h hkeyed hkeyed' O uid).cases with ⟨e, e', hv, hv'⟩ | ⟨x, y, hv, hv', rfl⟩
    · rw [hv, hv']
      exact h
    · rw [hv, hv']
      exact h.removed (doDel_removed hkeyed.unshared _) (doDel_removed hkeyed'.unshared _)
  | lvUp O req ignoreCost =>
    rw [serveCare, serveCare]
    rcases (isCanLvUp_alike hG h hs.sound ht.sound blind req ignoreCost).cases with
      ⟨e, e', hv, hv'⟩ | ⟨x, y, hv, hv', rfl⟩
    · rw [hv, hv']
      exact h
    · rw [hv, hv']
      exact h.grow hs.sound ht.sound _ _
  | skillLvUp O req ignoreCost =>
    rw [serveCare, serveCare]
    rcases (isCanSkillLvUp_alike hG h hkeyed hkeyed' O.userGold req ignoreCost).cases with
      ⟨e, e', hv, hv'⟩ | ⟨x, y, hv, hv', rfl⟩
    · rw [hv, hv']
      exact h
    · rw [hv, hv']
      exact h.grow hs.sound ht.sound _ _
  | wake O req ignoreCost =>
    rw [serveCare, serveCare]
    rcases (isCanWake_alike (T := T) h hkeyed hkeyed' O req ignoreCost).cases with
      ⟨e, e', hv, hv'⟩ | ⟨x, y, hv, hv', rfl⟩
    · rw [hv, hv']
      exact h
    · rw [hv, hv']
      exact h.grow hs.sound ht.sound _ _
  | favor charTID gapExp maxErr =>
    rw [serveCare, serveCare]
    rcases (isCanChangeExpInFavor_alike (T := T) h hbooked hbooked' charTID gapExp maxErr).cases with
      ⟨e, e', hv, hv'⟩ | ⟨x, y, hv, hv', rfl⟩
    · rw [hv, hv']
      exact h
    · rw [hv, hv']
      cases x with
      | none => exact h
      | some book => exact h.updateBook hbooked.unshared hbooked'.unshared [book]
  | newConfirm tid =>
    rw [serveCare, serveCare]
    rcases (isCanBookNewConfirm_alike (F := F) h hbooked hbooked' ⟨tid, 0⟩).cases with
      ⟨e, e', hv, hv'⟩ | ⟨x, y, hv, hv', rfl⟩
    · rw [hv, hv']
      exact h
    · rw [hv, hv']
      exact h.bookState hbooked hbooked' _ _
  | getFavorReward user products tid stateIdx =>
    rw [serveCare, serveCare]
    rcases (isCanGetFavorReward_alike (F := F) h hbooked hbooked' user products tid stateIdx).cases with
      ⟨e, e', hv, hv'⟩ | ⟨x, y, hv, hv', rfl⟩
    · rw [hv, hv']
      exact h
    · rw [hv, hv']
      exact h.bookState hbooked hbooked' _ _

variable (E T P) in
/-- what a run relies on -/
def legalReady (s : St) (op : CareOp ι υ π) : Prop := legalCare E T P s op ∧ legalPos E P s op

/-- **A run that is handed over goes on as before**: the cards, the books and the slots of the two contents stay the same,
and both stay ready. -/
theorem handover (hnew : NewPieces T P) (hcalls : CallsOnce T.toGrowTables) (hG : StateBlind T.toGrowTables)
    (hs : Ready E T s) {before after after' : List (CareOp ι υ π)}
    (hbefore : LegalRun (serveCare E T F P) (legalReady E T P) s before) {uids tids : List ℕ} {addrs bookAddrs : List Addr}
    (hw : Walks (run (serveCare E T F P) s before) uids tids) (hp : Pools uids tids addrs bookAddrs)
    (mem : Addr → CardPiece) (bookMem : Addr → BookPiece) (hsame : List.Forall₂ SameOp after after')
    (hafter : LegalRun (serveCare E T F P) (legalReady E T P) (run (serveCare E T F P) s before) after)
    (hafter' : LegalRun (serveCare E T F P) (legalReady E T P)
      (reload E mem bookMem (run (serveCare E T F P) s before) uids tids addrs bookAddrs) after') :
    let kept := run (serveCare E T F P) s (before ++ after)
    let moved := run (serveCare E T F P)
      (reload E mem bookMem (run (serveCare E T F P) s before) uids tids addrs bookAddrs) after'
    Ready E T kept ∧ Ready E T moved ∧ Alike kept moved ∧
      ∀ p, occ E kept p = none ∧ occ E moved p = none ∨
        ∃ u a b, occ E kept p = some a ∧ occ E moved p = some b ∧ kept.cont u = some a ∧ moved.cont u = some b := by
  intro kept moved
  have hready : ∀ {s : St} {ops : List (CareOp ι υ π)}, Ready E T s →
      LegalRun (serveCare E T F P) (legalReady E T P) s ops → Ready E T (run (serveCare E T F P) s ops) := fun hs hrun =>
    run_inv (I := Ready E T) (fun _ op hs hl => serveCare_ready hnew hcalls hs op hl.1 hl.2) hs hrun
  have hmid := hready hs hbefore
  obtain ⟨hloaded, halike⟩ := reload_alike hmid hw hp mem bookMem
  have hrun : Alike (run (serveCare E T F P) (run (serveCare E T F P) s before) after) moved ∧
      Ready E T (run (serveCare E T F P) (run (serveCare E T F P) s before) after) ∧ Ready E T moved := by
    refine run_sim (R := fun s t => Alike s t ∧ Ready E T s ∧ Ready E T t) ?_ hsame ⟨halike, hmid, hloaded⟩ hafter hafter'
    rintro s t op op' ⟨h, hs, ht⟩ hop hl hl'
    exact ⟨serveCare_alike hG h hs ht hop hl.1 hl'.1, serveCare_ready hnew hcalls hs op hl.1 hl.2,
      serveCare_ready hnew hcalls ht op' hl'.1 hl'.2⟩
  have hkept : kept = run (serveCare E T F P) (run (serveCare E T F P) s before) after := run_append ..
  rw [hkept]
  exact ⟨hrun.2.1, hrun.2.2, hrun.1, hrun.1.slot hrun.2.1.inv hrun.2.2.inv⟩

/-! ## A small handover -/

theorem noCards_ready : Ready sampleEnv sampleCare noCards := by
  refine ⟨noCards_sound, construct_inv .., ?_⟩
  intro u a hu
  cases hu

theorem sampleTables_stateBlind : StateBlind sampleTables := by
  intro σ Q work items hwork st st' hst
  have hfold : Matched Q (items.foldlM (fun st item => work st item.uid item.cnt) st)
      (items.foldlM (fun st item => work st item.uid item.cnt) st') := by
    induction items generalizing st st' with
    | nil => exact hst
    | cons item items ih =>
      rw [List.foldlM_cons, List.foldlM_cons]
      rcases (hwork st st' item.uid item.cnt hst).cases with ⟨e, e', hv, hv'⟩ | ⟨x, y, hv, hv', hxy⟩
      · rw [hv, hv']
        exact trivial
      · rw [hv, hv']
        exact ih x y hxy
  dsimp only [sampleTables]
  rcases hfold.cases with ⟨e, e', hv, hv'⟩ | ⟨x, y, hv, hv', hxy⟩
  · rw [hv, hv']
    exact trivial
  · rw [hv, hv']
    exact ⟨hxy, rfl⟩

/-- the first supporter goes to character 7 -/
def samplePlace : CareOp ℕ Unit (List ℕ) := .applyPos sampleChecks ⟨1, 1, 7, 0, 0, 4⟩

/-- then the second one is used up for it -/
def sampleLvUp : CareOp ℕ Unit (List ℕ) := .lvUp sampleOutside ⟨1, [2], []⟩ true

/-- the contents after the placement -/
def samplePlaced : St := run (serveCare sampleEnv sampleCare sampleFlagEnv sampleProducts) noCards [sampleGrant, samplePlace]

theorem samplePlaced_walks : Walks samplePlaced [2, 1] [10] := by
  have hcont : samplePlaced.cont = Function.update (Function.update (fun _ => none) 1 (some 100)) 2 (some 200) := rfl
  have hbookCont : samplePlaced.bookCont = Function.update (fun _ => none) 10 (some 300) := rfl
  refine ⟨by decide, fun uid => ?_, by decide, fun tid => ?_⟩
  · rw [hcont, Function.update_apply, Function.update_apply, List.mem_cons, List.mem_singleton]
    split_ifs with hsecond hfirst
    · simp [hsecond]
    · simp [hfirst]
    · simp [hsecond, hfirst]
  · rw [hbookCont, Function.update_apply, List.mem_singleton]
    split_ifs with hbook
    · simp [hbook]
    · simp [hbook]

/-- other objects have them -/
def sampleReloaded : St :=
  reload sampleEnv (fun _ => sampleEnv.nullCard) (fun _ => sampleEnv.nullBook) samplePlaced [2, 1] [10] [11, 12] [13]

theorem handover_sample : Alike
    (run (serveCare sampleEnv sampleCare sampleFlagEnv sampleProducts) noCards ([sampleGrant, samplePlace] ++ [sampleLvUp]))
    (run (serveCare sampleEnv sampleCare sampleFlagEnv sampleProducts) sampleReloaded [sampleLvUp]) := by
  have hnonneg : ∀ gains, 0 ≤ sampleOutside.addExp gains := fun gains =>
    Int.mul_nonneg (by decide) (Int.natCast_nonneg _)
  have hblind : sampleOutside.PointerBlind := by
    intro gains
    simp [sampleOutside]
  have hgrant : legalReady sampleEnv sampleCare sampleProducts noCards sampleGrant := ⟨sampleGrant_legal, by decide, by decide⟩
  have hplace : ∀ s, ¬ KindConfused sampleEnv s ⟨1, 1, 7, 0, 0, 4⟩ →
      legalReady sampleEnv sampleCare sampleProducts s samplePlace := fun s h => ⟨trivial, rfl, fun _ => h⟩
  have hsame : List.Forall₂ SameOp [sampleLvUp] [sampleLvUp] := .cons (.same hblind) .nil
  have hbefore : LegalRun (serveCare sampleEnv sampleCare sampleFlagEnv sampleProducts)
      (legalReady sampleEnv sampleCare sampleProducts) noCards [sampleGrant, samplePlace] :=
    ⟨hgrant, hplace _ (by decide), trivial⟩
  have hafter : ∀ s, LegalRun (serveCare sampleEnv sampleCare sampleFlagEnv sampleProducts)
      (legalReady sampleEnv sampleCare sampleProducts) s [sampleLvUp] := fun s => ⟨⟨hnonneg, trivial⟩, trivial⟩
  exact (handover sampleNewPieces sampleTables_callsOnce sampleTables_stateBlind noCards_ready hbefore samplePlaced_walks
    ⟨by decide, by decide, by decide, by decide⟩ _ _ hsame (hafter _) (hafter _)).2.2.1

end GameServer.Card
