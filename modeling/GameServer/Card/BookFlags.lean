/-
The flag word of one supporter book, with validations and applications in any order.

`IsCanBookNewConfirm` and `IsCanGetFavorReward` put the whole new flag word into the packet, computed from the book as it
is when they run. `DoSetBookState` writes that word over the book as it is when the packet is applied. A run is a list of
such steps: a validation adds a result to the pending ones, an application takes one of them.

A result keeps the word that it was validated against (`seen`). Applied to that same word it only adds its own bit; applied
to another one it switches off what was set in between, and a reward whose bit is off again can be had again
(`reward_paid_twice`). The one exception is a second confirmation, which writes what the first one wrote. This is exactly
what a run needs (`flags_kept_iff`).

Not under src/, and therefore parameters (`FlagEnv`): the bit numbers `STATE`, the level and random tables, and the product
worker. The word is a `uint32_t` and the states are bits of it, so switching one on is `turnOn` on ℕ.
-/
import Mathlib.Tactic
import GameServer.Core.Run
import GameServer.Core.Flags
import GameServer.Card.Model

namespace GameServer.Card

open GameServer.Core GameServer.Core.Flags

/-! ## Validators -/

/-- the errors of the two validators; `makeProduct` is one of the product worker -/
inductive BookErr where
  | svrBookCardErrNotExistInst
  | svrBookComAlreadyConfirm
  | comErrInvalidScopeIndex
  | svrCardRwdErrAlreadyFavorGetReward
  | comErrLackLevel
  | svrComNotExistTableDataLevelup
  | svrCardRwdErrInvalidRewardData
  | makeProduct (err : ErrNum)
deriving DecidableEq, Repr

/-- what the validators use of code that is not under src/: υ is the user as the product worker finds it, ρ a row of the
random table, π a product packet -/
structure FlagEnv (υ ρ π : Type) where
  /-- `PktInfoCardBook::Piece::STATE` -/
  newChk : ℕ
  startFavorRwd : ℕ
  favorRwdGet1 : ℕ
  favorRwdGet2 : ℕ
  favorRwdGet3 : ℕ
  favorRwdGet4 : ℕ
  favorRwdGet5 : ℕ
  endFavorRwd : ℕ
  newChk_not_reward : newChk < startFavorRwd ∨ endFavorRwd ≤ newChk
  /-- `Table().FavorGroup` of a book's table id -/
  favorGroup : ℕ → ℕ
  /-- `TableLevelUp::GetData(group, lv)` and its `GetCardFavorLvUpRwdTID()`; `none` is the null row -/
  cardFavorLvUpRwdTID : ℕ → ℕ → Option ℕ
  /-- the rows that `TableRandom::DoWorkAllToGroupDatas` works through; `none` is an unknown group -/
  groupDatas : ℕ → Option (List ρ)
  /-- `AutoProductWorker::DoMakeProduct` -/
  doMakeProduct : υ → ρ → π → ErrNum × π

/-- `PktInfoBookNewConfirm` -/
structure BookNewConfirm where
  bookTID : ℕ
  retStateFlag : ℕ
deriving DecidableEq, Repr

/-- `PktInfoBookStateReward`: the two fields of `bookState_`, and the products -/
structure BookStateReward (π : Type) where
  tid : ℕ
  stateFlag : ℕ
  products : π

/-- `IsOnFlag` -/
def BookPiece.isOnFlag (b : BookPiece) (idx : ℕ) : Bool := b.stateFlag.testBit idx

/-- the book of a table id, or the null object -/
def St.bookOf (s : St) (tid : ℕ) : BookPiece := s.book (s.getBookInst tid)

section Validators

variable {υ ρ π : Type} (E : Env) (F : FlagEnv υ ρ π)

/-- `IsCanBookNewConfirm` -/
def isCanBookNewConfirm (s : St) (pkt : BookNewConfirm) : Except BookErr BookNewConfirm :=
  let piece := s.bookOf pkt.bookTID
  if piece.isNull E then .error .svrBookCardErrNotExistInst
  else if piece.isOnFlag F.newChk then .error .svrBookComAlreadyConfirm
  else .ok { pkt with retStateFlag := turnOn piece.stateFlag F.newChk }

/-- the switch of `IsCanGetFavorReward` -/
def rewardLv (idx : ℕ) : Option ℕ :=
  if idx = F.favorRwdGet1 then some 1
  else if idx = F.favorRwdGet2 then some 2
  else if idx = F.favorRwdGet3 then some 3
  else if idx = F.favorRwdGet4 then some 4
  else if idx = F.favorRwdGet5 then some 5
  else none

/-- the work of `IsCanGetFavorReward` on all rows: nothing is made after the first error -/
def makeProducts (user : υ) (datas : List ρ) (products : π) : ErrNum × π :=
  datas.foldl (fun r data => if r.1 ≠ .successOk then r else F.doMakeProduct user data r.2) (.successOk, products)

/-- `IsCanGetFavorReward` on an out packet with the given products -/
def isCanGetFavorReward (s : St) (user : υ) (products : π) (tid stateIdx : ℕ) :
    Except BookErr (BookStateReward π) :=
  let book := s.bookOf tid
  if book.isNull E then .error .svrBookCardErrNotExistInst
  else if stateIdx < F.startFavorRwd ∨ F.endFavorRwd ≤ stateIdx then .error .comErrInvalidScopeIndex
  else if book.isOnFlag stateIdx then .error .svrCardRwdErrAlreadyFavorGetReward
  else
    match rewardLv F stateIdx with
    | none => .error .comErrInvalidScopeIndex
    | some lv =>
      if book.favorLv < lv then .error .comErrLackLevel
      else
        match F.cardFavorLvUpRwdTID (F.favorGroup book.tableID) lv with
        | none => .error .svrComNotExistTableDataLevelup
        | some rwdTID =>
          match F.groupDatas rwdTID with
          | none => .error .svrCardRwdErrInvalidRewardData
          | some datas =>
            let made := makeProducts F user datas products
            if made.1 ≠ .successOk then .error (.makeProduct made.1)
            else .ok ⟨tid, turnOn book.stateFlag stateIdx, made.2⟩

end Validators

/-! ## Runs -/

/-- a step on one book: a validation, or an application of the i-th pending result -/
inductive FlagOp (υ π : Type) where
  | newConfirm
  | getFavorReward (user : υ) (products : π) (stateIdx : ℕ)
  | apply (i : ℕ)

/-- a pending result -/
structure FlagResult where
  /-- the book's flag word when the validator ran -/
  seen : ℕ
  /-- the state that the result switches on, and the favor level it rewards; `none` for a confirmation -/
  idx : ℕ
  level : Option ℕ
  /-- the flag word in the packet -/
  stateFlag : ℕ
deriving DecidableEq, Repr

structure FlagRun where
  s : St
  pending : List FlagResult
  /-- the results applied so far -/
  applied : List FlagResult

/-- the favor levels whose reward has been granted -/
def FlagRun.granted (h : FlagRun) : List ℕ := h.applied.filterMap (·.level)

def startFlags (s : St) : FlagRun := ⟨s, [], []⟩

section Run

variable {υ ρ π : Type} (E : Env) (F : FlagEnv υ ρ π) (tid : ℕ)

def serveFlag (h : FlagRun) : FlagOp υ π → FlagRun
  | .newConfirm =>
    match isCanBookNewConfirm E F h.s ⟨tid, 0⟩ with
    | .error _ => h
    | .ok pkt =>
      { h with pending := h.pending ++ [⟨(h.s.bookOf tid).stateFlag, F.newChk, none, pkt.retStateFlag⟩] }
  | .getFavorReward user products stateIdx =>
    match isCanGetFavorReward E F h.s user products tid stateIdx with
    | .error _ => h
    | .ok pkt =>
      { h with
        pending := h.pending ++ [⟨(h.s.bookOf tid).stateFlag, stateIdx, rewardLv F stateIdx, pkt.stateFlag⟩] }
  | .apply i =>
    match h.pending[i]? with
    | none => h
    | some r => ⟨(doSetBookState E h.s tid r.stateFlag).2, h.pending.eraseIdx i, h.applied ++ [r]⟩

/-- the state after n steps of a run on a book -/
def flagTrace (s : St) (ops : List (FlagOp υ π)) (n : ℕ) : FlagRun := run (serveFlag E F tid) (startFlags s) (ops.take n)

/-- no flag is lost, and each favor reward is granted at most once and at its level -/
structure FlagsKept (trace : ℕ → FlagRun) : Prop where
  never_cleared : ∀ m n, m ≤ n → Within ((trace m).s.bookOf tid).stateFlag ((trace n).s.bookOf tid).stateFlag
  applied_on : ∀ m n, m ≤ n → ∀ r ∈ (trace m).applied, ((trace n).s.bookOf tid).isOnFlag r.idx = true
  granted_once : ∀ n, (trace n).granted.Nodup
  granted_level : ∀ n, ∀ lv ∈ (trace n).granted, lv ≤ ((trace n).s.bookOf tid).favorLv

/-- the book still has the flag word that the result was validated against, or just a confirmation more -/
def upToDate (h : FlagRun) : FlagOp υ π → Prop
  | .apply i =>
    match h.pending[i]? with
    | none => True
    | some r => (h.s.bookOf tid).stateFlag = r.seen ∨
        r.level = none ∧ (h.s.bookOf tid).stateFlag = turnOn r.seen F.newChk
  | _ => True

instance (h : FlagRun) (op : FlagOp υ π) : Decidable (upToDate F tid h op) := by
  cases op with
  | apply i =>
    unfold upToDate
    dsimp only
    cases h.pending[i]? <;> infer_instance
  | _ => exact isTrue trivial

end Run

/-! ## What a validator accepts -/

section Steps

variable {υ ρ π : Type} {E : Env} {F : FlagEnv υ ρ π} {tid : ℕ}

/-- a confirmation has no level, a reward has the level of its state -/
def FlagResult.Names (F : FlagEnv υ ρ π) (r : FlagResult) (favorLv : ℕ) : Prop :=
  match r.level with
  | none => r.idx = F.newChk
  | some lv => (F.startFavorRwd ≤ r.idx ∧ r.idx < F.endFavorRwd) ∧ rewardLv F r.idx = some lv ∧ lv ≤ favorLv

/-- what a result says about the book it was validated against, and how the book has changed since -/
structure FlagResult.For (E : Env) (F : FlagEnv υ ρ π) (r : FlagResult) (b : BookPiece) : Prop where
  notNull : b.isNull E = false
  names : r.Names F b.favorLv
  word : r.stateFlag = turnOn r.seen r.idx
  off : r.seen.testBit r.idx = false
  since : Within r.seen b.stateFlag

theorem newConfirm_for {s : St} {w : ℕ} {pkt : BookNewConfirm} (h : isCanBookNewConfirm E F s ⟨tid, w⟩ = .ok pkt) :
    FlagResult.For E F ⟨(s.bookOf tid).stateFlag, F.newChk, none, pkt.retStateFlag⟩ (s.bookOf tid) ∧
      (s.bookOf tid).isOnFlag F.newChk = false := by
  unfold isCanBookNewConfirm at h
  simp only at h
  split_ifs at h with hnull hon
  cases h
  have hoff : (s.bookOf tid).isOnFlag F.newChk = false := by simpa using hon
  exact ⟨⟨by simpa using hnull, rfl, rfl, hoff, Within.refl _⟩, hoff⟩

theorem getFavorReward_for {s : St} {user : υ} {products : π} {stateIdx : ℕ} {pkt : BookStateReward π}
    (h : isCanGetFavorReward E F s user products tid stateIdx = .ok pkt) :
    FlagResult.For E F ⟨(s.bookOf tid).stateFlag, stateIdx, rewardLv F stateIdx, pkt.stateFlag⟩ (s.bookOf tid) ∧
      (s.bookOf tid).isOnFlag stateIdx = false := by
  unfold isCanGetFavorReward at h
  simp only at h
  split_ifs at h with hnull hscope hon
  have hoff : (s.bookOf tid).isOnFlag stateIdx = false := by simpa using hon
  cases hlv : rewardLv F stateIdx with
  | none => simp [hlv] at h
  | some lv =>
    simp only [hlv] at h
    split_ifs at h with hlack
    split at h
    · cases h
    · split at h
      · cases h
      · split_ifs at h
        cases h
        obtain ⟨hlo, hhi⟩ := not_or.1 hscope
        have hnames : FlagResult.Names F ⟨(s.bookOf tid).stateFlag, stateIdx, some lv, turnOn (s.bookOf tid).stateFlag
            stateIdx⟩ (s.bookOf tid).favorLv := ⟨⟨not_lt.1 hlo, not_le.1 hhi⟩, hlv, not_lt.1 hlack⟩
        exact ⟨⟨by simpa using hnull, hnames, rfl, hoff, Within.refl _⟩, hoff⟩

/-- a level belongs to one state -/
theorem rewardLv_inj {i j lv : ℕ} (hi : rewardLv F i = some lv) (hj : rewardLv F j = some lv) : i = j := by
  unfold rewardLv at hi hj
  split_ifs at hi hj <;> grind

/-! ## The invariant -/

theorem FlagRun.mem_granted {h : FlagRun} {lv : ℕ} : lv ∈ h.granted ↔ ∃ r ∈ h.applied, r.level = some lv :=
  List.mem_filterMap

/-- the pending and the applied results of a book -/
structure FlagInv (E : Env) (F : FlagEnv υ ρ π) (tid : ℕ) (h : FlagRun) : Prop where
  pending : ∀ r ∈ h.pending, r.For E F (h.s.bookOf tid)
  /-- a pending reward whose state is on by now has been granted -/
  granted : ∀ r ∈ h.pending, (h.s.bookOf tid).isOnFlag r.idx = true → ∀ lv, r.level = some lv → lv ∈ h.granted
  applied : ∀ r ∈ h.applied, (h.s.bookOf tid).isOnFlag r.idx = true
  names : ∀ r ∈ h.applied, r.Names F (h.s.bookOf tid).favorLv
  once : h.granted.Nodup

theorem FlagInv.start (s : St) : FlagInv E F tid (startFlags s) :=
  ⟨by simp [startFlags], by simp [startFlags], by simp [startFlags], by simp [startFlags],
    by simp [FlagRun.granted, startFlags]⟩

/-- a validation -/
theorem FlagInv.validate {h : FlagRun} (hinv : FlagInv E F tid h) {r : FlagResult} (hr : r.For E F (h.s.bookOf tid))
    (hoff : (h.s.bookOf tid).isOnFlag r.idx = false) : FlagInv E F tid { h with pending := h.pending ++ [r] } := by
  refine ⟨?_, ?_, hinv.applied, hinv.names, hinv.once⟩
  · intro q hq
    rcases List.mem_append.1 hq with hq | hq
    · exact hinv.pending q hq
    · rw [List.mem_singleton.1 hq]
      exact hr
  · intro q hq hon lv hlv
    rcases List.mem_append.1 hq with hq | hq
    · exact hinv.granted q hq hon lv hlv
    · rw [List.mem_singleton.1 hq, hoff] at hon
      cases hon

theorem St.bookOf_setBookState {s : St} (hnull : (s.bookOf tid).isNull E = false) (w : ℕ) :
    (doSetBookState E s tid w).2.bookOf tid = { s.bookOf tid with stateFlag := w } := by
  unfold St.bookOf at hnull ⊢
  simp only [doSetBookState, hnull, Bool.false_eq_true, if_false]
  cases hp : s.getBookInst tid with
  | none => simp only [St.setBook, St.getBookInst] at hp ⊢; simp [St.book, hp]
  | some a => simp only [St.setBook, St.getBookInst] at hp ⊢; simp [St.book, hp]

/-- a result still speaks of the book when the book has gained flags -/
theorem FlagResult.For.gain {r : FlagResult} {b : BookPiece} (hr : r.For E F b) {w : ℕ} (hw : Within b.stateFlag w) :
    r.For E F { b with stateFlag := w } := ⟨hr.notNull, hr.names, hr.word, hr.off, hr.since.trans hw⟩

/-- two results for the same state are for the same level -/
theorem FlagResult.Names.level_eq {r q : FlagResult} {lv favorLv favorLv' : ℕ} (hr : r.Names F favorLv)
    (hq : q.Names F favorLv') (hidx : r.idx = q.idx) (hlv : q.level = some lv) : r.level = some lv := by
  unfold Names at hr hq
  rw [hlv] at hq
  obtain ⟨⟨hlo, hhi⟩, hq, -⟩ := hq
  cases hl : r.level with
  | none =>
    -- a confirmation is not for a state of a reward
    rw [hl] at hr
    have := F.newChk_not_reward
    simp only at hr
    omega
  | some lv' =>
    rw [hl] at hr
    rw [← hidx] at hq
    rw [← hr.2.1, hq]

/-! ## One application -/

/-- after an application -/
def FlagRun.taken (E : Env) (tid : ℕ) (h : FlagRun) (i : ℕ) (r : FlagResult) : FlagRun :=
  ⟨(doSetBookState E h.s tid r.stateFlag).2, h.pending.eraseIdx i, h.applied ++ [r]⟩

theorem FlagRun.granted_taken (h : FlagRun) (i : ℕ) (r : FlagResult) :
    (h.taken E tid i r).granted = h.granted ++ r.level.toList := by
  cases hl : r.level <;> simp [FlagRun.granted, taken, hl]

section Apply

variable {h : FlagRun} {i : ℕ} {r : FlagResult}

theorem FlagInv.bookOf_taken (hinv : FlagInv E F tid h) (hr : h.pending[i]? = some r) :
    (h.taken E tid i r).s.bookOf tid = { h.s.bookOf tid with stateFlag := turnOn r.seen r.idx } := by
  have hfor := hinv.pending r (List.mem_of_getElem? hr)
  rw [← hfor.word]
  exact St.bookOf_setBookState hfor.notNull r.stateFlag

/-- a level whose state is off has not been granted -/
theorem FlagInv.not_granted (hinv : FlagInv E F tid h) (hr : r.For E F (h.s.bookOf tid))
    (hoff : (h.s.bookOf tid).isOnFlag r.idx = false) {lv : ℕ} (hlv : r.level = some lv) : lv ∉ h.granted := by
  intro hmem
  obtain ⟨q, hq, hqlv⟩ := FlagRun.mem_granted.1 hmem
  have hqn := hinv.names q hq
  have hrn := hr.names
  unfold FlagResult.Names at hqn hrn
  rw [hqlv] at hqn
  rw [hlv] at hrn
  have hidx : q.idx = r.idx := rewardLv_inj hqn.2.1 hrn.2.1
  have hon := hinv.applied q hq
  rw [hidx, hoff] at hon
  cases hon

/-- an application that keeps all flags, and grants nothing twice, keeps the invariant -/
theorem FlagInv.apply (hinv : FlagInv E F tid h) (hr : h.pending[i]? = some r)
    (hw : Within (h.s.bookOf tid).stateFlag (turnOn r.seen r.idx))
    (hnew : ∀ lv, r.level = some lv → (h.s.bookOf tid).isOnFlag r.idx = false) :
    FlagInv E F tid (h.taken E tid i r) := by
  have hfor := hinv.pending r (List.mem_of_getElem? hr)
  have hbook := hinv.bookOf_taken hr
  refine ⟨?_, ?_, ?_, ?_, ?_⟩
  · intro q hq
    rw [hbook]
    exact (hinv.pending q (List.mem_of_mem_eraseIdx hq)).gain hw
  · intro q hq hon lv hlv
    have hq' : q ∈ h.pending := List.mem_of_mem_eraseIdx hq
    rw [hbook] at hon
    rw [FlagRun.granted_taken]
    rcases testBit_turnOn.1 hon with hon | hidx
    · exact List.mem_append_left _ (hinv.granted q hq' (hfor.since _ hon) lv hlv)
    · rw [hfor.names.level_eq (hinv.pending q hq').names hidx.symm hlv]
      simp
  · intro q hq
    rw [hbook]
    rcases List.mem_append.1 hq with hq | hq
    · exact hw _ (hinv.applied q hq)
    · rw [List.mem_singleton.1 hq]
      exact testBit_turnOn_self
  · intro q hq
    rw [hbook]
    rcases List.mem_append.1 hq with hq | hq
    · exact hinv.names q hq
    · rw [List.mem_singleton.1 hq]
      exact hfor.names
  · rw [FlagRun.granted_taken]
    cases hlv : r.level with
    | none => simpa using hinv.once
    | some lv =>
      have hfresh := hinv.not_granted hfor (hnew lv hlv) hlv
      rw [Option.toList_some, List.nodup_append]
      refine ⟨hinv.once, List.nodup_singleton lv, fun a ha b hb hab => hfresh ?_⟩
      rwa [← List.mem_singleton.1 hb, ← hab]

/-- an up-to-date result keeps all flags and grants nothing twice -/
theorem FlagInv.apply_upToDate (hinv : FlagInv E F tid h) (hr : h.pending[i]? = some r)
    (hl : (h.s.bookOf tid).stateFlag = r.seen ∨
      r.level = none ∧ (h.s.bookOf tid).stateFlag = turnOn r.seen F.newChk) :
    FlagInv E F tid (h.taken E tid i r) ∧
      Within (h.s.bookOf tid).stateFlag ((h.taken E tid i r).s.bookOf tid).stateFlag := by
  have hfor := hinv.pending r (List.mem_of_getElem? hr)
  rw [hinv.bookOf_taken hr]
  rcases hl with hsame | ⟨hnone, hgain⟩
  · have hw : Within (h.s.bookOf tid).stateFlag (turnOn r.seen r.idx) := hsame ▸ within_turnOn _ _
    exact ⟨hinv.apply hr hw fun lv _ => by rw [BookPiece.isOnFlag, hsame, hfor.off], hw⟩
  · have hidx : r.idx = F.newChk := by
      have hname := hfor.names
      unfold FlagResult.Names at hname
      rwa [hnone] at hname
    have hw : Within (h.s.bookOf tid).stateFlag (turnOn r.seen r.idx) := by
      rw [hgain, hidx]
      exact Within.refl _
    refine ⟨hinv.apply hr hw fun lv hlv => ?_, hw⟩
    rw [hnone] at hlv
    cases hlv

/-- a result that keeps all flags and grants nothing twice is up to date -/
theorem FlagInv.upToDate_of_kept (hinv : FlagInv E F tid h) (hr : h.pending[i]? = some r)
    (honce : (h.taken E tid i r).granted.Nodup)
    (hw : Within (h.s.bookOf tid).stateFlag ((h.taken E tid i r).s.bookOf tid).stateFlag) :
    (h.s.bookOf tid).stateFlag = r.seen ∨
      r.level = none ∧ (h.s.bookOf tid).stateFlag = turnOn r.seen F.newChk := by
  have hfor := hinv.pending r (List.mem_of_getElem? hr)
  have hname := hfor.names
  unfold FlagResult.Names at hname
  rw [hinv.bookOf_taken hr] at hw
  rcases (within_turnOn_iff hfor.since).1 hw with hsame | hgain
  · exact Or.inl hsame
  · right
    cases hlv : r.level with
    | none =>
      rw [hlv] at hname
      exact ⟨rfl, by rw [hgain, ← hname]⟩
    | some lv =>
      -- the state of this reward is on, so it has been granted
      have hon : (h.s.bookOf tid).isOnFlag r.idx = true := by
        rw [BookPiece.isOnFlag, hgain]
        exact testBit_turnOn_self
      have hgranted := hinv.granted r (List.mem_of_getElem? hr) hon lv hlv
      rw [FlagRun.granted_taken, hlv, Option.toList_some, List.nodup_append] at honce
      exact absurd rfl (honce.2.2 lv hgranted lv (List.mem_singleton_self lv))

end Apply

/-! ## Whole runs -/

/-- step lemma: a validation is always fine, an application if it is up to date -/
theorem serveFlag_inv (h : FlagRun) (op : FlagOp υ π) (hinv : FlagInv E F tid h) (hl : upToDate F tid h op) :
    FlagInv E F tid (serveFlag E F tid h op) ∧
      Within (h.s.bookOf tid).stateFlag ((serveFlag E F tid h op).s.bookOf tid).stateFlag := by
  cases op with
  | newConfirm =>
    simp only [serveFlag]
    split
    · exact ⟨hinv, Within.refl _⟩
    · rename_i pkt hok
      obtain ⟨hfor, hoff⟩ := newConfirm_for hok
      exact ⟨hinv.validate hfor hoff, Within.refl _⟩
  | getFavorReward user products stateIdx =>
    simp only [serveFlag]
    split
    · exact ⟨hinv, Within.refl _⟩
    · rename_i pkt hok
      obtain ⟨hfor, hoff⟩ := getFavorReward_for hok
      exact ⟨hinv.validate hfor hoff, Within.refl _⟩
  | apply i =>
    simp only [serveFlag]
    split
    · exact ⟨hinv, Within.refl _⟩
    · rename_i r hr
      simp only [upToDate, hr] at hl
      exact hinv.apply_upToDate hr hl

theorem FlagInv.granted_level {h : FlagRun} (hinv : FlagInv E F tid h) {lv : ℕ} (hmem : lv ∈ h.granted) :
    lv ≤ (h.s.bookOf tid).favorLv := by
  obtain ⟨r, hr, hlv⟩ := FlagRun.mem_granted.1 hmem
  have hname := hinv.names r hr
  unfold FlagResult.Names at hname
  rw [hlv] at hname
  exact hname.2.2

/-- what a run must not do is seen in its states: `FlagsKept` without the order of the flag words -/
structure FlagsOk (tid : ℕ) (h : FlagRun) : Prop where
  applied : ∀ r ∈ h.applied, (h.s.bookOf tid).isOnFlag r.idx = true
  once : h.granted.Nodup
  level : ∀ lv ∈ h.granted, lv ≤ (h.s.bookOf tid).favorLv

theorem flagsKept_iff {trace : ℕ → FlagRun} : FlagsKept tid trace ↔ (∀ n, FlagsOk tid (trace n)) ∧
    ∀ m n, m ≤ n → Within ((trace m).s.bookOf tid).stateFlag ((trace n).s.bookOf tid).stateFlag := by
  constructor
  · intro h
    exact ⟨fun n => ⟨h.applied_on n n le_rfl, h.granted_once n, h.granted_level n⟩, h.never_cleared⟩
  · intro ⟨hok, hw⟩
    refine ⟨hw, ?_, fun n => (hok n).once, fun n => (hok n).level⟩
    intro m n hmn r hr
    exact hw m n hmn r.idx ((hok m).applied r hr)

end Steps

/-- **No flag is lost and no reward is granted twice, in exactly the runs that apply no outdated result.** The runs are all
orders of validations and applications on one book, from any state of the contents. -/
theorem flags_kept_iff {υ ρ π : Type} (E : Env) (F : FlagEnv υ ρ π) (tid : ℕ) (s : St) (ops : List (FlagOp υ π)) :
    FlagsKept tid (flagTrace E F tid s ops) ↔
      LegalRun (serveFlag E F tid) (upToDate F tid) (startFlags s) ops := by
  rw [flagsKept_iff]
  refine run_mono_iff (I := FlagInv E F tid) (P := FlagsOk tid)
    (R := fun h h' => Within (h.s.bookOf tid).stateFlag (h'.s.bookOf tid).stateFlag) (fun h => Within.refl _)
    Within.trans ?_ serveFlag_inv ?_ (FlagInv.start s) ops
  · intro h hinv
    exact ⟨hinv.applied, hinv.once, fun lv => hinv.granted_level⟩
  · intro h op hinv hok hw
    cases op with
    | newConfirm => trivial
    | getFavorReward user products stateIdx => trivial
    | apply i =>
      cases hr : h.pending[i]? with
      | none => simp [upToDate, hr]
      | some r =>
        simp only [serveFlag, hr] at hok hw
        simpa only [upToDate, hr] using hinv.upToDate_of_kept hr hok.once hw

/-- bits 0 to 8: the first is `NEW_CHK`, bits 3 to 7 are the five rewards; every level of every group has one product -/
def sampleFlagEnv : FlagEnv Unit ℕ (List ℕ) where
  newChk := 0
  startFavorRwd := 3
  favorRwdGet1 := 3
  favorRwdGet2 := 4
  favorRwdGet3 := 5
  favorRwdGet4 := 6
  favorRwdGet5 := 7
  endFavorRwd := 8
  newChk_not_reward := Or.inl (by decide)
  favorGroup _ := 0
  cardFavorLvUpRwdTID _ lv := some lv
  groupDatas lv := some [lv]
  doMakeProduct _ data products := (.successOk, products ++ [data])

/-- the book of table 7, at favor level 2 -/
def sampleBookSt : St :=
  { construct sampleEnv (fun _ => sampleEnv.nullCard) (fun _ => ⟨7, 0, 2, 0, false⟩) with
    bookCont := fun tid => if tid = 7 then some 0 else none }

/-- two confirmations at once, and then a reward -/
example : LegalRun (serveFlag sampleEnv sampleFlagEnv 7) (upToDate sampleFlagEnv 7) (startFlags sampleBookSt)
    [.newConfirm, .newConfirm, .apply 0, .apply 0, .getFavorReward () [] 3, .apply 0] := by decide

/-- the rewards of levels 1 and 2 are validated before either is applied, and then the first one again -/
def rewardRace : List (FlagOp Unit (List ℕ)) :=
  [.getFavorReward () [] 3, .getFavorReward () [] 4, .apply 0, .apply 0, .getFavorReward () [] 3, .apply 0]

/-- **The packet carries the whole word**: the second application takes the first flag off, and the first reward is granted
again -/
theorem reward_paid_twice :
    ((flagTrace sampleEnv sampleFlagEnv 7 sampleBookSt rewardRace 3).s.bookOf 7).stateFlag = 2 ^ 3 ∧
      ((flagTrace sampleEnv sampleFlagEnv 7 sampleBookSt rewardRace 4).s.bookOf 7).stateFlag = 2 ^ 4 ∧
      (flagTrace sampleEnv sampleFlagEnv 7 sampleBookSt rewardRace 6).granted = [1, 2, 1] ∧
      ¬ FlagsKept 7 (flagTrace sampleEnv sampleFlagEnv 7 sampleBookSt rewardRace) := by
  have hword : ((flagTrace sampleEnv sampleFlagEnv 7 sampleBookSt rewardRace 3).s.bookOf 7).stateFlag = 2 ^ 3 := by decide
  have hgranted : (flagTrace sampleEnv sampleFlagEnv 7 sampleBookSt rewardRace 6).granted = [1, 2, 1] := by decide
  refine ⟨hword, by decide, hgranted, fun hkept => ?_⟩
  have honce := hkept.granted_once 6
  rw [hgranted] at honce
  exact absurd honce (by decide)

end GameServer.Card
