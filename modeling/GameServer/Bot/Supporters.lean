/-
The book requests of the stress bot for supporters in `C++/AutoPacketMsg.cpp`, `ChkAndGetNewBookConfirmPkt` and
`ChkAndGetCardFavorLvRewardPkt`, and what the server makes of them in `C++/CardContents.cpp`.

The bot looks through its copy of the books for a state that is off, and asks for it; the server validates the request
against its own contents and switches the state on.
- `bookRound_cases`: a round asks for an open state and is granted it, or there is none;
- `bot_collects`: with an up-to-date copy, in rounds of any kind and order, no request is refused and none is made twice,
  and every round takes one open state off until there are none.

Not under src/, and therefore parameters: the user info of the bot, whose book list is the server's here, the lists of the
other groups, and the rotation index, which shows every entry once.
-/
import Mathlib.Tactic
import GameServer.Core.Run
import GameServer.Core.Flags
import GameServer.Card.BookFlags
import GameServer.Card.BookEntries
import GameServer.Bot.Dispatch

namespace GameServer.Bot

open GameServer.Core GameServer.Core.Flags GameServer.Card

/-! ## The bot -/

structure BookData where
  TID : ℕ
  lv : ℕ
  stateFlag : ℕ
deriving DecidableEq, Repr

/-- `eBookGroup` -/
inductive BookGroup where
  | Weapon
  | Supporter
  | Monster
deriving DecidableEq, Repr

/-- `PktInfoBookNewConfirm`, the fields that the bot fills in -/
structure BookConfirmReq where
  bookTID : ℕ
  bookGroup : BookGroup
deriving DecidableEq, Repr

/-- `PktInfoBookOnStateReq` -/
structure BookOnStateReq where
  tid : ℕ
  stateIdx : ℕ
deriving DecidableEq, Repr

/-- `IsOnState` -/
def BookData.isOnState (b : BookData) (idx : ℕ) : Bool := b.stateFlag.testBit idx

/-- `ChkBook` on a `vecmap`, a list of keys and books; the key is narrowed to `uint32_t` -/
def chkBook (bookList : List (ℕ × BookData)) (chkIdx : ℕ) : Option ℕ :=
  (bookList.find? fun b => b.2.isOnState chkIdx = false).map fun b => b.1 % 2 ^ 32

variable {υ ρ π : Type}

section

variable (F : FlagEnv υ ρ π) (weaponChk monsterChk : ℕ)

/-- `ChkAndGetNewBookConfirmPkt` -/
def chkAndGetNewBookConfirmPkt (weaponBookList cardBookList monsterBookList : List (ℕ × BookData)) :
    Option BookConfirmReq :=
  match chkBook weaponBookList weaponChk with
  | some tid => some ⟨tid, .Weapon⟩
  | none =>
    match chkBook cardBookList F.newChk with
    | some tid => some ⟨tid, .Supporter⟩
    | none => (chkBook monsterBookList monsterChk).map fun tid => ⟨tid, .Monster⟩

/-- `GetCardBookFavorState` -/
def getCardBookFavorState (cardBookData : BookData) (stateType : ℕ) : Option BookOnStateReq :=
  if cardBookData.isOnState stateType = false then some ⟨cardBookData.TID, stateType % 2 ^ 8⟩ else none

/-- the levels and their states, in the order of the tests -/
def favorStates : List (ℕ × ℕ) :=
  [(1, F.favorRwdGet1), (2, F.favorRwdGet2), (3, F.favorRwdGet3), (4, F.favorRwdGet4), (5, F.favorRwdGet5)]

/-- one round of the loop over the books -/
def favorReward (cardBookData : BookData) : Option BookOnStateReq :=
  (favorStates F).findSome? fun r => if r.1 ≤ cardBookData.lv then getCardBookFavorState cardBookData r.2 else none

/-- `ChkAndGetCardFavorLvRewardPkt` with the books in rotation order -/
def chkAndGetCardFavorLvRewardPkt (cardBookList : List (ℕ × BookData)) (order : List ℕ) : Option BookOnStateReq :=
  (order.filterMap fun i => cardBookList[i]?).findSome? fun b => favorReward F b.2

end

/-! ## Rounds -/

/-- the bot's copy of the books -/
def cardBookList (s : St) (tids : List ℕ) : List (ℕ × BookData) :=
  tids.map fun tid => (tid, ⟨tid, (s.bookOf tid).favorLv, (s.bookOf tid).stateFlag⟩)

/-- a request of the bot, with what the request meets -/
inductive BookRound (υ π : Type) where
  | confirm (weaponBookList monsterBookList : List (ℕ × BookData))
  | reward (order : List ℕ) (user : υ) (products : π)

/-- a request made: the book, the state and whether the server has accepted it -/
structure Asked where
  tid : ℕ
  idx : ℕ
  accepted : Bool
deriving DecidableEq, Repr

/-- the contents of the server, and the requests so far -/
structure BotRun where
  s : St
  log : List Asked

section

variable (E : Env) (F : FlagEnv υ ρ π) (weaponChk monsterChk : ℕ) (tids : List ℕ)

def bookRound (h : BotRun) : BookRound υ π → BotRun
  | .confirm weaponBookList monsterBookList =>
    match chkAndGetNewBookConfirmPkt F weaponChk monsterChk weaponBookList (cardBookList h.s tids) monsterBookList with
    | some ⟨tid, .Supporter⟩ =>
      match isCanBookNewConfirm E F h.s ⟨tid, 0⟩ with
      | .error _ => { h with log := h.log ++ [⟨tid, F.newChk, false⟩] }
      | .ok pkt => ⟨(doSetBookState E h.s pkt.bookTID pkt.retStateFlag).2, h.log ++ [⟨tid, F.newChk, true⟩]⟩
    | _ => h
  | .reward order user products =>
    match chkAndGetCardFavorLvRewardPkt F (cardBookList h.s tids) order with
    | none => h
    | some req =>
      match isCanGetFavorReward E F h.s user products req.tid req.stateIdx with
      | .error _ => { h with log := h.log ++ [⟨req.tid, req.stateIdx, false⟩] }
      | .ok pkt => ⟨(doSetBookState E h.s pkt.tid pkt.stateFlag).2, h.log ++ [⟨req.tid, req.stateIdx, true⟩]⟩

/-- the rotation shows every book once, and the products of a reward can be made -/
def legalRound : BookRound υ π → Prop
  | .confirm _ _ => True
  | .reward order user products => order.Perm (List.range tids.length) ∧
      ∀ datas, (makeProducts F user datas products).1 = .successOk

/-! ## Open states -/

/-- the states of `S` that are due at the favor level of a book, and off -/
def openStates (S : Finset ℕ) (due : ℕ → ℕ → Bool) (s : St) : Finset (ℕ × ℕ) :=
  (tids.toFinset ×ˢ S).filter fun r => due (s.bookOf r.1).favorLv r.2 = true ∧ (s.bookOf r.1).isOnFlag r.2 = false

/-- favor rewards that a book has earned and not got -/
def openRewards (s : St) : Finset (ℕ × ℕ) :=
  openStates tids ((favorStates F).map Prod.snd).toFinset
    (fun lv idx => (favorStates F).any fun r => decide (r.2 = idx ∧ r.1 ≤ lv)) s

/-- books that are not confirmed -/
def openConfirms (s : St) : Finset (ℕ × ℕ) := openStates tids {F.newChk} (fun _ _ => true) s

/-- what a request switches on -/
inductive Wish where
  | reward
  | confirm
deriving DecidableEq, Repr

def openOf (s : St) : Wish → Finset (ℕ × ℕ)
  | .reward => openRewards F tids s
  | .confirm => openConfirms F tids s

/-- what a round looks for: a confirmation comes to the supporters once all weapons are confirmed -/
def BookRound.wish : BookRound υ π → Option Wish
  | .confirm weaponBookList _ => if chkBook weaponBookList weaponChk = none then some .confirm else none
  | .reward _ _ _ => some .reward

/-- the states that a round looks for -/
def BookRound.openFor (s : St) (op : BookRound υ π) : Finset (ℕ × ℕ) :=
  (op.wish weaponChk).elim ∅ (openOf F tids s)

/-- the five states are different bits of the reward scope, which fits into 8 bits, and each has its reward -/
structure Rewarding : Prop where
  different : ((favorStates F).map Prod.snd).Nodup
  scope : ∀ r ∈ favorStates F, F.startFavorRwd ≤ r.2 ∧ r.2 < F.endFavorRwd
  narrow : F.endFavorRwd ≤ 2 ^ 8
  rows : ∀ tid ∈ tids, ∀ r ∈ favorStates F, ∃ rwdTID datas,
    F.cardFavorLvUpRwdTID (F.favorGroup tid) r.1 = some rwdTID ∧ F.groupDatas rwdTID = some datas

/-- the bot lists the books of the server -/
structure Listed (s : St) : Prop where
  booked : Booked E s
  listed : ∀ tid ∈ tids, s.bookCont tid ≠ none
  narrow : ∀ tid ∈ tids, tid < 2 ^ 32

end

section

variable {E : Env} {F : FlagEnv υ ρ π} {weaponChk monsterChk : ℕ} {tids : List ℕ} {s : St} {tid idx : ℕ}

theorem mem_openStates {S : Finset ℕ} {due : ℕ → ℕ → Bool} {r : ℕ × ℕ} : r ∈ openStates tids S due s ↔
    (r.1 ∈ tids ∧ r.2 ∈ S) ∧ due (s.bookOf r.1).favorLv r.2 = true ∧ (s.bookOf r.1).isOnFlag r.2 = false := by
  simp [openStates]

theorem mem_openConfirms {r : ℕ × ℕ} :
    r ∈ openConfirms F tids s ↔ (r.1 ∈ tids ∧ r.2 = F.newChk) ∧ (s.bookOf r.1).isOnFlag r.2 = false := by
  simp [openConfirms, mem_openStates]

theorem mem_openRewards {r : ℕ × ℕ} : r ∈ openRewards F tids s ↔
    r.1 ∈ tids ∧ (∃ lv, (lv, r.2) ∈ favorStates F ∧ lv ≤ (s.bookOf r.1).favorLv) ∧ (s.bookOf r.1).isOnFlag r.2 = false := by
  rw [openRewards, mem_openStates]
  constructor
  · rintro ⟨⟨htid, -⟩, hdue, hoff⟩
    obtain ⟨⟨lv, idx⟩, hmem, hlv⟩ := List.any_eq_true.1 hdue
    obtain ⟨rfl, hlv⟩ := of_decide_eq_true hlv
    exact ⟨htid, ⟨lv, hmem, hlv⟩, hoff⟩
  · rintro ⟨htid, ⟨lv, hmem, hlv⟩, hoff⟩
    refine ⟨⟨htid, ?_⟩, List.any_eq_true.2 ⟨(lv, r.2), hmem, decide_eq_true ⟨rfl, hlv⟩⟩, hoff⟩
    exact List.mem_toFinset.2 (List.mem_map.2 ⟨(lv, r.2), hmem, rfl⟩)

/-! ## One state is switched on -/

theorem Listed.notNull (h : Listed E tids s) (htid : tid ∈ tids) : (s.bookOf tid).isNull E = false := by
  obtain ⟨b, hb⟩ := Option.ne_none_iff_exists'.1 (h.listed tid htid)
  obtain ⟨hkey, hvalid⟩ := h.booked.entries tid b hb
  rw [St.bookOf, St.getBookInst, hb, St.book, BookPiece.isNull, hkey, hvalid]

theorem Listed.tableID (h : Listed E tids s) (htid : tid ∈ tids) : (s.bookOf tid).tableID = tid := by
  obtain ⟨b, hb⟩ := Option.ne_none_iff_exists'.1 (h.listed tid htid)
  rw [St.bookOf, St.getBookInst, hb]
  exact (h.booked.entries tid b hb).1

/-- the book has one flag more, and the others are as they were -/
theorem Listed.setState (h : Listed E tids s) (htid : tid ∈ tids) (idx : ℕ) :
    let t := (doSetBookState E s tid (turnOn (s.bookOf tid).stateFlag idx)).2
    Listed E tids t ∧ ∀ tid' ∈ tids, t.bookOf tid' =
      if tid' = tid then { s.bookOf tid with stateFlag := turnOn (s.bookOf tid).stateFlag idx } else s.bookOf tid' := by
  have hnull := h.notNull htid
  obtain ⟨b, hb⟩ := Option.ne_none_iff_exists'.1 (h.listed tid htid)
  have hbook : s.bookOf tid = s.books b := by
    rw [St.bookOf, St.getBookInst, hb]
    rfl
  have hset : (doSetBookState E s tid (turnOn (s.bookOf tid).stateFlag idx)).2 =
      { s with books := Function.update s.books b { s.books b with stateFlag := turnOn (s.books b).stateFlag idx } } := by
    unfold doSetBookState
    dsimp only
    rw [St.bookOf] at hnull hbook
    rw [if_neg (by simp [hnull]), St.bookOf, hbook, St.getBookInst, hb]
    rfl
  rw [hset, hbook]
  have hother : ∀ {tid' b'}, s.bookCont tid' = some b' → tid' ≠ tid → b' ≠ b := by
    rintro tid' b' hb' hne rfl
    exact hne ((h.booked.entries tid' b' hb').1.symm.trans (h.booked.entries tid b' hb).1)
  refine ⟨⟨⟨h.booked.null, ?_, h.booked.cards⟩, h.listed, h.narrow⟩, ?_⟩
  · intro tid' b' hb'
    obtain ⟨hkey, hvalid⟩ := h.booked.entries tid' b' hb'
    refine ⟨?_, hvalid⟩
    change (Function.update s.books b _ b').tableID = tid'
    rcases eq_or_ne b' b with rfl | hne
    · rw [Function.update_self]
      exact hkey
    · rw [Function.update_of_ne hne, hkey]
  · intro tid' htid'
    obtain ⟨b', hb'⟩ := Option.ne_none_iff_exists'.1 (h.listed tid' htid')
    split_ifs with heq
    · obtain rfl : b' = b := Option.some.inj ((heq ▸ hb').symm.trans hb)
      simp [St.bookOf, St.getBookInst, hb', St.book]
    · have hne := hother hb' heq
      simp [St.bookOf, St.getBookInst, hb', St.book, Function.update_of_ne hne]

/-- the state is open no more, and the others stay as they are -/
theorem Listed.erase (h : Listed E tids s) (htid : tid ∈ tids) (idx : ℕ) (S : Finset ℕ) (due : ℕ → ℕ → Bool) :
    openStates tids S due (doSetBookState E s tid (turnOn (s.bookOf tid).stateFlag idx)).2 =
      (openStates tids S due s).erase (tid, idx) := by
  obtain ⟨-, hbooks⟩ := h.setState htid idx
  ext ⟨tid', idx'⟩
  rw [Finset.mem_erase, mem_openStates, mem_openStates]
  by_cases hmem : tid' ∈ tids
  · rw [hbooks tid' hmem]
    by_cases heq : tid' = tid
    · subst heq
      simp only [if_true, BookPiece.isOnFlag, ne_eq, Prod.mk.injEq, true_and]
      have hbit : (turnOn (s.bookOf tid').stateFlag idx).testBit idx' = false ↔
          idx' ≠ idx ∧ (s.bookOf tid').stateFlag.testBit idx' = false := by
        rw [← Bool.not_eq_true, testBit_turnOn, not_or, Bool.not_eq_true, and_comm]
      rw [hbit]
      tauto
    · simp [heq]
  · simp [hmem]

/-! ## One round -/

theorem chkBook_some (hL : Listed E tids s) (h : chkBook (cardBookList s tids) idx = some tid) :
    tid ∈ tids ∧ (s.bookOf tid).isOnFlag idx = false := by
  obtain ⟨b, hfind, hkey⟩ := Option.map_eq_some_iff.1 h
  obtain ⟨tid', htid', rfl⟩ := List.mem_map.1 (List.mem_of_find?_eq_some hfind)
  obtain rfl : tid' = tid := (Nat.mod_eq_of_lt (hL.narrow tid' htid')).symm.trans hkey
  have hoff := List.find?_some hfind
  exact ⟨htid', of_decide_eq_true hoff⟩

theorem chkBook_none (h : chkBook (cardBookList s tids) idx = none) :
    ∀ tid ∈ tids, (s.bookOf tid).isOnFlag idx = true := by
  intro tid htid
  have hon := List.find?_eq_none.1 (Option.map_eq_none_iff.1 h) _ (List.mem_map_of_mem htid)
  by_contra hoff
  exact hon (decide_eq_true (Bool.eq_false_of_not_eq_true hoff))

theorem rewardLv_of_mem (hR : Rewarding F tids) {r : ℕ × ℕ} (hr : r ∈ favorStates F) : rewardLv F r.2 = some r.1 := by
  have hdiff := hR.different
  simp only [favorStates, List.map_cons, List.map_nil, List.nodup_cons, List.mem_cons, List.not_mem_nil, or_false,
    not_or] at hdiff hr
  obtain ⟨⟨h12, h13, h14, h15⟩, ⟨h23, h24, h25⟩, ⟨h34, h35⟩, h45, -⟩ := hdiff
  unfold rewardLv
  rcases hr with rfl | rfl | rfl | rfl | rfl
  · rw [if_pos rfl]
  · rw [if_neg (Ne.symm h12), if_pos rfl]
  · rw [if_neg (Ne.symm h13), if_neg (Ne.symm h23), if_pos rfl]
  · rw [if_neg (Ne.symm h14), if_neg (Ne.symm h24), if_neg (Ne.symm h34), if_pos rfl]
  · rw [if_neg (Ne.symm h15), if_neg (Ne.symm h25), if_neg (Ne.symm h35), if_neg (Ne.symm h45), if_pos rfl]

/-- what the bot asks for is earned and not got -/
theorem favorReward_some (hR : Rewarding F tids) {b : BookData} {req : BookOnStateReq} (h : favorReward F b = some req) :
    ∃ r ∈ favorStates F, r.1 ≤ b.lv ∧ b.isOnState r.2 = false ∧ req = ⟨b.TID, r.2⟩ := by
  obtain ⟨r, hr, hsome⟩ := List.exists_of_findSome?_eq_some h
  unfold getCardBookFavorState at hsome
  split_ifs at hsome with hlv hoff
  have hlt : r.2 < 2 ^ 8 := (hR.scope r hr).2.trans_le hR.narrow
  rw [Nat.mod_eq_of_lt hlt] at hsome
  exact ⟨r, hr, hlv, hoff, (Option.some.inj hsome).symm⟩

theorem favorReward_none {b : BookData} (h : favorReward F b = none) :
    ∀ r ∈ favorStates F, r.1 ≤ b.lv → b.isOnState r.2 = true := by
  intro r hr hlv
  have hnone := List.findSome?_eq_none_iff.1 h r hr
  rw [if_pos hlv] at hnone
  unfold getCardBookFavorState at hnone
  split_ifs at hnone with hon
  simpa using hon

/-- the server grants it -/
theorem favorReward_granted (hR : Rewarding F tids) (hL : Listed E tids s) {user : υ} {products : π} (htid : tid ∈ tids)
    (hproducts : ∀ datas, (makeProducts F user datas products).1 = .successOk) {r : ℕ × ℕ} (hr : r ∈ favorStates F)
    (hlv : r.1 ≤ (s.bookOf tid).favorLv) (hoff : (s.bookOf tid).isOnFlag r.2 = false) :
    ∃ pkt, isCanGetFavorReward E F s user products tid r.2 = .ok pkt ∧ pkt.tid = tid ∧
      pkt.stateFlag = turnOn (s.bookOf tid).stateFlag r.2 := by
  obtain ⟨rwdTID, datas, hrow, hgroup⟩ := hR.rows tid htid r hr
  obtain ⟨hlo, hhi⟩ := hR.scope r hr
  unfold isCanGetFavorReward
  dsimp only
  rw [if_neg (by simp [hL.notNull htid]), if_neg (by omega), if_neg (by simp [hoff]), rewardLv_of_mem hR hr]
  dsimp only
  rw [if_neg (Nat.not_lt.2 hlv), hL.tableID htid, hrow]
  dsimp only
  rw [hgroup]
  dsimp only
  rw [if_neg (not_not.2 (hproducts datas))]
  exact ⟨_, rfl, rfl, rfl⟩

/-- **A round asks for an open state and is granted it**, or there is none. -/
theorem bookRound_cases (weaponChk monsterChk : ℕ) (hR : Rewarding F tids) {h : BotRun} (hL : Listed E tids h.s)
    (op : BookRound υ π) (hl : legalRound F tids op) :
    op.openFor F weaponChk tids h.s = ∅ ∧ bookRound E F weaponChk monsterChk tids h op = h ∨
      ∃ r ∈ op.openFor F weaponChk tids h.s, bookRound E F weaponChk monsterChk tids h op =
        ⟨(doSetBookState E h.s r.1 (turnOn (h.s.bookOf r.1).stateFlag r.2)).2, h.log ++ [⟨r.1, r.2, true⟩]⟩ := by
  cases op with
  | confirm weaponBookList monsterBookList =>
    rw [bookRound, chkAndGetNewBookConfirmPkt, BookRound.openFor, BookRound.wish]
    cases hweapon : chkBook weaponBookList weaponChk with
    | some tid => exact Or.inl ⟨by rw [if_neg (by simp)]; rfl, rfl⟩
    | none =>
      dsimp only
      rw [if_pos rfl]
      change openConfirms F tids h.s = ∅ ∧ _ ∨ ∃ r ∈ openConfirms F tids h.s, _
      cases hcard : chkBook (cardBookList h.s tids) F.newChk with
      | none =>
        refine Or.inl ⟨?_, ?_⟩
        · refine Finset.eq_empty_of_forall_notMem fun r hr => ?_
          obtain ⟨⟨htid, -⟩, hoff⟩ := mem_openConfirms.1 hr
          obtain ⟨tid, idx⟩ := r
          obtain rfl : idx = F.newChk := (mem_openConfirms.1 hr).1.2
          rw [chkBook_none hcard tid htid] at hoff
          cases hoff
        · cases chkBook monsterBookList monsterChk <;> rfl
      | some tid =>
        obtain ⟨htid, hoff⟩ := chkBook_some hL hcard
        have hok : isCanBookNewConfirm E F h.s ⟨tid, 0⟩ = .ok ⟨tid, turnOn (h.s.bookOf tid).stateFlag F.newChk⟩ := by
          unfold isCanBookNewConfirm
          dsimp only
          rw [if_neg (by simp [hL.notNull htid]), if_neg (by simp [hoff])]
        dsimp only
        rw [hok]
        exact Or.inr ⟨(tid, F.newChk), mem_openConfirms.2 ⟨⟨htid, rfl⟩, hoff⟩, rfl⟩
  | reward order user products =>
    obtain ⟨horder, hproducts⟩ := hl
    rw [bookRound, chkAndGetCardFavorLvRewardPkt, BookRound.openFor, BookRound.wish]
    change openRewards F tids h.s = ∅ ∧ _ ∨ ∃ r ∈ openRewards F tids h.s, _
    have hperm : (order.filterMap fun i => (cardBookList h.s tids)[i]?).Perm (cardBookList h.s tids) := by
      have hlength : (cardBookList h.s tids).length = tids.length := List.length_map _
      have hshown := horder.filterMap fun i => (cardBookList h.s tids)[i]?
      rwa [← hlength, filterMap_range_getElem?] at hshown
    cases hsearch : (order.filterMap fun i => (cardBookList h.s tids)[i]?).findSome? fun b => favorReward F b.2 with
    | none =>
      refine Or.inl ⟨Finset.eq_empty_of_forall_notMem fun r hr => ?_, rfl⟩
      obtain ⟨htid, ⟨lv, hstate, hlv⟩, hoff⟩ := mem_openRewards.1 hr
      have hshown := List.findSome?_eq_none_iff.1 hsearch _ (hperm.mem_iff.2 (List.mem_map_of_mem htid))
      have hon : (h.s.bookOf r.1).isOnFlag r.2 = true := favorReward_none hshown (lv, r.2) hstate hlv
      rw [hon] at hoff
      cases hoff
    | some req =>
      obtain ⟨b, hb, hreward⟩ := List.exists_of_findSome?_eq_some hsearch
      obtain ⟨tid, htid, rfl⟩ := List.mem_map.1 (hperm.mem_iff.1 hb)
      obtain ⟨r, hr, hlv, hoff, rfl⟩ := favorReward_some hR hreward
      obtain ⟨pkt, hok, hpkt, hword⟩ := favorReward_granted hR hL htid hproducts hr hlv hoff
      dsimp only
      rw [hok]
      dsimp only
      rw [hpkt, hword]
      exact Or.inr ⟨(tid, r.2), mem_openRewards.2 ⟨htid, ⟨r.1, hr, hlv⟩, hoff⟩, rfl⟩

/-! ## Any rounds in any order -/

/-- the two wishes are for different states -/
theorem openOf_different (hR : Rewarding F tids) {k k' : Wish} {r : ℕ × ℕ} (hr : r ∈ openOf F tids s k)
    (hr' : r ∈ openOf F tids s k') : k = k' := by
  have hdisjoint : r ∈ openRewards F tids s → r ∉ openConfirms F tids s := by
    intro hreward hconfirm
    obtain ⟨-, ⟨lv, hstate, -⟩, -⟩ := mem_openRewards.1 hreward
    have hidx : r.2 = F.newChk := (mem_openConfirms.1 hconfirm).1.2
    have hscope := hR.scope _ hstate
    have hnew := F.newChk_not_reward
    dsimp only at hscope
    omega
  cases k <;> cases k'
  · rfl
  · exact absurd hr' (hdisjoint hr)
  · exact absurd hr (hdisjoint hr')
  · rfl

theorem Listed.openOf_erase (h : Listed E tids s) (htid : tid ∈ tids) (idx : ℕ) (k : Wish) :
    openOf F tids (doSetBookState E s tid (turnOn (s.bookOf tid).stateFlag idx)).2 k =
      (openOf F tids s k).erase (tid, idx) := by
  cases k with
  | reward =>
    rw [openOf, openOf, openRewards, openRewards]
    exact h.erase htid idx _ _
  | confirm =>
    rw [openOf, openOf, openConfirms, openConfirms]
    exact h.erase htid idx _ _

theorem mem_tids_of_openOf {k : Wish} {r : ℕ × ℕ} (hr : r ∈ openOf F tids s k) : r.1 ∈ tids := by
  cases k with
  | reward => exact (mem_openRewards.1 hr).1
  | confirm => exact (mem_openConfirms.1 hr).1.1

def Asked.state (a : Asked) : ℕ × ℕ := (a.tid, a.idx)

variable (F weaponChk tids) in
/-- the rounds `ops` since `s`, and what they have left open -/
structure Collected (s : St) (ops : List (BookRound υ π)) (h : BotRun) : Prop where
  accepted : ∀ a ∈ h.log, a.accepted = true
  once : (h.log.map Asked.state).Nodup
  was_open : ∀ a ∈ h.log, ∃ k, a.state ∈ openOf F tids s k
  still_open : ∀ k, openOf F tids h.s k = openOf F tids s k \ (h.log.map Asked.state).toFinset
  one_a_round : ∀ k, (openOf F tids h.s k).card =
    (openOf F tids s k).card - ops.countP fun op => decide (op.wish weaponChk = some k)

theorem Collected.nil : Collected F weaponChk tids s ([] : List (BookRound υ π)) ⟨s, []⟩ where
  accepted := by simp
  once := List.nodup_nil
  was_open := by simp
  still_open := by simp
  one_a_round := by simp

/-- one more round -/
theorem Collected.round (hR : Rewarding F tids) {ops : List (BookRound υ π)} {h : BotRun} (hL : Listed E tids h.s)
    (hC : Collected F weaponChk tids s ops h) (op : BookRound υ π) (hl : legalRound F tids op) :
    Listed E tids (bookRound E F weaponChk monsterChk tids h op).s ∧
      Collected F weaponChk tids s (ops ++ [op]) (bookRound E F weaponChk monsterChk tids h op) := by
  have hcount : ∀ k, (ops ++ [op]).countP (fun op => decide (op.wish weaponChk = some k)) =
      ops.countP (fun op => decide (op.wish weaponChk = some k)) + if op.wish weaponChk = some k then 1 else 0 := by
    intro k
    rw [List.countP_append, List.countP_singleton]
    simp
  rcases bookRound_cases weaponChk monsterChk hR hL op hl with ⟨hnone, hsame⟩ | ⟨r, hr, hnext⟩
  · rw [hsame]
    refine ⟨hL, hC.accepted, hC.once, hC.was_open, hC.still_open, fun k => ?_⟩
    rw [hcount, hC.one_a_round]
    split_ifs with hwish
    · have hzero : (openOf F tids h.s k).card = 0 := by
        rw [BookRound.openFor, hwish] at hnone
        exact Finset.card_eq_zero.2 hnone
      rw [hC.one_a_round] at hzero
      omega
    · rfl
  · rw [hnext]
    obtain ⟨k₀, hwish⟩ : ∃ k, op.wish weaponChk = some k := by
      cases hwish : op.wish weaponChk with
      | none =>
        rw [BookRound.openFor, hwish] at hr
        cases hr
      | some k => exact ⟨k, rfl⟩
    have hk₀ : r ∈ openOf F tids h.s k₀ := by
      rw [BookRound.openFor, hwish] at hr
      exact hr
    have htid : r.1 ∈ tids := mem_tids_of_openOf hk₀
    have herase := hL.openOf_erase (F := F) htid r.2
    have hfresh := hk₀
    rw [hC.still_open, Finset.mem_sdiff, List.mem_toFinset] at hfresh
    refine ⟨(hL.setState htid r.2).1, ?_, ?_, ?_, fun k => ?_, fun k => ?_⟩
    · intro a ha
      rcases List.mem_append.1 ha with ha | ha
      · exact hC.accepted a ha
      · rw [List.mem_singleton.1 ha]
    · rw [List.map_append, List.nodup_append_comm, List.map_singleton, List.singleton_append, List.nodup_cons]
      exact ⟨hfresh.2, hC.once⟩
    · intro a ha
      rcases List.mem_append.1 ha with ha | ha
      · exact hC.was_open a ha
      · rw [List.mem_singleton.1 ha]
        exact ⟨k₀, hfresh.1⟩
    · dsimp only
      rw [herase, hC.still_open]
      ext r'
      simp only [Finset.mem_erase, Finset.mem_sdiff, List.mem_toFinset, List.map_append, List.map_singleton,
        List.mem_append, List.mem_singleton, Asked.state]
      tauto
    · dsimp only
      rw [herase, hcount, hwish]
      split_ifs with hk
      · obtain rfl : k₀ = k := Option.some.inj hk
        rw [Finset.card_erase_of_mem hk₀, hC.one_a_round, Nat.sub_sub]
      · have hnot : r ∉ openOf F tids h.s k := fun hk' => hk (congrArg some (openOf_different hR hk₀ hk'))
        rw [Finset.erase_eq_of_notMem hnot, hC.one_a_round, add_zero]

/-- **The bot collects what is open.** In rounds of any kind and order, from any books and with an up-to-date copy, every
request is for a state that was open at the start, is accepted and is not made again, and every round that can take one
takes one, until there are none. -/
theorem bot_collects (hR : Rewarding F tids) (hL : Listed E tids s) (ops : List (BookRound υ π))
    (hl : ∀ op ∈ ops, legalRound F tids op) :
    Collected F weaponChk tids s ops (run (bookRound E F weaponChk monsterChk tids) ⟨s, []⟩ ops) := by
  suffices h : Listed E tids (run (bookRound E F weaponChk monsterChk tids) ⟨s, []⟩ ops).s ∧
      Collected F weaponChk tids s ops (run (bookRound E F weaponChk monsterChk tids) ⟨s, []⟩ ops) from h.2
  induction ops using List.reverseRecOn with
  | nil => exact ⟨hL, Collected.nil⟩
  | append_singleton ops op ih =>
    obtain ⟨hL', hC⟩ := ih fun o ho => hl o (List.mem_append_left _ ho)
    rw [run_append, run_cons, run_nil]
    exact hC.round hR hL' op (hl op (List.mem_append_right _ (List.mem_singleton_self op)))

end

/-- two books, at favor levels 2 and 0 -/
def sampleCollection : St :=
  { construct sampleEnv (fun _ => sampleEnv.nullCard)
      (fun a => if a = 0 then ⟨7, 0, 2, 0, false⟩ else ⟨8, 0, 0, 0, false⟩) with
    bookCont := fun tid => if tid = 7 then some 0 else if tid = 8 then some 1 else none }

theorem sampleCollection_listed : Listed sampleEnv [7, 8] sampleCollection where
  booked :=
    { null := rfl
      entries := by
        intro tid a h
        simp only [sampleCollection] at h
        split_ifs at h with h7 h8
        · obtain rfl := Option.some.inj h
          exact ⟨h7.symm, by rw [h7]; rfl⟩
        · obtain rfl := Option.some.inj h
          exact ⟨h8.symm, by rw [h8]; rfl⟩
      cards := by rintro u a ⟨⟩ }
  listed := by decide
  narrow := by decide

theorem sampleFlagEnv_rewarding : Rewarding sampleFlagEnv [7, 8] where
  different := by decide
  scope := by decide
  narrow := by decide
  rows := fun tid _ r _ => ⟨r.1, [r.1], rfl, rfl⟩

theorem sampleFlagEnv_makes (datas products : List ℕ) : (makeProducts sampleFlagEnv () datas products).1 = .successOk := by
  unfold makeProducts
  induction datas generalizing products with
  | nil => rfl
  | cons data datas ih => exact ih (products ++ [data])

/-- three rounds for rewards, a confirmation that goes to a weapon and one that goes to a supporter -/
def sampleRounds : List (BookRound Unit (List ℕ)) :=
  [.reward [0, 1] () [], .confirm [(5, ⟨5, 1, 0⟩)] [], .reward [1, 0] () [], .confirm [] [], .reward [0, 1] () []]

/-- the two rewards of the first book are collected, and one book of two is confirmed -/
theorem bot_collects_sample :
    Collected sampleFlagEnv 0 [7, 8] sampleCollection sampleRounds
        (run (bookRound sampleEnv sampleFlagEnv 0 0 [7, 8]) ⟨sampleCollection, []⟩ sampleRounds) ∧
      (run (bookRound sampleEnv sampleFlagEnv 0 0 [7, 8]) ⟨sampleCollection, []⟩ sampleRounds).log =
        [⟨7, 3, true⟩, ⟨7, 4, true⟩, ⟨7, 0, true⟩] := by
  have hlegal : ∀ op ∈ sampleRounds, legalRound sampleFlagEnv [7, 8] op := by
    intro op hop
    simp only [sampleRounds, List.mem_cons, List.not_mem_nil, or_false] at hop
    rcases hop with rfl | rfl | rfl | rfl | rfl
    · exact ⟨by decide, fun datas => sampleFlagEnv_makes datas []⟩
    · trivial
    · exact ⟨by decide, fun datas => sampleFlagEnv_makes datas []⟩
    · trivial
    · exact ⟨by decide, fun datas => sampleFlagEnv_makes datas []⟩
  exact ⟨bot_collects sampleFlagEnv_rewarding sampleCollection_listed sampleRounds hlegal, by decide⟩

end GameServer.Bot
