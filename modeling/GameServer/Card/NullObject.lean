/-
The shared null objects `PktInfoCard::Piece::ms_Null` and `PktInfoCardBook::Piece::ms_Null` over whole runs of the
public mutating calls with arbitrary arguments.

A lookup of an absent key returns a pointer to a null object. Some calls test the object first (`DoDel`,
`DoSetApplyPosCards`, `DoSetApplyOutPosCard(s)`, `DoSetBookState`), the others write through the pointer at once:
`uncheckedCards` and `uncheckedBooks` list the keys that a call writes to without a test.

Results:
- `call_intact`: a call whose unchecked keys are all present leaves the null objects alone;
- `nullObjects_intact`: in every run of such calls the null objects keep their contents, so lookups of absent keys
  still answer "does not exist";
- `doUpdateBook_absent`: from any state, `DoUpdateBook` with one absent table id makes every absent table id exist;
- `nullObjects_overwritten`: both null objects are overwritten in a run of two calls.
-/
import Mathlib.Tactic
import GameServer.Core.Run
import GameServer.Card.Position

namespace GameServer.Card

open GameServer.Core

/-! ## Calls -/

/-- the public mutating calls, with arbitrary arguments -/
inductive Call where
  | add (cards : List (CardPiece × Addr)) (books : List (BookPiece × Addr))
  | del (uid : ℕ)
  | applyPos (pkt : ApplyPos)
  | applyPosCards (infos : List SlotPos)
  | applyOutPos (uid : ℕ)
  | applyOutPosCards (uids : List ℕ)
  | lock (uid : ℕ) (lockFlag : Bool)
  | lvUp (pkt : CardGrow)
  | skillLvUp (pkt : CardGrow)
  | wake (pkt : CardGrow)
  | bookState (tid stateFlag : ℕ)
  | updateBook (books : List BookPiece)
  | gameResult (cardBook : List BookPiece)

def call (E : Env) (s : St) : Call → St
  | .add cards books => doAdd E s cards books
  | .del uid => (doDel E s uid).2
  | .applyPos pkt => (doSetApplyPosCard E s pkt).2
  | .applyPosCards infos => (doSetApplyPosCards E s infos).2
  | .applyOutPos uid => (doSetApplyOutPosCard E s uid).2
  | .applyOutPosCards uids => (doSetApplyOutPosCards E s uids).2
  | .lock uid lockFlag => (doSetLock s uid lockFlag).2
  | .lvUp pkt => (doSetLvUpInfo s pkt).2
  | .skillLvUp pkt => (doSetSkillLvUpInfo s pkt).2
  | .wake pkt => (doSetWakeInfo s pkt).2
  | .bookState tid stateFlag => (doSetBookState E s tid stateFlag).2
  | .updateBook books => (doUpdateBook s books).2
  | .gameResult cardBook => (doSetGameResultInfo s cardBook).2

/-- the card UIDs that a call writes to without a null test -/
def uncheckedCards (E : Env) : Call → List ℕ
  | .applyPos pkt => pkt.cardUID :: if E.invalidUid = pkt.oldCardUID then [] else [pkt.oldCardUID]
  | .lock uid _ => [uid]
  | .lvUp pkt | .skillLvUp pkt | .wake pkt => [pkt.targetUID]
  | _ => []

/-- the book table ids that a call writes to without a null test -/
def uncheckedBooks : Call → List ℕ
  | .lvUp pkt | .skillLvUp pkt | .wake pkt => pkt.bookState.map (·.tableID)
  | .updateBook books | .gameResult books => books.map (·.tableID)
  | _ => []

/-- every key that is written without a test is there -/
def presentOnly (E : Env) (s : St) (c : Call) : Prop :=
  (∀ u ∈ uncheckedCards E c, s.cont u ≠ none) ∧ ∀ t ∈ uncheckedBooks c, s.bookCont t ≠ none

/-- both null objects have their initial contents -/
structure NullIntact (E : Env) (s : St) : Prop where
  card : s.msNullCard = E.nullCard
  book : s.msNullBook = E.nullBook

/-! ## Writes -/

namespace NullIntact

variable {E : Env} {s t : St}

theorem congr (h : NullIntact E s) (hc : t.msNullCard = s.msNullCard) (hb : t.msNullBook = s.msNullBook) :
    NullIntact E t := ⟨hc.trans h.card, hb.trans h.book⟩

theorem card_isNull (h : NullIntact E s) : s.msNullCard.isNull E = true := by rw [h.card]; exact E.nullCard_isNull

theorem book_isNull (h : NullIntact E s) : s.msNullBook.isNull E = true := by rw [h.book]; exact E.nullBook_isNull

/-- a pointer that is not null does not point to the null object -/
theorem setCard (h : NullIntact E s) {p : Option Addr} (hp : p ≠ none) (f : CardPiece → CardPiece) :
    NullIntact E (s.setCard p f) := by
  obtain ⟨a, rfl⟩ := Option.ne_none_iff_exists'.1 hp
  exact h.congr rfl rfl

theorem setBook (h : NullIntact E s) {p : Option Addr} (hp : p ≠ none) (f : BookPiece → BookPiece) :
    NullIntact E (s.setBook p f) := by
  obtain ⟨a, rfl⟩ := Option.ne_none_iff_exists'.1 hp
  exact h.congr rfl rfl

theorem addPos (h : NullIntact E s) (p : Option Addr) (k v n : ℕ) : NullIntact E (doAddPosValue E s p k v n) :=
  h.congr (by simp) (by simp)

theorem delPos (h : NullIntact E s) (k v n : ℕ) : NullIntact E (doDelPosValue E s k v n) :=
  h.congr (by simp) (by simp)

theorem putAt (h : NullIntact E s) {p : Option Addr} (hp : p ≠ none) (k v n : ℕ) : NullIntact E (putAt E s p k v n) :=
  (h.addPos p k v n).setCard hp _

/-- an object that passes the null test is not the null object -/
theorem found (h : NullIntact E s) {p : Option Addr} (hn : ¬ (s.card p).isNull E = true) : p ≠ none := by
  rintro rfl
  exact hn h.card_isNull

theorem foundBook (h : NullIntact E s) {p : Option Addr} (hn : ¬ (s.book p).isNull E = true) : p ≠ none := by
  rintro rfl
  exact hn h.book_isNull

end NullIntact

section

variable {E : Env} {s : St}

theorem setBook_bookCont (p : Option Addr) (f : BookPiece → BookPiece) : (s.setBook p f).bookCont = s.bookCont := by
  cases p <;> rfl

/-! ## Each call -/

theorem doAdd_intact (h : NullIntact E s) (cards : List (CardPiece × Addr)) (books : List (BookPiece × Addr)) :
    NullIntact E (doAdd E s cards books) := by
  have hbooks : NullIntact E (books.foldl addBook s) := by
    induction books generalizing s with
    | nil => exact h
    | cons b books ih => exact ih (h.congr rfl rfl)
  unfold doAdd
  generalize books.foldl addBook s = t at hbooks ⊢
  induction cards generalizing t with
  | nil => exact hbooks
  | cons c cards ih =>
    have hstore : NullIntact E (storeCard t c) := hbooks.congr rfl rfl
    refine ih _ ?_
    unfold addCard
    split_ifs
    · exact hstore
    · exact hstore.addPos _ _ _ _

theorem doDel_intact (h : NullIntact E s) (uid : ℕ) : NullIntact E (doDel E s uid).2 := by
  unfold doDel
  cases ha : s.cont uid with
  | none => exact h
  | some a =>
    have hreset := (h.delPos (s.cards a).posKind (s.cards a).posValue (s.cards a).posSlotNum).setCard
      (Option.some_ne_none a) (·.resetPosInfo E)
    exact hreset.congr rfl rfl

theorem doDelPosValueUid_intact (h : NullIntact E s) (uid : ℕ) : NullIntact E (doDelPosValueUid E s uid).2 := by
  unfold doDelPosValueUid
  simp only
  split_ifs with hn
  · exact h
  · exact (h.delPos _ _ _).setCard (h.found hn) _

theorem doSetApplyOutPosCards_intact (h : NullIntact E s) (uids : List ℕ) :
    NullIntact E (doSetApplyOutPosCards E s uids).2 := by
  induction uids generalizing s with
  | nil => exact h
  | cons uid uids ih =>
    rw [doSetApplyOutPosCards]
    split_ifs
    · exact doDelPosValueUid_intact h uid
    · exact ih (doDelPosValueUid_intact h uid)

theorem doSetApplyPosCards_intact (h : NullIntact E s) (infos : List SlotPos) :
    NullIntact E (doSetApplyPosCards E s infos).2 := by
  induction infos generalizing s with
  | nil => exact h
  | cons info infos ih =>
    rw [doSetApplyPosCards]
    split_ifs with hn
    · exact h
    · exact ih (h.putAt (h.found hn) _ _ _)

theorem doSetApplyPosCard_intact (h : NullIntact E s) {pkt : ApplyPos} (hp : presentOnly E s (.applyPos pkt)) :
    NullIntact E (doSetApplyPosCard E s pkt).2 := by
  have hcard : s.getInst pkt.cardUID ≠ none := hp.1 _ List.mem_cons_self
  unfold doSetApplyPosCard
  simp only
  set s1 := doDelPosValue E s (s.card (s.getInst pkt.cardUID)).posKind (s.card (s.getInst pkt.cardUID)).posValue
    (s.card (s.getInst pkt.cardUID)).posSlotNum with hs1
  have hmoved : NullIntact E (putAt E s1 (s.getInst pkt.cardUID) pkt.posKind pkt.posValue pkt.slotNum) :=
    (h.delPos _ _ _).putAt hcard _ _ _
  split_ifs with hinv hdet
  · exact hmoved
  all_goals
    have hold : (putAt E s1 (s.getInst pkt.cardUID) pkt.posKind pkt.posValue pkt.slotNum).getInst pkt.oldCardUID ≠
        none := by
      rw [St.getInst, putAt_cont, hs1, doDelPosValue_cont]
      exact hp.1 _ (by simp [uncheckedCards, hinv])
  · exact hmoved.setCard hold _
  · exact (hmoved.setCard hold _).putAt hold _ _ _

/-- the book loop changes no key, so every table id of the packet stays present -/
theorem doUpdateBook_intact (h : NullIntact E s) {books : List BookPiece}
    (hp : ∀ b ∈ books, s.bookCont b.tableID ≠ none) : NullIntact E (doUpdateBook s books).2 := by
  unfold doUpdateBook
  induction books generalizing s with
  | nil => exact h
  | cons b books ih =>
    refine ih (h.setBook (hp b List.mem_cons_self) _) ?_
    intro b' hb'
    rw [setBook_bookCont]
    exact hp b' (List.mem_cons_of_mem b hb')

theorem doApplyCommonGrow_intact (h : NullIntact E s) {pkt : CardGrow} (hcard : s.cont pkt.targetUID ≠ none)
    (hbooks : ∀ b ∈ pkt.bookState, s.bookCont b.tableID ≠ none) : NullIntact E (doApplyCommonGrow s pkt).2 := by
  refine doUpdateBook_intact (h.setCard hcard _) ?_
  intro b hb
  rw [setCard_bookCont]
  exact hbooks b hb

theorem doSetBookState_intact (h : NullIntact E s) (tid stateFlag : ℕ) :
    NullIntact E (doSetBookState E s tid stateFlag).2 := by
  unfold doSetBookState
  simp only
  split_ifs with hn
  · exact h
  · exact h.setBook (h.foundBook hn) fun b => { b with stateFlag := stateFlag }

/-- **Step lemma.** A call whose unchecked keys are present leaves the null objects alone. -/
theorem call_intact {c : Call} (h : NullIntact E s) (hp : presentOnly E s c) : NullIntact E (call E s c) := by
  have hbooks : ∀ {bs : List BookPiece}, (∀ t ∈ bs.map (·.tableID), s.bookCont t ≠ none) →
      ∀ b ∈ bs, s.bookCont b.tableID ≠ none := fun hall b hb => hall _ (List.mem_map_of_mem hb)
  cases c with
  | add cards books => exact doAdd_intact h cards books
  | del uid => exact doDel_intact h uid
  | applyPos pkt => exact doSetApplyPosCard_intact h hp
  | applyPosCards infos => exact doSetApplyPosCards_intact h infos
  | applyOutPos uid => exact doDelPosValueUid_intact h uid
  | applyOutPosCards uids => exact doSetApplyOutPosCards_intact h uids
  | lock uid lockFlag =>
    have hcard : s.getInst uid ≠ none := hp.1 uid (List.mem_singleton_self uid)
    exact h.setCard hcard fun c => { c with lock := lockFlag }
  | lvUp pkt | skillLvUp pkt | wake pkt =>
    exact doApplyCommonGrow_intact h (hp.1 _ (List.mem_singleton_self _)) (hbooks hp.2)
  | bookState tid stateFlag => exact doSetBookState_intact h tid stateFlag
  | updateBook books | gameResult books => exact doUpdateBook_intact h (hbooks hp.2)

end

/-! ## Whole runs -/

/-- **The null objects are never modified** in a run of calls whose unchecked keys are present, so a lookup of an absent
key still answers with a null piece. -/
theorem nullObjects_intact (E : Env) (s : St) (calls : List Call) (h : NullIntact E s)
    (hrun : LegalRun (call E) (presentOnly E) s calls) :
    NullIntact E (run (call E) s calls) ∧
      (∀ uid, (run (call E) s calls).cont uid = none →
        ((run (call E) s calls).card ((run (call E) s calls).getInst uid)).isNull E = true ∧
          isExistCard E (run (call E) s calls) uid = false) ∧
      ∀ tid, (run (call E) s calls).bookCont tid = none →
        ((run (call E) s calls).book ((run (call E) s calls).getBookInst tid)).isNull E = true ∧
          isExistCardBook E (run (call E) s calls) tid = false := by
  have ht := run_inv (I := NullIntact E) (fun _ _ => call_intact) h hrun
  generalize run (call E) s calls = t at ht ⊢
  refine ⟨ht, ?_, ?_⟩
  · intro uid hu
    have hget : t.card (t.getInst uid) = t.msNullCard := by rw [St.getInst, hu]; rfl
    rw [isExistCard, hget, ht.card_isNull]
    exact ⟨rfl, rfl⟩
  · intro tid hb
    have hget : t.book (t.getBookInst tid) = t.msNullBook := by rw [St.getBookInst, hb]; rfl
    rw [isExistCardBook, hget, ht.book_isNull]
    exact ⟨rfl, rfl⟩

/-- a card is locked and its book updated, then it is deleted: all keys are there when they are written -/
theorem nullObjects_intact_owned :
    let t := run (call sampleEnv) (construct sampleEnv (fun _ => sampleEnv.nullCard) fun _ => sampleEnv.nullBook)
      [.add [(sampleCard 1 10 0 0 0, 100)] [(⟨10, 0, 0, 0, false⟩, 100)], .lock 1 true, .updateBook [⟨10, 1, 2, 3, true⟩],
        .del 1, .applyOutPos 1]
    NullIntact sampleEnv t ∧
      (∀ uid, t.cont uid = none →
        (t.card (t.getInst uid)).isNull sampleEnv = true ∧ isExistCard sampleEnv t uid = false) ∧
      ∀ tid, t.bookCont tid = none →
        (t.book (t.getBookInst tid)).isNull sampleEnv = true ∧ isExistCardBook sampleEnv t tid = false := by
  refine nullObjects_intact _ _ _ ⟨rfl, rfl⟩ ⟨?_, ?_, ?_, ?_, ?_, trivial⟩
  all_goals exact ⟨by decide, by decide⟩

/-- one absent table id: the piece is written into the null object, and from then on every absent table id exists -/
theorem doUpdateBook_absent (E : Env) (s : St) (b : BookPiece) (hb : s.bookCont b.tableID = none)
    (hn : b.isNull E = false) (tid : ℕ) (ht : s.bookCont tid = none) :
    isExistCardBook E (doUpdateBook s [b]).2 tid = true := by
  have hbook : (doUpdateBook s [b]).2 = { s with msNullBook := b } := by
    simp [doUpdateBook, St.getBookInst, hb, St.setBook]
  simp [hbook, isExistCardBook, St.getBookInst, ht, St.book, hn]

/-- empty contents: `DoSetLock` of an absent UID, then `DoUpdateBook` of an absent table id -/
theorem nullObjects_overwritten :
    let s := construct sampleEnv (fun _ => sampleEnv.nullCard) fun _ => sampleEnv.nullBook
    let t := run (call sampleEnv) s [.lock 1 true, .updateBook [⟨5, 1, 2, 3, true⟩]]
    NullIntact sampleEnv s ∧ t.msNullCard ≠ sampleEnv.nullCard ∧ t.msNullBook ≠ sampleEnv.nullBook ∧
      t.bookCont 6 = none ∧ isExistCardBook sampleEnv t 6 = true := by
  refine ⟨⟨rfl, rfl⟩, ?_, ?_, ?_, ?_⟩
  all_goals decide

end GameServer.Card
