/-
The supporters of all users of a server, `C++/CardContents.cpp`: the contents of every user (`CareEffects`) over the same
objects. `DoInit` and `DoAdd` pop them from pools, `DoDel` and `_DoRelease_` push them back. A user comes, sends requests and
goes, and the others do so in between.

- `serveCare_moves`: a request writes objects of its user and the popped ones only, and pushes exactly those that the
  contents no longer have;
- `serveUser_moves`: the same with `DoInit` and `_DoRelease_`;
- `serveUser_ready`: step lemma for one user.

Not under src/: the pools. A pop may return any free object, and so the objects are arguments.
-/
import Mathlib.Tactic
import GameServer.Core.Pool
import GameServer.Card.Handover

namespace GameServer.Card

open GameServer.Core

variable {ι κ υ ρ π : Type}

/-! ## Users -/

/-- what a user does; `stored` are the contents that the packets of `DoInit` are a copy of -/
inductive UserOp (ι υ π : Type) where
  | init (stored : St) (uids tids : List ℕ) (addrs bookAddrs : List Addr)
  | care (op : CareOp ι υ π)
  | release (uids tids : List ℕ)

/-- objects with the keys that they are stored under -/
def cardKeys (cards : List (CardPiece × Addr)) : List (ℕ × Addr) := cards.map fun c => (c.1.cardUID, c.2)

def bookKeys (books : List (BookPiece × Addr)) : List (ℕ × Addr) := books.map fun b => (b.1.tableID, b.2)

section

variable (E : Env) (T : CareTables ι κ) (F : FlagEnv υ ρ π) (P : ProductTables)

/-- `_DoRelease_` -/
def doRelease (s : St) : St := { s with cont := fun _ => none, bookCont := fun _ => none, posCont := fun _ _ => none }

def serveUser (s : St) : UserOp ι υ π → St
  | .init stored uids tids addrs bookAddrs => doAdd E { s with posCont := fun _ _ => none }
      ((getInfo stored uids tids).1.zip addrs) ((getInfo stored uids tids).2.zip bookAddrs)
  | .care op => serveCare E T F P s op
  | .release _ _ => doRelease s

/-- the objects that `DoDel` pushes, one UID after another -/
def delPushed (s : St) : List ℕ → List Addr
  | [] => []
  | uid :: uids => (s.cont uid).toList ++ delPushed (doDel E s uid).2 uids

def carePushed (s : St) : CareOp ι υ π → List Addr
  | .sell O uid =>
    match isCanSell E T s O uid with
    | .error _ => []
    | .ok pkt => delPushed E s [pkt.cardUID]
  | .lvUp O req ignoreCost =>
    match isCanLvUp E T s O req ignoreCost with
    | .error _ => []
    | .ok pkt => delPushed E (doSetLvUpInfo s pkt.grow).2 pkt.maters
  | .skillLvUp O req ignoreCost =>
    match isCanSkillLvUp E T.toGrowTables s O.userGold req ignoreCost with
    | .error _ => []
    | .ok pkt => delPushed E (doSetSkillLvUpInfo s (skillGrowAck pkt).grow).2 (skillGrowAck pkt).maters
  | .wake O req ignoreCost =>
    match isCanWake E T s O req ignoreCost with
    | .error _ => []
    | .ok pkt => delPushed E (doSetWakeInfo s pkt.grow).2 pkt.maters
  | _ => []

/-- cards and books that are popped, with their keys -/
def popped (s : St) : UserOp ι υ π → List (ℕ × Addr) × List (ℕ × Addr)
  | .init stored uids tids addrs bookAddrs => (cardKeys ((getInfo stored uids tids).1.zip addrs),
      bookKeys ((getInfo stored uids tids).2.zip bookAddrs))
  | .care (.grant items bookAddr) =>
    match doMakeProducts E P s ⟨[], []⟩ items with
    | .error _ => ([], [])
    | .ok pack => (cardKeys (pack.packCards items), bookKeys (pack.packBooks bookAddr))
  | _ => ([], [])

/-- cards and books that are pushed -/
def pushed (s : St) : UserOp ι υ π → List Addr × List Addr
  | .care op => (carePushed E T s op, [])
  | .release uids tids => (uids.filterMap s.cont, tids.filterMap s.bookCont)
  | .init .. => ([], [])

/-- `DoInit` is for empty contents, with packets of good ones, and `_DoRelease_` walks both maps -/
def legalUser (s : St) : UserOp ι υ π → Prop
  | .init stored uids tids addrs bookAddrs => (∀ u, s.cont u = none) ∧ (∀ tid, s.bookCont tid = none) ∧
      Ready E T stored ∧ Walks stored uids tids ∧ Pools uids tids addrs bookAddrs
  | .care op => legalReady E T P s op
  | .release uids tids => Walks s uids tids

end

variable {E : Env} {T : CareTables ι κ} {F : FlagEnv υ ρ π} {P : ProductTables} {s t t' : St}

/-! ## What a request writes -/

/-- only objects of the contents are written, and the maps stay -/
structure Wrote (s t : St) : Prop where
  cards : (cardHeap s).Writes (cardHeap t)
  books : (bookHeap s).Writes (bookHeap t)

theorem Wrote.refl (s : St) : Wrote s s := ⟨Heap.Writes.refl _, Heap.Writes.refl _⟩

theorem Wrote.trans (h : Wrote s t) (h' : Wrote t t') : Wrote s t' := ⟨h.cards.trans h'.cards, h.books.trans h'.books⟩

theorem Wrote.cont (h : Wrote s t) : t.cont = s.cont := h.cards.cont

/-- a card is written through the pointer of a lookup -/
theorem Wrote.setCard (h : Wrote s t) (uid : ℕ) {p : Option Addr} (hp : p = s.cont uid) (f : CardPiece → CardPiece) :
    Wrote s (t.setCard p f) := by
  refine h.trans ?_
  cases hp' : p with
  | none => exact ⟨Heap.Writes.refl _, Heap.Writes.refl _⟩
  | some a =>
    have ha : (cardHeap t).cont uid = some a := by
      rw [← hp', hp]
      exact congrFun h.cont uid
    exact ⟨Heap.Writes.set ha _, Heap.Writes.refl _⟩

theorem Wrote.setBook (h : Wrote s t) (tid : ℕ) (f : BookPiece → BookPiece) :
    Wrote s (t.setBook (t.getBookInst tid) f) := by
  refine h.trans ?_
  unfold St.getBookInst
  cases hp : t.bookCont tid with
  | none => exact ⟨Heap.Writes.refl _, Heap.Writes.refl _⟩
  | some b => exact ⟨Heap.Writes.refl _, Heap.Writes.set (h := bookHeap t) hp _⟩

theorem Wrote.pos (h : Wrote s t) (g : ℕ → ℕ → Option InstVec) : Wrote s { t with posCont := g } := ⟨h.cards, h.books⟩

theorem Wrote.addPos (h : Wrote s t) (p : Option Addr) (k v n : ℕ) : Wrote s (doAddPosValue E t p k v n) := by
  obtain ⟨g, hg⟩ := doAddPosValue_frame E t p k v n
  rw [hg]
  exact h.pos g

theorem Wrote.delPos (h : Wrote s t) (k v n : ℕ) : Wrote s (doDelPosValue E t k v n) := by
  obtain ⟨g, hg⟩ := doDelPosValue_frame E t k v n
  rw [hg]
  exact h.pos g

theorem Wrote.putAt (h : Wrote s t) (uid : ℕ) {p : Option Addr} (hp : p = s.cont uid) (k v n : ℕ) :
    Wrote s (putAt E t p k v n) := (h.addPos p k v n).setCard uid hp _

theorem Wrote.delPosUid (h : Wrote s t) (uid : ℕ) : Wrote s (doDelPosValueUid E t uid).2 := by
  unfold doDelPosValueUid
  dsimp only
  split_ifs
  · exact h
  · exact (h.delPos _ _ _).setCard uid (congrFun h.cont uid) _

theorem Wrote.outPosCards (h : Wrote s t) (uids : List ℕ) : Wrote s (doSetApplyOutPosCards E t uids).2 := by
  induction uids generalizing t with
  | nil => exact h
  | cons uid uids ih =>
    rw [doSetApplyOutPosCards]
    split_ifs
    · exact h.delPosUid uid
    · exact ih (h.delPosUid uid)

theorem Wrote.applyPosCards (h : Wrote s t) (infos : List SlotPos) : Wrote s (doSetApplyPosCards E t infos).2 := by
  induction infos generalizing t with
  | nil => exact h
  | cons info infos ih =>
    rw [doSetApplyPosCards]
    split_ifs
    · exact h
    · exact ih (h.putAt info.uid (congrFun h.cont info.uid) _ _ _)

theorem Wrote.applyPosCard (h : Wrote s t) (pkt : ApplyPos) : Wrote s (doSetApplyPosCard E t pkt).2 := by
  have hmoved : Wrote s (Card.putAt E (doDelPosValue E t (t.card (t.getInst pkt.cardUID)).posKind
      (t.card (t.getInst pkt.cardUID)).posValue (t.card (t.getInst pkt.cardUID)).posSlotNum) (t.getInst pkt.cardUID)
      pkt.posKind pkt.posValue pkt.slotNum) := (h.delPos _ _ _).putAt pkt.cardUID (congrFun h.cont pkt.cardUID) _ _ _
  unfold doSetApplyPosCard
  dsimp only
  have hold := congrFun hmoved.cont pkt.oldCardUID
  split_ifs
  · exact hmoved
  · exact hmoved.setCard pkt.oldCardUID hold _
  · exact (hmoved.setCard pkt.oldCardUID hold _).putAt pkt.oldCardUID hold _ _ _

theorem Wrote.updateBook (h : Wrote s t) (books : List BookPiece) : Wrote s (doUpdateBook t books).2 := by
  unfold doUpdateBook
  dsimp only
  induction books generalizing t with
  | nil => exact h
  | cons b books ih => exact ih (h.setBook b.tableID _)

theorem Wrote.grow (h : Wrote s t) (g : CardGrow) : Wrote s (doApplyCommonGrow t g).2 :=
  (h.setCard g.targetUID (congrFun h.cont g.targetUID) g.write).updateBook g.bookState

theorem Wrote.bookState (h : Wrote s t) (tid w : ℕ) : Wrote s (doSetBookState E t tid w).2 := by
  unfold doSetBookState
  dsimp only
  split_ifs
  · exact h
  · exact h.setBook tid fun b => { b with stateFlag := w }

/-! ## What a request takes and gives back -/

/-- objects come and go, on both heaps -/
structure Moved (s t : St) (popped : List (ℕ × Addr) × List (ℕ × Addr)) (pushed : List Addr × List Addr) : Prop where
  cards : (cardHeap s).Moves (cardHeap t) popped.1 pushed.1
  books : (bookHeap s).Moves (bookHeap t) popped.2 pushed.2

theorem Wrote.moved (h : Wrote s t) {popped : List (ℕ × Addr) × List (ℕ × Addr)} {pushed : List Addr × List Addr}
    (hm : Moved t t' popped pushed) : Moved s t' popped pushed := ⟨h.cards.moves hm.cards, h.books.moves hm.books⟩

theorem Moved.refl (s : St) : Moved s s ([], []) ([], []) := ⟨Heap.Moves.refl _, Heap.Moves.refl _⟩

theorem doDel_moved (hs : Unshared s) (uid : ℕ) : Moved s (doDel E s uid).2 ([], []) ((s.cont uid).toList, []) := by
  unfold doDel
  cases ha : s.cont uid with
  | none => exact Moved.refl s
  | some a =>
    -- its position is reset, and then it is erased
    have hwrote : Wrote s ((doDelPosValue E s (s.cards a).posKind (s.cards a).posValue (s.cards a).posSlotNum).setCard
        (some a) (·.resetPosInfo E)) := ((Wrote.refl s).delPos _ _ _).setCard uid ha.symm _
    have hcont := hwrote.cont
    refine hwrote.moved ⟨Heap.Moves.erase ?_ ?_, Heap.Moves.refl _⟩
    · exact hs.congr hcont
    · exact (congrFun hcont uid).trans ha

theorem delMaters_moved (hs : Unshared s) (uids : List ℕ) :
    Moved s (delMaters E s uids) ([], []) (delPushed E s uids, []) := by
  induction uids generalizing s with
  | nil => exact Moved.refl s
  | cons uid uids ih =>
    have hfirst := doDel_moved (E := E) hs uid
    have hrest := ih ((doDel_removed (E := E) hs uid).unshared hs)
    exact ⟨hfirst.cards.append hrest.cards, hfirst.books.append hrest.books⟩

/-- an accepted growth, and its materials -/
theorem grow_moved (hs : Unshared s) (g : CardGrow) (maters : List ℕ) :
    Moved s (delMaters E (doApplyCommonGrow s g).2 maters) ([], []) (delPushed E (doApplyCommonGrow s g).2 maters, []) := by
  have hwrote := (Wrote.refl s).grow g
  exact hwrote.moved (delMaters_moved (hs.congr hwrote.cont) maters)

/-- new pieces in popped objects -/
theorem doAdd_moved {cards : List (CardPiece × Addr)} {books : List (BookPiece × Addr)}
    (hcards : ∀ bookCont, (cardHeap s).Fresh (cards.map (cardCell bookCont)))
    (hbooks : (bookHeap s).Fresh (books.map bookCell)) :
    Moved s (doAdd E s cards books) (cardKeys cards, bookKeys books) ([], []) := by
  obtain ⟨hbookHeap, hcardHeap, -⟩ := doAdd_heaps E s cards books
  have hcard := (hcards (doAdd E s cards books).bookCont).moves
  have hbook := hbooks.moves
  rw [List.map_map] at hcard hbook
  refine ⟨?_, ?_⟩
  · rw [hcardHeap]
    exact hcard
  · rw [hbookHeap]
    exact hbook

/-- **What a request takes and gives back.** -/
theorem serveCare_moved (hs : Sound E T s) (op : CareOp ι υ π) (hl : legalCare E T P s op) :
    Moved s (serveCare E T F P s op) (popped E P s (.care op)) (pushed E T s (.care op)) := by
  have hshared := hs.keyed.unshared
  have hidle : Moved s s ([], []) ([], []) := Moved.refl s
  have hwrote : ∀ {t : St}, Wrote s t → Moved s t ([], []) ([], []) := fun h => h.moved (Moved.refl _)
  cases op with
  | grant items bookAddr =>
    obtain ⟨pack, hmake, hbooks, hcards⟩ := grant_fresh hs hl
    rw [serveCare, serveBook, popped, hmake]
    exact doAdd_moved hcards hbooks
  | applyPos C pkt =>
    rw [serveCare, serve]
    split
    · exact hidle
    · exact hwrote ((Wrote.refl s).applyPosCard _)
  | applyPosCards uids kind value checkWork =>
    rw [serveCare, serve]
    split
    · exact hwrote ((Wrote.refl s).applyPosCards _)
    · exact hidle
  | applyOutPos uid => exact hwrote ((Wrote.refl s).delPosUid uid)
  | applyOutPosCards uids => exact hwrote ((Wrote.refl s).outPosCards uids)
  | lock uid lock =>
    rw [serveCare]
    split
    · exact hidle
    · exact hwrote ((Wrote.refl s).setCard uid rfl fun c => { c with lock := lock })
  | sell O uid =>
    rw [serveCare, pushed, carePushed]
    cases isCanSell E T s O uid with
    | error e => exact hidle
    | ok pkt => exact delMaters_moved hshared [pkt.cardUID]
  | lvUp O req ignoreCost =>
    rw [serveCare, pushed, carePushed]
    cases isCanLvUp E T s O req ignoreCost with
    | error e => exact hidle
    | ok pkt => exact grow_moved hshared pkt.grow pkt.maters
  | skillLvUp O req ignoreCost =>
    rw [serveCare, pushed, carePushed]
    cases isCanSkillLvUp E T.toGrowTables s O.userGold req ignoreCost with
    | error e => exact hidle
    | ok pkt => exact grow_moved hshared (skillGrowAck pkt).grow (skillGrowAck pkt).maters
  | wake O req ignoreCost =>
    rw [serveCare, pushed, carePushed]
    cases isCanWake E T s O req ignoreCost with
    | error e => exact hidle
    | ok pkt => exact grow_moved hshared pkt.grow pkt.maters
  | favor charTID gapExp maxErr =>
    rw [serveCare]
    split
    · exact hwrote ((Wrote.refl s).updateBook _)
    · exact hidle
  | newConfirm tid =>
    rw [serveCare]
    split
    · exact hidle
    · exact hwrote ((Wrote.refl s).bookState _ _)
  | getFavorReward user products tid stateIdx =>
    rw [serveCare]
    split
    · exact hidle
    · exact hwrote ((Wrote.refl s).bookState _ _)

/-! ## The same contents over other memory -/

/-- the maps are the same, and so are their objects -/
structure SameView (s t : St) : Prop where
  cont : t.cont = s.cont
  bookCont : t.bookCont = s.bookCont
  posCont : t.posCont = s.posCont
  cards : ∀ u a, s.cont u = some a → t.cards a = s.cards a
  books : ∀ tid b, s.bookCont tid = some b → t.books b = s.books b

theorem SameView.alike (h : SameView s t) : Alike s t := by
  constructor
  · funext u
    change (s.cont u).map (fun a => (s.cards a).noBook) = (t.cont u).map fun a => (t.cards a).noBook
    rw [h.cont]
    exact Option.map_congr fun a ha => by rw [h.cards u a ha]
  · funext tid
    change (s.bookCont tid).map (fun b => id (s.books b)) = (t.bookCont tid).map fun b => id (t.books b)
    rw [h.bookCont]
    exact Option.map_congr fun b hb => by rw [h.books tid b hb]

theorem Alike.trans (h : Alike s t) (h' : Alike t t') : Alike s t' := ⟨h.cards.trans h'.cards, h.books.trans h'.books⟩

theorem Ready.sameView (hr : Ready E T s) (h : SameView s t) (hnull : t.msNullCard.isNull E = true)
    (hnullBook : t.msNullBook.isNull E = true) : Ready E T t := by
  have hcard : ∀ {u a}, t.cont u = some a → s.cont u = some a ∧ t.cards a = s.cards a := by
    intro u a hu
    rw [h.cont] at hu
    exact ⟨hu, h.cards u a hu⟩
  have hbook : ∀ {tid b}, t.bookCont tid = some b → s.bookCont tid = some b ∧ t.books b = s.books b := by
    intro tid b hb
    rw [h.bookCont] at hb
    exact ⟨hb, h.books tid b hb⟩
  have hbooked : Booked E t := by
    refine ⟨hnullBook, fun tid b hb => ?_, fun u a hu => ?_⟩
    · obtain ⟨hb, heq⟩ := hbook hb
      rw [heq]
      exact hr.sound.booked.entries tid b hb
    · obtain ⟨hu, heq⟩ := hcard hu
      rw [heq, h.bookCont]
      exact hr.sound.booked.cards u a hu
  have hkeyed : KeyedCards E t := by
    refine ⟨fun u a hu => ?_, hnull⟩
    obtain ⟨hu, heq⟩ := hcard hu
    rw [heq]
    exact hr.sound.keyed.keys u a hu
  refine ⟨hr.sound.alike h.alike hbooked hkeyed, ⟨⟨hkeyed.keys, fun u a hu => ?_, hnull, fun u a hu => ?_⟩, ?_⟩,
    fun u a hu => ?_⟩
  · obtain ⟨hu, heq⟩ := hcard hu
    rw [heq]
    exact hr.inv.real u a hu
  · obtain ⟨hu, heq⟩ := hcard hu
    rw [heq]
    exact hr.inv.slots u a hu
  · refine hr.inv.agree.congr (fun p => ?_) fun a => ?_
    · unfold occ slotAt
      rw [h.posCont]
    · refine place_congr ?_ fun howned => ?_
      · unfold Owned
        rw [h.cont]
      · obtain ⟨u, hu⟩ := howned
        rw [h.cards u a hu]
  · obtain ⟨hu, heq⟩ := hcard hu
    rw [heq]
    exact hr.settled u a hu

/-! ## Users come and go -/

/-- `DoAdd` does not look at the null objects -/
theorem doAdd_null (E : Env) (s : St) (c : CardPiece) (b : BookPiece) (cards : List (CardPiece × Addr))
    (books : List (BookPiece × Addr)) : doAdd E { s with msNullCard := c, msNullBook := b } cards books =
      { doAdd E s cards books with msNullCard := c, msNullBook := b } := by
  have hbooks : books.foldl addBook { s with msNullCard := c, msNullBook := b } =
      { books.foldl addBook s with msNullCard := c, msNullBook := b } := by
    induction books generalizing s with
    | nil => rfl
    | cons x books ih => exact ih (addBook s x)
  unfold doAdd
  rw [hbooks]
  generalize books.foldl addBook s = s
  induction cards generalizing s with
  | nil => rfl
  | cons x cards ih =>
    have hcard : addCard E { s with msNullCard := c, msNullBook := b } x =
        { addCard E s x with msNullCard := c, msNullBook := b } := by
      unfold addCard doAddPosValue
      dsimp only
      split_ifs <;> rfl
    rw [List.foldl_cons, hcard]
    exact ih (addCard E s x)

section

variable {stored : St} {uids tids : List ℕ} {addrs bookAddrs : List Addr}

/-- over the shared null objects -/
theorem init_eq_reload (hcont : ∀ u, s.cont u = none) (hbookCont : ∀ tid, s.bookCont tid = none) :
    serveUser E T F P s (.init stored uids tids addrs bookAddrs) =
      { reload E s.cards s.books stored uids tids addrs bookAddrs with
        msNullCard := s.msNullCard, msNullBook := s.msNullBook } := by
  have hempty : { s with posCont := fun _ _ => none } = { construct E s.cards s.books with
      msNullCard := s.msNullCard, msNullBook := s.msNullBook } := by
    obtain ⟨cont, bookCont, posCont, cards, books, nullCard, nullBook⟩ := s
    obtain rfl : cont = fun _ => none := funext hcont
    obtain rfl : bookCont = fun _ => none := funext hbookCont
    rfl
  rw [serveUser, hempty]
  exact doAdd_null ..

/-- the contents of a user who comes are those that were stored -/
theorem init_ready (hs : Ready E T s) (hl : legalUser E T P s (.init stored uids tids addrs bookAddrs : UserOp ι υ π)) :
    Ready E T (serveUser E T F P s (.init stored uids tids addrs bookAddrs)) ∧
      Alike stored (serveUser E T F P s (.init stored uids tids addrs bookAddrs)) := by
  obtain ⟨hcont, hbookCont, hstored, hw, hp⟩ := hl
  obtain ⟨hready, halike⟩ := reload_alike hstored hw hp s.cards s.books
  rw [init_eq_reload hcont hbookCont]
  refine ⟨hready.sameView ⟨rfl, rfl, rfl, fun _ _ _ => rfl, fun _ _ _ => rfl⟩ hs.inv.null hs.sound.booked.null, ?_⟩
  exact ⟨halike.cards, halike.books⟩

theorem init_moved (hl : legalUser E T P s (.init stored uids tids addrs bookAddrs : UserOp ι υ π)) :
    Moved s (serveUser E T F P s (.init stored uids tids addrs bookAddrs))
      (popped E P s (.init stored uids tids addrs bookAddrs : UserOp ι υ π))
      (pushed E T s (.init stored uids tids addrs bookAddrs : UserOp ι υ π)) := by
  obtain ⟨hcont, hbookCont, hstored, hw, hp⟩ := hl
  have hcards := hstored.filledCards hw hp
  have hbooks := hstored.filledBooks hw hp
  refine ((Wrote.refl s).pos fun _ _ => none).moved (doAdd_moved (fun bookCont => ⟨?_, ?_, ?_, ?_⟩) ⟨?_, ?_, ?_, ?_⟩)
  · rw [List.map_map]
    exact hcards.keys_nodup
  · rw [List.map_map]
    exact hcards.objs_nodup
  · exact fun c _ => hcont c.key
  · intro c _ u
    change s.cont u ≠ some c.addr
    simp [hcont u]
  · rw [List.map_map]
    exact hbooks.keys_nodup
  · rw [List.map_map]
    exact hbooks.objs_nodup
  · exact fun c _ => hbookCont c.key
  · intro c _ tid
    change s.bookCont tid ≠ some c.addr
    simp [hbookCont tid]

end

theorem construct_ready (E : Env) (T : CareTables ι κ) (mem : Addr → CardPiece) (bookMem : Addr → BookPiece) :
    Ready E T (construct E mem bookMem) := by
  have hinv := construct_inv E mem bookMem
  refine ⟨⟨construct_booked E mem bookMem, ⟨hinv.keys, hinv.null⟩, ?_, ?_⟩, hinv, ?_⟩
  all_goals
    intro u a hu
    cases hu

/-- nothing is left -/
theorem doRelease_ready (hs : Ready E T s) : Ready E T (doRelease s) :=
  (construct_ready E T s.cards s.books).sameView ⟨rfl, rfl, rfl, fun _ _ _ => rfl, fun _ _ _ => rfl⟩ hs.inv.null
    hs.sound.booked.null

theorem doRelease_moved (hs : Ready E T s) {uids tids : List ℕ} (hw : Walks s uids tids) :
    Moved s (doRelease s) ([], []) (uids.filterMap s.cont, tids.filterMap s.bookCont) :=
  ⟨Heap.Moves.clear (h := cardHeap s) hs.sound.keyed.unshared hw.uids_nodup hw.mem_uids,
    Heap.Moves.clear (h := bookHeap s) hs.sound.booked.unshared hw.tids_nodup hw.mem_tids⟩

/-! ## Steps of one user -/

/-- **What a user takes and gives back**, whatever she does. -/
theorem serveUser_moved (hs : Ready E T s) (op : UserOp ι υ π) (hl : legalUser E T P s op) :
    Moved s (serveUser E T F P s op) (popped E P s op) (pushed E T s op) := by
  cases op with
  | init stored uids tids addrs bookAddrs => exact init_moved hl
  | care op => exact serveCare_moved hs.sound op hl.1
  | release uids tids => exact doRelease_moved hs hl

theorem serveUser_ready (hnew : NewPieces T P) (hcalls : CallsOnce T.toGrowTables) (hs : Ready E T s) (op : UserOp ι υ π)
    (hl : legalUser E T P s op) : Ready E T (serveUser E T F P s op) := by
  cases op with
  | init stored uids tids addrs bookAddrs => exact (init_ready hs hl).1
  | care op => exact serveCare_ready hnew hcalls hs op hl.1 hl.2
  | release uids tids => exact doRelease_ready hs

/-- the same, with other objects from the pools and other orders of the walks -/
inductive SameUser : UserOp ι υ π → UserOp ι υ π → Prop
  | init (stored : St) (uids tids uids' tids' : List ℕ) (addrs bookAddrs addrs' bookAddrs' : List Addr) :
      SameUser (.init stored uids tids addrs bookAddrs) (.init stored uids' tids' addrs' bookAddrs')
  | care {op op' : CareOp ι υ π} (same : SameOp op op') : SameUser (.care op) (.care op')
  | release (uids tids uids' tids' : List ℕ) : SameUser (.release uids tids) (.release uids' tids')

theorem serveUser_alike (hG : StateBlind T.toGrowTables) (h : Alike s t) (hs : Ready E T s) (ht : Ready E T t)
    {op op' : UserOp ι υ π} (hop : SameUser op op') (hl : legalUser E T P s op) (hl' : legalUser E T P t op') :
    Alike (serveUser E T F P s op) (serveUser E T F P t op') := by
  cases hop with
  | init stored uids tids uids' tids' addrs bookAddrs addrs' bookAddrs' =>
    exact (init_ready hs hl).2.symm.trans (init_ready ht hl').2
  | care same => exact serveCare_alike hG h hs ht same hl.1 hl'.1
  | release uids tids uids' tids' => exact ⟨rfl, rfl⟩

end GameServer.Card
