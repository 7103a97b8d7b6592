/-
Supporters and their book entries: `DoMakeProduct`, `DoAdd`, `DoDel` and `DoUpdateBook` in `C++/CardContents.cpp`.

A grant turns a list of table ids into one product pack, card by card. `DoMakeProduct` promises a book for an id that
has none, in `m_BookCont` or in the pack so far. `DoAdd` then inserts the books before the cards, and every card keeps a
pointer to its book.
- `doMakeProducts_ok`: a pack promises each missing id once (the loop invariant is `Promised`);
- `addBooks_booked`: so every insertion into `m_BookCont` finds its key free;
- `serveBook_booked`: every step keeps `Booked`, in which each card points to the entry of its table id;
- `books_complete`: the same for every run, with the packs of all its grants.

Not under src/, and therefore parameters: the card table, the default pieces (`ProductTables`), and the object pools,
which hand out objects that are not in use. `IsExistInInsertExpectCardBook` is modelled as what its name says, on the
pack's list of books.
-/
import Mathlib.Tactic
import GameServer.Core.Run
import GameServer.Card.Position

namespace GameServer.Card

open GameServer.Core

/-! ## Products -/

inductive ProductErr where
  | svrComNotExistTableDataCard
deriving DecidableEq, Repr

/-- the lists of a `PktInfoProductPack` that cards and their books go to -/
structure ProductPack where
  cards : List CardPiece
  books : List BookPiece
deriving DecidableEq, Repr

structure ProductTables where
  /-- `Table().IsNull()` by the table id of a card -/
  tableIsNull : ℕ → Bool
  /-- `PktInfoCard::Piece{}`, `PktInfoCardBook::Piece{}` -/
  newCard : CardPiece
  newBook : BookPiece

/-- a card of a grant: its table id and lock, the UID that it gets, and the object that the pool hands out -/
structure GrantItem where
  tid : ℕ
  lock : Bool
  uid : ℕ
  addr : Addr
deriving DecidableEq, Repr

section

variable (E : Env) (P : ProductTables)

/-- `IsExistInInsertExpectCardBook` -/
def ProductPack.isExistInInsertExpectCardBook (pack : ProductPack) (cardTID : ℕ) : Bool :=
  pack.books.any fun b => b.tableID = cardTID

/-- `DoMakeProduct`; the out packets are the lists of the pack that is checked -/
def doMakeProduct (s : St) (pack : ProductPack) (cardTID : ℕ) (lock : Bool) : Except ProductErr ProductPack :=
  if P.tableIsNull cardTID then .error .svrComNotExistTableDataCard
  else
    let pack1 := { pack with cards := pack.cards ++ [{ P.newCard with tableID := cardTID, lock := lock }] }
    if isExistCardBook E s cardTID = false then
      if pack.isExistInInsertExpectCardBook cardTID = false then
        .ok { pack1 with books := pack1.books ++ [{ P.newBook with tableID := cardTID }] }
      else .ok pack1
    else .ok pack1

/-- the cards of a grant, one after the other -/
def doMakeProducts (s : St) (pack : ProductPack) (items : List GrantItem) : Except ProductErr ProductPack :=
  items.foldlM (fun pack item => doMakeProduct E P s pack item.tid item.lock) pack

def ProductPack.bookTIDs (pack : ProductPack) : List ℕ := pack.books.map BookPiece.tableID

/-- the cards of a pack with their UIDs, and their objects -/
def ProductPack.packCards (pack : ProductPack) (items : List GrantItem) : List (CardPiece × Addr) :=
  (pack.cards.zip items).map fun x => ({ x.1 with cardUID := x.2.uid }, x.2.addr)

/-- the books of a pack with the objects that the pool hands out for them -/
def ProductPack.packBooks (pack : ProductPack) (bookAddr : ℕ → Addr) : List (BookPiece × Addr) :=
  pack.books.map fun b => (b, bookAddr b.tableID)

/-! ## Runs -/

inductive BookOp where
  | grant (items : List GrantItem) (bookAddr : ℕ → Addr)
  | del (uid : ℕ)
  | updateBook (books : List BookPiece)

def serveBook (s : St) : BookOp → St
  | .grant items bookAddr =>
    match doMakeProducts E P s ⟨[], []⟩ items with
    | .error _ => s
    | .ok pack => doAdd E s (pack.packCards items) (pack.packBooks bookAddr)
  | .del uid => (doDel E s uid).2
  | .updateBook books => (doUpdateBook s books).2

/-- a card table id: it has a table row, and a book of it is not null -/
def ValidTid (tid : ℕ) : Prop := P.tableIsNull tid = false ∧ E.bookIsNull tid = false

/-- a grant of valid ids, its books on different objects that are not in use. UIDs and objects of the cards may be any -/
structure CanGrant (s : St) (items : List GrantItem) (bookAddr : ℕ → Addr) : Prop where
  valid : ∀ item ∈ items, ValidTid E P item.tid
  book_unused : ∀ item ∈ items, ∀ tid, s.bookCont tid ≠ some (bookAddr item.tid)
  book_addrs : ∀ item ∈ items, ∀ item' ∈ items, bookAddr item.tid = bookAddr item'.tid → item.tid = item'.tid

/-- grants of valid ids, any deletions, and updates of books that are there -/
def legalBook (s : St) : BookOp → Prop
  | .grant items bookAddr => CanGrant E P s items bookAddr
  | .del _ => True
  | .updateBook books => ∀ b ∈ books, s.bookCont b.tableID ≠ none

/-- every card has its book entry, and points to it -/
structure Booked (s : St) : Prop where
  null : s.msNullBook.isNull E = true
  /-- an entry is stored under its own table id, and is not null -/
  entries : ∀ tid a, s.bookCont tid = some a → (s.books a).tableID = tid ∧ E.bookIsNull tid = false
  cards : ∀ u a, s.cont u = some a → ∃ b, s.bookCont (s.cards a).tableID = some b ∧ (s.cards a).book = some b

/-- the books of a grant are the missing ones, once each, and all of them are inserted -/
structure BooksOnce (s : St) (items : List GrantItem) (bookAddr : ℕ → Addr) (pack : ProductPack) : Prop where
  once : pack.bookTIDs.Nodup
  missing : ∀ tid, tid ∈ pack.bookTIDs ↔ tid ∈ items.map (·.tid) ∧ s.bookCont tid = none
  inserted : LegalRun addBook (fun s b => s.bookCont b.1.tableID = none) s (pack.packBooks bookAddr)

def grantSound (s : St) : BookOp → Prop
  | .grant items bookAddr => ∃ pack, doMakeProducts E P s ⟨[], []⟩ items = .ok pack ∧ BooksOnce s items bookAddr pack
  | _ => True

variable {E P} {s : St}

/-! ## Packs -/

theorem Booked.isExistCardBook_iff (h : Booked E s) (tid : ℕ) :
    isExistCardBook E s tid = true ↔ s.bookCont tid ≠ none := by
  unfold isExistCardBook St.getBookInst
  cases hcont : s.bookCont tid with
  | none => simp [St.book, h.null]
  | some a =>
    obtain ⟨htid, hvalid⟩ := h.entries tid a hcont
    simp [St.book, BookPiece.isNull, htid, hvalid]

/-- a pack that has promised the missing ids among `tids`, once each -/
structure Promised (s : St) (pack : ProductPack) (tids : List ℕ) : Prop where
  cards : pack.cards.map CardPiece.tableID = tids
  once : pack.bookTIDs.Nodup
  missing : ∀ tid, tid ∈ pack.bookTIDs ↔ tid ∈ tids ∧ s.bookCont tid = none

theorem isExistInInsertExpectCardBook_iff (pack : ProductPack) (tid : ℕ) :
    pack.isExistInInsertExpectCardBook tid = true ↔ tid ∈ pack.bookTIDs := by
  simp [ProductPack.isExistInInsertExpectCardBook, ProductPack.bookTIDs]

theorem Promised.cards_append {pack : ProductPack} {tids : List ℕ} (hp : Promised s pack tids) (info : CardPiece) :
    (pack.cards ++ [info]).map CardPiece.tableID = tids ++ [info.tableID] := by
  rw [List.map_append, hp.cards]
  rfl

/-- the promises stay as they are if the card's id is no news for them -/
theorem Promised.known {pack : ProductPack} {tids : List ℕ} (hp : Promised s pack tids) {info : CardPiece}
    (hknown : s.bookCont info.tableID ≠ none ∨ info.tableID ∈ pack.bookTIDs) :
    Promised s { pack with cards := pack.cards ++ [info] } (tids ++ [info.tableID]) := by
  refine ⟨hp.cards_append info, hp.once, fun t => ?_⟩
  rw [List.mem_append, List.mem_singleton]
  refine (hp.missing t).trans ⟨fun h => ⟨Or.inl h.1, h.2⟩, ?_⟩
  rintro ⟨hmem | rfl, hnone⟩
  · exact ⟨hmem, hnone⟩
  · exact (hp.missing _).1 (hknown.resolve_left (not_not.2 hnone))

/-- a card with an id that has no book and no promise brings one -/
theorem Promised.fresh {pack : ProductPack} {tids : List ℕ} (hp : Promised s pack tids) {info : CardPiece}
    {book : BookPiece} (hbook : book.tableID = info.tableID) (hnone : s.bookCont info.tableID = none)
    (hnew : info.tableID ∉ pack.bookTIDs) :
    Promised s ⟨pack.cards ++ [info], pack.books ++ [book]⟩ (tids ++ [info.tableID]) := by
  have hbooks : (⟨pack.cards ++ [info], pack.books ++ [book]⟩ : ProductPack).bookTIDs =
      pack.bookTIDs ++ [info.tableID] := by
    rw [ProductPack.bookTIDs, List.map_append, ← hbook]
    rfl
  refine ⟨hp.cards_append info, ?_, fun t => ?_⟩
  · rw [hbooks]
    exact List.Nodup.append hp.once (List.nodup_singleton _) (by simpa using hnew)
  · rw [hbooks, List.mem_append, List.mem_append, List.mem_singleton, hp.missing t]
    constructor
    · rintro (⟨hmem, ht⟩ | rfl)
      · exact ⟨Or.inl hmem, ht⟩
      · exact ⟨Or.inr rfl, hnone⟩
    · rintro ⟨hmem | rfl, ht⟩
      · exact Or.inl ⟨hmem, ht⟩
      · exact Or.inr rfl

theorem doMakeProduct_promised (h : Booked E s) {pack : ProductPack} {tids : List ℕ} (hp : Promised s pack tids) {tid : ℕ}
    (hvalid : ValidTid E P tid) (lock : Bool) :
    ∃ pack', doMakeProduct E P s pack tid lock = .ok pack' ∧ Promised s pack' (tids ++ [tid]) := by
  have hexist_iff := h.isExistCardBook_iff tid
  have hpack_iff := isExistInInsertExpectCardBook_iff pack tid
  unfold doMakeProduct
  rw [if_neg (by simp [hvalid.1])]
  dsimp only
  split_ifs with hexist hpack
  · have hnone : s.bookCont tid = none := by
      by_contra hsome
      rw [hexist_iff.2 hsome] at hexist
      cases hexist
    have hnew : tid ∉ pack.bookTIDs := by
      intro hmem
      rw [hpack_iff.2 hmem] at hpack
      cases hpack
    exact ⟨_, rfl, hp.fresh rfl hnone hnew⟩
  · exact ⟨_, rfl, hp.known (Or.inr (hpack_iff.1 (by simpa using hpack)))⟩
  · exact ⟨_, rfl, hp.known (Or.inl (hexist_iff.1 (by simpa using hexist)))⟩

/-- **A pack promises each missing id once**, whatever the repetitions. -/
theorem doMakeProducts_ok (h : Booked E s) {pack : ProductPack} {tids : List ℕ} (hp : Promised s pack tids)
    {items : List GrantItem} (hvalid : ∀ item ∈ items, ValidTid E P item.tid) :
    ∃ pack', doMakeProducts E P s pack items = .ok pack' ∧ Promised s pack' (tids ++ items.map (·.tid)) := by
  induction items generalizing pack tids with
  | nil => exact ⟨pack, rfl, by simpa using hp⟩
  | cons item items ih =>
    obtain ⟨pack₁, hmake, hp₁⟩ := doMakeProduct_promised h hp (hvalid item List.mem_cons_self) item.lock
    obtain ⟨pack₂, hrest, hp₂⟩ := ih hp₁ fun item' hmem => hvalid item' (List.mem_cons_of_mem item hmem)
    refine ⟨pack₂, ?_, by simpa using hp₂⟩
    rw [doMakeProducts, List.foldlM_cons, hmake]
    exact hrest

/-! ## Books are inserted -/

theorem addBook_bookCont {b : BookPiece × Addr} (hfree : s.bookCont b.1.tableID = none) :
    (addBook s b).bookCont = Function.update s.bookCont b.1.tableID (some b.2) := by
  simp [addBook, hfree]

/-- a book with a free key, on an object that is not in use -/
theorem addBook_booked (h : Booked E s) {b : BookPiece × Addr} (hfree : s.bookCont b.1.tableID = none)
    (hunused : ∀ tid, s.bookCont tid ≠ some b.2) (hvalid : E.bookIsNull b.1.tableID = false) :
    Booked E (addBook s b) := by
  have hkeep : ∀ {tid a}, s.bookCont tid = some a → (addBook s b).bookCont tid = some a := by
    intro tid a htid
    rw [addBook_bookCont hfree, Function.update_of_ne, htid]
    rintro rfl
    rw [hfree] at htid
    cases htid
  refine ⟨h.null, ?_, ?_⟩
  · intro tid a htid
    rw [addBook_bookCont hfree] at htid
    rcases eq_or_ne tid b.1.tableID with rfl | hne
    · rw [Function.update_self] at htid
      obtain rfl := Option.some.inj htid
      exact ⟨by simp [addBook], hvalid⟩
    · rw [Function.update_of_ne hne] at htid
      have ha : a ≠ b.2 := by
        rintro rfl
        exact hunused tid htid
      simpa [addBook, Function.update_of_ne ha] using h.entries tid a htid
  · intro u a hu
    obtain ⟨x, hx, hbook⟩ := h.cards u a hu
    exact ⟨x, hkeep hx, hbook⟩

/-- books with different free keys, on different objects that are not in use -/
theorem addBooks_booked (h : Booked E s) {books : List (BookPiece × Addr)} (honce : (books.map (·.1.tableID)).Nodup)
    (haddrs : (books.map (·.2)).Nodup) (hall : ∀ b ∈ books, s.bookCont b.1.tableID = none ∧
      (∀ tid, s.bookCont tid ≠ some b.2) ∧ E.bookIsNull b.1.tableID = false) :
    LegalRun addBook (fun s b => s.bookCont b.1.tableID = none) s books ∧ Booked E (books.foldl addBook s) ∧
      (books.foldl addBook s).cont = s.cont ∧ (books.foldl addBook s).cards = s.cards ∧
      ∀ tid, s.bookCont tid ≠ none ∨ tid ∈ books.map (·.1.tableID) → (books.foldl addBook s).bookCont tid ≠ none := by
  induction books generalizing s with
  | nil => exact ⟨trivial, h, rfl, rfl, fun tid hmem => hmem.resolve_right (by simp)⟩
  | cons b books ih =>
    obtain ⟨hnew, honce'⟩ := List.nodup_cons.1 honce
    obtain ⟨hnewAddr, haddrs'⟩ := List.nodup_cons.1 haddrs
    obtain ⟨hfree, hunused, hvalid⟩ := hall b List.mem_cons_self
    have hall' : ∀ b' ∈ books, (addBook s b).bookCont b'.1.tableID = none ∧
        (∀ tid, (addBook s b).bookCont tid ≠ some b'.2) ∧ E.bookIsNull b'.1.tableID = false := by
      intro b' hmem
      obtain ⟨hfree', hunused', hvalid'⟩ := hall b' (List.mem_cons_of_mem b hmem)
      have htid : b'.1.tableID ≠ b.1.tableID := fun heq => hnew (List.mem_map.2 ⟨b', hmem, heq⟩)
      have haddr : b'.2 ≠ b.2 := fun heq => hnewAddr (List.mem_map.2 ⟨b', hmem, heq⟩)
      rw [addBook_bookCont hfree]
      refine ⟨by rw [Function.update_of_ne htid, hfree'], fun tid => ?_, hvalid'⟩
      rcases eq_or_ne tid b.1.tableID with rfl | hne
      · rw [Function.update_self]
        exact fun heq => haddr (Option.some.inj heq).symm
      · rw [Function.update_of_ne hne]
        exact hunused' tid
    obtain ⟨hrun, hbooked, hcont, hcards, hkeys⟩ := ih (addBook_booked h hfree hunused hvalid) honce' haddrs' hall'
    refine ⟨⟨hfree, hrun⟩, hbooked, hcont, hcards, fun tid hmem => hkeys tid ?_⟩
    rw [addBook_bookCont hfree]
    rcases eq_or_ne tid b.1.tableID with rfl | hne
    · exact Or.inl (by simp)
    · rw [Function.update_of_ne hne]
      rw [List.map_cons, List.mem_cons, or_iff_right hne] at hmem
      exact hmem

/-! ## Cards are inserted -/

theorem addCard_frame (c : CardPiece × Addr) : ∃ g, addCard E s c = { storeCard s c with posCont := g } := by
  unfold addCard
  split_ifs
  · exact ⟨_, rfl⟩
  · exact doAddPosValue_frame ..

theorem addCard_booked (h : Booked E s) {c : CardPiece × Addr} (hkey : s.bookCont c.1.tableID ≠ none) :
    Booked E (addCard E s c) := by
  obtain ⟨g, hg⟩ := addCard_frame (E := E) (s := s) c
  rw [hg]
  refine ⟨h.null, h.entries, ?_⟩
  intro u a hu
  change (storeCard s c).cont u = some a at hu
  rcases eq_or_ne a c.2 with rfl | hne
  · obtain ⟨b, hb⟩ := Option.ne_none_iff_exists'.1 hkey
    exact ⟨b, by simpa [storeCard] using hb, by simpa [storeCard, St.getBookInst] using hb⟩
  · have hold : s.cont u = some a := by
      unfold storeCard at hu
      dsimp only at hu
      split_ifs at hu with hfree
      · rcases eq_or_ne u c.1.cardUID with rfl | huid
        · rw [Function.update_self] at hu
          exact absurd (Option.some.inj hu).symm hne
        · rwa [Function.update_of_ne huid] at hu
      · exact hu
    have hcard : (storeCard s c).cards a = s.cards a := by simp [storeCard, Function.update_of_ne hne]
    obtain ⟨b, hb, hbook⟩ := h.cards u a hold
    refine ⟨b, ?_, ?_⟩
    · change s.bookCont ((storeCard s c).cards a).tableID = some b
      rw [hcard, hb]
    · change ((storeCard s c).cards a).book = some b
      rw [hcard, hbook]

/-- cards whose books are there -/
theorem addCards_booked (h : Booked E s) {cards : List (CardPiece × Addr)}
    (hall : ∀ c ∈ cards, s.bookCont c.1.tableID ≠ none) : Booked E (cards.foldl (addCard E) s) := by
  induction cards generalizing s with
  | nil => exact h
  | cons c cards ih =>
    refine ih (addCard_booked h (hall c List.mem_cons_self)) ?_
    intro c' hmem
    obtain ⟨g, hg⟩ := addCard_frame (E := E) (s := s) c
    rw [hg]
    exact hall c' (List.mem_cons_of_mem c hmem)

/-! ## The steps -/

theorem mem_packCards {pack : ProductPack} {items : List GrantItem} {c : CardPiece × Addr}
    (h : c ∈ pack.packCards items) : c.1.tableID ∈ pack.cards.map CardPiece.tableID := by
  obtain ⟨x, hmem, rfl⟩ := List.mem_map.1 h
  exact List.mem_map.2 ⟨x.1, (List.of_mem_zip hmem).1, rfl⟩

theorem packBooks_tids (pack : ProductPack) (bookAddr : ℕ → Addr) :
    (pack.packBooks bookAddr).map (fun b => b.1.tableID) = pack.bookTIDs := by
  simp [ProductPack.packBooks, ProductPack.bookTIDs, Function.comp_def]

/-- the books of a pack get different objects -/
theorem Promised.book_addrs_nodup {pack : ProductPack} {items : List GrantItem} {bookAddr : ℕ → Addr}
    (hp : Promised s pack (items.map (·.tid))) (hcan : CanGrant E P s items bookAddr) :
    ((pack.packBooks bookAddr).map (·.2)).Nodup := by
  have hmap : (pack.packBooks bookAddr).map (·.2) = pack.bookTIDs.map bookAddr := by
    simp [ProductPack.packBooks, ProductPack.bookTIDs, Function.comp_def]
  rw [hmap]
  refine List.Nodup.map_on ?_ hp.once
  intro t ht t' ht' heq
  obtain ⟨item, hitem, rfl⟩ := List.mem_map.1 ((hp.missing t).1 ht).1
  obtain ⟨item', hitem', rfl⟩ := List.mem_map.1 ((hp.missing t').1 ht').1
  exact hcan.book_addrs item hitem item' hitem' heq

/-- the books of a pack are new, and in the table -/
theorem Promised.books_new {pack : ProductPack} {items : List GrantItem} {bookAddr : ℕ → Addr}
    (hp : Promised s pack (items.map (·.tid))) (hcan : CanGrant E P s items bookAddr) :
    ∀ b ∈ pack.packBooks bookAddr, s.bookCont b.1.tableID = none ∧ (∀ tid, s.bookCont tid ≠ some b.2) ∧
      E.bookIsNull b.1.tableID = false := by
  intro b hb
  obtain ⟨piece, hpiece, rfl⟩ := List.mem_map.1 hb
  obtain ⟨htid, hnone⟩ := (hp.missing piece.tableID).1 (List.mem_map_of_mem hpiece)
  obtain ⟨item, hitem, htid⟩ := List.mem_map.1 htid
  refine ⟨hnone, ?_, htid ▸ (hcan.valid item hitem).2⟩
  dsimp only
  rw [← htid]
  exact hcan.book_unused item hitem

/-- a grant -/
theorem grant_booked (h : Booked E s) {items : List GrantItem} {bookAddr : ℕ → Addr}
    (hcan : CanGrant E P s items bookAddr) :
    grantSound E P s (.grant items bookAddr) ∧ Booked E (serveBook E P s (.grant items bookAddr)) := by
  have hstart : Promised s ⟨[], []⟩ [] := ⟨rfl, List.nodup_nil, by simp [ProductPack.bookTIDs]⟩
  obtain ⟨pack, hmake, hp⟩ := doMakeProducts_ok h hstart hcan.valid
  rw [List.nil_append] at hp
  obtain ⟨hrun, hbooked, -, -, hkeys⟩ :=
    addBooks_booked h (by rw [packBooks_tids]; exact hp.once) (hp.book_addrs_nodup hcan) (hp.books_new hcan)
  refine ⟨⟨pack, hmake, hp.once, hp.missing, hrun⟩, ?_⟩
  rw [serveBook, hmake]
  refine addCards_booked hbooked fun c hc => hkeys _ ?_
  rw [packBooks_tids]
  by_cases hcont : s.bookCont c.1.tableID = none
  · exact Or.inr ((hp.missing _).2 ⟨hp.cards ▸ mem_packCards hc, hcont⟩)
  · exact Or.inl hcont

/-- the card that goes keeps its book to the end -/
theorem doDel_booked (h : Booked E s) (uid : ℕ) : Booked E (doDel E s uid).2 := by
  unfold doDel
  cases ha : s.cont uid with
  | none => exact h
  | some a =>
    dsimp only
    obtain ⟨g, hg⟩ := doDelPosValue_frame E s (s.cards a).posKind (s.cards a).posValue (s.cards a).posSlotNum
    rw [hg]
    refine ⟨h.null, h.entries, ?_⟩
    intro u x hu
    have hold : s.cont u = some x := by
      change Function.update s.cont uid none u = some x at hu
      rcases eq_or_ne u uid with rfl | hne
      · rw [Function.update_self] at hu
        cases hu
      · rwa [Function.update_of_ne hne] at hu
    obtain ⟨b, hb, hbook⟩ := h.cards u x hold
    rcases eq_or_ne x a with rfl | hne
    · exact ⟨b, by simpa [St.setCard, CardPiece.resetPosInfo] using hb,
        by simpa [St.setCard, CardPiece.resetPosInfo] using hbook⟩
    · exact ⟨b, by simpa [St.setCard, Function.update_of_ne hne] using hb,
        by simpa [St.setCard, Function.update_of_ne hne] using hbook⟩

/-- a book that is there is replaced under its own id -/
theorem doUpdateBook_booked (h : Booked E s) {books : List BookPiece} (hall : ∀ b ∈ books, s.bookCont b.tableID ≠ none) :
    Booked E (doUpdateBook s books).2 := by
  unfold doUpdateBook
  induction books generalizing s with
  | nil => exact h
  | cons b books ih =>
    obtain ⟨a, ha⟩ := Option.ne_none_iff_exists'.1 (hall b List.mem_cons_self)
    have hset : s.setBook (s.getBookInst b.tableID) (fun _ => b) = { s with books := Function.update s.books a b } := by
      rw [St.getBookInst, ha]
      rfl
    rw [List.foldl_cons, hset]
    refine ih ⟨h.null, ?_, h.cards⟩ fun b' hmem => hall b' (List.mem_cons_of_mem b hmem)
    intro tid x htid
    obtain ⟨hown, hvalid⟩ := h.entries tid x htid
    rcases eq_or_ne x a with rfl | hne
    · refine ⟨?_, hvalid⟩
      change (Function.update s.books x b x).tableID = tid
      rw [Function.update_self, ← hown, (h.entries b.tableID x ha).1]
    · refine ⟨?_, hvalid⟩
      change (Function.update s.books a b x).tableID = tid
      rw [Function.update_of_ne hne, hown]

/-- **Step lemma.** A step keeps `Booked`, and a grant promises and inserts each missing book once. -/
theorem serveBook_booked {op : BookOp} (h : Booked E s) (hl : legalBook E P s op) :
    grantSound E P s op ∧ Booked E (serveBook E P s op) := by
  cases op with
  | grant items bookAddr => exact grant_booked h hl
  | del uid => exact ⟨trivial, doDel_booked h uid⟩
  | updateBook books => exact ⟨trivial, doUpdateBook_booked h hl⟩

end

/-- **Every supporter has its book entry, and no book is created twice**, in every run. -/
theorem books_complete {E : Env} {P : ProductTables} {s : St} (h : Booked E s) (ops : List BookOp)
    (hrun : LegalRun (serveBook E P) (legalBook E P) s ops) :
    LegalRun (serveBook E P) (grantSound E P) s ops ∧ Booked E (run (serveBook E P) s ops) :=
  ⟨hrun.imp_inv (fun _ _ hb hl => (serveBook_booked hb hl).2) (fun _ _ hb hl => (serveBook_booked hb hl).1) h,
    run_inv (I := Booked E) (fun _ _ hb hl => (serveBook_booked hb hl).2) h hrun⟩

/-- table id 0 has no row -/
def sampleProducts : ProductTables := ⟨fun tid => decide (tid = 0), sampleEnv.nullCard, sampleEnv.nullBook⟩

/-- ids 10, 11 and 10 again are granted to an empty inventory, card 1 is deleted, and book 10 is updated -/
def sampleBookOps : List BookOp :=
  [.grant [⟨10, false, 1, 100⟩, ⟨11, false, 2, 200⟩, ⟨10, true, 3, 300⟩] (· + 1000), .del 1,
    .updateBook [⟨10, 1, 2, 3, true⟩]]

theorem books_complete_sample :
    Booked sampleEnv (run (serveBook sampleEnv sampleProducts)
      (construct sampleEnv (fun _ => sampleEnv.nullCard) fun _ => sampleEnv.nullBook) sampleBookOps) := by
  have hstart : Booked sampleEnv (construct sampleEnv (fun _ => sampleEnv.nullCard) fun _ => sampleEnv.nullBook) := by
    refine ⟨by decide, ?_, ?_⟩
    · intro tid a h
      cases h
    · intro u a h
      cases h
  refine (books_complete hstart sampleBookOps ⟨⟨?_, ?_, ?_⟩, trivial, ?_, trivial⟩).2
  · unfold ValidTid
    decide
  · intro item _ tid h
    cases h
  · intro item _ item' _ h
    exact Nat.add_right_cancel h
  · unfold legalBook
    decide

end GameServer.Card
