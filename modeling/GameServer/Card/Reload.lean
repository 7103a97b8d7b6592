/-
A snapshot of the supporters of a user and its reload, `GetInfo` and `DoInit` in `C++/CardContents.cpp`.

`GetInfo` copies all cards and books into packets. `DoInit` fills new objects from such packets, points every card to its
book again and builds the slot index anew from the positions that the cards carry.
- `Alike`: two contents say the same about every UID and every table id, wherever their objects are;
- `Ready`: sound contents (`Sound`) with a slot index that agrees with the cards (`Inv`), every position a real one;
- `reload_alike`: the reload of contents that are ready is ready, and like them;
- `Alike.slot`: so it has the same card in every slot, though no slot is in the packets.

Not under src/, and therefore parameters: the order in which the two maps are walked, and the objects of the pools.
-/
import Mathlib.Tactic
import GameServer.Core.Heap
import GameServer.Card.SlotIndex
import GameServer.Card.Lifetime

namespace GameServer.Card

open GameServer.Core

variable {ι κ : Type} {E : Env} {T : CareTables ι κ} {s t : St}

/-! ## The packets -/

/-- a card without its pointer -/
def CardPiece.noBook (c : CardPiece) : CardPiece := { c with book := none }

/-- `GetInfo`, on the keys of the two maps in the order of the walks -/
def getInfo (s : St) (uids tids : List ℕ) : List CardPiece × List BookPiece :=
  (uids.filterMap fun uid => (s.cont uid).map s.cards, tids.filterMap fun tid => (s.bookCont tid).map s.books)

/-- a walk meets every key once -/
structure Walks (s : St) (uids tids : List ℕ) : Prop where
  uids_nodup : uids.Nodup
  mem_uids : ∀ uid, uid ∈ uids ↔ s.cont uid ≠ none
  tids_nodup : tids.Nodup
  mem_tids : ∀ tid, tid ∈ tids ↔ s.bookCont tid ≠ none

/-- new objects, one for each piece -/
structure Pools (uids tids : List ℕ) (addrs bookAddrs : List Addr) : Prop where
  addrs_nodup : addrs.Nodup
  addrs_length : addrs.length = uids.length
  bookAddrs_nodup : bookAddrs.Nodup
  bookAddrs_length : bookAddrs.length = tids.length

/-- `DoInit` with the packets of `GetInfo` -/
def reload (E : Env) (mem : Addr → CardPiece) (bookMem : Addr → BookPiece) (s : St) (uids tids : List ℕ)
    (addrs bookAddrs : List Addr) : St :=
  doInit E mem bookMem ((getInfo s uids tids).1.zip addrs) ((getInfo s uids tids).2.zip bookAddrs)

/-! ## Contents up to objects -/

/-- the same cards and the same books -/
structure Alike (s t : St) : Prop where
  cards : (cardHeap s).view CardPiece.noBook = (cardHeap t).view CardPiece.noBook
  books : (bookHeap s).view id = (bookHeap t).view id

/-- a card is in no position or in one of the slot index -/
def CardPiece.Settled (E : Env) (c : CardPiece) : Prop := c.posKind = E.kNone ∨ ValidPos E c.pos

/-- no card is outside the slot index -/
def AllSettled (E : Env) (s : St) : Prop := ∀ u a, s.cont u = some a → (s.cards a).Settled E

structure Ready (E : Env) (T : CareTables ι κ) (s : St) : Prop where
  sound : Sound E T s
  inv : Inv E s
  settled : AllSettled E s

theorem Alike.symm (h : Alike s t) : Alike t s := ⟨h.cards.symm, h.books.symm⟩

/-- a UID is in both or in neither, with cards that differ in their pointers at most -/
theorem Alike.card (h : Alike s t) (u : ℕ) : s.cont u = none ∧ t.cont u = none ∨
    ∃ a b, s.cont u = some a ∧ t.cont u = some b ∧ (s.cards a).noBook = (t.cards b).noBook := by
  have hview : (s.cont u).map (fun a => (s.cards a).noBook) = (t.cont u).map fun b => (t.cards b).noBook :=
    congrFun h.cards u
  cases hs : s.cont u with
  | none =>
    rw [hs, Option.map_none] at hview
    exact Or.inl ⟨rfl, Option.map_eq_none_iff.1 hview.symm⟩
  | some a =>
    rw [hs, Option.map_some] at hview
    obtain ⟨b, hb, heq⟩ := Option.map_eq_some_iff.1 hview.symm
    exact Or.inr ⟨a, b, rfl, hb, heq.symm⟩

theorem Alike.book (h : Alike s t) (tid : ℕ) : s.bookCont tid = none ∧ t.bookCont tid = none ∨
    ∃ a b, s.bookCont tid = some a ∧ t.bookCont tid = some b ∧ s.books a = t.books b := by
  have hview : (s.bookCont tid).map s.books = (t.bookCont tid).map t.books := congrFun h.books tid
  cases hs : s.bookCont tid with
  | none =>
    rw [hs, Option.map_none] at hview
    exact Or.inl ⟨rfl, Option.map_eq_none_iff.1 hview.symm⟩
  | some a =>
    rw [hs, Option.map_some] at hview
    obtain ⟨b, hb, heq⟩ := Option.map_eq_some_iff.1 hview.symm
    exact Or.inr ⟨a, b, rfl, hb, heq.symm⟩

/-- every field but the pointer -/
theorem noBook_eq {c d : CardPiece} (h : c.noBook = d.noBook) : ∃ p, c = { d with book := p } := by
  refine ⟨c.book, ?_⟩
  cases c
  cases d
  simp only [CardPiece.noBook, CardPiece.mk.injEq] at h ⊢
  tauto

theorem pos_of_noBook {c d : CardPiece} (h : c.noBook = d.noBook) : c.pos = d.pos := by
  obtain ⟨p, rfl⟩ := noBook_eq h
  rfl

/-- what the index says of a slot is in the cards -/
theorem occ_iff (h : Inv E s) {p : Pos} {u : ℕ} :
    (∃ a, occ E s p = some a ∧ s.cont u = some a) ↔ ∃ a, s.cont u = some a ∧ ValidPos E p ∧ (s.cards a).pos = p := by
  constructor
  · rintro ⟨a, hocc, hu⟩
    obtain ⟨-, hvalid, hpos⟩ := place_eq_some.1 ((h.agree p a).1 hocc)
    exact ⟨a, hu, hvalid, hpos⟩
  · rintro ⟨a, hu, hvalid, hpos⟩
    exact ⟨a, (h.agree p a).2 (place_eq_some.2 ⟨⟨u, hu⟩, hvalid, hpos⟩), hu⟩

/-- **Like contents have the same card in every slot.** -/
theorem Alike.slot (h : Alike s t) (hs : Inv E s) (ht : Inv E t) (p : Pos) : occ E s p = none ∧ occ E t p = none ∨
    ∃ u a b, occ E s p = some a ∧ occ E t p = some b ∧ s.cont u = some a ∧ t.cont u = some b := by
  have hother : ∀ {s t : St}, Alike s t → Inv E s → Inv E t → ∀ {a}, occ E s p = some a →
      ∃ u b, occ E t p = some b ∧ s.cont u = some a ∧ t.cont u = some b := by
    intro s t h hs ht a hocc
    obtain ⟨⟨u, hu⟩, hvalid, hpos⟩ := place_eq_some.1 ((hs.agree p a).1 hocc)
    rcases h.card u with ⟨hnone, -⟩ | ⟨a', b, ha', hb, heq⟩
    · rw [hnone] at hu
      cases hu
    · obtain rfl := Option.some.inj (ha'.symm.trans hu)
      obtain ⟨b', hocc', hb'⟩ := (occ_iff ht).2 ⟨b, hb, hvalid, (pos_of_noBook heq).symm.trans hpos⟩
      obtain rfl := Option.some.inj (hb'.symm.trans hb)
      exact ⟨u, b', hocc', hu, hb⟩
  cases hs' : occ E s p with
  | some a =>
    obtain ⟨u, b, hocc, hu, hu'⟩ := hother h hs ht hs'
    exact Or.inr ⟨u, a, b, rfl, hocc, hu, hu'⟩
  | none =>
    refine Or.inl ⟨rfl, ?_⟩
    cases ht' : occ E t p with
    | none => rfl
    | some b =>
      obtain ⟨u, a, hocc, -, -⟩ := hother h.symm ht hs ht'
      rw [hs'] at hocc
      cases hocc

theorem Sound.alike (hs : Sound E T s) (h : Alike s t) (hbooked : Booked E t) (hkeyed : KeyedCards E t) :
    Sound E T t := by
  refine ⟨hbooked, hkeyed, fun u b hu => ?_, fun tid b htid => ?_⟩
  · rcases h.card u with ⟨-, hnone⟩ | ⟨a, b', ha, hb', heq⟩
    · rw [hnone] at hu
      cases hu
    · obtain rfl := Option.some.inj (hb'.symm.trans hu)
      obtain ⟨p, hcard⟩ := noBook_eq heq
      have hgood := hs.cards u a ha
      rw [hcard] at hgood
      refine ⟨hgood.lv, hgood.skill, fun x hx hlv hlast hwake => ?_⟩
      obtain ⟨x', hkey, hx'⟩ := hbooked.cards u b' hu
      obtain rfl := Option.some.inj (hx'.symm.trans hx)
      obtain ⟨y, hykey, hy⟩ := hs.book_key ha
      rw [hcard] at hykey hy
      rcases h.book (t.cards b').tableID with ⟨hnone, -⟩ | ⟨y', x'', hy', hx'', hsame⟩
      · exact absurd (hnone.symm.trans hykey) (by simp)
      · obtain rfl := Option.some.inj (hy'.symm.trans hykey)
        obtain rfl := Option.some.inj (hx''.symm.trans hkey)
        rw [← hsame]
        exact hgood.flagged y' hy hlv hlast hwake
  · rcases h.book tid with ⟨-, hnone⟩ | ⟨a, b', ha, hb', heq⟩
    · rw [hnone] at htid
      cases htid
    · obtain rfl := Option.some.inj (hb'.symm.trans htid)
      rw [← heq]
      exact hs.books tid a ha

/-! ## The reload -/

section

variable {uids tids : List ℕ} {addrs bookAddrs : List Addr}

/-- the packet has the owned cards, in the order of the walk -/
theorem getInfo_cards (hb : Base E s) (hw : Walks s uids tids) : (getInfo s uids tids).1.map CardPiece.cardUID = uids ∧
    ∀ c, c ∈ (getInfo s uids tids).1 ↔ ∃ u a, s.cont u = some a ∧ s.cards a = c := by
  constructor
  · rw [getInfo, List.map_filterMap]
    refine (List.filterMap_congr (g := some) fun u hu => ?_).trans List.filterMap_some
    obtain ⟨a, ha⟩ := Option.ne_none_iff_exists'.1 ((hw.mem_uids u).1 hu)
    rw [ha, Option.map_some, Option.map_some, hb.keys u a ha]
  · intro c
    rw [getInfo, List.mem_filterMap]
    constructor
    · rintro ⟨u, -, hc⟩
      obtain ⟨a, ha, rfl⟩ := Option.map_eq_some_iff.1 hc
      exact ⟨u, a, ha, rfl⟩
    · rintro ⟨u, a, ha, rfl⟩
      exact ⟨u, (hw.mem_uids u).2 (by rw [ha]; simp), by rw [ha, Option.map_some]⟩

theorem getInfo_books (hb : Booked E s) (hw : Walks s uids tids) : (getInfo s uids tids).2.map BookPiece.tableID = tids ∧
    ∀ b, b ∈ (getInfo s uids tids).2 ↔ ∃ tid a, s.bookCont tid = some a ∧ s.books a = b := by
  constructor
  · rw [getInfo, List.map_filterMap]
    refine (List.filterMap_congr (g := some) fun tid htid => ?_).trans List.filterMap_some
    obtain ⟨a, ha⟩ := Option.ne_none_iff_exists'.1 ((hw.mem_tids tid).1 htid)
    rw [ha, Option.map_some, Option.map_some, (hb.entries tid a ha).1]
  · intro b
    rw [getInfo, List.mem_filterMap]
    constructor
    · rintro ⟨tid, -, hb'⟩
      obtain ⟨a, ha, rfl⟩ := Option.map_eq_some_iff.1 hb'
      exact ⟨tid, a, ha, rfl⟩
    · rintro ⟨tid, a, ha, rfl⟩
      exact ⟨tid, (hw.mem_tids tid).2 (by rw [ha]; simp), by rw [ha, Option.map_some]⟩

/-- pieces with their new objects -/
structure Filled {α : Type} (key : α → ℕ) (keys : List ℕ) (pieces : List α) (filled : List (α × Addr)) : Prop where
  pieces : filled.map Prod.fst = pieces
  keys : filled.map (fun c => key c.1) = keys
  keys_nodup : (filled.map fun c => key c.1).Nodup
  objs_nodup : (filled.map Prod.snd).Nodup

theorem zip_filled {α : Type} {key : α → ℕ} {keys : List ℕ} {pieces : List α} {objs : List Addr}
    (hkeys : pieces.map key = keys) (hlength : objs.length = keys.length) (hnodup : keys.Nodup) (hobjs : objs.Nodup) :
    Filled key keys pieces (pieces.zip objs) := by
  have hle : pieces.length = objs.length := by rw [hlength, ← hkeys, List.length_map]
  have hfst : (pieces.zip objs).map Prod.fst = pieces := List.map_fst_zip hle.le
  have hmap : (pieces.zip objs).map (fun c => key c.1) = keys := by
    calc (pieces.zip objs).map (fun c => key c.1)
        = ((pieces.zip objs).map Prod.fst).map key := by rw [List.map_map]; rfl
      _ = keys := by rw [hfst, hkeys]
  refine ⟨hfst, hmap, ?_, ?_⟩
  · rw [hmap]
    exact hnodup
  · rw [List.map_snd_zip hle.ge]
    exact hobjs

/-- the cells that they make -/
theorem Filled.cells {α ν μ : Type} {key : α → ℕ} {keys : List ℕ} {pieces : List α} {filled : List (α × Addr)}
    (h : Filled key keys pieces filled) {f : ν → μ} {cell : α × Addr → Cell ℕ ν} {g : α → μ}
    (hcell : ∀ c, (cell c).key = key c.1 ∧ f (cell c).value = g c.1) :
    (filled.map cell).map (fun c => (c.key, f c.value)) = pieces.map fun c => (key c, g c) := by
  calc (filled.map cell).map (fun c => (c.key, f c.value))
      = (filled.map Prod.fst).map (fun c => (key c, g c)) := by
        rw [List.map_map, List.map_map]
        exact List.map_congr_left fun c _ => Prod.ext (hcell c).1 (hcell c).2
    _ = pieces.map fun c => (key c, g c) := by rw [h.pieces]

theorem Ready.filledCards (hr : Ready E T s) (hw : Walks s uids tids) (hp : Pools uids tids addrs bookAddrs) :
    Filled CardPiece.cardUID uids (getInfo s uids tids).1 ((getInfo s uids tids).1.zip addrs) :=
  zip_filled (getInfo_cards hr.inv.toBase hw).1 hp.addrs_length hw.uids_nodup hp.addrs_nodup

theorem Ready.filledBooks (hr : Ready E T s) (hw : Walks s uids tids) (hp : Pools uids tids addrs bookAddrs) :
    Filled BookPiece.tableID tids (getInfo s uids tids).2 ((getInfo s uids tids).2.zip bookAddrs) :=
  zip_filled (getInfo_books hr.sound.booked hw).1 hp.bookAddrs_length hw.tids_nodup hp.bookAddrs_nodup

/-- what a reload of the cards relies on -/
theorem Ready.initCards (hr : Ready E T s) (hw : Walks s uids tids) (hp : Pools uids tids addrs bookAddrs) :
    InitCards E ((getInfo s uids tids).1.zip addrs) := by
  have hfilled := hr.filledCards hw hp
  have howned : ∀ c ∈ (getInfo s uids tids).1.zip addrs, ∃ u a, s.cont u = some a ∧ s.cards a = c.1 := fun c hc =>
    ((getInfo_cards hr.inv.toBase hw).2 c.1).1 (List.of_mem_zip hc).1
  refine ⟨fun c hc => ?_, fun c hc => ?_, hfilled.keys_nodup, hfilled.objs_nodup, ?_⟩
  · obtain ⟨u, a, hu, hcard⟩ := howned c hc
    exact hcard ▸ hr.inv.real u a hu
  · obtain ⟨u, a, hu, hcard⟩ := howned c hc
    exact hcard ▸ hr.settled u a hu
  · have hdiff : ((getInfo s uids tids).1.zip addrs).Pairwise fun c d => c.1.cardUID ≠ d.1.cardUID :=
      List.pairwise_map.1 hfilled.keys_nodup
    refine hdiff.imp_of_mem fun {c d} hc hd hne hplaced hplaced' hpos => hne ?_
    obtain ⟨u, a, hu, hcard⟩ := howned c hc
    obtain ⟨u', a', hu', hcard'⟩ := howned d hd
    rw [← hcard] at hplaced hpos ⊢
    rw [← hcard'] at hplaced' hpos ⊢
    have hvalid := (hr.settled u a hu).resolve_left hplaced
    -- the slot index has one card in the slot
    have hocc := (hr.inv.agree _ a).2 (place_eq_some.2 ⟨⟨u, hu⟩, hvalid, rfl⟩)
    have hocc' := (hr.inv.agree _ a').2 (place_eq_some.2 ⟨⟨u', hu'⟩, hpos ▸ hvalid, hpos.symm⟩)
    obtain rfl : a = a' := Option.some.inj (hocc.symm.trans hocc')
    rfl

theorem construct_booked (E : Env) (mem : Addr → CardPiece) (bookMem : Addr → BookPiece) :
    Booked E (construct E mem bookMem) := by
  refine ⟨E.nullBook_isNull, ?_, ?_⟩
  · intro tid a h
    cases h
  · intro u a h
    cases h

/-- the new objects, as a list of what is stored -/
theorem reload_heaps (s : St) (uids tids : List ℕ) (addrs bookAddrs : List Addr) (mem : Addr → CardPiece)
    (bookMem : Addr → BookPiece) :
    let t := reload E mem bookMem s uids tids addrs bookAddrs
    bookHeap t = (Heap.mk (fun _ => none) bookMem).addAll (((getInfo s uids tids).2.zip bookAddrs).map bookCell) ∧
      cardHeap t = (Heap.mk (fun _ => none) mem).addAll
        (((getInfo s uids tids).1.zip addrs).map (cardCell t.bookCont)) := by
  intro t
  obtain ⟨hbooks, hcards, -⟩ := doAdd_heaps E (construct E mem bookMem) ((getInfo s uids tids).1.zip addrs)
    ((getInfo s uids tids).2.zip bookAddrs)
  exact ⟨hbooks, hcards⟩

theorem reload_booked (hr : Ready E T s) (hw : Walks s uids tids) (hp : Pools uids tids addrs bookAddrs)
    (mem : Addr → CardPiece) (bookMem : Addr → BookPiece) : Booked E (reload E mem bookMem s uids tids addrs bookAddrs) := by
  have hfilled := hr.filledBooks hw hp
  obtain ⟨-, hbooked, -, -, hthere⟩ := addBooks_booked (construct_booked E mem bookMem) hfilled.keys_nodup
    hfilled.objs_nodup fun b hb => by
      obtain ⟨tid, a, htid, hbook⟩ := ((getInfo_books hr.sound.booked hw).2 b.1).1 (List.of_mem_zip hb).1
      obtain ⟨hkey, hvalid⟩ := hr.sound.booked.entries tid a htid
      refine ⟨rfl, fun _ h => ?_, ?_⟩
      · cases h
      · rw [← hbook, hkey, hvalid]
  refine addCards_booked hbooked fun c hc => hthere _ (Or.inr ?_)
  obtain ⟨u, a, hu, hcard⟩ := ((getInfo_cards hr.inv.toBase hw).2 c.1).1 (List.of_mem_zip hc).1
  obtain ⟨b, hb, -⟩ := hr.sound.booked.cards u a hu
  rw [hfilled.keys, ← hcard, hw.mem_tids, hb]
  simp

theorem reload_same (hr : Ready E T s) (hw : Walks s uids tids) (hp : Pools uids tids addrs bookAddrs)
    (mem : Addr → CardPiece) (bookMem : Addr → BookPiece) :
    Alike s (reload E mem bookMem s uids tids addrs bookAddrs) := by
  obtain ⟨hbookHeap, hcardHeap⟩ := reload_heaps (E := E) s uids tids addrs bookAddrs mem bookMem
  constructor
  · have hfilled := hr.filledCards hw hp
    rw [hcardHeap]
    refine (Heap.view_rebuild ?_ ?_ fun u w => ?_).symm
    · rw [List.map_map]
      exact hfilled.keys_nodup
    · rw [List.map_map]
      exact hfilled.objs_nodup
    · rw [hfilled.cells (g := CardPiece.noBook) fun c => ⟨rfl, rfl⟩, Heap.view_eq_some, List.mem_map]
      constructor
      · rintro ⟨c, hc, heq⟩
        obtain ⟨rfl, rfl⟩ := Prod.mk.inj heq
        obtain ⟨u, a, hu, rfl⟩ := ((getInfo_cards hr.inv.toBase hw).2 c).1 hc
        rw [hr.inv.keys u a hu]
        exact ⟨a, _, ⟨hu, rfl⟩, rfl⟩
      · rintro ⟨a, c, ⟨hu, rfl⟩, rfl⟩
        exact ⟨s.cards a, ((getInfo_cards hr.inv.toBase hw).2 _).2 ⟨u, a, hu, rfl⟩,
          by rw [hr.inv.keys u a hu]; rfl⟩
  · have hfilled := hr.filledBooks hw hp
    rw [hbookHeap]
    refine (Heap.view_rebuild ?_ ?_ fun tid w => ?_).symm
    · rw [List.map_map]
      exact hfilled.keys_nodup
    · rw [List.map_map]
      exact hfilled.objs_nodup
    · rw [hfilled.cells (g := id) fun c => ⟨rfl, rfl⟩, Heap.view_eq_some, List.mem_map]
      constructor
      · rintro ⟨b, hb, heq⟩
        obtain ⟨rfl, rfl⟩ := Prod.mk.inj heq
        obtain ⟨tid, a, htid, rfl⟩ := ((getInfo_books hr.sound.booked hw).2 b).1 hb
        rw [(hr.sound.booked.entries tid a htid).1]
        exact ⟨a, _, ⟨htid, rfl⟩, rfl⟩
      · rintro ⟨a, b, ⟨htid, rfl⟩, rfl⟩
        exact ⟨s.books a, ((getInfo_books hr.sound.booked hw).2 _).2 ⟨tid, a, htid, rfl⟩,
          by rw [(hr.sound.booked.entries tid a htid).1]; rfl⟩

/-- **The reload of contents that are ready is ready, and like them.** -/
theorem reload_alike (hr : Ready E T s) (hw : Walks s uids tids) (hp : Pools uids tids addrs bookAddrs)
    (mem : Addr → CardPiece) (bookMem : Addr → BookPiece) :
    Ready E T (reload E mem bookMem s uids tids addrs bookAddrs) ∧
      Alike s (reload E mem bookMem s uids tids addrs bookAddrs) := by
  have hsame := reload_same hr hw hp mem bookMem
  have hinv : Inv E (reload E mem bookMem s uids tids addrs bookAddrs) := doInit_inv (hr.initCards hw hp) mem bookMem _
  refine ⟨⟨?_, hinv, fun u b hu => ?_⟩, hsame⟩
  · exact hr.sound.alike hsame (reload_booked hr hw hp mem bookMem) ⟨hinv.keys, hinv.null⟩
  · rcases hsame.card u with ⟨-, hnone⟩ | ⟨a, b', ha, hb', heq⟩
    · rw [hnone] at hu
      cases hu
    · obtain rfl := Option.some.inj (hb'.symm.trans hu)
      have hsettled := hr.settled u a ha
      obtain ⟨p, hcard⟩ := noBook_eq heq
      rw [hcard] at hsettled
      exact hsettled

end

end GameServer.Card
