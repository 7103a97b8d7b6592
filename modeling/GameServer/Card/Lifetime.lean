/-
The life of a supporter in `C++/CardContents.cpp`: it is granted, placed, locked, leveled up, woken, and in the end sold or
used up for another.

- `serveCare_sound`: every step keeps the contents sound, cards and books only gain (`Gains`), and a card that goes was in no
  use;
- `care_sound`: levels stay within their limits, and a supporter at its last level in its last wake has the flag of it in
  its book, in every run;
- `care_kept`: a locked supporter is there until it is unlocked, with all its progress, and no book loses a flag.
-/
import Mathlib.Tactic
import GameServer.Core.Heap
import GameServer.Card.CareEffects

namespace GameServer.Card

open GameServer.Core GameServer.Core.Flags

variable {ι κ υ ρ π : Type} {E : Env} {T : CareTables ι κ} {F : FlagEnv υ ρ π} {P : ProductTables} {s t : St}

/-! ## Grants -/

def bookHeap (s : St) : Heap ℕ BookPiece := ⟨s.bookCont, s.books⟩

def cardHeap (s : St) : Heap ℕ CardPiece := ⟨s.cont, s.cards⟩

def bookCell (b : BookPiece × Addr) : Cell ℕ BookPiece := ⟨b.1.tableID, b.2, b.1⟩

/-- a stored card points to its book -/
def cardCell (bookCont : ℕ → Option Addr) (c : CardPiece × Addr) : Cell ℕ CardPiece :=
  ⟨c.1.cardUID, c.2, { c.1 with book := bookCont c.1.tableID }⟩

/-- only books are added -/
theorem addBooks_heap (books : List (BookPiece × Addr)) :
    bookHeap (books.foldl addBook s) = (bookHeap s).addAll (books.map bookCell) ∧
    cardHeap (books.foldl addBook s) = cardHeap s ∧ (books.foldl addBook s).msNullCard = s.msNullCard := by
  induction books generalizing s with
  | nil => exact ⟨rfl, rfl, rfl⟩
  | cons b books ih =>
    obtain ⟨hbooks, hcards, hnull⟩ := ih (s := addBook s b)
    exact ⟨hbooks, hcards, hnull⟩

/-- only cards are added -/
theorem addCards_heap (cards : List (CardPiece × Addr)) : cardHeap (cards.foldl (addCard E) s) =
      (cardHeap s).addAll (cards.map (cardCell s.bookCont)) ∧
    bookHeap (cards.foldl (addCard E) s) = bookHeap s ∧ (cards.foldl (addCard E) s).msNullCard = s.msNullCard := by
  induction cards generalizing s with
  | nil => exact ⟨rfl, rfl, rfl⟩
  | cons c cards ih =>
    obtain ⟨g, hg⟩ := addCard_frame (E := E) (s := s) c
    obtain ⟨hcards, hbooks, hnull⟩ := ih (s := addCard E s c)
    rw [hg] at hcards hbooks hnull
    rw [List.foldl_cons, hg]
    exact ⟨hcards, hbooks, hnull⟩

/-- the pieces of a pack are new ones -/
theorem doMakeProducts_new {items : List GrantItem} {pack pack' : ProductPack}
    (hcards : ∀ c ∈ pack.cards, ∃ tid lock, c = { P.newCard with tableID := tid, lock := lock })
    (hbooks : ∀ b ∈ pack.books, ∃ tid, b = { P.newBook with tableID := tid })
    (h : doMakeProducts E P s pack items = .ok pack') :
    (∀ c ∈ pack'.cards, ∃ tid lock, c = { P.newCard with tableID := tid, lock := lock }) ∧
      ∀ b ∈ pack'.books, ∃ tid, b = { P.newBook with tableID := tid } := by
  induction items generalizing pack with
  | nil =>
    obtain rfl := Except.ok.inj h
    exact ⟨hcards, hbooks⟩
  | cons item items ih =>
    rw [doMakeProducts, List.foldlM_cons] at h
    cases hmake : doMakeProduct E P s pack item.tid item.lock with
    | error err =>
      rw [hmake] at h
      cases h
    | ok pack₁ =>
      rw [hmake] at h
      have hcards₁ : ∀ c ∈ pack.cards ++ [{ P.newCard with tableID := item.tid, lock := item.lock }],
          ∃ tid lock, c = { P.newCard with tableID := tid, lock := lock } := by
        intro c hc
        rcases List.mem_append.1 hc with hc | hc
        · exact hcards c hc
        · exact ⟨_, _, List.mem_singleton.1 hc⟩
      have hbooks₁ : ∀ b ∈ pack.books ++ [{ P.newBook with tableID := item.tid }],
          ∃ tid, b = { P.newBook with tableID := tid } := by
        intro b hb
        rcases List.mem_append.1 hb with hb | hb
        · exact hbooks b hb
        · exact ⟨_, List.mem_singleton.1 hb⟩
      have hstep : (∀ c ∈ pack₁.cards, ∃ tid lock, c = { P.newCard with tableID := tid, lock := lock }) ∧
          ∀ b ∈ pack₁.books, ∃ tid, b = { P.newBook with tableID := tid } := by
        unfold doMakeProduct at hmake
        dsimp only at hmake
        split_ifs at hmake
        · obtain rfl := Except.ok.inj hmake
          exact ⟨hcards₁, hbooks₁⟩
        · obtain rfl := Except.ok.inj hmake
          exact ⟨hcards₁, hbooks⟩
        · obtain rfl := Except.ok.inj hmake
          exact ⟨hcards₁, hbooks⟩
      exact ih hstep.1 hstep.2 h

theorem packCards_keys {pack : ProductPack} {items : List GrantItem} (h : pack.cards.length = items.length) :
    (pack.packCards items).map (fun c => c.1.cardUID) = items.map GrantItem.uid ∧
      (pack.packCards items).map Prod.snd = items.map GrantItem.addr := by
  have hzip : (pack.cards.zip items).map Prod.snd = items := List.map_snd_zip h.ge
  constructor
  · rw [ProductPack.packCards, List.map_map]
    exact (List.map_map (f := Prod.snd) (g := GrantItem.uid)).symm.trans (by rw [hzip])
  · rw [ProductPack.packCards, List.map_map]
    exact (List.map_map (f := Prod.snd) (g := GrantItem.addr)).symm.trans (by rw [hzip])

/-- nothing that was there is lost -/
structure Gains (E : Env) (s t : St) (turned : List ℕ) : Prop where
  /-- a card that goes is in no use -/
  cards : ∀ u a, s.cont u = some a → (t.cont u = some a ∧ Grown (s.cards a) (t.cards a)) ∨
    t.cont u = none ∧ (s.cards a).lock = false ∧ (s.cards a).posKind = E.kNone
  locks : ∀ u a, u ∉ turned → s.cont u = some a → (s.cards a).lock = true → t.cont u = some a ∧ (t.cards a).lock = true
  books : ∀ tid b, s.bookCont tid = some b → t.bookCont tid = some b ∧ BookGrown (s.books b) (t.books b)

theorem Effect.gains {gone turned : List ℕ} (he : Effect E T s t gone turned) : Gains E s t turned := by
  refine ⟨fun u a hu => ?_, fun u a hturned hu hlock => ?_, fun tid b hb => ?_⟩
  · rw [he.cont]
    split_ifs with hgone
    · exact Or.inr ⟨rfl, he.unused u hgone a hu⟩
    · exact Or.inl ⟨hu, he.grown u a hgone hu⟩
  · have hgone : u ∉ gone := by
      intro hmem
      exact absurd (hlock.symm.trans (he.unused u hmem a hu).1) (by decide)
    rw [he.cont, if_neg hgone]
    exact ⟨hu, he.locks u a hgone hturned hu hlock⟩
  · rw [he.bookCont]
    exact ⟨hb, (he.books tid b hb).1⟩

/-- the pieces of a grant have new keys and unused objects -/
theorem grant_fresh (hs : Sound E T s) {items : List GrantItem} {bookAddr : ℕ → Addr}
    (hl : legalCare E T P s (.grant items bookAddr : CareOp ι υ π)) :
    ∃ pack, doMakeProducts E P s ⟨[], []⟩ items = .ok pack ∧
      (bookHeap s).Fresh ((pack.packBooks bookAddr).map bookCell) ∧
      ∀ bookCont, (cardHeap s).Fresh ((pack.packCards items).map (cardCell bookCont)) := by
  obtain ⟨hcan, huids, haddrs, hfree⟩ := hl
  have hstart : Promised s ⟨[], []⟩ [] := ⟨rfl, List.nodup_nil, by simp [ProductPack.bookTIDs]⟩
  obtain ⟨pack, hmake, hp⟩ := doMakeProducts_ok hs.booked hstart hcan.valid
  rw [List.nil_append] at hp
  have hlength : pack.cards.length = items.length := by
    have hmap := congrArg List.length hp.cards
    rwa [List.length_map, List.length_map] at hmap
  obtain ⟨hkeys, hobjs⟩ := packCards_keys hlength
  refine ⟨pack, hmake, ⟨?_, ?_, ?_, ?_⟩, fun bookCont => ?_⟩
  · have htids := packBooks_tids pack bookAddr
    rw [List.map_map]
    exact htids ▸ hp.once
  · rw [List.map_map]
    exact hp.book_addrs_nodup hcan
  · intro c hc
    obtain ⟨b, hb, rfl⟩ := List.mem_map.1 hc
    exact (hp.books_new hcan b hb).1
  · intro c hc tid
    obtain ⟨b, hb, rfl⟩ := List.mem_map.1 hc
    exact (hp.books_new hcan b hb).2.1 tid
  · have hitem : ∀ c ∈ (pack.packCards items).map (cardCell bookCont),
        ∃ item ∈ items, item.uid = c.key ∧ item.addr = c.addr := by
      intro c hc
      obtain ⟨x, hx, rfl⟩ := List.mem_map.1 hc
      obtain ⟨y, hy, rfl⟩ := List.mem_map.1 hx
      exact ⟨y.2, (List.of_mem_zip hy).2, rfl, rfl⟩
    refine ⟨?_, ?_, ?_, ?_⟩
    · rw [List.map_map]
      exact hkeys ▸ huids
    · rw [List.map_map]
      exact hobjs ▸ haddrs
    · intro c hc
      obtain ⟨item, hmem, huid, -⟩ := hitem c hc
      exact huid ▸ (hfree item hmem).1
    · intro c hc u
      obtain ⟨item, hmem, -, haddr⟩ := hitem c hc
      exact haddr ▸ (hfree item hmem).2 u

/-- the objects after `DoAdd` -/
theorem doAdd_heaps (E : Env) (s : St) (cards : List (CardPiece × Addr)) (books : List (BookPiece × Addr)) :
    bookHeap (doAdd E s cards books) = (bookHeap s).addAll (books.map bookCell) ∧
      cardHeap (doAdd E s cards books) = (cardHeap s).addAll (cards.map (cardCell (doAdd E s cards books).bookCont)) ∧
      (doAdd E s cards books).msNullCard = s.msNullCard := by
  obtain ⟨hbooks, hcards, hnull⟩ := addBooks_heap (s := s) books
  set s₁ := books.foldl addBook s with hs₁
  obtain ⟨hcards', hbooks', hnull'⟩ := addCards_heap (E := E) (s := s₁) cards
  have hbookHeap : bookHeap (doAdd E s cards books) = bookHeap s₁ := hbooks'
  have hcont : (doAdd E s cards books).bookCont = s₁.bookCont := congrArg Heap.cont hbookHeap
  refine ⟨hbookHeap.trans hbooks, ?_, hnull'.trans hnull⟩
  rw [hcont]
  exact hcards'.trans (congrArg (Heap.addAll · _) hcards)

/-- a grant adds new cards and new books -/
theorem grant_found (hs : Sound E T s) {items : List GrantItem} {bookAddr : ℕ → Addr}
    (hl : legalCare E T P s (.grant items bookAddr : CareOp ι υ π)) :
    ∃ pack, doMakeProducts E P s ⟨[], []⟩ items = .ok pack ∧
      let t := serveBook E P s (.grant items bookAddr)
      (∀ tid b book, (bookHeap t).Found tid b book ↔ (bookHeap s).Found tid b book ∨
        ∃ c ∈ (pack.packBooks bookAddr).map bookCell, c.key = tid ∧ c.addr = b ∧ c.value = book) ∧
      (∀ u a card, (cardHeap t).Found u a card ↔ (cardHeap s).Found u a card ∨
        ∃ c ∈ (pack.packCards items).map (cardCell t.bookCont), c.key = u ∧ c.addr = a ∧ c.value = card) ∧
      t.msNullCard = s.msNullCard := by
  obtain ⟨pack, hmake, hbooks, hcards⟩ := grant_fresh hs hl
  obtain ⟨hbookHeap, hcardHeap, hnull⟩ := doAdd_heaps E s (pack.packCards items) (pack.packBooks bookAddr)
  refine ⟨pack, hmake, ?_⟩
  rw [serveBook, hmake]
  refine ⟨fun tid b book => ?_, fun u a card => ?_, hnull⟩
  · dsimp only
    rw [hbookHeap]
    exact Heap.addAll_find hbooks
  · dsimp only
    rw [hcardHeap]
    exact Heap.addAll_find (hcards _)

theorem grant_sound (hnew : NewPieces T P) (hs : Sound E T s) {items : List GrantItem} {bookAddr : ℕ → Addr}
    (hl : legalCare E T P s (.grant items bookAddr : CareOp ι υ π)) :
    Sound E T (serveBook E P s (.grant items bookAddr)) ∧ Gains E s (serveBook E P s (.grant items bookAddr)) [] := by
  obtain ⟨pack, hmake, hbooks, hcards, hnull⟩ := grant_found hs hl
  have hbooked := (grant_booked hs.booked hl.1).2
  obtain ⟨hnewCards, hnewBooks⟩ := doMakeProducts_new (by simp) (by simp) hmake
  set t := serveBook E P s (.grant items bookAddr) with ht
  have hbook : ∀ {tid b}, s.bookCont tid = some b → t.bookCont tid = some b ∧ t.books b = s.books b := fun hb =>
    (hbooks _ _ _).2 (Or.inl ⟨hb, rfl⟩)
  have hcard : ∀ {u a}, s.cont u = some a → t.cont u = some a ∧ t.cards a = s.cards a := fun hu =>
    (hcards _ _ _).2 (Or.inl ⟨hu, rfl⟩)
  refine ⟨⟨hbooked, ⟨?_, ?_⟩, ?_, ?_⟩, ⟨?_, ?_, ?_⟩⟩
  · intro u a hu
    rcases (hcards u a (t.cards a)).1 ⟨hu, rfl⟩ with ⟨hold, heq⟩ | ⟨c, hc, hkey, -, hvalue⟩
    · rw [← heq]
      exact hs.keyed.keys u a hold
    · obtain ⟨x, -, rfl⟩ := List.mem_map.1 hc
      rw [← hvalue]
      exact hkey
  · rw [hnull]
    exact hs.keyed.null
  · intro u a hu
    rcases (hcards u a (t.cards a)).1 ⟨hu, rfl⟩ with ⟨hold, heq⟩ | ⟨c, hc, -, -, hvalue⟩
    · rw [← heq]
      refine (hs.cards u a hold).later fun b hb => ?_
      obtain ⟨b', hkey, hb'⟩ := hs.book_key hold
      obtain rfl : b = b' := Option.some.inj (hb.symm.trans hb')
      rw [(hbook hkey).2]
      exact Within.refl _
    · obtain ⟨x, hx, rfl⟩ := List.mem_map.1 hc
      obtain ⟨y, hy, rfl⟩ := List.mem_map.1 hx
      obtain ⟨tid, lock, hy⟩ := hnewCards y.1 (List.of_mem_zip hy).1
      have hlv : (t.cards a).lv = P.newCard.lv := by rw [← hvalue, cardCell, hy]
      have hskill : (t.cards a).skillLv = P.newCard.skillLv := by rw [← hvalue, cardCell, hy]
      have hone := hnew.lv
      have hmin := T.one_le_maxLevel (t.cards a).tableID (t.cards a).wake
      refine ⟨by omega, by rw [hskill]; exact hnew.skill, fun b _ hlt => ?_⟩
      omega
  · intro tid b hb
    rcases (hbooks tid b (t.books b)).1 ⟨hb, rfl⟩ with ⟨hold, heq⟩ | ⟨c, hc, -, -, hvalue⟩
    · rw [← heq]
      exact hs.books tid b hold
    · obtain ⟨x, hx, rfl⟩ := List.mem_map.1 hc
      obtain ⟨y, hy, rfl⟩ := List.mem_map.1 hx
      obtain ⟨tid', hy⟩ := hnewBooks y hy
      have hfavor : (t.books b).favorLv = P.newBook.favorLv := by rw [← hvalue, bookCell, hy]
      have hlt := hnew.favor
      refine ⟨by omega, fun hmax => ?_⟩
      omega
  · intro u a hu
    obtain ⟨hkept, heq⟩ := hcard hu
    rw [heq]
    exact Or.inl ⟨hkept, Grown.refl _⟩
  · intro u a _ hu hlock
    obtain ⟨hkept, heq⟩ := hcard hu
    rw [heq]
    exact ⟨hkept, hlock⟩
  · intro tid b hb
    obtain ⟨hkept, heq⟩ := hbook hb
    rw [heq]
    exact ⟨hkept, BookGrown.refl _⟩

/-! ## Runs -/

/-- step lemma -/
theorem serveCare_sound (hnew : NewPieces T P) (hcalls : CallsOnce T.toGrowTables) (hs : Sound E T s) (op : CareOp ι υ π)
    (hl : legalCare E T P s op) :
    Sound E T (serveCare E T F P s op) ∧ Gains E s (serveCare E T F P s op) op.turned := by
  by_cases hop : ∃ items bookAddr, op = .grant items bookAddr
  · obtain ⟨items, bookAddr, rfl⟩ := hop
    exact grant_sound hnew hs hl
  · have hother : ∀ items bookAddr, op ≠ .grant items bookAddr := fun items bookAddr heq => hop ⟨items, bookAddr, heq⟩
    obtain ⟨gone, heffect⟩ := serveCare_effect (F := F) hcalls hs op hl hother
    exact ⟨heffect.sound hs, heffect.gains⟩

/-- **Levels stay within their limits, and every last level is in its book.** In every run of grants, placements and accepted
growths, sales and rewards, from contents that are sound. -/
theorem care_sound (hnew : NewPieces T P) (hcalls : CallsOnce T.toGrowTables) (hs : Sound E T s) (ops : List (CareOp ι υ π))
    (hrun : LegalRun (serveCare E T F P) (legalCare E T P) s ops) : Sound E T (run (serveCare E T F P) s ops) :=
  run_inv (I := Sound E T) (fun _ op hs hl => (serveCare_sound hnew hcalls hs op hl).1) hs hrun

/-- maximal level 3, in the only wake; every exp is a level -/
def sampleCare : CareTables ℕ (List ItemCnt) where
  toGrowTables := sampleTables
  sellPrice _ := 10
  sellMPoint _ := 1
  levelUpGroup _ := 0
  favorGroup _ := 0
  getMaxLevel _ _ := 3
  isMaxWake _ _ := true
  isMaxLv _ _ lv := decide (3 ≤ lv)
  one_le_maxLevel _ _ := by decide
  cardLevelupCostByLevel := 1
  matCount := 10
  cardFavorMaxLevel := 5
  maxWakeAndLv := 1
  maxFavorLv := 2
  isCanUseMaterialLv _ := true
  isExistMater req := !req.maters.isEmpty
  itemReqList _ _ := none
  isCheckContumeItemByReqTable _ := .ok []
  noMaterItems := []
  doCheckAddExpAndGetLvExp _ maxLv lv _ gap := .ok (min maxLv (lv + gap.toNat), 0)
  lv_le_maxLv group maxLv lv exp gap r h := by
    obtain rfl := Except.ok.inj h
    exact min_le_left _ _
  le_lv group maxLv lv exp gap r hle hgap h := by
    obtain rfl := Except.ok.inj h
    exact le_min hle (Nat.le_add_right _ _)
  doCanAddGold _ gold := gold
  doCanAddSP _ sp := sp

/-- three exps a material -/
def sampleOutside : Outside ℕ := ⟨100, 0, true, fun _ => 0, id, fun gains => 3 * gains.length⟩

theorem sampleNewPieces : NewPieces sampleCare sampleProducts := ⟨by decide, by decide, by decide⟩

/-- no supporters and no books -/
def noCards : St := construct sampleEnv (fun _ => sampleEnv.nullCard) fun _ => sampleEnv.nullBook

theorem noCards_sound : Sound sampleEnv sampleCare noCards := by
  refine ⟨⟨by decide, ?_, ?_⟩, ⟨?_, by decide⟩, ?_, ?_⟩
  all_goals
    intro u a hu
    cases hu

/-- two supporters of one kind, the first of them locked -/
def sampleGrant : CareOp ℕ Unit (List ℕ) := .grant [⟨10, true, 1, 100⟩, ⟨10, false, 2, 200⟩] fun _ => 300

theorem sampleGrant_legal : legalCare sampleEnv sampleCare sampleProducts noCards sampleGrant := by
  refine ⟨⟨?_, ?_, ?_⟩, by decide, by decide, ?_⟩
  · simp [ValidTid, sampleProducts, sampleEnv]
  · simp [noCards, construct]
  · simp
  · simp [noCards, construct]

/-- the second one is used up for the first, which is then not for sale -/
def sampleCareOps : List (CareOp ℕ Unit (List ℕ)) := [.lvUp sampleOutside ⟨1, [2], []⟩ true, .sell sampleOutside 1]

theorem care_sound_sample : Sound sampleEnv sampleCare
    (run (serveCare sampleEnv sampleCare sampleFlagEnv sampleProducts) noCards (sampleGrant :: sampleCareOps)) := by
  refine care_sound sampleNewPieces sampleTables_callsOnce noCards_sound _
    ⟨sampleGrant_legal, fun gains => ?_, trivial, trivial⟩
  exact Int.mul_nonneg (by decide) (Int.natCast_nonneg _)

/-- **A locked supporter is there until it is unlocked**, with all its progress; one that goes was in no use; no book loses a
flag or a favor level. -/
theorem care_kept (hnew : NewPieces T P) (hcalls : CallsOnce T.toGrowTables) (hs : Sound E T s) (ops : List (CareOp ι υ π))
    (hrun : LegalRun (serveCare E T F P) (legalCare E T P) s ops) :
    (∀ u a, s.cont u = some a → (s.cards a).lock = true → (∀ op ∈ ops, u ∉ op.turned) →
      (run (serveCare E T F P) s ops).cont u = some a ∧ ((run (serveCare E T F P) s ops).cards a).lock = true ∧
        Grown (s.cards a) ((run (serveCare E T F P) s ops).cards a)) ∧
    (∀ before op after u a, ops = before ++ op :: after → (run (serveCare E T F P) s before).cont u = some a →
      (run (serveCare E T F P) s (before ++ [op])).cont u = some a ∧
          Grown ((run (serveCare E T F P) s before).cards a) ((run (serveCare E T F P) s (before ++ [op])).cards a) ∨
        (run (serveCare E T F P) s (before ++ [op])).cont u = none ∧
          ((run (serveCare E T F P) s before).cards a).lock = false ∧
          ((run (serveCare E T F P) s before).cards a).posKind = E.kNone) ∧
    ∀ tid b, s.bookCont tid = some b → (run (serveCare E T F P) s ops).bookCont tid = some b ∧
      BookGrown (s.books b) ((run (serveCare E T F P) s ops).books b) := by
  refine ⟨?_, ?_, ?_⟩
  · intro u a hu hlock hturned
    induction ops generalizing s with
    | nil => exact ⟨hu, hlock, Grown.refl _⟩
    | cons op ops ih =>
      obtain ⟨hs', hgains⟩ := serveCare_sound (F := F) hnew hcalls hs op hrun.1
      obtain ⟨hu', hlock'⟩ := hgains.locks u a (hturned op List.mem_cons_self) hu hlock
      have hgrown : Grown (s.cards a) ((serveCare E T F P s op).cards a) := by
        rcases hgains.cards u a hu with ⟨-, hgrown⟩ | ⟨hnone, -⟩
        · exact hgrown
        · rw [hu'] at hnone
          cases hnone
      obtain ⟨hend, hlockEnd, hgrownEnd⟩ := ih hs' hrun.2 hu' hlock' fun op' hop' =>
        hturned op' (List.mem_cons_of_mem op hop')
      exact ⟨hend, hlockEnd, hgrown.trans hgrownEnd⟩
  · rintro before op after u a rfl hu
    obtain ⟨hbefore, hlegal, -⟩ := (LegalRun.append_iff s before (op :: after)).1 hrun
    have hsound : Sound E T (run (serveCare E T F P) s before) :=
      run_inv (I := Sound E T) (fun _ op hs hl => (serveCare_sound hnew hcalls hs op hl).1) hs hbefore
    obtain ⟨-, hgains⟩ := serveCare_sound (F := F) hnew hcalls hsound op hlegal
    rw [run_append, run_cons, run_nil]
    exact hgains.cards u a hu
  · intro tid b hb
    induction ops generalizing s with
    | nil => exact ⟨hb, BookGrown.refl _⟩
    | cons op ops ih =>
      obtain ⟨hs', hgains⟩ := serveCare_sound (F := F) hnew hcalls hs op hrun.1
      obtain ⟨hb', hgrown⟩ := hgains.books tid b hb
      obtain ⟨hend, hgrownEnd⟩ := ih hs' hrun.2 hb'
      exact ⟨hend, hgrown.trans hgrownEnd⟩

/-- the first supporter keeps its place, and has its last level -/
theorem care_kept_sample :
    (run (serveCare sampleEnv sampleCare sampleFlagEnv sampleProducts)
      (serveBook sampleEnv sampleProducts noCards (.grant [⟨10, true, 1, 100⟩, ⟨10, false, 2, 200⟩] fun _ => 300))
      sampleCareOps).cont 1 = some 100 ∧
    ((run (serveCare sampleEnv sampleCare sampleFlagEnv sampleProducts)
      (serveBook sampleEnv sampleProducts noCards (.grant [⟨10, true, 1, 100⟩, ⟨10, false, 2, 200⟩] fun _ => 300))
      sampleCareOps).cards 100).lv = 3 := by
  have hsound := (grant_sound sampleNewPieces noCards_sound sampleGrant_legal).1
  have hkept := (care_kept (F := sampleFlagEnv) sampleNewPieces sampleTables_callsOnce hsound sampleCareOps
    ⟨fun gains => Int.mul_nonneg (by decide) (Int.natCast_nonneg _), trivial, trivial⟩).1 1 100 (by decide) (by decide)
  refine ⟨(hkept ?_).1, by decide⟩
  intro op hop
  rcases List.mem_cons.1 hop with rfl | hop
  · simp [CareOp.turned]
  · obtain rfl := List.mem_singleton.1 hop
    simp [CareOp.turned]

end GameServer.Card
