/-
What a request to the supporters of a user can do, `C++/CardContents.cpp`. Every request is validated and, if accepted,
applied at once; the cards that a growth has accepted as materials are deleted with `DoDel`.

- `Sound`: books and cards belong together, levels are within their limits, and the flag of the last level is in the book;
- `Effect`: the cards that go are unlocked and unplaced, the others grow, books only gain; `Effect.sound`;
- `serveCare_effect`: every accepted request, grants apart, has such an effect.
-/
import Mathlib.Tactic
import GameServer.Core.Run
import GameServer.Card.Request
import GameServer.Card.BookEntries
import GameServer.Card.Care

namespace GameServer.Card

open GameServer.Core GameServer.Core.Flags

/-! ## Requests -/

inductive CareOp (ι υ π : Type) where
  | grant (items : List GrantItem) (bookAddr : ℕ → Addr)
  | applyPos (C : UserChecks) (pkt : ApplyPos)
  | applyPosCards (uids : List ℕ) (kind value : ℕ) (checkWork : CardPiece → ℕ → ErrNum)
  | applyOutPos (uid : ℕ)
  | applyOutPosCards (uids : List ℕ)
  | lock (uid : ℕ) (lock : Bool)
  | sell (O : Outside ι) (uid : ℕ)
  | lvUp (O : Outside ι) (req : GrowReq) (ignoreCost : Bool)
  | skillLvUp (O : Outside ι) (req : GrowReq) (ignoreCost : Bool)
  | wake (O : Outside ι) (req : GrowReq) (ignoreCost : Bool)
  | favor (charTID : ℕ) (gapExp : ℤ) (maxErr : Bool)
  | newConfirm (tid : ℕ)
  | getFavorReward (user : υ) (products : π) (tid stateIdx : ℕ)

variable {ι κ υ ρ π : Type}

section

variable (E : Env) (T : CareTables ι κ) (F : FlagEnv υ ρ π) (P : ProductTables)

/-- the material cards of an accepted growth -/
def delMaters (s : St) (uids : List ℕ) : St := uids.foldl (fun s uid => (doDel E s uid).2) s

def serveCare (s : St) : CareOp ι υ π → St
  | .grant items bookAddr => serveBook E P s (.grant items bookAddr)
  | .applyPos C pkt => serve E s (.applyPos C pkt)
  | .applyPosCards uids kind value checkWork => serve E s (.applyPosCards uids kind value checkWork)
  | .applyOutPos uid => serve E s (.applyOutPos uid)
  | .applyOutPosCards uids => serve E s (.applyOutPosCards uids)
  | .lock uid lock =>
    match isCanLockFlag E s uid lock with
    | .error _ => s
    | .ok _ => (doSetLock s uid lock).2
  | .sell O uid =>
    match isCanSell E T s O uid with
    | .error _ => s
    | .ok pkt => (doDel E s pkt.cardUID).2
  | .lvUp O req ignoreCost =>
    match isCanLvUp E T s O req ignoreCost with
    | .error _ => s
    | .ok pkt => delMaters E (doSetLvUpInfo s pkt.grow).2 pkt.maters
  | .skillLvUp O req ignoreCost =>
    match isCanSkillLvUp E T.toGrowTables s O.userGold req ignoreCost with
    | .error _ => s
    | .ok pkt => delMaters E (doSetSkillLvUpInfo s (skillGrowAck pkt).grow).2 (skillGrowAck pkt).maters
  | .wake O req ignoreCost =>
    match isCanWake E T s O req ignoreCost with
    | .error _ => s
    | .ok pkt => delMaters E (doSetWakeInfo s pkt.grow).2 pkt.maters
  | .favor charTID gapExp maxErr =>
    match isCanChangeExpInFavor E T s charTID gapExp maxErr with
    | .ok (some book) => (doUpdateBook s [book]).2
    | _ => s
  | .newConfirm tid =>
    match isCanBookNewConfirm E F s ⟨tid, 0⟩ with
    | .error _ => s
    | .ok pkt => (doSetBookState E s pkt.bookTID pkt.retStateFlag).2
  | .getFavorReward user products tid stateIdx =>
    match isCanGetFavorReward E F s user products tid stateIdx with
    | .error _ => s
    | .ok pkt => (doSetBookState E s pkt.tid pkt.stateFlag).2

/-- a grant gets new UIDs and unused objects; no exp is taken away; the levels of the skill materials add up in 8 bits -/
def legalCare (s : St) : CareOp ι υ π → Prop
  | .grant items bookAddr => CanGrant E P s items bookAddr ∧ (items.map GrantItem.uid).Nodup ∧
      (items.map GrantItem.addr).Nodup ∧ ∀ item ∈ items, s.cont item.uid = none ∧ ∀ u, s.cont u ≠ some item.addr
  | .lvUp O _ _ => ∀ gains, 0 ≤ O.addExp gains
  | .favor _ gapExp _ => 0 ≤ gapExp
  | .skillLvUp _ req _ => exactSkillLv T.toGrowTables s req < 2 ^ 8
  | _ => True

/-! ## Good contents -/

variable {s t : St}

/-- levels within their limits, and the flag of the last one in the book -/
structure CardGood (s : St) (c : CardPiece) : Prop where
  lv : c.lv ≤ T.getMaxLevel c.tableID c.wake
  skill : c.skillLv ≤ T.cardMaxSkillLevel
  flagged : ∀ b, c.book = some b → 1 < c.lv → T.getMaxLevel c.tableID c.wake ≤ c.lv → T.isMaxWake c.tableID c.wake = true →
    (s.books b).isOnFlag T.maxWakeAndLv = true

structure BookGood (b : BookPiece) : Prop where
  favor : b.favorLv ≤ T.cardFavorMaxLevel
  flagged : T.cardFavorMaxLevel ≤ b.favorLv → b.isOnFlag T.maxFavorLv = true

structure Sound (s : St) : Prop where
  booked : Booked E s
  keyed : KeyedCards E s
  cards : ∀ u a, s.cont u = some a → CardGood T s (s.cards a)
  books : ∀ tid b, s.bookCont tid = some b → BookGood T (s.books b)

/-- what a grant fills in is within the limits -/
structure NewPieces : Prop where
  lv : P.newCard.lv ≤ 1
  skill : P.newCard.skillLv ≤ T.cardMaxSkillLevel
  favor : P.newBook.favorLv < T.cardFavorMaxLevel

end

/-! ## What a request can do -/

/-- a card keeps its kind, and its progress -/
structure Grown (c d : CardPiece) : Prop where
  tableID : d.tableID = c.tableID
  level : c.wake < d.wake ∨ c.wake = d.wake ∧ c.lv ≤ d.lv
  skill : c.skillLv ≤ d.skillLv

/-- a book keeps its flags and its favor level -/
structure BookGrown (b d : BookPiece) : Prop where
  tableID : d.tableID = b.tableID
  flags : Within b.stateFlag d.stateFlag
  favor : b.favorLv ≤ d.favorLv

/-- the cards of `gone` go, those of `turned` may be unlocked, the rest grows -/
structure Effect (E : Env) (T : CareTables ι κ) (s t : St) (gone turned : List ℕ) : Prop where
  cont : ∀ u, t.cont u = if u ∈ gone then none else s.cont u
  unused : ∀ u ∈ gone, ∀ a, s.cont u = some a → (s.cards a).lock = false ∧ (s.cards a).posKind = E.kNone
  nullCard : t.msNullCard.isNull E = s.msNullCard.isNull E
  nullBook : t.msNullBook = s.msNullBook
  bookCont : t.bookCont = s.bookCont
  same : ∀ u a, u ∉ gone → s.cont u = some a →
    (t.cards a).cardUID = (s.cards a).cardUID ∧ (t.cards a).book = (s.cards a).book
  grown : ∀ u a, u ∉ gone → s.cont u = some a → Grown (s.cards a) (t.cards a)
  good : ∀ u a, u ∉ gone → s.cont u = some a → CardGood T t (t.cards a)
  locks : ∀ u a, u ∉ gone → u ∉ turned → s.cont u = some a → (s.cards a).lock = true → (t.cards a).lock = true
  books : ∀ tid b, s.bookCont tid = some b → BookGrown (s.books b) (t.books b) ∧ BookGood T (t.books b)

section

variable {E : Env} {T : CareTables ι κ} {F : FlagEnv υ ρ π} {P : ProductTables} {s t : St}

theorem Grown.refl (c : CardPiece) : Grown c c := ⟨rfl, Or.inr ⟨rfl, le_rfl⟩, le_rfl⟩

theorem Grown.trans {c d e : CardPiece} (h : Grown c d) (h' : Grown d e) : Grown c e := by
  refine ⟨h'.tableID.trans h.tableID, ?_, h.skill.trans h'.skill⟩
  have hcd := h.level
  have hde := h'.level
  omega

theorem BookGrown.refl (b : BookPiece) : BookGrown b b := ⟨rfl, Within.refl _, le_rfl⟩

theorem BookGrown.trans {b c d : BookPiece} (h : BookGrown b c) (h' : BookGrown c d) : BookGrown b d :=
  ⟨h'.tableID.trans h.tableID, h.flags.trans h'.flags, h.favor.trans h'.favor⟩

/-- flags in the books are there to stay -/
theorem CardGood.later {c : CardPiece} (h : CardGood T s c)
    (hbooks : ∀ b, c.book = some b → Within (s.books b).stateFlag (t.books b).stateFlag) : CardGood T t c :=
  ⟨h.lv, h.skill, fun b hb hlv hmax hwake => hbooks b hb _ (h.flagged b hb hlv hmax hwake)⟩

/-- what a card needs is in a few of its fields -/
theorem CardGood.congr {c d : CardPiece} (h : CardGood T s c) (htid : d.tableID = c.tableID) (hlv : d.lv = c.lv)
    (hwake : d.wake = c.wake) (hskill : d.skillLv = c.skillLv) (hbook : d.book = c.book) : CardGood T s d := by
  refine ⟨?_, ?_, ?_⟩
  · rw [htid, hlv, hwake]
    exact h.lv
  · rw [hskill]
    exact h.skill
  · rw [htid, hlv, hwake, hbook]
    exact h.flagged

theorem BookGood.congr {b d : BookPiece} (h : BookGood T b) (hflags : Within b.stateFlag d.stateFlag)
    (hfavor : d.favorLv = b.favorLv) : BookGood T d := by
  refine ⟨hfavor.trans_le h.favor, ?_⟩
  rw [hfavor]
  exact fun hmax => hflags _ (h.flagged hmax)

theorem Sound.book_key (h : Sound E T s) {u a : ℕ} (hu : s.cont u = some a) :
    ∃ b, s.bookCont (s.cards a).tableID = some b ∧ (s.cards a).book = some b := h.booked.cards u a hu

/-- an effect keeps the contents good -/
theorem Effect.sound {gone turned : List ℕ} (he : Effect E T s t gone turned) (h : Sound E T s) : Sound E T t := by
  have hold : ∀ {u a}, t.cont u = some a → u ∉ gone ∧ s.cont u = some a := by
    intro u a hu
    rw [he.cont] at hu
    split_ifs at hu with hgone
    exact ⟨hgone, hu⟩
  refine ⟨⟨?_, ?_, ?_⟩, ⟨?_, ?_⟩, ?_, ?_⟩
  · rw [he.nullBook]
    exact h.booked.null
  · intro tid b hb
    rw [he.bookCont] at hb
    obtain ⟨htid, hvalid⟩ := h.booked.entries tid b hb
    exact ⟨(he.books tid b hb).1.tableID.trans htid, hvalid⟩
  · intro u a hu
    obtain ⟨hgone, hu⟩ := hold hu
    rw [he.bookCont, (he.grown u a hgone hu).tableID, (he.same u a hgone hu).2]
    exact h.booked.cards u a hu
  · intro u a hu
    obtain ⟨hgone, hu⟩ := hold hu
    exact (he.same u a hgone hu).1.trans (h.keyed.keys u a hu)
  · rw [he.nullCard]
    exact h.keyed.null
  · intro u a hu
    obtain ⟨hgone, hu⟩ := hold hu
    exact he.good u a hgone hu
  · intro tid b hb
    rw [he.bookCont] at hb
    exact (he.books tid b hb).2

/-- nothing happens -/
theorem Sound.idle (h : Sound E T s) (turned : List ℕ) : Effect E T s s [] turned where
  cont u := by simp
  unused := by simp
  nullCard := rfl
  nullBook := rfl
  bookCont := rfl
  same u a _ _ := ⟨rfl, rfl⟩
  grown u a _ _ := Grown.refl _
  good u a _ hu := h.cards u a hu
  locks u a _ _ _ hlock := hlock
  books tid b hb := ⟨BookGrown.refl _, h.books tid b hb⟩

/-! ## Deletions -/

/-- two UIDs do not share a card -/
def Unshared (s : St) : Prop := ∀ u u' a, s.cont u = some a → s.cont u' = some a → u = u'

theorem KeyedCards.unshared (h : KeyedCards E s) : Unshared s := fun u u' a hu hu' =>
  (h.keys u a hu).symm.trans (h.keys u' a hu')

/-- the cards of `gone` go, and nothing else changes -/
structure Removed (s t : St) (gone : List ℕ) : Prop where
  cont : ∀ u, t.cont u = if u ∈ gone then none else s.cont u
  cards : ∀ u a, u ∉ gone → s.cont u = some a → t.cards a = s.cards a
  nullCard : t.msNullCard = s.msNullCard
  nullBook : t.msNullBook = s.msNullBook
  bookCont : t.bookCont = s.bookCont
  books : t.books = s.books

theorem Removed.unshared {gone : List ℕ} (h : Removed s t gone) (hs : Unshared s) : Unshared t := by
  intro u u' a hu hu'
  rw [h.cont] at hu hu'
  split_ifs at hu hu'
  exact hs u u' a hu hu'

theorem doDel_removed (hs : Unshared s) (uid : ℕ) : Removed s (doDel E s uid).2 [uid] := by
  unfold doDel
  cases ha : s.cont uid with
  | none =>
    refine ⟨fun u => ?_, fun u a _ _ => rfl, rfl, rfl, rfl, rfl⟩
    split_ifs with hu
    · rw [List.mem_singleton.1 hu, ha]
    · rfl
  | some a =>
    dsimp only
    obtain ⟨g, hg⟩ := doDelPosValue_frame E s (s.cards a).posKind (s.cards a).posValue (s.cards a).posSlotNum
    rw [hg]
    refine ⟨fun u => ?_, fun u b hgone hu => ?_, rfl, rfl, rfl, rfl⟩
    · refine (Function.update_apply s.cont uid none u).trans ?_
      simp
    · refine Function.update_of_ne ?_ _ _
      rintro rfl
      exact hgone (List.mem_singleton.2 (hs u uid b hu ha))

theorem delMaters_removed (hs : Unshared s) (uids : List ℕ) : Removed s (delMaters E s uids) uids := by
  induction uids generalizing s with
  | nil => exact ⟨fun u => by simp [delMaters], fun u a _ _ => rfl, rfl, rfl, rfl, rfl⟩
  | cons uid uids ih =>
    have hfirst := doDel_removed (E := E) hs uid
    have hrest := ih (hfirst.unshared hs)
    refine ⟨fun u => ?_, fun u a hgone hu => ?_, hrest.nullCard.trans hfirst.nullCard,
      hrest.nullBook.trans hfirst.nullBook, hrest.bookCont.trans hfirst.bookCont, hrest.books.trans hfirst.books⟩
    · refine (hrest.cont u).trans ?_
      rw [hfirst.cont]
      by_cases hu : u = uid <;> simp [hu]
    · obtain ⟨hne, hgone⟩ := not_or.1 (mt List.mem_cons.2 hgone)
      have hcont : (doDel E s uid).2.cont u = some a := by
        rw [hfirst.cont, if_neg (by simpa using hne), hu]
      exact (hrest.cards u a hgone hcont).trans (hfirst.cards u a (by simpa using hne) hu)

/-- cards that are in no use may go -/
theorem Removed.effect {gone : List ℕ} (h : Removed s t gone) (hs : Sound E T s)
    (hunused : ∀ u ∈ gone, ∀ a, s.cont u = some a → (s.cards a).lock = false ∧ (s.cards a).posKind = E.kNone) :
    Effect E T s t gone [] where
  cont := h.cont
  unused := hunused
  nullCard := by rw [h.nullCard]
  nullBook := h.nullBook
  bookCont := h.bookCont
  same u a hgone hu := by rw [h.cards u a hgone hu]; exact ⟨rfl, rfl⟩
  grown u a hgone hu := by rw [h.cards u a hgone hu]; exact Grown.refl _
  good u a hgone hu := by
    rw [h.cards u a hgone hu]
    exact (hs.cards u a hu).later fun b _ => by rw [h.books]; exact Within.refl _
  locks u a hgone _ hu hlock := by rwa [h.cards u a hgone hu]
  books tid b hb := by rw [h.books]; exact ⟨BookGrown.refl _, hs.books tid b hb⟩

/-- one effect after another, of which the second only removes -/
theorem Effect.removed {t' : St} {gone turned : List ℕ} (he : Effect E T s t [] turned) (h : Removed t t' gone)
    (hunused : ∀ u ∈ gone, ∀ a, s.cont u = some a → (s.cards a).lock = false ∧ (s.cards a).posKind = E.kNone) :
    Effect E T s t' gone turned := by
  have hcont : ∀ u, t.cont u = s.cont u := fun u => (he.cont u).trans (by simp)
  have hcard : ∀ {u a}, u ∉ gone → s.cont u = some a → t'.cards a = t.cards a := fun hgone hu =>
    h.cards _ _ hgone ((hcont _).trans hu)
  refine ⟨fun u => by rw [h.cont, hcont], hunused, by rw [h.nullCard, he.nullCard], h.nullBook.trans he.nullBook,
    h.bookCont.trans he.bookCont, ?_, ?_, ?_, ?_, ?_⟩
  · intro u a hgone hu
    rw [hcard hgone hu]
    exact he.same u a (by simp) hu
  · intro u a hgone hu
    rw [hcard hgone hu]
    exact he.grown u a (by simp) hu
  · intro u a hgone hu
    rw [hcard hgone hu]
    exact (he.good u a (by simp) hu).later fun b _ => by rw [h.books]; exact Within.refl _
  · intro u a hgone hturned hu
    rw [hcard hgone hu]
    exact he.locks u a (by simp) hturned hu
  · intro tid b hb
    rw [h.books]
    exact he.books tid b hb

/-! ## Placements -/

/-- a card without its position -/
def CardPiece.noPos (c : CardPiece) : CardPiece := { c with posKind := 0, posValue := 0, posSlotNum := 0 }

/-- only positions have changed -/
structure SameButPos (s t : St) : Prop where
  cont : t.cont = s.cont
  bookCont : t.bookCont = s.bookCont
  books : t.books = s.books
  nullBook : t.msNullBook = s.msNullBook
  card : ∀ p, (t.card p).noPos = (s.card p).noPos

theorem SameButPos.refl (s : St) : SameButPos s s := ⟨rfl, rfl, rfl, rfl, fun _ => rfl⟩

theorem SameButPos.trans {t' : St} (h : SameButPos s t) (h' : SameButPos t t') : SameButPos s t' :=
  ⟨h'.cont.trans h.cont, h'.bookCont.trans h.bookCont, h'.books.trans h.books, h'.nullBook.trans h.nullBook,
    fun p => (h'.card p).trans (h.card p)⟩

theorem SameButPos.setCard (h : SameButPos s t) (p : Option Addr) {f : CardPiece → CardPiece}
    (hf : ∀ c, (f c).noPos = c.noPos) : SameButPos s (t.setCard p f) := by
  refine h.trans ⟨by simp, by simp, ?_, ?_, fun q => ?_⟩
  · cases p <;> rfl
  · cases p <;> rfl
  · cases p with
    | none =>
      cases q with
      | none => exact hf _
      | some b => rfl
    | some a =>
      cases q with
      | none => rfl
      | some b =>
        change (Function.update t.cards a (f (t.cards a)) b).noPos = (t.cards b).noPos
        rcases eq_or_ne b a with rfl | hne
        · rw [Function.update_self, hf]
        · rw [Function.update_of_ne hne]

theorem SameButPos.addPos (h : SameButPos s t) (p : Option Addr) (k v n : ℕ) :
    SameButPos s (doAddPosValue E t p k v n) := by
  obtain ⟨g, hg⟩ := doAddPosValue_frame E t p k v n
  rw [hg]
  exact ⟨h.cont, h.bookCont, h.books, h.nullBook, h.card⟩

theorem SameButPos.delPos (h : SameButPos s t) (k v n : ℕ) : SameButPos s (doDelPosValue E t k v n) := by
  obtain ⟨g, hg⟩ := doDelPosValue_frame E t k v n
  rw [hg]
  exact ⟨h.cont, h.bookCont, h.books, h.nullBook, h.card⟩

theorem SameButPos.reset (h : SameButPos s t) (p : Option Addr) : SameButPos s (t.setCard p (·.resetPosInfo E)) :=
  h.setCard p fun _ => rfl

theorem SameButPos.putAt (h : SameButPos s t) (p : Option Addr) (k v n : ℕ) : SameButPos s (putAt E t p k v n) :=
  (h.addPos p k v n).setCard p fun _ => rfl

theorem SameButPos.delPosUid (h : SameButPos s t) (uid : ℕ) : SameButPos s (doDelPosValueUid E t uid).2 := by
  unfold doDelPosValueUid
  dsimp only
  split_ifs
  · exact h
  · exact (h.delPos _ _ _).reset _

theorem SameButPos.applyPosCards (h : SameButPos s t) (infos : List SlotPos) :
    SameButPos s (doSetApplyPosCards E t infos).2 := by
  induction infos generalizing t with
  | nil => exact h
  | cons info infos ih =>
    rw [doSetApplyPosCards]
    split_ifs
    · exact h
    · exact ih (h.putAt _ _ _ _)

theorem SameButPos.outPosCards (h : SameButPos s t) (uids : List ℕ) : SameButPos s (doSetApplyOutPosCards E t uids).2 := by
  induction uids generalizing t with
  | nil => exact h
  | cons uid uids ih =>
    rw [doSetApplyOutPosCards]
    split_ifs
    · exact h.delPosUid uid
    · exact ih (h.delPosUid uid)

theorem SameButPos.applyPosCard (h : SameButPos s t) (pkt : ApplyPos) : SameButPos s (doSetApplyPosCard E t pkt).2 := by
  unfold doSetApplyPosCard
  dsimp only
  split_ifs
  · exact (h.delPos _ _ _).putAt _ _ _ _
  · exact ((h.delPos _ _ _).putAt _ _ _ _).reset _
  · exact (((h.delPos _ _ _).putAt _ _ _ _).reset _).putAt _ _ _ _

/-- a placement is no matter of levels and books -/
theorem SameButPos.effect (h : SameButPos s t) (hs : Sound E T s) : Effect E T s t [] [] := by
  have hfield : ∀ {α : Type} (g : CardPiece → α), (∀ c, g c.noPos = g c) → ∀ p, g (t.card p) = g (s.card p) := by
    intro α g hg p
    rw [← hg (t.card p), h.card, hg]
  have hcards := fun {α : Type} (g : CardPiece → α) (hg : ∀ c, g c.noPos = g c) (a : Addr) => hfield g hg (some a)
  have htid := hcards CardPiece.tableID fun _ => rfl
  have hlv := hcards CardPiece.lv fun _ => rfl
  have hwake := hcards CardPiece.wake fun _ => rfl
  have hskill := hcards CardPiece.skillLv fun _ => rfl
  have hbook := hcards CardPiece.book fun _ => rfl
  refine ⟨by simp [h.cont], by simp, hfield (CardPiece.isNull E) (fun _ => rfl) none, h.nullBook, h.bookCont, ?_, ?_, ?_,
    ?_, ?_⟩
  · intro u a _ _
    exact ⟨hcards CardPiece.cardUID (fun _ => rfl) a, hbook a⟩
  · intro u a _ _
    exact ⟨htid a, Or.inr ⟨(hwake a).symm, (hlv a).ge⟩, (hskill a).ge⟩
  · intro u a _ hu
    refine CardGood.congr ?_ (htid a) (hlv a) (hwake a) (hskill a) (hbook a)
    exact (hs.cards u a hu).later fun b _ => by rw [h.books]; exact Within.refl _
  · intro u a _ _ _ hlock
    exact (hcards CardPiece.lock (fun _ => rfl) a).trans hlock
  · intro tid b hb
    rw [h.books]
    exact ⟨BookGrown.refl _, hs.books tid b hb⟩

/-! ## One card, one book -/

/-- a book is replaced by what it has become -/
theorem Sound.replaceBook (hs : Sound E T s) {tid b : ℕ} {book : BookPiece} (hb : s.bookCont tid = some b)
    (hgrown : BookGrown (s.books b) book) (hgood : BookGood T book) :
    Effect E T s { s with books := Function.update s.books b book } [] [] := by
  have hbooks : ∀ x, BookGrown (s.books x) (Function.update s.books b book x) := by
    intro x
    rcases eq_or_ne x b with rfl | hne
    · rwa [Function.update_self]
    · rw [Function.update_of_ne hne]
      exact BookGrown.refl _
  refine ⟨by simp, by simp, rfl, rfl, rfl, fun u a _ _ => ⟨rfl, rfl⟩, fun u a _ _ => Grown.refl _, ?_,
    fun u a _ _ _ hlock => hlock, ?_⟩
  · intro u a _ hu
    exact (hs.cards u a hu).later fun x _ => (hbooks x).flags
  · intro tid' x hx
    refine ⟨hbooks x, ?_⟩
    change BookGood T (Function.update s.books b book x)
    rcases eq_or_ne x b with rfl | hne
    · rwa [Function.update_self]
    · rw [Function.update_of_ne hne]
      exact hs.books tid' x hx

/-- then one card changes -/
theorem Effect.setCard {turned : List ℕ} (he : Effect E T s t [] turned) (hs : Unshared s) {uid a₀ : ℕ}
    (huid : s.cont uid = some a₀) {f : CardPiece → CardPiece}
    (hsame : (f (t.cards a₀)).cardUID = (t.cards a₀).cardUID ∧ (f (t.cards a₀)).book = (t.cards a₀).book)
    (hgrown : Grown (s.cards a₀) (f (t.cards a₀))) (hgood : CardGood T t (f (t.cards a₀)))
    (hlock : uid ∉ turned → (t.cards a₀).lock = true → (f (t.cards a₀)).lock = true) :
    Effect E T s (t.setCard (some a₀) f) [] turned := by
  have hcard : ∀ {u a} (Q : CardPiece → Prop), s.cont u = some a → (u = uid → Q (f (t.cards a₀))) →
      (a ≠ a₀ → Q (t.cards a)) → Q ((t.setCard (some a₀) f).cards a) := by
    intro u a Q hu hself hother
    rw [setCard_some_cards]
    rcases eq_or_ne a a₀ with rfl | hne
    · rw [Function.update_self]
      exact hself (hs u uid a hu huid)
    · rw [Function.update_of_ne hne]
      exact hother hne
  refine ⟨he.cont, by simp, he.nullCard, he.nullBook, he.bookCont, ?_, ?_, ?_, ?_, he.books⟩
  · intro u a hgone hu
    refine hcard (fun c => c.cardUID = (s.cards a).cardUID ∧ c.book = (s.cards a).book) hu ?_ fun _ => he.same u a hgone hu
    rintro rfl
    obtain rfl := Option.some.inj (hu.symm.trans huid)
    obtain ⟨huid', hbook'⟩ := he.same u a hgone hu
    exact ⟨hsame.1.trans huid', hsame.2.trans hbook'⟩
  · intro u a hgone hu
    refine hcard (Grown (s.cards a)) hu ?_ fun _ => he.grown u a hgone hu
    rintro rfl
    obtain rfl := Option.some.inj (hu.symm.trans huid)
    exact hgrown
  · intro u a hgone hu
    exact hcard (CardGood T (t.setCard (some a₀) f)) hu (fun _ => hgood.later fun _ _ => Within.refl _) fun _ =>
      (he.good u a hgone hu).later fun _ _ => Within.refl _
  · intro u a hgone hturned hu hold
    refine hcard (fun c => c.lock = true) hu ?_ fun _ => he.locks u a hgone hturned hu hold
    rintro rfl
    obtain rfl := Option.some.inj (hu.symm.trans huid)
    exact hlock hturned (he.locks u a hgone hturned hu hold)

/-- a card that is not null is there -/
theorem Sound.owned (hs : Sound E T s) {uid : ℕ} (h : (s.card (s.getInst uid)).isNull E = false) :
    ∃ a, s.cont uid = some a ∧ s.card (s.getInst uid) = s.cards a := by
  unfold St.getInst at h ⊢
  cases huid : s.cont uid with
  | none =>
    rw [huid] at h
    exact absurd (hs.keyed.null.symm.trans h) (by decide)
  | some a => exact ⟨a, rfl, rfl⟩

theorem Sound.ownedBook (hs : Sound E T s) {tid : ℕ} (h : (s.bookOf tid).isNull E = false) :
    ∃ b, s.bookCont tid = some b ∧ s.bookOf tid = s.books b := by
  unfold St.bookOf St.getBookInst at h ⊢
  cases htid : s.bookCont tid with
  | none =>
    rw [htid] at h
    exact absurd (hs.booked.null.symm.trans h) (by decide)
  | some b => exact ⟨b, rfl, rfl⟩

theorem doUpdateBook_one {book : BookPiece} {b : ℕ} (hb : s.bookCont book.tableID = some b) :
    (doUpdateBook s [book]).2 = { s with books := Function.update s.books b book } := by
  simp [doUpdateBook, St.getBookInst, hb, St.setBook]

/-! ## Growth -/

/-- an accepted growth of the card at `a`: progress within the limits, and the flag of the last level if it is not there -/
structure GrowOk (T : CareTables ι κ) (s : St) (a : Addr) (g : CardGrow) : Prop where
  found : s.cont g.targetUID = some a
  level : (s.cards a).wake < g.retWake ∨ (s.cards a).wake = g.retWake ∧ (s.cards a).lv ≤ g.retLv
  lv : g.retLv ≤ T.getMaxLevel (s.cards a).tableID g.retWake
  skill : (s.cards a).skillLv ≤ g.retSkillLv ∧ g.retSkillLv ≤ T.cardMaxSkillLevel
  books : (g.bookState = [] ∧ (1 < g.retLv → T.getMaxLevel (s.cards a).tableID g.retWake ≤ g.retLv →
      T.isMaxWake (s.cards a).tableID g.retWake = true → (s.book (s.cards a).book).isOnFlag T.maxWakeAndLv = true)) ∨
    g.bookState = [{ s.book (s.cards a).book with
      stateFlag := turnOn (s.book (s.cards a).book).stateFlag T.maxWakeAndLv }]

/-- what `__DoApplyCommonGrow` writes -/
def CardGrow.write (g : CardGrow) (c : CardPiece) : CardPiece :=
  { c with exp := g.retExp, lv := g.retLv, wake := g.retWake, skillLv := g.retSkillLv }

theorem GrowOk.effect {a : Addr} {g : CardGrow} (h : GrowOk T s a g) (hs : Sound E T s) :
    Effect E T s (doApplyCommonGrow s g).2 [] [] := by
  have hshared := hs.keyed.unshared
  obtain ⟨b, hb, hbook⟩ := hs.book_key h.found
  have hgrown : Grown (s.cards a) (g.write (s.cards a)) := ⟨rfl, h.level, h.skill.1⟩
  have hbooks := h.books
  rw [hbook] at hbooks
  unfold doApplyCommonGrow
  rw [St.getInst, h.found]
  rcases hbooks with ⟨hnil, hflag⟩ | hone
  · rw [hnil]
    refine (hs.idle []).setCard (f := g.write) hshared h.found ⟨rfl, rfl⟩ hgrown ⟨h.lv, h.skill.2, ?_⟩ fun _ hlock => hlock
    intro x hx
    obtain rfl : b = x := Option.some.inj (hbook.symm.trans hx)
    exact hflag
  · rw [hone]
    have hkey : (s.books b).tableID = (s.cards a).tableID := (hs.booked.entries _ b hb).1
    have hgain : Within (s.books b).stateFlag (turnOn (s.books b).stateFlag T.maxWakeAndLv) := within_turnOn _ _
    have hbookGrown : BookGrown (s.books b) { s.books b with stateFlag := turnOn (s.books b).stateFlag T.maxWakeAndLv } :=
      ⟨rfl, hgain, le_rfl⟩
    have heffect := hs.replaceBook hb hbookGrown ((hs.books _ b hb).congr hgain rfl)
    dsimp only
    rw [doUpdateBook_one (b := b) (by rw [setCard_bookCont]; exact hkey ▸ hb)]
    refine heffect.setCard (f := g.write) hshared h.found ⟨rfl, rfl⟩ hgrown ⟨h.lv, h.skill.2, ?_⟩ fun _ hlock => hlock
    intro x hx _ _ _
    obtain rfl : b = x := Option.some.inj (hbook.symm.trans hx)
    change (Function.update s.books b _ b).isOnFlag T.maxWakeAndLv = true
    rw [Function.update_self]
    exact testBit_turnOn_self

/-- what `__IsCanChangeExp` gives to a card below its last level -/
theorem isCanChangeExp_ok {piece : CardPiece} {gapExp : ℤ} {lv exp : ℕ} {bookState : List BookPiece}
    (h : isCanChangeExp E T s piece gapExp true = .ok (lv, exp, bookState)) (hgap : 0 ≤ gapExp) :
    piece.isNull E = false ∧ piece.lv ≤ lv ∧ lv ≤ T.getMaxLevel piece.tableID piece.wake ∧
      (bookState = [] ∧ (T.getMaxLevel piece.tableID piece.wake ≤ lv → T.isMaxWake piece.tableID piece.wake = true →
          (s.book piece.book).isOnFlag T.maxWakeAndLv = true) ∨
        bookState = [{ s.book piece.book with stateFlag := turnOn (s.book piece.book).stateFlag T.maxWakeAndLv }]) := by
  unfold isCanChangeExp at h
  dsimp only at h
  split_ifs at h with hzero hnull htable hmax htrue
  · exact absurd rfl htrue
  split at h
  · cases h
  · rename_i lv' exp' hadd
    have hle := T.lv_le_maxLv _ _ _ _ _ _ hadd
    have hge := T.le_lv _ _ _ _ _ _ (Nat.le_of_lt (Nat.lt_of_not_le hmax)) hgap hadd
    dsimp only at hle hge
    refine ⟨by simpa using hnull, ?_⟩
    split_ifs at h with hflag
    · obtain ⟨rfl, hrest⟩ := Prod.mk.inj (Except.ok.inj h)
      obtain ⟨rfl, rfl⟩ := Prod.mk.inj hrest
      exact ⟨hge, hle, Or.inr rfl⟩
    · obtain ⟨rfl, hrest⟩ := Prod.mk.inj (Except.ok.inj h)
      obtain ⟨rfl, rfl⟩ := Prod.mk.inj hrest
      refine ⟨hge, hle, Or.inl ⟨rfl, fun hlast hwake => ?_⟩⟩
      by_contra hoff
      exact hflag ⟨hlast, hwake, by simpa using hoff⟩

/-- materials are other cards, unlocked and in no use -/
theorem materials_unused {T' : GrowTables ι κ} {a : Addr} {uid : ℕ} {maters : List ℕ}
    (hfound : s.cont uid = some a) (hmaters : ∀ u ∈ maters, Material E T' s (s.cards a).cardUID u) :
    (∀ u ∈ maters, ∀ b, s.cont u = some b → (s.cards b).lock = false ∧ (s.cards b).posKind = E.kNone) ∧ uid ∉ maters := by
  have hcard : ∀ {u b}, s.cont u = some b → s.card (s.getInst u) = s.cards b := by
    intro u b hu
    rw [St.getInst, hu]
    rfl
  constructor
  · intro u hu b hb
    have hmater := hmaters u hu
    refine ⟨?_, ?_⟩
    · rw [← hcard hb]
      exact hmater.unlocked
    · rw [← hcard hb]
      exact hmater.unused
  · intro hmem
    refine (hmaters uid hmem).not_target ?_
    rw [hcard hfound]

/-- an accepted level-up -/
theorem isCanLvUp_ok {O : Outside ι} {req : GrowReq} {ignoreCost : Bool} {pkt : CardGrowAck κ} (hs : Sound E T s)
    (hexp : ∀ gains, 0 ≤ O.addExp gains) (h : isCanLvUp E T s O req ignoreCost = .ok pkt) :
    ∃ a, GrowOk T s a pkt.grow ∧ ∀ u ∈ pkt.maters, Material E T.toGrowTables s (s.cards a).cardUID u := by
  unfold isCanLvUp at h
  dsimp only at h
  split_ifs at h with hgold
  split at h
  · cases h
  · rename_i gains materItems hcheck
    split at h
    · cases h
    · rename_i lv exp bookState hchange
      obtain rfl := Except.ok.inj h
      obtain ⟨hnull, hge, hle, hbooks⟩ := isCanChangeExp_ok hchange (hexp gains)
      obtain ⟨-, -, -, hmaters, -⟩ := isCheckCommonGrow_ok hcheck
      obtain ⟨a, ha, hpiece⟩ := hs.owned hnull
      rw [hpiece] at hge hle hbooks hmaters
      have hgood := hs.cards _ a ha
      refine ⟨a, ⟨ha, Or.inr ⟨by rw [hpiece], hge⟩, ?_, ?_, ?_⟩, hmaters⟩
      · rw [hpiece]
        exact hle
      · rw [hpiece]
        exact ⟨le_rfl, hgood.skill⟩
      · rw [hpiece]
        exact hbooks.imp_left fun hnil => ⟨hnil.1, fun _ => hnil.2⟩

/-- an accepted skill level-up, if the levels add up in 8 bits -/
theorem skillGrow_ok (hcalls : CallsOnce T.toGrowTables) {gold : ℕ} {req : GrowReq} {ignoreCost : Bool} {pkt : SkillLvUp κ}
    (hs : Sound E T s) (hsum : exactSkillLv T.toGrowTables s req < 2 ^ 8)
    (h : isCanSkillLvUp E T.toGrowTables s gold req ignoreCost = .ok pkt) :
    ∃ a, GrowOk T s a (skillGrowAck pkt).grow ∧
      ∀ u ∈ (skillGrowAck pkt).maters, Material E T.toGrowTables s (s.cards a).cardUID u := by
  obtain ⟨hlt, hret⟩ := isCanSkillLvUp_ok hcalls h
  rw [Nat.mod_eq_of_lt hsum] at hret
  have hexact : (s.card (s.getInst req.targetUID)).skillLv ≤ exactSkillLv T.toGrowTables s req := by
    rw [exactSkillLv]
    omega
  unfold isCanSkillLvUp at h
  extract_lets piece lvUpCost at h
  split_ifs at h with hgold hmax
  split at h
  · cases h
  · rename_i skillLv materItems hcheck
    have hnull : piece.isNull E = false := by
      unfold isCheckCommonGrow at hcheck
      split_ifs at hcheck with hnull
      simpa using hnull
    obtain ⟨-, -, -, hmaters, -⟩ := isCheckCommonGrow_ok hcheck
    obtain ⟨a, ha, hpiece⟩ := hs.owned hnull
    have hcard : piece = s.cards a := hpiece
    rw [hpiece] at hlt hexact
    rw [hcard] at hmaters h
    have hgood := hs.cards _ a ha
    obtain rfl := Except.ok.inj h
    refine ⟨a, ⟨ha, Or.inr ⟨rfl, le_rfl⟩, hgood.lv, ?_, Or.inl ⟨rfl, ?_⟩⟩, hmaters⟩
    · exact ⟨(le_min hlt.le hexact).trans_eq hret.symm, hret.trans_le (min_le_left _ _)⟩
    · intro hlv hlast hwake
      obtain ⟨b, -, hbook⟩ := hs.book_key ha
      rw [hbook]
      exact hgood.flagged b hbook hlv hlast hwake

/-- an accepted wake starts at level 1 again -/
theorem isCanWake_ok {O : Outside ι} {req : GrowReq} {ignoreCost : Bool} {pkt : CardGrowAck κ} (hs : Sound E T s)
    (h : isCanWake E T s O req ignoreCost = .ok pkt) : (∃ a, GrowOk T s a pkt.grow) ∧ pkt.maters = [] := by
  unfold isCanWake at h
  dsimp only at h
  split_ifs at h with hnull htable hwake hlv hmater
  split at h
  · cases h
  · obtain rfl := Except.ok.inj h
    obtain ⟨a, ha, hpiece⟩ := hs.owned (by simpa using hnull)
    rw [hpiece]
    have hgood := hs.cards _ a ha
    refine ⟨⟨a, ha, Or.inl (Nat.lt_succ_self _), T.one_le_maxLevel _ _, ⟨le_rfl, hgood.skill⟩, Or.inl ⟨rfl, ?_⟩⟩, rfl⟩
    intro hlt
    exact absurd hlt (Nat.lt_irrefl 1)

/-! ## Books -/

/-- an accepted gain of favor -/
theorem isCanChangeExpInFavor_ok {charTID : ℕ} {gapExp : ℤ} {maxErr : Bool} {book : BookPiece} (hs : Sound E T s)
    (hgap : 0 ≤ gapExp) (h : isCanChangeExpInFavor E T s charTID gapExp maxErr = .ok (some book)) :
    ∃ b, s.bookCont charTID = some b ∧ BookGrown (s.books b) book ∧ BookGood T book := by
  unfold isCanChangeExpInFavor at h
  dsimp only at h
  split_ifs at h with hzero hnull hmax hmaxErr
  · cases Except.ok.inj h
  · obtain ⟨b, hb, hbook⟩ := hs.ownedBook (by simpa using hnull)
    obtain rfl := Option.some.inj (Except.ok.inj h)
    rw [hbook]
    exact ⟨b, hb, BookGrown.refl _, hs.books _ b hb⟩
  · obtain ⟨b, hb, hbook⟩ := hs.ownedBook (by simpa using hnull)
    rw [hbook] at h hmax
    split at h
    · cases h
    · rename_i lv exp hadd
      have hle := T.lv_le_maxLv _ _ _ _ _ _ hadd
      have hge := T.le_lv _ _ _ _ _ _ (Nat.le_of_lt (Nat.lt_of_not_le hmax)) hgap hadd
      have hgood := hs.books _ b hb
      obtain rfl := Option.some.inj (Except.ok.inj h)
      refine ⟨b, hb, ⟨rfl, ?_, hge⟩, hle, fun hlast => ?_⟩
      · dsimp only
        split_ifs
        · exact within_turnOn _ _
        · exact Within.refl _
      · dsimp only at hlast
        unfold BookPiece.isOnFlag
        dsimp only
        split_ifs with hflag
        · exact testBit_turnOn_self
        · by_contra hoff
          exact hflag ⟨hlast, by simpa [BookPiece.isOnFlag] using hoff⟩

theorem Sound.updateBook (hs : Sound E T s) {tid b : ℕ} {book : BookPiece} (hb : s.bookCont tid = some b)
    (hgrown : BookGrown (s.books b) book) (hgood : BookGood T book) : Effect E T s (doUpdateBook s [book]).2 [] [] := by
  have hkey : book.tableID = tid := hgrown.tableID.trans (hs.booked.entries tid b hb).1
  rw [doUpdateBook_one (hkey ▸ hb)]
  exact hs.replaceBook hb hgrown hgood

/-- flags are switched on in a book that is there -/
theorem Sound.bookState (hs : Sound E T s) {tid w : ℕ} (hnull : (s.bookOf tid).isNull E = false)
    (hw : Within (s.bookOf tid).stateFlag w) : Effect E T s (doSetBookState E s tid w).2 [] [] := by
  obtain ⟨b, hb, hbook⟩ := hs.ownedBook hnull
  have hset : (doSetBookState E s tid w).2 =
      { s with books := Function.update s.books b { s.books b with stateFlag := w } } := by
    unfold doSetBookState
    rw [St.bookOf] at hnull
    dsimp only
    rw [if_neg (by simp [hnull]), St.getBookInst, hb]
    rfl
  rw [hset]
  rw [hbook] at hw
  exact hs.replaceBook hb ⟨rfl, hw, le_rfl⟩ ((hs.books tid b hb).congr hw rfl)

/-! ## Requests other than grants -/

/-- the cards that a request may unlock -/
def CareOp.turned : CareOp ι υ π → List ℕ
  | .lock uid false => [uid]
  | _ => []

/-- a growth, and its materials -/
theorem GrowOk.used (hs : Sound E T s) {a : Addr} {g : CardGrow} {maters : List ℕ} (h : GrowOk T s a g)
    (hmaters : ∀ u ∈ maters, Material E T.toGrowTables s (s.cards a).cardUID u) :
    Effect E T s (delMaters E (doApplyCommonGrow s g).2 maters) maters [] := by
  have heffect := h.effect hs
  have hunshared : Unshared (doApplyCommonGrow s g).2 := (heffect.sound hs).keyed.unshared
  exact heffect.removed (delMaters_removed hunshared maters) (materials_unused h.found hmaters).1

/-- **What a request can do**, grants apart. -/
theorem serveCare_effect (hcalls : CallsOnce T.toGrowTables) (hs : Sound E T s) (op : CareOp ι υ π)
    (hl : legalCare E T P s op) (hop : ∀ items bookAddr, op ≠ .grant items bookAddr) :
    ∃ gone, Effect E T s (serveCare E T F P s op) gone op.turned := by
  have hplace : ∀ {t : St} {turned : List ℕ}, SameButPos s t → turned = [] → ∃ gone, Effect E T s t gone turned := by
    rintro t turned h rfl
    exact ⟨[], h.effect hs⟩
  cases op with
  | grant items bookAddr => exact absurd rfl (hop items bookAddr)
  | applyPos C pkt =>
    refine hplace ?_ rfl
    rw [serveCare, serve]
    split
    · exact SameButPos.refl s
    · exact (SameButPos.refl s).applyPosCard _
  | applyPosCards uids kind value checkWork =>
    refine hplace ?_ rfl
    rw [serveCare, serve]
    split
    · exact (SameButPos.refl s).applyPosCards _
    · exact SameButPos.refl s
  | applyOutPos uid => exact hplace ((SameButPos.refl s).delPosUid uid) rfl
  | applyOutPosCards uids => exact hplace ((SameButPos.refl s).outPosCards uids) rfl
  | lock uid lock =>
    rw [serveCare]
    split
    · exact ⟨[], hs.idle _⟩
    · rename_i hok
      have hnull : (s.card (s.getInst uid)).isNull E = false := by
        unfold isCanLockFlag at hok
        dsimp only at hok
        split_ifs at hok with hnull
        simpa using hnull
      obtain ⟨a, ha, -⟩ := hs.owned hnull
      have hgood := hs.cards uid a ha
      refine ⟨[], ?_⟩
      unfold doSetLock
      rw [St.getInst, ha]
      refine (hs.idle _).setCard (f := fun c => { c with lock := lock }) hs.keyed.unshared ha ⟨rfl, rfl⟩
        ⟨rfl, Or.inr ⟨rfl, le_rfl⟩, le_rfl⟩ (hgood.congr rfl rfl rfl rfl rfl) fun hturned _ => ?_
      cases lock with
      | true => rfl
      | false => exact absurd (List.mem_singleton_self uid) hturned
  | sell O uid =>
    rw [serveCare]
    split
    · exact ⟨[], hs.idle _⟩
    · rename_i pkt hok
      unfold isCanSell at hok
      split at hok
      · cases hok
      · rename_i piece hsell
        obtain rfl := Except.ok.inj hok
        -- any other target would do
        obtain ⟨-, hmaterial⟩ := isCheckCanSell_ok hsell (Nat.succ_ne_self piece.cardUID)
        refine ⟨[uid], (doDel_removed hs.keyed.unshared uid).effect hs fun u hu a ha => ?_⟩
        obtain rfl := List.mem_singleton.1 hu
        have hunlocked := hmaterial.unlocked
        have hunused := hmaterial.unused
        rw [St.getInst, ha] at hunlocked hunused
        exact ⟨hunlocked, hunused⟩
  | lvUp O req ignoreCost =>
    rw [serveCare]
    split
    · exact ⟨[], hs.idle _⟩
    · rename_i pkt hok
      obtain ⟨a, hgrow, hmaters⟩ := isCanLvUp_ok hs hl hok
      exact ⟨pkt.maters, hgrow.used hs hmaters⟩
  | skillLvUp O req ignoreCost =>
    rw [serveCare]
    split
    · exact ⟨[], hs.idle _⟩
    · rename_i pkt hok
      obtain ⟨a, hgrow, hmaters⟩ := skillGrow_ok hcalls hs hl hok
      exact ⟨_, hgrow.used hs hmaters⟩
  | wake O req ignoreCost =>
    rw [serveCare]
    split
    · exact ⟨[], hs.idle _⟩
    · rename_i pkt hok
      obtain ⟨⟨a, hgrow⟩, hmaters⟩ := isCanWake_ok hs hok
      refine ⟨pkt.maters, hgrow.used hs ?_⟩
      rw [hmaters]
      simp
  | favor charTID gapExp maxErr =>
    rw [serveCare]
    split
    · rename_i book hok
      obtain ⟨b, hb, hgrown, hgood⟩ := isCanChangeExpInFavor_ok hs hl hok
      exact ⟨[], hs.updateBook hb hgrown hgood⟩
    · exact ⟨[], hs.idle _⟩
  | newConfirm tid =>
    rw [serveCare]
    split
    · exact ⟨[], hs.idle _⟩
    · rename_i pkt hok
      obtain ⟨hfor, -⟩ := newConfirm_for hok
      have htid : pkt.bookTID = tid := by
        unfold isCanBookNewConfirm at hok
        dsimp only at hok
        split_ifs at hok
        rw [← Except.ok.inj hok]
      have hword : pkt.retStateFlag = turnOn (s.bookOf tid).stateFlag F.newChk := hfor.word
      rw [htid, hword]
      exact ⟨[], hs.bookState hfor.notNull (within_turnOn _ _)⟩
  | getFavorReward user products tid stateIdx =>
    rw [serveCare]
    split
    · exact ⟨[], hs.idle _⟩
    · rename_i pkt hok
      obtain ⟨hfor, -⟩ := getFavorReward_for hok
      have htid : pkt.tid = tid := by
        unfold isCanGetFavorReward at hok
        dsimp only at hok
        split_ifs at hok
        split at hok
        · cases hok
        · split_ifs at hok
          split at hok
          · cases hok
          · split at hok
            · cases hok
            · split_ifs at hok
              rw [← Except.ok.inj hok]
      have hword : pkt.stateFlag = turnOn (s.bookOf tid).stateFlag stateIdx := hfor.word
      rw [htid, hword]
      exact ⟨[], hs.bookState hfor.notNull (within_turnOn _ _)⟩

end

end GameServer.Card
