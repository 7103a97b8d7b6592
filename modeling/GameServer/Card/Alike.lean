/-
The same reads and the same writes on two contents that are alike (`Alike` of `Reload`). `C++/CardContents.cpp`.

- `Alike.setCard`, `Alike.setBook`, `Alike.removed`: the same write on both sides;
- `isCanLvUp_alike` and the like: a validator accepts on both sides or on neither, with the same packet;
- `Alike.grant`: the same pieces in other objects;
- `Alike.applyPosCard` and the like: the placements find their cards by UID.
A material carries the pointer to its book. So what counts the materials must not depend on pointers
(`Outside.PointerBlind`). The item check does not see what its callback captures, and so it treats that state alike
(`StateBlind`).
-/
import Mathlib.Tactic
import GameServer.Core.Matched
import GameServer.Card.NullObject
import GameServer.Card.Settled

namespace GameServer.Card

open GameServer.Core GameServer.Core.Flags

variable {ι κ υ ρ π : Type} {E : Env} {T : CareTables ι κ} {F : FlagEnv υ ρ π} {P : ProductTables} {s t : St}

/-! ## Writes on both sides -/

theorem Alike.pos (h : Alike s t) (g g' : ℕ → ℕ → Option InstVec) :
    Alike { s with posCont := g } { t with posCont := g' } := ⟨h.cards, h.books⟩

theorem Alike.delPos (h : Alike s t) (k v n k' v' n' : ℕ) :
    Alike (doDelPosValue E s k v n) (doDelPosValue E t k' v' n') := by
  obtain ⟨g, hg⟩ := doDelPosValue_frame E s k v n
  obtain ⟨g', hg'⟩ := doDelPosValue_frame E t k' v' n'
  rw [hg, hg']
  exact h.pos g g'

theorem Alike.addPos (h : Alike s t) (p p' : Option Addr) (k v n : ℕ) :
    Alike (doAddPosValue E s p k v n) (doAddPosValue E t p' k v n) := by
  obtain ⟨g, hg⟩ := doAddPosValue_frame E s p k v n
  obtain ⟨g', hg'⟩ := doAddPosValue_frame E t p' k v n
  rw [hg, hg']
  exact h.pos g g'

/-- the card of one UID is written, on the objects of both sides -/
theorem Alike.setCard (h : Alike s t) (hs : Unshared s) (ht : Unshared t) (uid : ℕ) {p p' : Option Addr}
    (hp : p = s.cont uid) (hp' : p' = t.cont uid) {f : CardPiece → CardPiece}
    (hf : ∀ c d : CardPiece, c.noBook = d.noBook → (f c).noBook = (f d).noBook) :
    Alike (s.setCard p f) (t.setCard p' f) := by
  rcases h.card uid with ⟨hnone, hnone'⟩ | ⟨a, b, ha, hb, heq⟩
  · rw [hp, hp', hnone, hnone']
    exact ⟨h.cards, h.books⟩
  · rw [hp, hp', ha, hb]
    refine ⟨?_, h.books⟩
    calc (cardHeap (s.setCard (some a) f)).view CardPiece.noBook
        = Function.update ((cardHeap s).view CardPiece.noBook) uid (some (f (s.cards a)).noBook) :=
          Heap.view_write (h := cardHeap s) hs ha
      _ = Function.update ((cardHeap t).view CardPiece.noBook) uid (some (f (t.cards b)).noBook) := by
          rw [h.cards, hf _ _ heq]
      _ = (cardHeap (t.setCard (some b) f)).view CardPiece.noBook := (Heap.view_write (h := cardHeap t) ht hb).symm

/-- two table ids do not share a book -/
def UnsharedBooks (s : St) : Prop := ∀ tid tid' a, s.bookCont tid = some a → s.bookCont tid' = some a → tid = tid'

theorem Booked.unshared (h : Booked E s) : UnsharedBooks s := fun tid tid' a ha ha' =>
  (h.entries tid a ha).1.symm.trans (h.entries tid' a ha').1

theorem Alike.setBook (h : Alike s t) (hs : UnsharedBooks s) (ht : UnsharedBooks t) (tid : ℕ) (f : BookPiece → BookPiece) :
    Alike (s.setBook (s.getBookInst tid) f) (t.setBook (t.getBookInst tid) f) := by
  unfold St.getBookInst
  rcases h.book tid with ⟨hnone, hnone'⟩ | ⟨a, b, ha, hb, heq⟩
  · rw [hnone, hnone']
    exact ⟨h.cards, h.books⟩
  · rw [ha, hb]
    refine ⟨h.cards, ?_⟩
    calc (bookHeap (s.setBook (some a) f)).view id
        = Function.update ((bookHeap s).view id) tid (some (f (s.books a))) := Heap.view_write (h := bookHeap s) hs ha
      _ = Function.update ((bookHeap t).view id) tid (some (f (t.books b))) := by rw [h.books, heq]
      _ = (bookHeap (t.setBook (some b) f)).view id := (Heap.view_write (h := bookHeap t) ht hb).symm

theorem Alike.updateBook (h : Alike s t) (hs : UnsharedBooks s) (ht : UnsharedBooks t) (books : List BookPiece) :
    Alike (doUpdateBook s books).2 (doUpdateBook t books).2 := by
  unfold doUpdateBook
  dsimp only
  induction books generalizing s t with
  | nil => exact h
  | cons b books ih =>
    have hkeys : ∀ s : St, (s.setBook (s.getBookInst b.tableID) fun _ => b).bookCont = s.bookCont := fun s =>
      setBook_bookCont _ _
    refine ih (h.setBook hs ht b.tableID fun _ => b) ?_ ?_
    · unfold UnsharedBooks
      rw [hkeys]
      exact hs
    · unfold UnsharedBooks
      rw [hkeys]
      exact ht

theorem Alike.removed {s' t' : St} {gone : List ℕ} (h : Alike s t) (hs : Removed s s' gone) (ht : Removed t t' gone) :
    Alike s' t' := by
  have hview : ∀ {s s' : St}, Removed s s' gone → ∀ u, (cardHeap s').view CardPiece.noBook u =
      if u ∈ gone then none else (cardHeap s).view CardPiece.noBook u := by
    intro s s' hr u
    change (s'.cont u).map (fun a => (s'.cards a).noBook) = _
    rw [hr.cont]
    split_ifs with hgone
    · rfl
    · exact Option.map_congr fun a ha => by rw [hr.cards u a hgone ha]; rfl
  have hbooks : ∀ {s s' : St}, Removed s s' gone → bookHeap s' = bookHeap s := by
    intro s s' hr
    rw [bookHeap, bookHeap, hr.bookCont, hr.books]
  refine ⟨funext fun u => ?_, ?_⟩
  · rw [hview hs, hview ht, h.cards]
  · rw [hbooks hs, hbooks ht, h.books]

/-! ## Reads on both sides -/

/-- a lookup finds nothing on both sides, or cards that differ in their pointers at most -/
theorem Alike.lookup (h : Alike s t) (hs : KeyedCards E s) (ht : KeyedCards E t) (uid : ℕ) :
    (s.card (s.getInst uid)).isNull E = true ∧ (t.card (t.getInst uid)).isNull E = true ∨
      ∃ p a b, s.cont uid = some a ∧ t.cont uid = some b ∧ t.card (t.getInst uid) = t.cards b ∧
        s.card (s.getInst uid) = { t.cards b with book := p } := by
  unfold St.getInst
  rcases h.card uid with ⟨hnone, hnone'⟩ | ⟨a, b, ha, hb, heq⟩
  · rw [hnone, hnone']
    exact Or.inl ⟨hs.null, ht.null⟩
  · rw [ha, hb]
    obtain ⟨p, hcard⟩ := noBook_eq heq
    exact Or.inr ⟨p, a, b, rfl, rfl, rfl, hcard⟩

theorem Alike.bookOf (h : Alike s t) (hs : Booked E s) (ht : Booked E t) (tid : ℕ) :
    (s.bookOf tid).isNull E = true ∧ (t.bookOf tid).isNull E = true ∨ s.bookOf tid = t.bookOf tid := by
  unfold St.bookOf St.getBookInst
  rcases h.book tid with ⟨hnone, hnone'⟩ | ⟨a, b, ha, hb, heq⟩
  · rw [hnone, hnone']
    exact Or.inl ⟨hs.null, ht.null⟩
  · rw [ha, hb]
    exact Or.inr heq

/-- the books that two such cards point to -/
theorem Alike.bookOfCard (h : Alike s t) (hs : Booked E s) (ht : Booked E t) {uid : ℕ} {a b : Addr}
    (ha : s.cont uid = some a) (hb : t.cont uid = some b) : s.book (s.cards a).book = t.book (t.cards b).book := by
  obtain ⟨x, hx, hbook⟩ := hs.cards uid a ha
  obtain ⟨y, hy, hbook'⟩ := ht.cards uid b hb
  rw [hbook, hbook']
  rcases h.card uid with ⟨hnone, -⟩ | ⟨a', b', ha', hb', heq⟩
  · rw [hnone] at ha
    cases ha
  · obtain rfl := Option.some.inj (ha'.symm.trans ha)
    obtain rfl := Option.some.inj (hb'.symm.trans hb)
    have htid : (s.cards a').tableID = (t.cards b').tableID := by
      obtain ⟨p, hcard⟩ := noBook_eq heq
      rw [hcard]
    rw [← htid] at hy
    rcases h.book (s.cards a').tableID with ⟨hnone, -⟩ | ⟨x', y', hx', hy', hsame⟩
    · rw [hnone] at hx
      cases hx
    · obtain rfl := Option.some.inj (hx'.symm.trans hx)
      obtain rfl := Option.some.inj (hy'.symm.trans hy)
      exact hsame

/-- the same card but for its pointer -/
def SameCard (c d : CardPiece) : Prop := ∃ p, c = { d with book := p }

/-- `IsCanLockFlag` -/
theorem isCanLockFlag_alike (h : Alike s t) (hs : KeyedCards E s) (ht : KeyedCards E t) (uid : ℕ) (lock : Bool) :
    Matched Eq (isCanLockFlag E s uid lock) (isCanLockFlag E t uid lock) := by
  unfold isCanLockFlag
  rcases h.lookup hs ht uid with ⟨hnull, hnull'⟩ | ⟨p, a, b, -, -, ht, hs⟩
  · dsimp only
    rw [if_pos hnull, if_pos hnull']
    trivial
  · rw [hs, ht]
    exact Matched.of_eq rfl

/-- `__IsCheckCanSell` -/
theorem isCheckCanSell_alike {G : GrowTables ι κ} (h : Alike s t) (hs : KeyedCards E s) (ht : KeyedCards E t) (uid : ℕ) :
    Matched SameCard (isCheckCanSell E G s uid) (isCheckCanSell E G t uid) := by
  unfold isCheckCanSell
  rcases h.lookup hs ht uid with ⟨hnull, hnull'⟩ | ⟨p, a, b, -, -, ht, hs⟩
  · dsimp only
    rw [if_pos hnull, if_pos hnull']
    trivial
  · rw [hs, ht]
    refine Matched.guard fun _ => Matched.guard fun _ => Matched.guard fun _ => ?_
    have hkind : isCheckUseKind E { t.cards b with book := p } = isCheckUseKind E (t.cards b) := rfl
    rw [hkind]
    cases isCheckUseKind E (t.cards b) with
    | error e => exact trivial
    | ok u => exact ⟨p, rfl⟩

/-- `IsCanSell` -/
theorem isCanSell_alike (h : Alike s t) (hs : KeyedCards E s) (ht : KeyedCards E t) (O : Outside ι) (uid : ℕ) :
    Matched Eq (isCanSell E T s O uid) (isCanSell E T t O uid) := by
  unfold isCanSell
  rcases (isCheckCanSell_alike (G := T.toGrowTables) h hs ht uid).cases with ⟨e, e', hv, hv'⟩ | ⟨c, d, hv, hv', p, rfl⟩
  · rw [hv, hv']
    exact trivial
  · rw [hv, hv']
    exact rfl

/-! ## Growth on both sides -/

/-- the item check hands the state of its callback on and does nothing else with it -/
def StateBlind (G : GrowTables ι κ) : Prop :=
  ∀ {σ : Type} (Q : σ → σ → Prop) (work : σ → ι → ℕ → Except GrowErr σ) (items : List ItemCnt),
    (∀ st st' piece cnt, Q st st' → Matched Q (work st piece cnt) (work st' piece cnt)) → ∀ st st', Q st st' →
      Matched (fun x y => Q x.1 y.1 ∧ x.2 = y.2) (G.isCheckItemWhenGetResult work st items)
        (G.isCheckItemWhenGetResult work st' items)

section

variable {G : GrowTables ι κ} {σ : Type} {Q : σ → σ → Prop} {work : σ → CardPiece → Except GrowErr σ}
  {itemWork : σ → ι → ℕ → Except GrowErr σ}

theorem materialLoop_alike (h : Alike s t) (hs : KeyedCards E s) (ht : KeyedCards E t)
    (hwork : ∀ st st' c d, Q st st' → SameCard c d → Matched Q (work st c) (work st' d)) (target : ℕ) (maters : List ℕ)
    {st st' : σ} (hst : Q st st') :
    Matched Q (materialLoop E G s target work maters st) (materialLoop E G t target work maters st') := by
  induction maters generalizing st st' with
  | nil => exact hst
  | cons uid maters ih =>
    rw [materialLoop, materialLoop]
    refine Matched.guard fun _ => ?_
    rcases (isCheckCanSell_alike (G := G) h hs ht uid).cases with ⟨e, e', hv, hv'⟩ | ⟨c, d, hv, hv', p, rfl⟩
    · rw [hv, hv']
      exact trivial
    · rw [hv, hv']
      refine Matched.guard fun _ => ?_
      rcases (hwork st st' _ d hst ⟨p, rfl⟩).cases with ⟨e, e', hw, hw'⟩ | ⟨x, y, hw, hw', hxy⟩
      · rw [hw, hw']
        exact trivial
      · rw [hw, hw']
        exact ih hxy

theorem isCheckCommonGrow_alike (hG : StateBlind G) (h : Alike s t) (hs : KeyedCards E s) (ht : KeyedCards E t)
    (hwork : ∀ st st' c d, Q st st' → SameCard c d → Matched Q (work st c) (work st' d))
    (hitem : ∀ st st' piece cnt, Q st st' → Matched Q (itemWork st piece cnt) (itemWork st' piece cnt)) (req : GrowReq)
    (p : Option Addr) (d : CardPiece) (cnt : ℕ) {st st' : σ} (hst : Q st st') :
    Matched (fun x y => Q x.1 y.1 ∧ x.2 = y.2) (isCheckCommonGrow E G s req { d with book := p } work itemWork cnt st)
      (isCheckCommonGrow E G t req d work itemWork cnt st') := by
  unfold isCheckCommonGrow
  refine Matched.guard fun _ => Matched.guard fun _ => Matched.guard fun _ => Matched.guard fun _ => ?_
  rcases (materialLoop_alike (G := G) h hs ht hwork d.cardUID req.maters hst).cases with
    ⟨e, e', hv, hv'⟩ | ⟨x, y, hv, hv', hxy⟩
  · rw [hv, hv']
    exact trivial
  · rw [hv, hv']
    exact hG Q itemWork req.materItems hitem x y hxy

end

/-- `__IsCanChangeExp`, if the two pointers lead to equal books -/
theorem isCanChangeExp_alike {p : Option Addr} {d : CardPiece} (hbook : s.book p = t.book d.book) (gapExp : ℤ)
    (maxErr : Bool) : Matched Eq (isCanChangeExp E T s { d with book := p } gapExp maxErr)
      (isCanChangeExp E T t d gapExp maxErr) := by
  unfold isCanChangeExp
  dsimp only
  rw [hbook]
  exact Matched.of_eq rfl

def Gain.noBook : Gain ι → Gain ι
  | .card mater => .card mater.noBook
  | .item piece cnt => .item piece cnt

/-- the exp of a list of materials does not depend on the pointers in it -/
def Outside.PointerBlind (O : Outside ι) : Prop := ∀ gains, O.addExp (gains.map Gain.noBook) = O.addExp gains

theorem isCanLvUp_null (T : CareTables ι κ) (O : Outside ι) {req : GrowReq} (ignoreCost : Bool)
    (hnull : (s.card (s.getInst req.targetUID)).isNull E = true) :
    ∃ e, isCanLvUp E T s O req ignoreCost = .error e := by
  unfold isCanLvUp
  dsimp only
  split_ifs
  · exact ⟨_, rfl⟩
  · rw [isCheckCommonGrow, if_pos hnull]
    exact ⟨_, rfl⟩

/-- `IsCanLvUp` -/
theorem isCanLvUp_alike (hG : StateBlind T.toGrowTables) (h : Alike s t) (hs : Sound E T s) (ht : Sound E T t)
    {O : Outside ι} (hO : O.PointerBlind) (req : GrowReq) (ignoreCost : Bool) :
    Matched Eq (isCanLvUp E T s O req ignoreCost) (isCanLvUp E T t O req ignoreCost) := by
  rcases h.lookup hs.keyed ht.keyed req.targetUID with ⟨hnull, hnull'⟩ | ⟨p, a, b, ha, hb, hcard', hcard⟩
  · obtain ⟨e, he⟩ := isCanLvUp_null T O ignoreCost hnull
    obtain ⟨e', he'⟩ := isCanLvUp_null T O ignoreCost hnull'
    rw [he, he']
    exact trivial
  · have hbook : s.book p = t.book (t.cards b).book := by
      have hsame := h.bookOfCard hs.booked ht.booked ha hb
      have hget : s.card (s.getInst req.targetUID) = s.cards a := by rw [St.getInst, ha]; rfl
      rw [hget] at hcard
      rwa [hcard] at hsame
    unfold isCanLvUp
    rw [hcard, hcard']
    dsimp only
    refine Matched.guard fun _ => ?_
    let Q : List (Gain ι) → List (Gain ι) → Prop := fun gains gains' => gains.map Gain.noBook = gains'.map Gain.noBook
    have hnil : Q [] [] := rfl
    have hwork : ∀ st st' c d, Q st st' → SameCard c d → Matched Q (lvMaterWork st c) (lvMaterWork st' d) := by
      rintro st st' _ d hst ⟨p', rfl⟩
      change (st ++ [_]).map Gain.noBook = (st' ++ [_]).map Gain.noBook
      rw [List.map_append, List.map_append, hst]
      rfl
    have hitem : ∀ st st' piece cnt, Q st st' → Matched Q (lvItemWork T st piece cnt) (lvItemWork T st' piece cnt) := by
      intro st st' piece cnt hst
      refine Matched.guard fun _ => ?_
      change (st ++ [_]).map Gain.noBook = (st' ++ [_]).map Gain.noBook
      rw [List.map_append, List.map_append, hst]
    have hgrow := isCheckCommonGrow_alike hG h hs.keyed ht.keyed hwork hitem req p (t.cards b) T.matCount hnil
    rcases hgrow.cases with ⟨e, e', hv, hv'⟩ | ⟨⟨gains, items⟩, ⟨gains', items'⟩, hv, hv', hgains, hitems⟩
    · rw [hv, hv']
      exact trivial
    · rw [hv, hv']
      dsimp only at hgains hitems ⊢
      have hexp : O.addExp gains = O.addExp gains' := by rw [← hO gains, ← hO gains', hgains]
      rw [hexp]
      rcases (isCanChangeExp_alike (E := E) (T := T) hbook (O.addExp gains') true).cases with
        ⟨e, e', hw, hw'⟩ | ⟨⟨lv, exp, books⟩, y, hw, hw', rfl⟩
      · rw [hw, hw']
        exact trivial
      · rw [hw, hw', hitems]
        exact Eq.refl _

theorem isCanSkillLvUp_null (G : GrowTables ι κ) (gold : ℕ) {req : GrowReq} (ignoreCost : Bool)
    (hnull : (s.card (s.getInst req.targetUID)).isNull E = true) :
    ∃ e, isCanSkillLvUp E G s gold req ignoreCost = .error e := by
  unfold isCanSkillLvUp
  extract_lets piece lvUpCost
  split_ifs
  · exact ⟨_, rfl⟩
  · exact ⟨_, rfl⟩
  · rw [isCheckCommonGrow, if_pos hnull]
    exact ⟨_, rfl⟩

/-- `IsCanSkillLvUp` -/
theorem isCanSkillLvUp_alike {G : GrowTables ι κ} (hG : StateBlind G) (h : Alike s t) (hs : KeyedCards E s)
    (ht : KeyedCards E t) (gold : ℕ) (req : GrowReq) (ignoreCost : Bool) :
    Matched Eq (isCanSkillLvUp E G s gold req ignoreCost) (isCanSkillLvUp E G t gold req ignoreCost) := by
  rcases h.lookup hs ht req.targetUID with ⟨hnull, hnull'⟩ | ⟨p, a, b, -, -, hcard', hcard⟩
  · obtain ⟨e, he⟩ := isCanSkillLvUp_null G gold ignoreCost hnull
    obtain ⟨e', he'⟩ := isCanSkillLvUp_null G gold ignoreCost hnull'
    rw [he, he']
    exact trivial
  · unfold isCanSkillLvUp
    rw [hcard, hcard']
    dsimp only
    refine Matched.guard fun _ => Matched.guard fun _ => ?_
    have hwork : ∀ st st' c d, st = st' → SameCard c d → Matched Eq (skillMaterWork (t.cards b).tableID st c)
        (skillMaterWork (t.cards b).tableID st' d) := by
      rintro st _ _ d rfl ⟨p', rfl⟩
      exact Matched.of_eq rfl
    have hitem : ∀ st st' piece cnt, st = st' → Matched Eq (skillItemWork G (G.getGrade (t.cards b).tableID) st piece cnt)
        (skillItemWork G (G.getGrade (t.cards b).tableID) st' piece cnt) := by
      rintro st _ piece cnt rfl
      exact Matched.of_eq rfl
    have hgrow := isCheckCommonGrow_alike hG h hs ht hwork hitem req p (t.cards b) G.maxMaterCnt
      (Eq.refl (t.cards b).skillLv)
    rcases hgrow.cases with ⟨e, e', hv, hv'⟩ | ⟨⟨lv, items⟩, ⟨lv', items'⟩, hv, hv', hlv, hitems⟩
    · rw [hv, hv']
      exact trivial
    · rw [hv, hv']
      dsimp only at hlv hitems ⊢
      rw [hlv, hitems]
      exact Eq.refl _

/-- `IsCanWake` -/
theorem isCanWake_alike (h : Alike s t) (hs : KeyedCards E s) (ht : KeyedCards E t) (O : Outside ι) (req : GrowReq)
    (ignoreCost : Bool) : Matched Eq (isCanWake E T s O req ignoreCost) (isCanWake E T t O req ignoreCost) := by
  unfold isCanWake
  rcases h.lookup hs ht req.targetUID with ⟨hnull, hnull'⟩ | ⟨p, a, b, -, -, hcard', hcard⟩
  · dsimp only
    rw [if_pos hnull, if_pos hnull']
    exact trivial
  · rw [hcard, hcard']
    exact Matched.of_eq rfl

/-! ## Books on both sides -/

/-- `IsCanChangeExpInFavor` -/
theorem isCanChangeExpInFavor_alike (h : Alike s t) (hs : Booked E s) (ht : Booked E t) (charTID : ℕ) (gapExp : ℤ)
    (maxErr : Bool) : Matched Eq (isCanChangeExpInFavor E T s charTID gapExp maxErr)
      (isCanChangeExpInFavor E T t charTID gapExp maxErr) := by
  unfold isCanChangeExpInFavor
  dsimp only
  refine Matched.ite (Eq.refl none) ?_
  rcases h.bookOf hs ht charTID with ⟨hnull, hnull'⟩ | heq
  · rw [if_pos hnull, if_pos hnull']
    exact trivial
  · rw [heq]
    exact Matched.of_eq rfl

/-- `IsCanBookNewConfirm` -/
theorem isCanBookNewConfirm_alike (h : Alike s t) (hs : Booked E s) (ht : Booked E t) (pkt : BookNewConfirm) :
    Matched Eq (isCanBookNewConfirm E F s pkt) (isCanBookNewConfirm E F t pkt) := by
  unfold isCanBookNewConfirm
  dsimp only
  rcases h.bookOf hs ht pkt.bookTID with ⟨hnull, hnull'⟩ | heq
  · rw [if_pos hnull, if_pos hnull']
    exact trivial
  · rw [heq]
    exact Matched.of_eq rfl

/-- `IsCanGetFavorReward` -/
theorem isCanGetFavorReward_alike (h : Alike s t) (hs : Booked E s) (ht : Booked E t) (user : υ) (products : π)
    (tid stateIdx : ℕ) :
    Matched Eq (isCanGetFavorReward E F s user products tid stateIdx)
      (isCanGetFavorReward E F t user products tid stateIdx) := by
  unfold isCanGetFavorReward
  dsimp only
  rcases h.bookOf hs ht tid with ⟨hnull, hnull'⟩ | heq
  · rw [if_pos hnull, if_pos hnull']
    exact trivial
  · rw [heq]
    exact Matched.of_eq rfl

theorem Alike.bookState (h : Alike s t) (hs : Booked E s) (ht : Booked E t) (tid w : ℕ) :
    Alike (doSetBookState E s tid w).2 (doSetBookState E t tid w).2 := by
  unfold doSetBookState
  dsimp only
  have hset := h.setBook hs.unshared ht.unshared tid fun b => { b with stateFlag := w }
  rcases h.bookOf hs ht tid with ⟨hnull, hnull'⟩ | heq
  · rw [St.bookOf] at hnull hnull'
    rw [if_pos hnull, if_pos hnull']
    exact h
  · rw [St.bookOf, St.bookOf] at heq
    rw [heq]
    split_ifs
    · exact h
    · exact hset

/-! ## Grants on both sides -/

/-- a grant but for the objects of the pool -/
def GrantItem.told (item : GrantItem) : ℕ × Bool × ℕ := (item.tid, item.lock, item.uid)

theorem doMakeProducts_alike (h : Alike s t) (hs : Booked E s) (ht : Booked E t) {items items' : List GrantItem}
    (hitems : items.map GrantItem.told = items'.map GrantItem.told) (pack : ProductPack) :
    doMakeProducts E P s pack items = doMakeProducts E P t pack items' := by
  have hexist : ∀ tid, isExistCardBook E s tid = isExistCardBook E t tid := by
    intro tid
    rw [Bool.eq_iff_iff, hs.isExistCardBook_iff, ht.isExistCardBook_iff]
    rcases h.book tid with ⟨hnone, hnone'⟩ | ⟨a, b, ha, hb, -⟩
    · rw [hnone, hnone']
    · rw [ha, hb]
      simp
  have hmake : ∀ pack tid lock, doMakeProduct E P s pack tid lock = doMakeProduct E P t pack tid lock := by
    intro pack tid lock
    unfold doMakeProduct
    rw [hexist]
  have htold : ∀ (s : St) (items : List GrantItem), doMakeProducts E P s pack items =
      (items.map GrantItem.told).foldlM (fun pack k => doMakeProduct E P s pack k.1 k.2.1) pack := by
    intro s items
    rw [List.foldlM_map]
    rfl
  rw [htold, htold, hitems]
  congr 1
  funext pack k
  exact hmake pack k.1 k.2.1

/-- what the cards of a pack say, whatever their objects -/
theorem packCards_told (pack : ProductPack) (items : List GrantItem) :
    (pack.packCards items).map (fun c => (c.1.cardUID, c.1.noBook)) =
      (pack.cards.zip (items.map GrantItem.told)).map fun x => (x.2.2.2, ({ x.1 with cardUID := x.2.2.2 }).noBook) := by
  rw [ProductPack.packCards, List.map_map, List.zip_map_right, List.map_map]
  rfl

theorem Alike.grant (h : Alike s t) (hs : Sound E T s) (ht : Sound E T t) {items items' : List GrantItem}
    {bookAddr bookAddr' : ℕ → Addr} (hitems : items.map GrantItem.told = items'.map GrantItem.told)
    (hl : legalCare E T P s (.grant items bookAddr : CareOp ι υ π))
    (hl' : legalCare E T P t (.grant items' bookAddr' : CareOp ι υ π)) :
    Alike (serveBook E P s (.grant items bookAddr)) (serveBook E P t (.grant items' bookAddr')) := by
  obtain ⟨pack, hmake, hbooks, hcards, -⟩ := grant_found hs hl
  obtain ⟨pack', hmake', hbooks', hcards', -⟩ := grant_found ht hl'
  rw [doMakeProducts_alike h hs.booked ht.booked hitems] at hmake
  obtain rfl := Except.ok.inj (hmake.symm.trans hmake')
  constructor
  · funext u
    refine Option.ext fun w => ?_
    rw [Heap.view_of_found hcards, Heap.view_of_found hcards', h.cards, List.map_map, List.map_map]
    have htold : ∀ (items : List GrantItem) (bookCont : ℕ → Option Addr), (pack.packCards items).map
        ((fun c : Cell ℕ CardPiece => (c.key, c.value.noBook)) ∘ cardCell bookCont) =
          (pack.packCards items).map fun c => (c.1.cardUID, c.1.noBook) := fun items bookCont => rfl
    rw [htold, htold, packCards_told, packCards_told, hitems]
  · funext tid
    refine Option.ext fun w => ?_
    rw [Heap.view_of_found hbooks, Heap.view_of_found hbooks', h.books, List.map_map, List.map_map]
    have htold : ∀ bookAddr : ℕ → Addr, (pack.packBooks bookAddr).map
        ((fun c : Cell ℕ BookPiece => (c.key, id c.value)) ∘ bookCell) = pack.books.map fun b => (b.tableID, b) := by
      intro bookAddr
      rw [ProductPack.packBooks, List.map_map]
      rfl
    rw [htold, htold]

/-! ## Placements on both sides -/

theorem SameButPos.keyed (h : SameButPos s t) (hs : KeyedCards E s) : KeyedCards E t := by
  have huid : ∀ p, (t.card p).cardUID = (s.card p).cardUID := by
    intro p
    have h' := congrArg CardPiece.cardUID (h.card p)
    exact h'
  have htid : ∀ p, (t.card p).tableID = (s.card p).tableID := by
    intro p
    have h' := congrArg CardPiece.tableID (h.card p)
    exact h'
  refine ⟨fun u a hu => ?_, ?_⟩
  · rw [h.cont] at hu
    exact (huid (some a)).trans (hs.keys u a hu)
  · have hnull : (t.card none).isNull E = (s.card none).isNull E := by
      rw [CardPiece.isNull, CardPiece.isNull, huid, htid]
    exact hnull.trans hs.null

theorem Unshared.congr (h : Unshared s) (hcont : t.cont = s.cont) : Unshared t := by
  unfold Unshared
  rw [hcont]
  exact h

/-- the card of a UID is put at a position -/
theorem Alike.putAt (h : Alike s t) (hs : Unshared s) (ht : Unshared t) (uid : ℕ) {p p' : Option Addr}
    (hp : p = s.cont uid) (hp' : p' = t.cont uid) (k v n : ℕ) : Alike (putAt E s p k v n) (putAt E t p' k v n) := by
  have hcont : (doAddPosValue E s p k v n).cont = s.cont := doAddPosValue_cont ..
  have hcont' : (doAddPosValue E t p' k v n).cont = t.cont := doAddPosValue_cont ..
  refine (h.addPos p p' k v n).setCard (hs.congr hcont) (ht.congr hcont') uid (hp.trans (congrFun hcont uid).symm)
    (hp'.trans (congrFun hcont' uid).symm) fun c d heq => ?_
  obtain ⟨q, rfl⟩ := noBook_eq heq
  rfl

theorem Alike.reset (h : Alike s t) (hs : Unshared s) (ht : Unshared t) (uid : ℕ) {p p' : Option Addr}
    (hp : p = s.cont uid) (hp' : p' = t.cont uid) :
    Alike (s.setCard p (·.resetPosInfo E)) (t.setCard p' (·.resetPosInfo E)) := by
  refine h.setCard hs ht uid hp hp' fun c d heq => ?_
  obtain ⟨q, rfl⟩ := noBook_eq heq
  rfl

/-- a lookup is null on both sides or on neither -/
theorem Alike.isNull (h : Alike s t) (hs : KeyedCards E s) (ht : KeyedCards E t) (uid : ℕ) :
    (s.card (s.getInst uid)).isNull E = (t.card (t.getInst uid)).isNull E := by
  rcases h.lookup hs ht uid with ⟨hnull, hnull'⟩ | ⟨p, a, b, -, -, hcard', hcard⟩
  · rw [hnull, hnull']
  · rw [hcard, hcard']
    rfl

/-- `__DoDelPosValue(uid)` -/
theorem Alike.delPosUid (h : Alike s t) (hs : KeyedCards E s) (ht : KeyedCards E t) (uid : ℕ) :
    (doDelPosValueUid E s uid).1 = (doDelPosValueUid E t uid).1 ∧
      Alike (doDelPosValueUid E s uid).2 (doDelPosValueUid E t uid).2 := by
  unfold doDelPosValueUid
  dsimp only
  rw [h.isNull hs ht]
  split_ifs
  · exact ⟨rfl, h⟩
  · refine ⟨rfl, (h.delPos _ _ _ _ _ _).reset ?_ ?_ uid ?_ ?_⟩
    · exact hs.unshared.congr (doDelPosValue_cont ..)
    · exact ht.unshared.congr (doDelPosValue_cont ..)
    · rw [doDelPosValue_cont]
      rfl
    · rw [doDelPosValue_cont]
      rfl

/-- `DoSetApplyOutPosCards` -/
theorem Alike.outPosCards (h : Alike s t) (hs : KeyedCards E s) (ht : KeyedCards E t) (uids : List ℕ) :
    Alike (doSetApplyOutPosCards E s uids).2 (doSetApplyOutPosCards E t uids).2 := by
  induction uids generalizing s t with
  | nil => exact h
  | cons uid uids ih =>
    obtain ⟨hres, hnext⟩ := h.delPosUid hs ht uid
    rw [doSetApplyOutPosCards, doSetApplyOutPosCards, hres]
    split_ifs
    · exact hnext
    · exact ih hnext (((SameButPos.refl s).delPosUid uid).keyed hs) (((SameButPos.refl t).delPosUid uid).keyed ht)

/-- `DoSetApplyPosCards` -/
theorem Alike.applyPosCards (h : Alike s t) (hs : KeyedCards E s) (ht : KeyedCards E t) (infos : List SlotPos) :
    Alike (doSetApplyPosCards E s infos).2 (doSetApplyPosCards E t infos).2 := by
  induction infos generalizing s t with
  | nil => exact h
  | cons info infos ih =>
    have hput := h.putAt (E := E) hs.unshared ht.unshared info.uid rfl rfl info.kind info.value info.slotNum
    have hnext := ih hput (((SameButPos.refl s).putAt _ _ _ _).keyed hs) (((SameButPos.refl t).putAt _ _ _ _).keyed ht)
    rw [doSetApplyPosCards, doSetApplyPosCards, h.isNull hs ht]
    split_ifs
    · exact h
    · exact hnext

/-- `DoSetApplyPosCard`; both slots are found by UIDs -/
theorem Alike.applyPosCard (h : Alike s t) (hs : KeyedCards E s) (ht : KeyedCards E t) (pkt : ApplyPos) :
    Alike (doSetApplyPosCard E s pkt).2 (doSetApplyPosCard E t pkt).2 := by
  unfold doSetApplyPosCard
  extract_lets p piece s1 s2 old s3 p' piece' t1 t2 old' t3
  have hcont1 : s1.cont = s.cont := doDelPosValue_cont ..
  have hcont1' : t1.cont = t.cont := doDelPosValue_cont ..
  have hcont2 : s2.cont = s.cont := (putAt_cont ..).trans hcont1
  have hcont2' : t2.cont = t.cont := (putAt_cont ..).trans hcont1'
  have hcont3 : s3.cont = s.cont := (setCard_cont ..).trans hcont2
  have hcont3' : t3.cont = t.cont := (setCard_cont ..).trans hcont2'
  have hmoved : Alike s2 t2 := (h.delPos _ _ _ _ _ _).putAt (hs.unshared.congr hcont1) (ht.unshared.congr hcont1')
    pkt.cardUID (congrFun hcont1 pkt.cardUID).symm (congrFun hcont1' pkt.cardUID).symm _ _ _
  have hout : Alike s3 t3 := hmoved.reset (hs.unshared.congr hcont2) (ht.unshared.congr hcont2') _ rfl rfl
  split_ifs
  · exact hmoved
  · exact hout
  · refine hout.putAt (hs.unshared.congr hcont3) (ht.unshared.congr hcont3') pkt.oldCardUID ?_ ?_ _ _ _
    · exact (congrFun hcont2 _).trans (congrFun hcont3 _).symm
    · exact (congrFun hcont2' _).trans (congrFun hcont3' _).symm

end GameServer.Card
