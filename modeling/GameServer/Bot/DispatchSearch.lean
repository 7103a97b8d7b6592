/-
How complete the team search of the stress bot is: `ChkAndGetDispatchOperationPkt` when the slot types do not matter.

A card of grade 4 or more takes a UR place while UR cards are missing. The test for an ordinary card,
`cardCnt > cardUIDs.size()`, compares the number of ordinary places with the size of the whole team, UR cards included,
so an early UR card costs an ordinary place.
- `selectLoop_counts`: the pass fills two quotas, in the visiting order of the table ids;
- `dispatch_complete_iff`: a team is found exactly if there is one and no UR card is among the table ids visited first.
  The answer is right for every rotation only for missions with no UR place or with no ordinary one;
- `dispatch_incomplete`: two cards that are a team in one rotation and none in the other.
-/
import Mathlib.Tactic
import GameServer.Core.TwoQuotas
import GameServer.Core.FirstOf
import GameServer.Bot.Dispatch

namespace GameServer.Bot

open GameServer.Core

section

variable (E : DispatchEnv) (m : DispatchMission)

/-! ## What the cards allow -/

def unplacedCards (cards : List CardData) : List CardData := cards.filter fun card => Unplaced E card

def CardData.isUR (card : CardData) : Bool := decide (4 ≤ card.grade)

/-- the table ids of the unplaced cards -/
def unplacedTIDs (cards : List CardData) : Finset ℕ := ((unplacedCards E cards).map CardData.TID).toFinset

/-- the table ids of the unplaced UR cards -/
def urTIDs (cards : List CardData) : Finset ℕ :=
  (((unplacedCards E cards).filter CardData.isUR).map CardData.TID).toFinset

/-- there are cards enough for a team -/
structure Feasible (cards : List CardData) : Prop where
  enough : m.needCardCnt ≤ (unplacedTIDs E cards).card
  enoughUR : m.NeedURCnt ≤ (urTIDs E cards).card

/-- the first unplaced card of each table id, in visiting order -/
def freshCards (cards : List CardData) : List CardData := firstOf CardData.TID [] (unplacedCards E cards)

/-- no UR card is visited before the ordinary places are filled -/
def NoEarlyUR (cards : List CardData) : Prop :=
  m.NeedURCnt = 0 ∨ ∀ card ∈ (freshCards E cards).take (m.needCardCnt - m.NeedURCnt), card.grade < 4

/-- all cards of one table id have one grade -/
def SameGrade (cards : List CardData) : Prop :=
  ∀ card ∈ cards, ∀ card' ∈ cards, card.TID = card'.TID → card.grade = card'.grade

/-- a mission with places that take every card -/
structure AnyType : Prop where
  types : ∀ i < m.needCardCnt, m.SlotType[i]? = some E.notCheckCondi
  some_card : 0 < m.needCardCnt
  fits : m.needCardCnt ≤ E.slotPosMaxDispatch
  ur : m.NeedURCnt ≤ m.needCardCnt

/-- the dispatch list has a free slot, and `m` is its mission -/
structure FreeSlot (userDispatchList : List DispatchData) (d : DispatchData) : Prop where
  found : findDispatch userDispatchList = some d
  tid : d.TID ≠ 0
  row : E.slotIsNull d.TID = false
  mission : E.missionTable d.MID = some m

/-- a request is sent -/
def Found (userDispatchList : List DispatchData) (userCardList : List CardData) (order : List ℕ) : Prop :=
  ∃ pkt, chkAndGetDispatchOperationPkt E userDispatchList userCardList order = .yes pkt

variable {E m} {all rest : List CardData} {p : Pick} {card : CardData} {seen : List ℕ}

/-- the counts do not depend on the rotation -/
theorem Feasible.of_perm {cards cards' : List CardData} (hperm : cards.Perm cards') (h : Feasible E m cards) :
    Feasible E m cards' := by
  have hunplaced : (unplacedCards E cards).Perm (unplacedCards E cards') := hperm.filter _
  have htids : unplacedTIDs E cards = unplacedTIDs E cards' := List.toFinset_eq_of_perm _ _ (hunplaced.map _)
  have hur : urTIDs E cards = urTIDs E cards' := List.toFinset_eq_of_perm _ _ ((hunplaced.filter _).map _)
  exact ⟨htids ▸ h.enough, hur ▸ h.enoughUR⟩

theorem SameGrade.of_perm {cards cards' : List CardData} (hperm : cards.Perm cards') (h : SameGrade cards) :
    SameGrade cards' :=
  fun card hcard card' hcard' => h card (hperm.mem_iff.2 hcard) card' (hperm.mem_iff.2 hcard')

theorem mem_unplacedCards : card ∈ unplacedCards E all ↔ card ∈ all ∧ Unplaced E card := by
  simp [unplacedCards]

theorem unplacedCards_cons (h : Unplaced E card) : unplacedCards E (card :: all) = card :: unplacedCards E all :=
  List.filter_cons_of_pos (decide_eq_true h)

theorem unplacedCards_cons_placed (h : ¬Unplaced E card) : unplacedCards E (card :: all) = unplacedCards E all :=
  List.filter_cons_of_neg (by simpa using h)

theorem AnyType.cardCnt_eq (hm : AnyType E m) : cardCnt m = m.needCardCnt - m.NeedURCnt := by
  have hwidth := E.slotPosMaxDispatch_lt
  have hfits := hm.fits
  have hur := hm.ur
  unfold cardCnt
  rw [← Nat.cast_sub hur, Int.emod_eq_of_lt (by positivity) (by omega), Int.toNat_natCast]

/-! ## The search fills two quotas -/

def Pick.counts (p : Pick) : ℕ × ℕ := (p.applyCardCnt, p.applyCardURCnt)

/-- a card is refused for good: its place is taken -/
def Refused (m : DispatchMission) (p : Pick) (card : CardData) : Prop :=
  cardCnt m ≤ p.applyCardCnt ∧ ¬(4 ≤ card.grade ∧ p.applyCardURCnt < m.NeedURCnt)

/-- the loop variables after the table ids `seen` -/
structure Searched (m : DispatchMission) (all : List CardData) (p : Pick) (seen : List ℕ) : Prop where
  size : p.cardUIDs.length = p.applyCardCnt
  tids : ∀ tid ∈ p.checkTIDList, tid ∈ seen
  ordinary : p.applyCardCnt ≤ cardCnt m + p.applyCardURCnt
  ur : p.applyCardURCnt ≤ m.NeedURCnt
  refused : ∀ card ∈ all, card.TID ∈ seen → card.TID ∉ p.checkTIDList → Refused m p card

theorem Searched.take (h : Searched m all p seen) {ur : ℕ}
    (hordinary : p.applyCardCnt + 1 ≤ cardCnt m + (p.applyCardURCnt + ur))
    (hur : p.applyCardURCnt + ur ≤ m.NeedURCnt) : Searched m all (p.take card ur) (card.TID :: seen) := by
  refine ⟨?_, ?_, hordinary, hur, ?_⟩
  · rw [Pick.take, List.length_append, List.length_singleton, h.size]
  · intro tid htid
    rcases List.mem_append.1 htid with htid | htid
    · exact List.mem_cons_of_mem _ (h.tids tid htid)
    · rw [List.mem_singleton.1 htid]
      exact List.mem_cons_self
  · intro card' hcard' hseen hnew
    rw [Pick.take, List.mem_append, List.mem_singleton, not_or] at hnew
    have hseen' : card'.TID ∈ seen := (List.mem_cons.1 hseen).resolve_left hnew.2
    obtain ⟨hfull, hno⟩ := h.refused card' hcard' hseen' hnew.1
    refine ⟨hfull.trans (Nat.le_succ _), fun hyes => hno ⟨hyes.1, ?_⟩⟩
    exact lt_of_le_of_lt (Nat.le_add_right _ ur) hyes.2

theorem Searched.refuse (h : Searched m all p seen) (hgrade : SameGrade all) (hmem : card ∈ all)
    (hcard : Refused m p card) :
    Searched m all p (card.TID :: seen) := by
  refine ⟨h.size, fun tid htid => List.mem_cons_of_mem _ (h.tids tid htid), h.ordinary, h.ur, ?_⟩
  intro card' hcard' hseen hnew
  rcases List.mem_cons.1 hseen with heq | hseen'
  · unfold Refused
    rw [hgrade card' hcard' card hmem heq]
    exact hcard
  · exact h.refused card' hcard' hseen' hnew

theorem takeCard_any (hm : AnyType E m) (hlt : p.applyCardCnt < m.needCardCnt) (card : CardData) (ur : ℕ) :
    takeCard E m p card ur = .go (p.take card ur) := by
  unfold takeCard slotRefuses
  rw [hm.types _ hlt]
  simp

theorem visit_skip (h : ¬Unplaced E card ∨ card.TID ∈ p.checkTIDList) : visit E m p card = .skip := by
  unfold visit
  split_ifs with hkind hslot hold
  · rfl
  · rfl
  · rfl
  all_goals
    rcases h with hplaced | hmem
    · exact absurd ⟨(not_not.1 hkind).symm, not_not.1 hslot⟩ hplaced
    · exact absurd hmem hold

theorem visit_refused (hsize : p.cardUIDs.length = p.applyCardCnt) (hcard : Unplaced E card)
    (hnew : card.TID ∉ p.checkTIDList) (hrefused : Refused m p card) : visit E m p card = .go p := by
  unfold visit
  rw [if_neg (not_not.2 hcard.1.symm), if_neg (not_not.2 hcard.2), if_neg hnew, if_neg hrefused.2, hsize,
    if_neg (not_lt.2 hrefused.1)]

/-- a card of a new table id is counted as the quotas say -/
theorem visit_new (hm : AnyType E m) (h : Searched m all p seen) (hgrade : SameGrade all) (hmem : card ∈ all)
    (hcard : Unplaced E card) (hnew : card.TID ∉ seen) (hlt : p.applyCardCnt < m.needCardCnt) :
    ∃ p', visit E m p card = .go p' ∧ Searched m all p' (card.TID :: seen) ∧
      p'.counts = quotaStep (cardCnt m) m.NeedURCnt p.counts card.isUR := by
  have hnew' : card.TID ∉ p.checkTIDList := fun hold => hnew (h.tids _ hold)
  have hordinary := h.ordinary
  have hur := h.ur
  by_cases hwanted : 4 ≤ card.grade ∧ p.applyCardURCnt < m.NeedURCnt
  · refine ⟨p.take card 1, ?_, h.take (by omega) (by omega), ?_⟩
    · unfold visit
      rw [if_neg (not_not.2 hcard.1.symm), if_neg (not_not.2 hcard.2), if_neg hnew', if_pos hwanted, takeCard_any hm hlt]
    · rw [quotaStep, if_pos ⟨decide_eq_true hwanted.1, hwanted.2⟩]
      rfl
  · have hnotUR : ¬(card.isUR = true ∧ p.counts.2 < m.NeedURCnt) :=
      fun hyes => hwanted ⟨of_decide_eq_true hyes.1, hyes.2⟩
    by_cases hroom : p.applyCardCnt < cardCnt m
    · refine ⟨p.take card 0, ?_, h.take (by omega) (by omega), ?_⟩
      · unfold visit
        rw [if_neg (not_not.2 hcard.1.symm), if_neg (not_not.2 hcard.2), if_neg hnew', if_neg hwanted,
          h.size, if_pos hroom, takeCard_any hm hlt]
      · have hroom' : p.counts.1 < cardCnt m := hroom
        rw [quotaStep, if_neg hnotUR, if_pos hroom']
        rfl
    · have hrefused : Refused m p card := ⟨not_lt.1 hroom, hwanted⟩
      refine ⟨p, visit_refused h.size hcard hnew' hrefused, h.refuse hgrade hmem hrefused, ?_⟩
      have hroom' : ¬p.counts.1 < cardCnt m := hroom
      rw [quotaStep, if_neg hnotUR, if_neg hroom']

/-- **The pass fills two quotas**, in the visiting order of the table ids. -/
theorem selectLoop_counts (hm : AnyType E m) (hgrade : SameGrade all) (hsub : ∀ card ∈ rest, card ∈ all)
    (h : Searched m all p seen) (hlt : p.applyCardCnt < m.needCardCnt) :
    ∃ p', selectLoop E m rest p = some p' ∧
      p'.counts = ((firstOf CardData.TID seen (unplacedCards E rest)).map CardData.isUR).foldl
        (quotaStep (cardCnt m) m.NeedURCnt) p.counts := by
  induction rest generalizing p seen with
  | nil => exact ⟨p, rfl, rfl⟩
  | cons card rest ih =>
    have hsub' : ∀ card' ∈ rest, card' ∈ all := fun card' hmem => hsub card' (List.mem_cons_of_mem _ hmem)
    by_cases hcard : Unplaced E card
    · rw [unplacedCards_cons hcard, firstOf]
      by_cases hseen : card.TID ∈ seen
      · rw [if_pos hseen]
        by_cases hold : card.TID ∈ p.checkTIDList
        · rw [selectLoop, visit_skip (Or.inr hold)]
          exact ih hsub' h hlt
        · rw [selectLoop, visit_refused h.size hcard hold (h.refused card (hsub card List.mem_cons_self) hseen hold)]
          dsimp only
          rw [if_neg (not_le.2 hlt)]
          exact ih hsub' h hlt
      · obtain ⟨p', hgo, hsearched, hcounts⟩ := visit_new hm h hgrade (hsub card List.mem_cons_self) hcard hseen hlt
        rw [if_neg hseen, selectLoop, hgo, List.map_cons, List.foldl_cons, ← hcounts]
        dsimp only
        split_ifs with hfull
        · -- a full team has all its UR cards, so no later card would be counted
          have hordinary := hsearched.ordinary
          have hur := hsearched.ur
          have hplaces := hm.cardCnt_eq
          have hall : p'.counts = (p'.applyCardCnt, m.NeedURCnt) := by
            unfold Pick.counts
            ext <;> dsimp only
            have hneed := hm.ur
            omega
          refine ⟨p', rfl, ?_⟩
          rw [hall, foldl_quotaStep_full (by omega)]
        · exact ih hsub' hsearched (by omega)
    · rw [unplacedCards_cons_placed hcard, selectLoop, visit_skip (Or.inl hcard)]
      exact ih hsub' h hlt

theorem Searched.empty : Searched m all ⟨0, 0, [], []⟩ [] :=
  ⟨rfl, by simp, Nat.zero_le _, Nat.zero_le _, by simp⟩

/-! ## Whole requests -/

theorem finishPick_found (dispatchTID : ℕ) : (∃ pkt, finishPick E m dispatchTID p = .yes pkt) ↔
    m.needCardCnt ≤ p.applyCardCnt ∧ m.NeedURCnt ≤ p.applyCardURCnt ∧ p.applyCardCnt ≤ E.slotPosMaxDispatch := by
  constructor
  · rintro ⟨pkt, hyes⟩
    obtain ⟨hcnt, hur, hmax, -⟩ := finishPick_yes hyes
    exact ⟨hcnt, hur, hmax⟩
  · rintro ⟨hcnt, hur, hmax⟩
    refine ⟨⟨p.cardUIDs, dispatchTID⟩, ?_⟩
    rw [finishPick, if_neg (not_lt.2 hcnt), if_neg (not_lt.2 hur), if_neg (not_lt.2 hmax)]

/-- full quotas mean a team, and a team in time means that the cards suffice -/
theorem quotaFill_feasible (hm : AnyType E m) {cards : List CardData} (hgrade : SameGrade cards) :
    quotaFill (cardCnt m) m.NeedURCnt ((freshCards E cards).map CardData.isUR) = (m.needCardCnt, m.NeedURCnt) ↔
      Feasible E m cards ∧ NoEarlyUR E m cards := by
  have hplaces := hm.cardCnt_eq
  have hneed : m.needCardCnt = cardCnt m + m.NeedURCnt := by
    have := hm.ur
    omega
  have hkind : ∀ card ∈ unplacedCards E cards, ∀ card' ∈ unplacedCards E cards, card.TID = card'.TID →
      card.isUR = card'.isUR := by
    intro card hcard card' hcard' heq
    unfold CardData.isUR
    rw [hgrade card (mem_unplacedCards.1 hcard).1 card' (mem_unplacedCards.1 hcard').1 heq]
  have hlength : ((freshCards E cards).map CardData.isUR).length = (unplacedTIDs E cards).card := by
    rw [List.length_map]
    exact length_firstOf
  have hcount : ((freshCards E cards).map CardData.isUR).count true = (urTIDs E cards).card := by
    have hcountP : ((freshCards E cards).map CardData.isUR).count true = (freshCards E cards).countP CardData.isUR := by
      rw [List.count, List.countP_map]
      exact List.countP_congr (by simp)
    rw [hcountP]
    exact countP_firstOf hkind
  have hearly : (∀ b ∈ ((freshCards E cards).map CardData.isUR).take (cardCnt m), b = false) ↔
      ∀ card ∈ (freshCards E cards).take (m.needCardCnt - m.NeedURCnt), card.grade < 4 := by
    rw [← List.map_take, List.forall_mem_map, hplaces]
    simp [CardData.isUR]
  conv_lhs => rw [hneed]
  rw [quotaFill_iff, hlength, hcount, hearly, ← hneed]
  exact and_congr_left fun _ => ⟨fun h => ⟨h.1, h.2⟩, fun h => ⟨h.enough, h.enoughUR⟩⟩

/-- a rotation finds a team exactly if there is one and no UR card comes too early -/
theorem found_iff (hm : AnyType E m) {userDispatchList : List DispatchData} {d : DispatchData}
    (hslot : FreeSlot E m userDispatchList d) {userCardList : List CardData} (hgrade : SameGrade userCardList)
    {order : List ℕ} (horder : order.Perm (List.range userCardList.length)) :
    Found E userDispatchList userCardList order ↔
      Feasible E m userCardList ∧ NoEarlyUR E m (visited userCardList order) := by
  have hperm := visited_perm horder
  have hfeasible : Feasible E m userCardList ↔ Feasible E m (visited userCardList order) :=
    ⟨Feasible.of_perm hperm.symm, Feasible.of_perm hperm⟩
  have hgrade' := hgrade.of_perm hperm.symm
  obtain ⟨p, hloop, hcounts⟩ := selectLoop_counts hm hgrade' (fun _ h => h) Searched.empty hm.some_card
  have hanswer : chkAndGetDispatchOperationPkt E userDispatchList userCardList order = finishPick E m d.TID p := by
    unfold chkAndGetDispatchOperationPkt
    rw [hslot.found]
    dsimp only
    rw [if_neg hslot.tid, hslot.row, if_neg Bool.false_ne_true, hslot.mission]
    dsimp only
    rw [hloop]
  have hfill : p.counts = quotaFill (cardCnt m) m.NeedURCnt
      ((freshCards E (visited userCardList order)).map CardData.isUR) := hcounts
  have hle : p.counts.1 ≤ cardCnt m + p.counts.2 ∧ p.counts.2 ≤ m.NeedURCnt :=
    hcounts ▸ foldl_quotaStep_le (Nat.zero_le _) (Nat.zero_le _)
  have hplaces := hm.cardCnt_eq
  have hur := hm.ur
  have hfits := hm.fits
  unfold Found
  rw [hanswer, finishPick_found, hfeasible, ← quotaFill_feasible hm hgrade', ← hfill, Pick.counts, Prod.mk.injEq]
  dsimp only [Pick.counts] at hle
  omega

/-- some rotation starts with a given card -/
theorem exists_order_first {userCardList : List CardData} (hmem : card ∈ userCardList) :
    ∃ order, order.Perm (List.range userCardList.length) ∧ ∃ later, visited userCardList order = card :: later := by
  obtain ⟨i, hi, hget⟩ := List.mem_iff_getElem.1 hmem
  refine ⟨i :: (List.range userCardList.length).erase i, (List.perm_cons_erase (List.mem_range.2 hi)).symm, ?_⟩
  refine ⟨visited userCardList ((List.range userCardList.length).erase i), ?_⟩
  unfold visited
  rw [List.filterMap_cons_some (by rw [List.getElem?_eq_getElem hi, hget])]

/-- with both kinds of places, some rotation visits a UR card too early -/
theorem Feasible.exists_early {userCardList : List CardData} (h : Feasible E m userCardList) (hzero : m.NeedURCnt ≠ 0)
    (hlt : m.NeedURCnt < m.needCardCnt) :
    ∃ order, order.Perm (List.range userCardList.length) ∧ ¬NoEarlyUR E m (visited userCardList order) := by
  have hsome := h.enoughUR
  obtain ⟨tid, htid⟩ : (urTIDs E userCardList).Nonempty := Finset.card_pos.1 (by omega)
  obtain ⟨card, hcard, -⟩ := List.mem_map.1 (List.mem_toFinset.1 htid)
  obtain ⟨hcard, hisUR⟩ := List.mem_filter.1 hcard
  obtain ⟨hmem, hunplaced⟩ := mem_unplacedCards.1 hcard
  obtain ⟨order, horder, later, hfirst⟩ := exists_order_first hmem
  refine ⟨order, horder, ?_⟩
  rintro (hnone | hearly)
  · exact hzero hnone
  · obtain ⟨n, hn⟩ : ∃ n, m.needCardCnt - m.NeedURCnt = n + 1 := Nat.exists_eq_succ_of_ne_zero (by omega)
    rw [hfirst, freshCards, unplacedCards_cons hunplaced, firstOf, if_neg List.not_mem_nil, hn,
      List.take_succ_cons] at hearly
    exact absurd (hearly card List.mem_cons_self) (not_lt.2 (of_decide_eq_true hisUR))

/-- **A team that exists is found exactly if no UR card is visited too early.** The search is right in every rotation
only for missions that have no UR place, or no other. -/
theorem dispatch_complete_iff (hm : AnyType E m) {userDispatchList : List DispatchData} {d : DispatchData}
    (hslot : FreeSlot E m userDispatchList d) {userCardList : List CardData} (hgrade : SameGrade userCardList) :
    (∀ order, order.Perm (List.range userCardList.length) → (Found E userDispatchList userCardList order ↔
      Feasible E m userCardList ∧ NoEarlyUR E m (visited userCardList order))) ∧
    ((Feasible E m userCardList → ∀ order, order.Perm (List.range userCardList.length) →
      Found E userDispatchList userCardList order) ↔
      (Feasible E m userCardList → m.NeedURCnt = 0 ∨ m.NeedURCnt = m.needCardCnt)) := by
  refine ⟨fun order horder => found_iff hm hslot hgrade horder, ?_⟩
  refine forall_congr' fun hfeasible => ?_
  constructor
  · intro hall
    by_contra hno
    rw [not_or] at hno
    obtain ⟨order, horder, hearly⟩ := hfeasible.exists_early hno.1 (lt_of_le_of_ne hm.ur hno.2)
    exact hearly ((found_iff hm hslot hgrade horder).1 (hall order horder)).2
  · intro hkinds order horder
    refine (found_iff hm hslot hgrade horder).2 ⟨hfeasible, ?_⟩
    rcases hkinds with hzero | hsame
    · exact Or.inl hzero
    · right
      rw [hsame, Nat.sub_self, List.take_zero]
      simp

end

theorem sampleDispatch_anyType : AnyType sampleDispatch ⟨2, 1, [99, 99]⟩ := by
  refine ⟨fun i hi => ?_, by decide, by decide, by decide⟩
  change i < 2 at hi
  interval_cases i <;> rfl

theorem sampleDispatch_freeSlot : FreeSlot sampleDispatch ⟨2, 1, [99, 99]⟩ sampleSlots ⟨2, 7, 0⟩ :=
  ⟨rfl, by decide, rfl, rfl⟩

theorem sampleCards_sameGrade : SameGrade sampleCards := by
  unfold SameGrade
  decide

theorem dispatch_complete_sample : Found sampleDispatch sampleSlots sampleCards [0, 1] ↔
    Feasible sampleDispatch ⟨2, 1, [99, 99]⟩ sampleCards ∧
      NoEarlyUR sampleDispatch ⟨2, 1, [99, 99]⟩ (visited sampleCards [0, 1]) :=
  (dispatch_complete_iff sampleDispatch_anyType sampleDispatch_freeSlot sampleCards_sameGrade).1 [0, 1] (List.Perm.refl _)

/-- an ordinary card and a UR card for one place of each kind: a team in one rotation, none in the other -/
theorem dispatch_incomplete : AnyType sampleDispatch ⟨2, 1, [99, 99]⟩ ∧
    FreeSlot sampleDispatch ⟨2, 1, [99, 99]⟩ sampleSlots ⟨2, 7, 0⟩ ∧ (sampleCards.map CardData.UID).Nodup ∧
    SameGrade sampleCards ∧ Feasible sampleDispatch ⟨2, 1, [99, 99]⟩ sampleCards ∧
    ([1, 0] : List ℕ).Perm (List.range sampleCards.length) ∧ Found sampleDispatch sampleSlots sampleCards [0, 1] ∧
    ¬Found sampleDispatch sampleSlots sampleCards [1, 0] := by
  refine ⟨sampleDispatch_anyType, sampleDispatch_freeSlot, by decide, sampleCards_sameGrade, ⟨by decide, by decide⟩,
    by decide, ⟨⟨[11, 12], 2⟩, by decide⟩, ?_⟩
  have hno : chkAndGetDispatchOperationPkt sampleDispatch sampleSlots sampleCards [1, 0] = .no := by decide
  rintro ⟨pkt, hyes⟩
  rw [hno] at hyes
  cases hyes

end GameServer.Bot
