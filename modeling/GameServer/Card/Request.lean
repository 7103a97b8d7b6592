/-
Requests to the card contents: each placement is validated in the current state and applied if accepted, as the packet
handlers do. `serve` is the step function of whole runs.

What acceptance says:
- `isCanApplyPosCard_ok` (`Accepted`): the card exists, is unplaced or on a character, the target exists, the slot is in
  range, no other scanned slot holds a card of the same kind, and the packet names the card found in the slot. The
  scan does not look at slot `n` when the moving card's own position VALUE is the requested one and its own slot is `n`,
  whatever its position kind.
- `isCanApplyPosCards_ok`: the UIDs are distinct, every card exists and is unplaced, the table ids are distinct, and
  card i goes to slot i.
-/
import Mathlib.Tactic
import GameServer.Card.Position

namespace GameServer.Card

/-! ## The step function -/

inductive Req where
  | add (cards : List (CardPiece × Addr)) (books : List (BookPiece × Addr))
  | del (uid : ℕ)
  | applyPos (C : UserChecks) (pkt : ApplyPos)
  | applyPosCards (uids : List ℕ) (kind value : ℕ) (checkWork : CardPiece → ℕ → ErrNum)
  | applyOutPos (uid : ℕ)
  | applyOutPosCards (uids : List ℕ)

def serve (E : Env) (s : St) : Req → St
  | .add cards books => doAdd E s cards books
  | .del uid => (doDel E s uid).2
  | .applyPos C pkt =>
    match isCanApplyPosCard E C s pkt with
    | .error _ => s
    | .ok pkt' => (doSetApplyPosCard E s pkt').2
  | .applyPosCards uids kind value checkWork =>
    match isCanApplyPosCards E s uids kind value checkWork with
    | (.successOk, infos) => (doSetApplyPosCards E s infos).2
    | (_, _) => s
  | .applyOutPos uid => (doSetApplyOutPosCard E s uid).2
  | .applyOutPosCards uids => (doSetApplyOutPosCards E s uids).2

/-! ## The slot scan -/

theorem scanSlots_some {E : Env} {s : St} {vec : InstVec} {skip : ℕ → Bool} {dst tid : ℕ} {ns : List ℕ}
    {old r : Option Addr} (h : scanSlots E s vec skip dst tid ns old = some r) :
    (∀ n ∈ ns, skip n = false → n ≠ dst → (s.card (vec n)).isNull E = true ∨ tid ≠ (s.card (vec n)).tableID) ∧
      r = if dst ∈ ns ∧ skip dst = false then vec dst else old := by
  induction ns generalizing old with
  | nil =>
    simp only [scanSlots, Option.some.injEq] at h
    simp [h]
  | cons n ns ih =>
    rw [scanSlots] at h
    split_ifs at h with h1 h2 h3 h4
    · obtain ⟨ih1, ih2⟩ := ih h
      refine ⟨?_, ?_⟩
      · intro m hm hs hne
        rcases List.mem_cons.1 hm with rfl | hm
        · rw [h1] at hs; cases hs
        · exact ih1 m hm hs hne
      · rw [ih2]
        by_cases hd : dst = n
        · subst hd; simp [h1]
        · simp [hd]
    · obtain ⟨ih1, ih2⟩ := ih h
      subst h2
      refine ⟨?_, ?_⟩
      · intro m hm hs hne
        rcases List.mem_cons.1 hm with rfl | hm
        · exact absurd rfl hne
        · exact ih1 m hm hs hne
      · rw [ih2]
        simp [h1]
    · obtain ⟨ih1, ih2⟩ := ih h
      refine ⟨?_, ?_⟩
      · intro m hm hs hne
        rcases List.mem_cons.1 hm with rfl | hm
        · exact Or.inl h3
        · exact ih1 m hm hs hne
      · rw [ih2]; simp [Ne.symm h2]
    · obtain ⟨ih1, ih2⟩ := ih h
      refine ⟨?_, ?_⟩
      · intro m hm hs hne
        rcases List.mem_cons.1 hm with rfl | hm
        · exact Or.inr h4
        · exact ih1 m hm hs hne
      · rw [ih2]; simp [Ne.symm h2]

/-! ## Single placement -/

theorem applyTarget_ok {E : Env} {C : UserChecks} {k v m : ℕ} (h : applyTarget E C k v = .ok m) :
    (k = E.kChar ∧ C.isExistInst v = true ∧ m = E.slotChar) ∨
      (k = E.kFacility ∧ C.isCanApplyUseCard v = .successOk ∧ m = E.slotFacility) := by
  unfold applyTarget at h
  simp only at h
  split_ifs at h with h1 h2 h3 h4
  · simp only [Except.ok.injEq] at h
    exact Or.inl ⟨h1, by simpa using h2, h.symm⟩
  · simp only [Except.ok.injEq] at h
    exact Or.inr ⟨h3, by simpa using h4, h.symm⟩

/-- the scan skips the slot of the moving card's own number when the position VALUES agree -/
def Skipped (c : CardPiece) (pkt : ApplyPos) (n : ℕ) : Prop := c.posValue = pkt.posValue ∧ c.posSlotNum = n

instance (c : CardPiece) (pkt : ApplyPos) (n : ℕ) : Decidable (Skipped c pkt n) := by
  unfold Skipped; infer_instance

/-- the old card that the validator sees in the destination slot -/
def oldSeen (s : St) (pkt : ApplyPos) : Option Addr :=
  if Skipped (s.card (s.getInst pkt.cardUID)) pkt pkt.slotNum then none
  else slotAt s pkt.posKind pkt.posValue pkt.slotNum

/-- the checks before the scan, for the moving card `c` -/
structure Guarded (E : Env) (C : UserChecks) (pkt : ApplyPos) (c : CardPiece) (limit : ℕ) : Prop where
  exist : c.isNull E = false
  moved : c.pos ≠ (pkt.posKind, pkt.posValue, pkt.slotNum)
  from_kind : c.posKind = E.kNone ∨ c.posKind = E.kChar
  target : (pkt.posKind = E.kChar ∧ C.isExistInst pkt.posValue = true ∧ limit = E.slotChar) ∨
    (pkt.posKind = E.kFacility ∧ C.isCanApplyUseCard pkt.posValue = .successOk ∧ limit = E.slotFacility)
  slot : pkt.slotNum < limit

theorem applyPosGuard_ok {E : Env} {C : UserChecks} {s : St} {pkt : ApplyPos} {limit : ℕ}
    (h : applyPosGuard E C s pkt = .ok limit) : Guarded E C pkt (s.card (s.getInst pkt.cardUID)) limit := by
  unfold applyPosGuard at h
  set c := s.card (s.getInst pkt.cardUID)
  simp only at h
  split_ifs at h with h1 h2 h3
  cases ht : applyTarget E C pkt.posKind pkt.posValue with
  | error e => simp only [ht] at h; cases h
  | ok m =>
    simp only [ht] at h
    split_ifs at h with h4
    simp only [Except.ok.injEq] at h
    subst h
    refine ⟨by simpa using h1, ?_, ?_, applyTarget_ok ht, by omega⟩
    · intro heq
      simp only [CardPiece.pos, Prod.mk.injEq] at heq
      exact h2 ⟨heq.1.symm, heq.2.1.symm, heq.2.2.symm⟩
    · by_contra hcon
      rw [not_or] at hcon
      exact h3 ⟨Ne.symm hcon.1, Ne.symm hcon.2⟩

namespace Guarded

variable {E : Env} {C : UserChecks} {pkt : ApplyPos} {c : CardPiece} {limit : ℕ}

/-- the target position is covered by the slot index -/
theorem valid (h : Guarded E C pkt c limit) : ValidPos E (pkt.posKind, pkt.posValue, pkt.slotNum) := by
  have h1 := h.slot
  have h2 := E.slotChar_le
  have h3 := E.slotFacility_le
  rcases h.target with ⟨hk, -, hl⟩ | ⟨hk, -, hl⟩
  · exact ⟨hk ▸ E.none_lt_char, hk ▸ E.char_lt_max, by simp only; omega⟩
  · exact ⟨hk ▸ E.none_lt_facility, hk ▸ E.facility_lt_max, by simp only; omega⟩

theorem limit_le (h : Guarded E C pkt c limit) : limit ≤ E.slotMax := by
  rcases h.target with ⟨-, -, rfl⟩ | ⟨-, -, rfl⟩
  · exact E.slotChar_le
  · exact E.slotFacility_le

end Guarded

/-- what an accepted single placement satisfies, for the moving card `c` -/
structure Accepted (E : Env) (C : UserChecks) (s : St) (pkt pkt' : ApplyPos) (c : CardPiece) (limit : ℕ) : Prop
    extends Guarded E C pkt c limit where
  /-- no slot that is scanned holds another card of the same kind -/
  scanned : ∀ n < limit, n ≠ pkt.slotNum → ¬ Skipped c pkt n → ∀ b,
    slotAt s pkt.posKind pkt.posValue n = some b → (s.cards b).isNull E = true ∨ c.tableID ≠ (s.cards b).tableID
  packet : pkt' = fillOldCard E s pkt (oldSeen s pkt)

theorem isCanApplyPosCard_ok {E : Env} {C : UserChecks} {s : St} {pkt pkt' : ApplyPos}
    (hnull : s.msNullCard.isNull E = true) (h : isCanApplyPosCard E C s pkt = .ok pkt') :
    ∃ limit, Accepted E C s pkt pkt' (s.card (s.getInst pkt.cardUID)) limit := by
  unfold isCanApplyPosCard at h
  cases hg : applyPosGuard E C s pkt with
  | error e => simp only [hg] at h; cases h
  | ok limit =>
    have hguard := applyPosGuard_ok hg
    have hkind : ¬ E.kMax ≤ pkt.posKind := not_le.2 hguard.valid.2.1
    simp only [hg, getInstVecToPosValue, if_neg hkind] at h
    cases hvec : s.posCont pkt.posKind pkt.posValue with
    | none =>
      -- no vector: every slot of the target is free, and the packet stays as it is
      have hslot : ∀ n, slotAt s pkt.posKind pkt.posValue n = none := by intro n; simp [slotAt, hvec]
      simp only [hvec, Except.ok.injEq] at h
      refine ⟨limit, hguard, ?_, ?_⟩
      · intro n _ _ _ b hb
        rw [hslot] at hb; cases hb
      · have hold : oldSeen s pkt = none := by simp [oldSeen, hslot]
        rw [hold, ← h]
        exact (if_pos hnull).symm
    | some vec =>
      have hslot : ∀ n, slotAt s pkt.posKind pkt.posValue n = vec n := by intro n; simp [slotAt, hvec]
      simp only [hvec] at h
      split at h
      · cases h
      · rename_i old hscan
        obtain ⟨h1, h2⟩ := scanSlots_some hscan
        simp only [Except.ok.injEq] at h
        refine ⟨limit, hguard, ?_, ?_⟩
        · intro n hn hne hsk b hb
          have := h1 n (List.mem_range.2 hn) (decide_eq_false hsk) hne
          rw [hslot] at hb
          simpa [hb, St.card] using this
        · have hold : oldSeen s pkt = old := by
            rw [h2, oldSeen, hslot]
            by_cases hsk : Skipped (s.card (s.getInst pkt.cardUID)) pkt pkt.slotNum
            · rw [if_pos hsk, if_neg fun hc => absurd hsk (of_decide_eq_false hc.2)]
            · rw [if_neg hsk, if_pos ⟨List.mem_range.2 hguard.slot, decide_eq_false hsk⟩]
          rw [hold, h]

/-! ## Batch placement -/

/-- the packet of a batch: card i goes to slot i -/
def slotList (kind value loop : ℕ) (uids : List ℕ) : List SlotPos :=
  uids.mapIdx fun i uid => ⟨uid, kind, value, (loop + i) % 2 ^ 8⟩

theorem slotList_cons (kind value loop uid : ℕ) (uids : List ℕ) :
    slotList kind value loop (uid :: uids) = ⟨uid, kind, value, loop % 2 ^ 8⟩ :: slotList kind value (loop + 1) uids := by
  simp only [slotList, List.mapIdx_cons, Nat.add_zero, List.cons.injEq, true_and]
  congr 1
  funext i uid
  rw [Nat.add_assoc, Nat.add_comm 1 i]

/-- the table id of the card that a UID names -/
def tidOf (s : St) (uid : ℕ) : ℕ := (s.card (s.getInst uid)).tableID

theorem applyPosCardsLoop_ok {E : Env} {s : St} {kind value : ℕ} {w : CardPiece → ℕ → ErrNum} {loop : ℕ}
    {uids same : List ℕ} {out infos : List SlotPos}
    (h : applyPosCardsLoop E s kind value w loop uids same out = (.successOk, infos)) (hsame : same.Nodup) :
    infos = out ++ slotList kind value loop uids ∧
      (∀ u ∈ uids, (s.card (s.getInst u)).isNull E = false ∧ (s.card (s.getInst u)).posKind = E.kNone) ∧
      (same ++ uids.map (tidOf s)).Nodup := by
  induction uids generalizing loop same out with
  | nil =>
    simp only [applyPosCardsLoop, Prod.mk.injEq, true_and] at h
    simp [slotList, h, hsame]
  | cons uid uids ih =>
    simp only [applyPosCardsLoop] at h
    set c := s.card (s.getInst uid) with hc
    by_cases h1 : c.isNull E
    · simp [h1] at h
    by_cases h2 : E.kNone = c.posKind
    swap
    · simp [h1, h2] at h
    by_cases h3 : c.tableID ∈ same
    · simp [h1, h2, h3] at h
    by_cases h4 : w c loop = .successOk
    swap
    · simp only [h1, h2, h3, h4, ne_eq, not_true_eq_false, not_false_eq_true, if_true, if_false, Bool.false_eq_true,
        Prod.mk.injEq, false_and] at h
    simp only [h1, h2, h3, h4, ne_eq, not_true_eq_false, if_false, Bool.false_eq_true] at h
    have hsame' : (same ++ [c.tableID]).Nodup := by
      rw [List.nodup_append]
      refine ⟨hsame, List.nodup_singleton _, fun a ha b hb => ?_⟩
      rw [List.mem_singleton] at hb
      subst hb
      rintro rfl
      exact h3 ha
    obtain ⟨ih1, ih2, ih3⟩ := ih h hsame'
    refine ⟨?_, ?_, ?_⟩
    · rw [ih1, slotList_cons, List.append_assoc, List.singleton_append]
    · intro u hu
      rcases List.mem_cons.1 hu with rfl | hu
      · exact ⟨by simpa [← hc] using h1, h2.symm⟩
      · exact ih2 u hu
    · simpa [List.append_assoc, tidOf, ← hc] using ih3

theorem isCanApplyPosCards_ok {E : Env} {s : St} {kind value : ℕ} {w : CardPiece → ℕ → ErrNum} {uids : List ℕ}
    {infos : List SlotPos} (h : isCanApplyPosCards E s uids kind value w = (.successOk, infos)) :
    uids.Nodup ∧ infos = slotList kind value 0 uids ∧
      (∀ u ∈ uids, (s.card (s.getInst u)).isNull E = false ∧ (s.card (s.getInst u)).posKind = E.kNone) ∧
      (uids.map (tidOf s)).Nodup := by
  unfold isCanApplyPosCards at h
  by_cases hd : uids.Nodup
  · rw [if_neg (not_not.2 hd)] at h
    obtain ⟨h1, h2, h3⟩ := applyPosCardsLoop_ok h List.nodup_nil
    exact ⟨hd, by simpa using h1, h2, by simpa using h3⟩
  · rw [if_pos hd] at h
    cases h

end GameServer.Card
