/-
Placing a list of cards at once, `IsCanApplyPosCards` followed by `DoSetApplyPosCards`.

The validator takes card i of the list to slot i. It looks at the listed cards only: not at what the slots hold, and not
at how many there are. The single placement checks both (its slot limit, and the card that has to leave).

Results:
- `listed_card`, `unlisted_card`: where the apply step leaves each card;
- `batch_sound_iff`: an accepted batch leaves the listed cards and the cards placed before in their own slots exactly
  when the list fits into the slots and each slot that it uses is free;
- `batch_overwrites`: one unplaced card goes to slot 0 of a character that has a card there.
-/
import Mathlib.Tactic
import GameServer.Card.SlotIndex

namespace GameServer.Card

/-! ## Where the apply step leaves each card -/

section Apply

variable {E : Env} {s : St}

theorem putAt_cards_of_ne {p : Option Addr} {b : Addr} (k v n : ℕ) (hb : p ≠ some b) :
    (putAt E s p k v n).cards b = s.cards b := by
  cases p with
  | none => simp [putAt, St.setCard]
  | some a =>
    have hne : b ≠ a := by rintro rfl; exact hb rfl
    simp [putAt, Function.update_of_ne hne]

@[simp] theorem doSetApplyPosCards_cont (infos : List SlotPos) : (doSetApplyPosCards E s infos).2.cont = s.cont := by
  induction infos generalizing s with
  | nil => rfl
  | cons info infos ih =>
    rw [doSetApplyPosCards]
    split_ifs
    · rfl
    · rw [ih, putAt_cont]

/-- a card that the packet does not list stays as it is -/
theorem unlisted_card {infos : List SlotPos} {b : Addr} (hb : ∀ info ∈ infos, s.cont info.uid ≠ some b) :
    (doSetApplyPosCards E s infos).2.cards b = s.cards b := by
  induction infos generalizing s with
  | nil => rfl
  | cons info infos ih =>
    rw [doSetApplyPosCards]
    split_ifs
    · rfl
    · rw [ih fun i hi => by rw [putAt_cont]; exact hb i (List.mem_cons_of_mem _ hi)]
      exact putAt_cards_of_ne _ _ _ (hb info List.mem_cons_self)

theorem mem_slotList {kind value loop : ℕ} {uids : List ℕ} {info : SlotPos}
    (h : info ∈ slotList kind value loop uids) : info.uid ∈ uids := by
  obtain ⟨i, hi, rfl⟩ := List.mem_mapIdx.1 h
  exact List.getElem_mem hi

/-- card i of the list ends at slot `loop + i`, modulo 256 -/
theorem listed_card (hkeys : ∀ u u' a, s.cont u = some a → s.cont u' = some a → u = u') {uids : List ℕ}
    (hnd : uids.Nodup) (hreal : ∀ u ∈ uids, ∃ a, s.cont u = some a ∧ (s.cards a).isNull E = false) {i : ℕ}
    (hi : i < uids.length) (kind value loop : ℕ) :
    ∃ a, s.cont uids[i] = some a ∧
      ((doSetApplyPosCards E s (slotList kind value loop uids)).2.cards a).pos =
        (kind, value, (loop + i) % 2 ^ 8) := by
  induction uids generalizing s loop i with
  | nil => exact absurd hi (by simp)
  | cons uid uids ih =>
    obtain ⟨hnew, hnd⟩ := List.nodup_cons.1 hnd
    obtain ⟨a, ha, hnull⟩ := hreal uid List.mem_cons_self
    have hget : s.getInst uid = some a := ha
    rw [slotList_cons, doSetApplyPosCards]
    simp only [hget, St.card, hnull, Bool.false_eq_true, if_false]
    -- the rest of the list names other cards
    have hother : ∀ u ∈ uids, s.cont u ≠ some a := by
      intro u hu hua
      exact hnew (hkeys u uid a hua ha ▸ hu)
    cases i with
    | zero =>
      refine ⟨a, ha, ?_⟩
      rw [unlisted_card fun info hinfo => by rw [putAt_cont]; exact hother _ (mem_slotList hinfo)]
      simp [putAt, CardPiece.pos]
    | succ i =>
      have hstep : loop + (i + 1) = loop + 1 + i := by omega
      rw [hstep]
      simp only [List.getElem_cons_succ]
      have hreal' : ∀ u ∈ uids, ∃ b, (putAt E s (some a) kind value (loop % 2 ^ 8)).cont u = some b ∧
          ((putAt E s (some a) kind value (loop % 2 ^ 8)).cards b).isNull E = false := by
        intro u hu
        obtain ⟨b, hb, hbn⟩ := hreal u (List.mem_cons_of_mem _ hu)
        have hne : some a ≠ some b := by rintro ⟨⟩; exact hother u hu hb
        exact ⟨b, by rw [putAt_cont]; exact hb, by rw [putAt_cards_of_ne _ _ _ hne]; exact hbn⟩
      have hkeys' : ∀ u u' b, (putAt E s (some a) kind value (loop % 2 ^ 8)).cont u = some b →
          (putAt E s (some a) kind value (loop % 2 ^ 8)).cont u' = some b → u = u' := by
        simpa using hkeys
      obtain ⟨b, hb, hpos⟩ := ih hkeys' hnd hreal' (by simpa using hi) (loop + 1)
      exact ⟨b, by simpa using hb, hpos⟩

end Apply

/-! ## Accepted batches -/

/-- the card is in the slot that its own fields name, and in no other one -/
def InOwnSlot (E : Env) (s : St) (a : Addr) : Prop := ∀ p, occ E s p = some a ↔ p = (s.cards a).pos

/-- what a batch placement from `s` to `t` promises -/
structure BatchSound (E : Env) (s t : St) (uids : List ℕ) : Prop where
  /-- each listed card is in its own slot -/
  listed : ∀ u ∈ uids, ∃ a, t.cont u = some a ∧ InOwnSlot E t a
  /-- a card that was in its own slot before still is -/
  kept : ∀ a, Owned s a → occ E s (s.cards a).pos = some a → occ E t (t.cards a).pos = some a

/-- the list fits into the slots of the owner, and the slots that it uses are free -/
def BatchFits (E : Env) (s : St) (uids : List ℕ) (kind value : ℕ) : Prop :=
  uids.length ≤ E.slotMax ∧ ∀ n < uids.length, slotAt s kind value n = none

instance (E : Env) (s : St) (uids : List ℕ) (kind value : ℕ) : Decidable (BatchFits E s uids kind value) := by
  unfold BatchFits; infer_instance

section Accepted

variable {E : Env} {s : St} {uids : List ℕ} {kind value : ℕ} (h : Inv E s) (hk : E.kNone < kind) (hk' : kind < E.kMax)
  (hnd : uids.Nodup) (hun : ∀ u ∈ uids, ∃ a, s.cont u = some a ∧ (s.cards a).posKind = E.kNone)

include hun

/-- a placed card is not listed -/
theorem placed_unlisted {b : Addr} {p : Pos} (hb : place E s b = some p) {u : ℕ} (hu : u ∈ uids) :
    s.cont u ≠ some b := by
  intro hub
  obtain ⟨a, ha, hak⟩ := hun u hu
  rw [hub] at ha
  cases ha
  obtain ⟨-, hv, hpos⟩ := place_eq_some.1 hb
  rw [← hpos] at hv
  have hlt : E.kNone < (s.cards b).posKind := hv.1
  omega

/-- and so it keeps its fields -/
theorem placed_card {b : Addr} {p : Pos} (hb : place E s b = some p) (loop : ℕ) :
    (doSetApplyPosCards E s (slotList kind value loop uids)).2.cards b = s.cards b :=
  unlisted_card fun _ hinfo => placed_unlisted hun hb (mem_slotList hinfo)

include h

include hnd in
theorem listed_pos {i : ℕ} (hi : i < uids.length) (kind value : ℕ) : ∃ a, s.cont uids[i] = some a ∧
    ((doSetApplyPosCards E s (slotList kind value 0 uids)).2.cards a).pos = (kind, value, i % 2 ^ 8) := by
  have hreal : ∀ u ∈ uids, ∃ a, s.cont u = some a ∧ (s.cards a).isNull E = false := by
    intro u hu
    obtain ⟨a, ha, -⟩ := hun u hu
    exact ⟨a, ha, (h.real u a ha).1⟩
  have hpos := listed_card (fun _ _ _ hu hu' => h.unique_key hu hu') hnd hreal hi
  simpa using hpos kind value 0

include hnd hk hk' in
theorem batch_sound (hfit : BatchFits E s uids kind value) :
    BatchSound E s (doSetApplyPosCards E s (slotList kind value 0 uids)).2 uids := by
  have hinv : Inv E (doSetApplyPosCards E s (slotList kind value 0 uids)).2 := by
    refine doSetApplyPosCards_inv h hnd hun (by simpa using hfit.1) fun n _ hn => ?_
    unfold occ
    split_ifs
    · exact hfit.2 n (by simpa using hn)
    · rfl
  constructor
  · intro u hu
    obtain ⟨i, hi, rfl⟩ := List.getElem_of_mem hu
    obtain ⟨a, ha, hpos⟩ := listed_pos h hnd hun hi kind value
    have hlt : i < E.slotMax := hi.trans_le hfit.1
    have hmod : i % 2 ^ 8 = i := Nat.mod_eq_of_lt (hlt.trans E.slotMax_lt)
    have hcont : (doSetApplyPosCards E s (slotList kind value 0 uids)).2.cont uids[i] = some a := by
      rw [doSetApplyPosCards_cont, ha]
    refine ⟨a, hcont, fun p => ?_⟩
    rw [hinv.agree p a, place_eq_some, hpos, hmod]
    constructor
    · rintro ⟨-, -, rfl⟩
      rfl
    · rintro rfl
      exact ⟨⟨_, hcont⟩, ⟨hk, hk', hlt⟩, rfl⟩
  · intro b hb hocc
    have hplace := (h.agree _ _).1 hocc
    rw [hinv.agree, placed_card hun hplace, place_eq_some]
    obtain ⟨-, hv, -⟩ := place_eq_some.1 hplace
    obtain ⟨u, hu⟩ := hb
    exact ⟨⟨u, by rw [doSetApplyPosCards_cont, hu]⟩, hv, by rw [placed_card hun hplace]⟩

include hnd hk hk' in
theorem fits_of_batch_sound
    (hsound : BatchSound E s (doSetApplyPosCards E s (slotList kind value 0 uids)).2 uids) :
    BatchFits E s uids kind value := by
  -- each listed card sits where its fields say
  have hlisted : ∀ i (hi : i < uids.length), ∃ a, s.cont uids[i] = some a ∧
      occ E (doSetApplyPosCards E s (slotList kind value 0 uids)).2 (kind, value, i % 2 ^ 8) = some a := by
    intro i hi
    obtain ⟨a, ha, hpos⟩ := listed_pos h hnd hun hi kind value
    obtain ⟨b, hb, hown⟩ := hsound.listed uids[i] (List.getElem_mem hi)
    rw [doSetApplyPosCards_cont, ha] at hb
    cases hb
    exact ⟨a, ha, (hown _).2 hpos.symm⟩
  have hlen : uids.length ≤ E.slotMax := by
    by_contra hlong
    -- the first card beyond the slots has no slot
    obtain ⟨a, -, hocc⟩ := hlisted E.slotMax (by omega)
    rw [Nat.mod_eq_of_lt E.slotMax_lt, occ, if_neg fun hv => lt_irrefl _ hv.2.2] at hocc
    cases hocc
  refine ⟨hlen, fun n hn => ?_⟩
  by_contra htaken
  obtain ⟨b, hb⟩ := Option.ne_none_iff_exists'.1 htaken
  have hlt : n < E.slotMax := hn.trans_le hlen
  have hv : ValidPos E (kind, value, n) := ⟨hk, hk', hlt⟩
  obtain ⟨hbo, hbp⟩ := owned_of_slot h hv hb
  have hocc : occ E s (s.cards b).pos = some b := by rw [hbp, occ, if_pos hv]; exact hb
  have hplace := (h.agree _ _).1 hocc
  -- the former holder and the listed card are in one slot
  have hkept := hsound.kept b hbo hocc
  rw [placed_card hun hplace, hbp] at hkept
  obtain ⟨a, ha, hnow⟩ := hlisted n hn
  rw [Nat.mod_eq_of_lt (hlt.trans E.slotMax_lt), hkept] at hnow
  cases hnow
  exact placed_unlisted hun hplace (List.getElem_mem hn) ha

end Accepted

/-- **An accepted batch is sound exactly when it fits.** The state is any one whose slot index agrees with the cards; the
list, the position value and the extra check are arbitrary. -/
theorem batch_sound_iff {E : Env} {s : St} {uids : List ℕ} {kind value : ℕ} {checkWork : CardPiece → ℕ → ErrNum}
    {infos : List SlotPos} (hs : Base E s) (hindex : SlotIndexOk E s) (hk : E.kNone < kind) (hk' : kind < E.kMax)
    (hok : isCanApplyPosCards E s uids kind value checkWork = (.successOk, infos)) :
    BatchSound E s (doSetApplyPosCards E s infos).2 uids ↔ BatchFits E s uids kind value := by
  have h : Inv E s := ⟨hs, (slotIndexOk_iff E s).1 hindex⟩
  obtain ⟨hnd, rfl, hcards, -⟩ := isCanApplyPosCards_ok hok
  have hun : ∀ u ∈ uids, ∃ a, s.cont u = some a ∧ (s.cards a).posKind = E.kNone := by
    intro u hu
    obtain ⟨a, ha⟩ := hs.found (hcards u hu).1
    have hget : s.getInst u = some a := ha
    exact ⟨a, ha, by simpa [hget, St.card] using (hcards u hu).2⟩
  exact ⟨fits_of_batch_sound h hk hk' hnd hun, batch_sound h hk hk' hnd hun⟩

/-- a card in slot 0 of character 7, and two unplaced cards -/
def spareSt : St :=
  doInit sampleEnv (fun _ => sampleEnv.nullCard) (fun _ => sampleEnv.nullBook)
    [(sampleCard 1 10 1 7 0, 100), (sampleCard 2 20 0 0 0, 200), (sampleCard 3 30 0 0 0, 300)] []

theorem spareSt_inv : Inv sampleEnv spareSt :=
  doInit_inv ⟨by decide, by decide, by decide, by decide, by decide⟩ _ _ _

/-- both unplaced cards go to character 8, who has no cards yet -/
theorem batch_sound_spare :
    BatchSound sampleEnv spareSt (doSetApplyPosCards sampleEnv spareSt [⟨2, 1, 8, 0⟩, ⟨3, 1, 8, 1⟩]).2 [2, 3] := by
  have hok : isCanApplyPosCards sampleEnv spareSt [2, 3] 1 8 (fun _ _ => .successOk) =
      (.successOk, [⟨2, 1, 8, 0⟩, ⟨3, 1, 8, 1⟩]) := by decide
  exact (batch_sound_iff spareSt_inv.toBase ((slotIndexOk_iff _ _).2 spareSt_inv.agree) (by decide) (by decide) hok).2
    (by decide)

/-- **The slots are not looked at**: card 2 is accepted on character 7 and takes the slot of card 1, which still claims
it -/
theorem batch_overwrites : Base sampleEnv spareSt ∧ SlotIndexOk sampleEnv spareSt ∧
    isCanApplyPosCards sampleEnv spareSt [2] 1 7 (fun _ _ => .successOk) = (.successOk, [⟨2, 1, 7, 0⟩]) ∧
    ¬ BatchSound sampleEnv spareSt (doSetApplyPosCards sampleEnv spareSt [⟨2, 1, 7, 0⟩]).2 [2] := by
  refine ⟨spareSt_inv.toBase, (slotIndexOk_iff _ _).2 spareSt_inv.agree, by decide, fun hsound => ?_⟩
  have hkept := hsound.kept 100 ⟨1, by decide⟩ (by decide)
  exact absurd hkept (by decide)

end GameServer.Card
