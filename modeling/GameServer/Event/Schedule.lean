/-
Event pass rewards do not depend on when they are claimed.

A claim that comes through settles both tracks at the level of the play count (`settle`) and rewards exactly the steps in
between (`due`); any other claim changes nothing (`passReward_spec`). So along a run each track has rewarded the steps up
to its counter, once each (`Inv`), and two schedules that end in a claim at the same play count and purchase status have
paid the same.

What is logged as supplied has gone through the helper: the stored goods are those of the start with exactly these rewards
supplied, in order, and `RewardItems` are the helper's entries (`run_paid`).
-/
import Mathlib.Tactic
import GameServer.Core.Run
import GameServer.Core.Range
import GameServer.Core.Payout
import GameServer.Event.Pass

namespace GameServer.Event

open GameServer.Core

section

variable {ρ : Type} (E : Env) (event_type : ℤ)

/-! ## Runs -/

inductive Call (ρ : Type) where
  | play (count : ℕ)
  | purchase (o : Outside ρ) (platform : ℤ)
  | reward (o : Outside ρ)

/-- the stored row, the rewarded steps and the supplied rewards by code -/
structure History (ρ : Type) where
  db : Db ρ
  rewarded : List (Track × ℤ)
  supplied : List (ℤ × ℤ)

def serve (h : History ρ) : Call ρ → History ρ
  | .play count =>
    ⟨{ h.db with row := h.db.row.map fun row => { row with play_count := row.play_count + count } }, h.rewarded,
      h.supplied⟩
  | .purchase o platform => ⟨(passPurchase E event_type o platform h.db).2, h.rewarded, h.supplied⟩
  | .reward o =>
    let r := passReward E event_type o h.db
    ⟨r.db, h.rewarded ++ r.rewarded, h.supplied ++ r.supplied⟩

/-- the steps of one track -/
def stepsOf (track : Track) (rewarded : List (Track × ℤ)) : List ℤ :=
  (rewarded.filter fun e => e.1 = track).map (·.2)

/-- the reward of a step -/
def stepReward (e : Track × ℤ) : Option (ℤ × ℤ) := (passStep E event_type e.2).map fun row => row.reward e.1

/-! ## The reward table -/

/-- steps 1..N in order, with non-decreasing conditions, and a row for every step -/
structure PassTable (N : ℤ) : Prop where
  steps : (E.get881EventPassListByType event_type).map (·.idx) = Int.range 1 (N + 1)
  conditions : (E.get881EventPassListByType event_type).Pairwise fun a b => a.condition ≤ b.condition
  rows : ∀ step, 1 ≤ step → step ≤ N → (passStep E event_type step).isSome

/-- the number of steps whose condition is met -/
def metSteps (play_count : ℤ) : ℕ :=
  (E.get881EventPassListByType event_type).countP fun row => row.condition ≤ play_count

/-- the search for the last met step counts the met steps -/
theorem foldl_met {rows : List PassRow} {n k : ℤ} (hidx : rows.map (·.idx) = Int.range (k + 1) (n + 1))
    (hcond : rows.Pairwise fun a b => a.condition ≤ b.condition) (play_count : ℤ) :
    rows.foldl (fun lv row => if row.condition ≤ play_count then row.idx else lv) k =
      k + rows.countP fun row => row.condition ≤ play_count := by
  induction rows generalizing k with
  | nil => simp
  | cons row rows ih =>
    obtain ⟨hhead, htail⟩ := List.pairwise_cons.1 hcond
    have hlt : k + 1 < n + 1 := by
      by_contra hge
      have hnil : Int.range (k + 1) (n + 1) = [] := by
        rw [Int.range, Int.toNat_of_nonpos (by omega)]; rfl
      rw [hnil] at hidx
      cases hidx
    rw [Range.cons hlt, List.map_cons] at hidx
    obtain ⟨h1, h2⟩ := List.cons.inj hidx
    rw [List.foldl_cons]
    by_cases hmet : row.condition ≤ play_count
    · have h1' : row.idx = k + 1 := h1
      rw [if_pos hmet, h1', ih h2 htail, List.countP_cons_of_pos (by simpa using hmet)]
      push_cast
      ring
    · -- no later step is met either
      have hnone : ∀ r ∈ rows, ¬ r.condition ≤ play_count := fun r hr hle => hmet ((hhead r hr).trans hle)
      have hkeep : rows.foldl (fun lv row => if row.condition ≤ play_count then row.idx else lv) k = k := by
        clear ih h2 htail hidx hhead hcond
        induction rows with
        | nil => rfl
        | cons r rows ih =>
          rw [List.foldl_cons, if_neg (hnone r List.mem_cons_self)]
          exact ih fun r' hr' => hnone r' (List.mem_cons_of_mem r hr')
      rw [if_neg hmet, hkeep, List.countP_cons_of_neg (by simpa using hmet),
        List.countP_eq_zero.2 fun r hr => by simpa using hnone r hr]
      simp

section Table

variable {E event_type} {N : ℤ} (hT : PassTable E event_type N)
include hT

theorem rewardStepLv_eq (play_count : ℤ) : rewardStepLv E event_type play_count = metSteps E event_type play_count := by
  have hidx : (E.get881EventPassListByType event_type).map (·.idx) = Int.range (0 + 1) (N + 1) := by
    rw [zero_add]
    exact hT.steps
  rw [rewardStepLv, foldl_met hidx hT.conditions, zero_add, metSteps]

/-- the met steps have their rows -/
theorem metSteps_row {play_count step : ℤ} (h1 : 1 ≤ step) (h2 : step ≤ metSteps E event_type play_count) :
    (passStep E event_type step).isSome := by
  have hlen : (E.get881EventPassListByType event_type).length = N.toNat := by
    have hmap := congrArg List.length hT.steps
    rw [List.length_map, Int.range, List.length_map, List.length_range] at hmap
    omega
  have hcount : metSteps E event_type play_count ≤ (E.get881EventPassListByType event_type).length := List.countP_le_length
  exact hT.rows step h1 (by omega)

end Table

theorem metSteps_mono {p p' : ℤ} (h : p ≤ p') : metSteps E event_type p ≤ metSteps E event_type p' :=
  List.countP_mono_left fun row _ hrow => by
    simp only [decide_eq_true_eq] at hrow ⊢
    exact hrow.trans h

/-! ## A claim -/

theorem collect_eq (track : Track) {steps : List ℤ} (h : ∀ step ∈ steps, (passStep E event_type step).isSome)
    (d : List (ℤ × ℤ)) : collect E event_type track steps d =
      some (Tally.addAll d (steps.filterMap fun step => stepReward E event_type (track, step))) := by
  induction steps generalizing d with
  | nil => rfl
  | cons step steps ih =>
    obtain ⟨row, hrow⟩ := Option.isSome_iff_exists.1 (h step List.mem_cons_self)
    rw [collect, hrow]
    dsimp only
    rw [ih fun s hs => h s (List.mem_cons_of_mem step hs)]
    have hreward : stepReward E event_type (track, step) = some (row.reward track) := by rw [stepReward, hrow]; rfl
    rw [List.filterMap_cons, hreward]
    rfl

/-- both tracks at a level -/
def settle (lv : ℤ) (row : UserRow) : UserRow :=
  { row with reward_step_free := lv, reward_step_paid := if row.is_purchase = 1 then lv else row.reward_step_paid }

/-- the steps that a level owes -/
def due (lv : ℤ) (row : UserRow) : List (Track × ℤ) :=
  (Int.range (row.reward_step_free + 1) (lv + 1)).map (fun step => (.free, step)) ++
    (if row.is_purchase = 1 then Int.range (row.reward_step_paid + 1) (lv + 1) else []).map fun step => (.paid, step)

/-- nothing is due -/
theorem settle_nothing {lv : ℤ} {row : UserRow} (hfree : row.reward_step_free = lv)
    (hpaid : row.is_purchase = 1 → row.reward_step_paid = lv) : settle lv row = row ∧ due lv row = [] := by
  by_cases hp : row.is_purchase = 1
  · refine ⟨?_, ?_⟩
    · rw [settle, if_pos hp, ← hfree]
      exact congrArg (fun step => { row with reward_step_paid := step }) (hfree.trans (hpaid hp).symm)
    · rw [due, if_pos hp, hfree, hpaid hp, Range.self]
      rfl
  · refine ⟨?_, ?_⟩
    · rw [settle, if_neg hp, ← hfree]
    · rw [due, if_neg hp, hfree, Range.self]
      rfl

/-- a claim that comes through -/
structure Settled (lv : ℤ) (row : UserRow) (r : RewardReply ρ) : Prop where
  stored : r.db.row = some (settle lv row)
  rewarded : r.rewarded = due lv row
  supplied : ∀ code, Tally.sumAt code r.supplied = Tally.sumAt code (r.rewarded.filterMap (stepReward E event_type))

/-- `SUCCESS`, or nothing was due -/
def RewardReply.done (r : RewardReply ρ) : Prop := r.result = some .SUCCESS ∨ r.result = some .ALREADY_REWARD

/-- counters that no claim at this play count lowers -/
structure Bounded (row : UserRow) : Prop where
  free_nonneg : 0 ≤ row.reward_step_free
  free_le : row.reward_step_free ≤ metSteps E event_type row.play_count
  paid_nonneg : 0 ≤ row.reward_step_paid
  paid_le : row.reward_step_paid ≤ metSteps E event_type row.play_count

section Claim

variable {E event_type} {N : ℤ} (hT : PassTable E event_type N)
include hT

theorem steps_isSome (play_count : ℤ) {a : ℤ} (ha : 0 ≤ a) :
    ∀ step ∈ Int.range (a + 1) (metSteps E event_type play_count + 1), (passStep E event_type step).isSome := by
  intro step hstep
  rw [Int.mem_range_iff] at hstep
  exact metSteps_row hT (by omega) (by omega : step ≤ metSteps E event_type play_count)

theorem rewardRow_spec (o : Outside ρ) {row : UserRow} (hb : Bounded E event_type row) {db : Db ρ}
    (hrow : db.row = some row) :
    let r := rewardRow E event_type o row db
    (r.done → Settled E event_type (metSteps E event_type row.play_count) row r) ∧
      (¬ r.done → r = noReward r.result db) := by
  have hrowFree := steps_isSome hT row.play_count hb.free_nonneg
  have hrowPaid : ∀ step ∈ (if row.is_purchase = 1 then
      Int.range (row.reward_step_paid + 1) (metSteps E event_type row.play_count + 1) else []),
      (passStep E event_type step).isSome := by
    intro step hstep
    split_ifs at hstep
    · exact steps_isSome hT row.play_count hb.paid_nonneg step hstep
    · cases hstep
  unfold rewardRow
  simp only [rewardStepLv_eq hT, Range.catch_up_steps hb.free_le, Range.catch_up_steps_and hb.paid_le,
    Range.catch_up hb.free_le, Range.catch_up_and hb.paid_le, collect_eq E event_type .free hrowFree,
    collect_eq E event_type .paid hrowPaid]
  set lv : ℤ := ((metSteps E event_type row.play_count : ℕ) : ℤ) with hlv
  by_cases hdue : row.reward_step_free < lv ∨ row.reward_step_paid < lv ∧ row.is_purchase = 1
  · simp only [if_pos hdue]
    cases hsupply : supplyAll E o (Tally.addAll (Tally.addAll []
        ((Int.range (row.reward_step_free + 1) (lv + 1)).filterMap fun step => stepReward E event_type (.free, step)))
        ((if row.is_purchase = 1 then Int.range (row.reward_step_paid + 1) (lv + 1) else []).filterMap
          fun step => stepReward E event_type (.paid, step))) (db.resource, []) with
    | none => exact ⟨fun hd => absurd hd (by simp [RewardReply.done, noReward]), fun _ => rfl⟩
    | some s =>
      refine ⟨fun _ => ⟨rfl, rfl, fun code => ?_⟩, fun hd => absurd (Or.inl rfl) hd⟩
      dsimp only
      rw [Tally.sumAt_addAll, Tally.sumAt_addAll, List.filterMap_append, Tally.sumAt_append, Tally.sumAt_nil, zero_add,
        List.filterMap_map, List.filterMap_map]
      rfl
  · simp only [if_neg hdue]
    rw [not_or, not_lt, not_and] at hdue
    obtain ⟨hsettle, hnone⟩ := settle_nothing (le_antisymm hb.free_le hdue.1) fun hp =>
      le_antisymm hb.paid_le (not_lt.1 fun hlt => hdue.2 hlt hp)
    exact ⟨fun _ => ⟨by rw [hsettle]; exact hrow, hnone.symm, fun _ => rfl⟩, fun hd => absurd (Or.inr rfl) hd⟩

/-- **A claim settles both tracks or changes nothing.** -/
theorem passReward_spec (o : Outside ρ) {row : UserRow} (hb : Bounded E event_type row) {db : Db ρ}
    (hrow : db.row = some row) :
    let r := passReward E event_type o db
    (r.done → Settled E event_type (metSteps E event_type row.play_count) row r) ∧
      (¬ r.done → r = noReward r.result db) := by
  have hno : ∀ result : Option ResultType, result ≠ some .SUCCESS → result ≠ some .ALREADY_REWARD →
      ((noReward result db).done → Settled E event_type (metSteps E event_type row.play_count) row (noReward result db)) ∧
        (¬ (noReward result db).done → noReward result db = noReward (noReward result db).result db) :=
    fun result h1 h2 => ⟨fun hd => absurd hd (by simp [RewardReply.done, noReward, h1, h2]), fun _ => rfl⟩
  unfold passReward
  split
  · exact hno _ (by simp) (by simp)
  · split
    · exact hno _ (by simp) (by simp)
    · split
      · exact hno _ (by simp) (by simp)
      · rw [hrow]
        dsimp only
        split
        · exact hno _ (by simp) (by simp)
        · split
          · exact hno _ (by simp) (by simp)
          · exact rewardRow_spec hT o hb hrow

end Claim

/-! ## Whole runs -/

theorem stepsOf_append (track : Track) (a b : List (Track × ℤ)) :
    stepsOf track (a ++ b) = stepsOf track a ++ stepsOf track b := by
  simp [stepsOf]

theorem stepsOf_map (track track' : Track) (steps : List ℤ) :
    stepsOf track (steps.map fun step => (track', step)) = if track' = track then steps else [] := by
  unfold stepsOf
  split_ifs with h
  · subst h
    rw [List.filter_eq_self.2 (by simp), List.map_map]
    exact List.map_id steps
  · rw [List.filter_eq_nil_iff.2 (by simp [h])]
    rfl

theorem stepsOf_due (lv : ℤ) (row : UserRow) :
    stepsOf .free (due lv row) = Int.range (row.reward_step_free + 1) (lv + 1) ∧
      stepsOf .paid (due lv row) = if row.is_purchase = 1 then Int.range (row.reward_step_paid + 1) (lv + 1) else [] := by
  unfold due
  simp only [stepsOf_append, stepsOf_map]
  simp

/-- a sum over rewarded steps, track by track -/
theorem sumAt_tracks (code : ℤ) (l : List (Track × ℤ)) :
    Tally.sumAt code (l.filterMap (stepReward E event_type)) =
      Tally.sumAt code ((stepsOf .free l).filterMap fun step => stepReward E event_type (.free, step)) +
        Tally.sumAt code ((stepsOf .paid l).filterMap fun step => stepReward E event_type (.paid, step)) := by
  induction l with
  | nil => rfl
  | cons e l ih =>
    have hsplit : ∀ track, stepsOf track (e :: l) = stepsOf track [e] ++ stepsOf track l := fun track =>
      stepsOf_append track [e] l
    have hcons : (e :: l).filterMap (stepReward E event_type) =
        [e].filterMap (stepReward E event_type) ++ l.filterMap (stepReward E event_type) := by
      rw [← List.filterMap_append]; rfl
    have hone : Tally.sumAt code ([e].filterMap (stepReward E event_type)) =
        Tally.sumAt code ((stepsOf .free [e]).filterMap fun step => stepReward E event_type (.free, step)) +
          Tally.sumAt code ((stepsOf .paid [e]).filterMap fun step => stepReward E event_type (.paid, step)) := by
      obtain ⟨track, step⟩ := e
      cases track with
      | free => cases hs : stepReward E event_type (.free, step) <;> simp [stepsOf, hs]
      | paid => cases hs : stepReward E event_type (.paid, step) <;> simp [stepsOf, hs]
    rw [hcons, hsplit, hsplit, List.filterMap_append, List.filterMap_append, Tally.sumAt_append, Tally.sumAt_append,
      Tally.sumAt_append, ih, hone]
    ring

/-- each track has rewarded the steps up to its counter, and everything supplied was for them -/
structure Inv (h : History ρ) (row : UserRow) : Prop where
  stored : h.db.row = some row
  bounded : Bounded E event_type row
  free : stepsOf .free h.rewarded = Int.range 1 (row.reward_step_free + 1)
  paid : stepsOf .paid h.rewarded = Int.range 1 (row.reward_step_paid + 1)
  unpurchased : row.is_purchase ≠ 1 → row.reward_step_paid = 0
  supplied : ∀ code, Tally.sumAt code h.supplied = Tally.sumAt code (h.rewarded.filterMap (stepReward E event_type))

/-- a purchase sets the flag, or changes nothing -/
theorem passPurchase_row (o : Outside ρ) (platform : ℤ) {db : Db ρ} {row : UserRow} (hrow : db.row = some row) :
    (passPurchase E event_type o platform db).2.row = some row ∨
      (passPurchase E event_type o platform db).2.row = some { row with is_purchase := 1 } := by
  unfold passPurchase
  split
  · exact Or.inl hrow
  · split
    · exact Or.inl hrow
    · split
      · exact Or.inl hrow
      · exact Or.inl hrow
      · exact Or.inl hrow
      · rw [hrow]
        simp only [Option.map_some, setPurchase]
        split_ifs
        · exact Or.inr rfl
        · exact Or.inl rfl

section Steps

variable {E event_type} {N : ℤ} (hT : PassTable E event_type N)
include hT

/-- the counters after a claim that comes through -/
theorem Inv.settle {h : History ρ} {row : UserRow} (hinv : Inv E event_type h row) {o : Outside ρ}
    (hdone : (passReward E event_type o h.db).done) :
    Inv E event_type (serve E event_type h (.reward o))
      (Event.settle (metSteps E event_type row.play_count) row) := by
  have hs := (passReward_spec hT o hinv.bounded hinv.stored).1 hdone
  obtain ⟨hfree, hpaid⟩ := stepsOf_due (metSteps E event_type row.play_count) row
  obtain ⟨b1, b2, b3, b4⟩ := hinv.bounded
  have hrewarded : (serve E event_type h (.reward o)).rewarded =
      h.rewarded ++ due (metSteps E event_type row.play_count) row := by rw [← hs.rewarded]; rfl
  refine ⟨hs.stored, ⟨Int.natCast_nonneg _, le_rfl, ?_, ?_⟩, ?_, ?_, fun hp => ?_, fun code => ?_⟩
  · unfold Event.settle
    dsimp only
    split_ifs
    · exact Int.natCast_nonneg _
    · exact b3
  · unfold Event.settle
    dsimp only
    split_ifs
    · exact le_rfl
    · exact b4
  · rw [hrewarded, stepsOf_append, hinv.free, hfree, Range.append (by omega) (by omega)]
    rfl
  · rw [hrewarded, stepsOf_append, hinv.paid, hpaid]
    unfold Event.settle
    dsimp only
    split_ifs
    · rw [Range.append (by omega) (by omega)]
    · rw [List.append_nil]
  · have hp' : row.is_purchase ≠ 1 := hp
    unfold Event.settle
    rw [if_neg hp']
    exact hinv.unpurchased hp'
  · have hsupplied : (serve E event_type h (.reward o)).supplied =
        h.supplied ++ (passReward E event_type o h.db).supplied := rfl
    have hrew : (serve E event_type h (.reward o)).rewarded =
        h.rewarded ++ (passReward E event_type o h.db).rewarded := rfl
    rw [hsupplied, hrew, Tally.sumAt_append, List.filterMap_append, Tally.sumAt_append, hinv.supplied, hs.supplied]

/-- step lemma -/
theorem serve_inv {h : History ρ} {row : UserRow} (hinv : Inv E event_type h row) (call : Call ρ) :
    ∃ row', Inv E event_type (serve E event_type h call) row' ∧ row.reward_step_free ≤ row'.reward_step_free ∧
      row.reward_step_paid ≤ row'.reward_step_paid := by
  obtain ⟨b1, b2, b3, b4⟩ := hinv.bounded
  cases call with
  | play count =>
    have hmono : metSteps E event_type row.play_count ≤ metSteps E event_type (row.play_count + count) :=
      metSteps_mono E event_type (by omega)
    refine ⟨{ row with play_count := row.play_count + count }, ⟨?_, ⟨b1, ?_, b3, ?_⟩, hinv.free, hinv.paid,
      hinv.unpurchased, hinv.supplied⟩, le_rfl, le_rfl⟩
    · simp [serve, hinv.stored]
    · dsimp only; omega
    · dsimp only; omega
  | purchase o platform =>
    rcases passPurchase_row E event_type o platform hinv.stored with hrow | hrow
    · exact ⟨row, ⟨hrow, hinv.bounded, hinv.free, hinv.paid, hinv.unpurchased, hinv.supplied⟩, le_rfl, le_rfl⟩
    · exact ⟨_, ⟨hrow, ⟨b1, b2, b3, b4⟩, hinv.free, hinv.paid, fun hp => absurd rfl hp, hinv.supplied⟩, le_rfl, le_rfl⟩
  | reward o =>
    by_cases hdone : (passReward E event_type o h.db).done
    · refine ⟨_, hinv.settle hT hdone, b2, ?_⟩
      unfold settle
      dsimp only
      split_ifs
      · exact b4
      · exact le_rfl
    · -- rolled back or refused
      have hno := (passReward_spec hT o hinv.bounded hinv.stored).2 hdone
      have hsame : serve E event_type h (.reward o) = h := by
        simp only [serve]
        rw [hno]
        simp [noReward]
      rw [hsame]
      exact ⟨row, hinv, le_rfl, le_rfl⟩

/-- run lemma -/
theorem run_inv_row {db : Db ρ} {row₀ : UserRow} (hrow : db.row = some row₀) (hfree : row₀.reward_step_free = 0)
    (hpaid : row₀.reward_step_paid = 0) (calls : List (Call ρ)) :
    ∃ row, Inv E event_type (run (serve E event_type) ⟨db, [], []⟩ calls) row := by
  have hstart : Inv E event_type (⟨db, [], []⟩ : History ρ) row₀ := by
    refine ⟨hrow, ⟨hfree.ge, ?_, hpaid.ge, ?_⟩, ?_, ?_, fun _ => hpaid, fun _ => rfl⟩
    · rw [hfree]; exact Int.natCast_nonneg _
    · rw [hpaid]; exact Int.natCast_nonneg _
    · rw [hfree, zero_add, Range.self]; rfl
    · rw [hpaid, zero_add, Range.self]; rfl
  refine run_inv_all (I := fun h => ∃ row, Inv E event_type h row) ?_ ⟨row₀, hstart⟩ calls
  rintro h call ⟨row, hinv⟩
  obtain ⟨row', hinv', -⟩ := serve_inv hT hinv call
  exact ⟨row', hinv'⟩

end Steps

/-! ## What is paid -/

/-- a reward that a claim supplies, by code and count, with what the claim meets outside -/
abbrev Good (ρ : Type) := Outside ρ × (ℤ × ℤ)

/-- `SupplyUserResourceExAsCommander` -/
def pay (resource : ρ) (good : Good ρ) : Option (ρ × List ResultData) :=
  good.1.supply resource (decide (good.2.1 = E.CARROT_OIL)) good.2.1 good.2.2

/-- `RewardItems` of the reply to a claim -/
def rewardItems (h : History ρ) : Call ρ → List ResultData
  | .reward o => (passReward E event_type o h.db).RewardItems
  | _ => []

theorem supplyAll_paid (o : Outside ρ) {dict : List (ℤ × ℤ)} {resource resource' : ρ} {datas datas' : List ResultData}
    (h : supplyAll E o dict (resource, datas) = some (resource', datas')) :
    ∃ new, datas' = datas ++ new ∧
      Payout.carry (pay E) resource (dict.map fun entry => (o, entry)) = some (resource', new) := by
  induction dict generalizing resource datas with
  | nil =>
    obtain ⟨rfl, rfl⟩ := Prod.mk.inj (Option.some.inj h)
    exact ⟨[], (List.append_nil _).symm, rfl⟩
  | cons entry dict ih =>
    obtain ⟨code, cnt⟩ := entry
    rw [supplyAll] at h
    cases hsupply : o.supply resource (decide (code = E.CARROT_OIL)) code cnt with
    | none => simp [hsupply] at h
    | some s =>
      simp only [hsupply] at h
      obtain ⟨new, rfl, hcarry⟩ := ih h
      refine ⟨s.2 ++ new, List.append_assoc .., ?_⟩
      have hone : Payout.carry (pay E) resource [(o, (code, cnt))] = some (s.1, s.2) := Payout.carry_one hsupply
      exact Payout.carry_append hone hcarry

/-- a reply whose rewards went through the helper one after another, with its entries as `RewardItems` -/
def RewardReply.Paid (o : Outside ρ) (db : Db ρ) (r : RewardReply ρ) : Prop :=
  Payout.carry (pay E) db.resource (r.supplied.map fun entry => (o, entry)) = some (r.db.resource, r.RewardItems)

theorem noReward_paid (o : Outside ρ) (db : Db ρ) (result : Option ResultType) : (noReward result db).Paid E o db := rfl

theorem rewardRow_paid (o : Outside ρ) (row : UserRow) (db : Db ρ) : (rewardRow E event_type o row db).Paid E o db := by
  unfold rewardRow
  dsimp only
  split
  · exact noReward_paid E o db _
  · split
    · exact noReward_paid E o db _
    · rename_i total_reward_dict _
      by_cases hdue : row.reward_step_free < rewardStepLv E event_type row.play_count ∨
          row.reward_step_paid < rewardStepLv E event_type row.play_count ∧ row.is_purchase = 1
      · rw [if_pos hdue]
        cases hsupply : supplyAll E o total_reward_dict (db.resource, []) with
        | none => exact noReward_paid E o db _
        | some s =>
          obtain ⟨new, hdatas, hcarry⟩ := supplyAll_paid E o hsupply
          obtain rfl : s.2 = new := hdatas
          exact hcarry
      · rw [if_neg hdue]
        exact noReward_paid E o db _

/-- **A claim pays what it logs, or nothing.** -/
theorem passReward_paid (o : Outside ρ) (db : Db ρ) : (passReward E event_type o db).Paid E o db := by
  unfold passReward
  split
  · exact noReward_paid E o db _
  · split
    · exact noReward_paid E o db _
    · split
      · exact noReward_paid E o db _
      · split
        · exact noReward_paid E o db _
        · split
          · exact noReward_paid E o db _
          · split
            · exact noReward_paid E o db _
            · exact rewardRow_paid E event_type o _ db

/-- a purchase leaves the goods alone -/
theorem passPurchase_resource (o : Outside ρ) (platform : ℤ) (db : Db ρ) :
    (passPurchase E event_type o platform db).2.resource = db.resource := by
  unfold passPurchase
  split
  · rfl
  · split
    · rfl
    · split <;> rfl

/-- the log of the supplies is what has been paid: from the goods at the start, by the claims of the run, with all entries of
the replies -/
def PaidOut (resource₀ : ρ) (calls : List (Call ρ)) (h : History ρ) (items : List ResultData) : Prop :=
  ∃ goods : List (Good ρ), goods.map Prod.snd = h.supplied ∧ (∀ good ∈ goods, .reward good.1 ∈ calls) ∧
    Payout.carry (pay E) resource₀ goods = some (h.db.resource, items)

/-- step lemma -/
theorem serve_paid (h : History ρ) (call : Call ρ) :
    ∃ goods : List (Good ρ), (serve E event_type h call).supplied = h.supplied ++ goods.filterMap (some ∘ Prod.snd) ∧
      (∀ good ∈ goods, call = .reward good.1) ∧
      Payout.carry (pay E) h.db.resource goods =
        some ((serve E event_type h call).db.resource, rewardItems E event_type h call) := by
  cases call with
  | play count => exact ⟨[], (List.append_nil _).symm, by simp, rfl⟩
  | purchase o platform =>
    refine ⟨[], (List.append_nil _).symm, by simp, ?_⟩
    rw [Payout.carry, serve, passPurchase_resource]
    rfl
  | reward o =>
    refine ⟨_, ?_, ?_, passReward_paid E event_type o h.db⟩
    · rw [List.filterMap_eq_map, List.map_map]
      exact congrArg (h.supplied ++ ·) (List.map_id _).symm
    · intro good hgood
      obtain ⟨entry, -, rfl⟩ := List.mem_map.1 hgood
      rfl

/-- run lemma -/
theorem run_paid (db : Db ρ) (calls : List (Call ρ)) :
    PaidOut E db.resource calls (run (serve E event_type) ⟨db, [], []⟩ calls)
      (Payout.gathered (serve E event_type) (rewardItems E event_type) ⟨db, [], []⟩ calls) := by
  obtain ⟨goods, hlog, hby, hcarry⟩ := Payout.run_carries (serve_paid E event_type) ⟨db, [], []⟩ calls
  refine ⟨goods, ?_, ?_, hcarry⟩
  · rw [hlog, List.filterMap_eq_map]
    rfl
  · intro good hgood
    obtain ⟨call, hcall, rfl⟩ := hby good hgood
    exact hcall

/-- the pass account of a reached state -/
structure Account (h : History ρ) (row : UserRow) : Prop where
  stored : h.db.row = some row
  /-- every step up to the counter was rewarded once, and no other -/
  free : stepsOf .free h.rewarded = Int.range 1 (row.reward_step_free + 1)
  paid : stepsOf .paid h.rewarded = Int.range 1 (row.reward_step_paid + 1)
  /-- what was supplied is what these steps give, code by code -/
  supplied : ∀ code, Tally.sumAt code h.supplied = Tally.sumAt code (h.rewarded.filterMap (stepReward E event_type))
  unpurchased : row.is_purchase ≠ 1 → stepsOf .paid h.rewarded = []
  free_le : row.reward_step_free ≤ metSteps E event_type row.play_count
  paid_le : row.reward_step_paid ≤ metSteps E event_type row.play_count
  /-- no call lowers a counter -/
  monotone : ∀ call, ∃ row', (serve E event_type h call).db.row = some row' ∧
    row.reward_step_free ≤ row'.reward_step_free ∧ row.reward_step_paid ≤ row'.reward_step_paid

section Result

variable {E event_type} {N : ℤ} (hT : PassTable E event_type N)
include hT

theorem Inv.account {h : History ρ} {row : UserRow} (hinv : Inv E event_type h row) : Account E event_type h row := by
  refine ⟨hinv.stored, hinv.free, hinv.paid, hinv.supplied, fun hp => ?_, hinv.bounded.free_le, hinv.bounded.paid_le,
    fun call => ?_⟩
  · rw [hinv.paid, hinv.unpurchased hp, zero_add, Range.self]
  · obtain ⟨row', hinv', h1, h2⟩ := serve_inv hT hinv call
    exact ⟨row', hinv'.stored, h1, h2⟩

/-- what two schedules have paid after a claim depends on the play count and the purchase status only -/
theorem Inv.same {h h' : History ρ} {row row' : UserRow} (hinv : Inv E event_type h row)
    (hinv' : Inv E event_type h' row') (hplay : row.play_count = row'.play_count)
    (hpurchase : row.is_purchase = 1 ↔ row'.is_purchase = 1) {o o' : Outside ρ}
    (hdone : (passReward E event_type o h.db).done) (hdone' : (passReward E event_type o' h'.db).done) (code : ℤ) :
    Tally.sumAt code (serve E event_type h (.reward o)).supplied =
      Tally.sumAt code (serve E event_type h' (.reward o')).supplied := by
  have hs := hinv.settle hT hdone
  have hs' := hinv'.settle hT hdone'
  rw [hs.supplied, hs'.supplied, sumAt_tracks, sumAt_tracks E event_type code (serve E event_type h' (.reward o')).rewarded,
    hs.free, hs.paid, hs'.free, hs'.paid]
  unfold Event.settle
  dsimp only
  rw [hplay]
  by_cases hp : row.is_purchase = 1
  · rw [if_pos hp, if_pos (hpurchase.1 hp)]
  · have hp' : ¬ row'.is_purchase = 1 := fun h => hp (hpurchase.2 h)
    rw [if_neg hp, if_neg hp', hinv.unpurchased hp, hinv'.unpurchased hp']

/-- **Event pass rewards do not depend on when they are claimed.** In every run both tracks have rewarded the steps up to
their counters, once each, and this is what the user's goods and the replies show; and two runs with the same play count and
purchase status have paid the same after a claim. -/
theorem pass_rewards {db : Db ρ} {row₀ : UserRow} (hrow : db.row = some row₀) (hfree : row₀.reward_step_free = 0)
    (hpaid : row₀.reward_step_paid = 0) (calls : List (Call ρ)) :
    (∃ row, Account E event_type (run (serve E event_type) ⟨db, [], []⟩ calls) row) ∧
      PaidOut E db.resource calls (run (serve E event_type) ⟨db, [], []⟩ calls)
        (Payout.gathered (serve E event_type) (rewardItems E event_type) ⟨db, [], []⟩ calls) ∧
      ∀ (calls' : List (Call ρ)) (o o' : Outside ρ) (row row' : UserRow),
        (run (serve E event_type) ⟨db, [], []⟩ calls).db.row = some row →
        (run (serve E event_type) ⟨db, [], []⟩ calls').db.row = some row' →
        row.play_count = row'.play_count → (row.is_purchase = 1 ↔ row'.is_purchase = 1) →
        (passReward E event_type o (run (serve E event_type) ⟨db, [], []⟩ calls).db).done →
        (passReward E event_type o' (run (serve E event_type) ⟨db, [], []⟩ calls').db).done →
        ∀ code, Tally.sumAt code (run (serve E event_type) ⟨db, [], []⟩ (calls ++ [.reward o])).supplied =
          Tally.sumAt code (run (serve E event_type) ⟨db, [], []⟩ (calls' ++ [.reward o'])).supplied := by
  obtain ⟨k, hinv⟩ := run_inv_row hT hrow hfree hpaid calls
  refine ⟨⟨k, hinv.account hT⟩, run_paid E event_type db calls, ?_⟩
  intro calls' o o' row row' hr hr' hplay hpurchase hdone hdone' code
  obtain ⟨k', hinv'⟩ := run_inv_row hT hrow hfree hpaid calls'
  obtain rfl : k = row := Option.some.inj (hinv.stored.symm.trans hr)
  obtain rfl : k' = row' := Option.some.inj (hinv'.stored.symm.trans hr')
  rw [run_append, run_append]
  exact hinv.same hT hinv' hplay hpurchase hdone hdone' code

end Result

/-- three steps at 2, 2 and 5 plays; the second paid reward is a carrot oil -/
def sampleEnv : Env where
  DEFENCE := [4]
  THREE_MATCH_B := []
  SURVIVAL := []
  hasColumn _ := true
  makeIdx _ _ step := step
  get881EventPass idx :=
    [⟨1, 2, 501, 10, 601, 1, 1⟩, ⟨2, 2, 501, 20, 9, 5, 1⟩, ⟨3, 5, 502, 1, 601, 2, 1⟩].find? fun r => r.idx = idx
  get881EventPassListByType _ := [⟨1, 2, 501, 10, 601, 1, 1⟩, ⟨2, 2, 501, 20, 9, 5, 1⟩, ⟨3, 5, 502, 1, 601, 2, 1⟩]
  get808EventIAPByIdx _ := some ⟨70, 71⟩
  CARROT_OIL := 9

/-- the event is on, the receipt is good, and the supply works or fails; the goods are the number of things supplied -/
def sampleOutside (works : Bool) : Outside ℤ where
  event_status := some (1, 1)
  isInvolvedEvent _ _ := true
  verify _ := .other
  supply resource _ code cnt := if works then some (resource + cnt, [⟨code, cnt, resource + cnt⟩]) else none

def sampleDb : Db ℤ := ⟨some ⟨1, 1, 0, 0, 0, 0⟩, 0⟩

/-- claims on the way, one of them rolled back, and a late purchase -/
def sampleCalls : List (Call ℤ) :=
  [.play 3, .reward (sampleOutside true), .play 2, .reward (sampleOutside false), .purchase (sampleOutside true) 0]

/-- one claim at the end -/
def sampleCalls' : List (Call ℤ) := [.purchase (sampleOutside true) 0, .play 5]

theorem pass_rewards_sample :
    ((run (serve sampleEnv 4) ⟨sampleDb, [], []⟩ sampleCalls).db = ⟨some ⟨1, 1, 1, 2, 0, 5⟩, 30⟩ ∧
      (run (serve sampleEnv 4) ⟨sampleDb, [], []⟩ (sampleCalls ++ [.reward (sampleOutside true)])).db =
        ⟨some ⟨1, 1, 1, 3, 3, 5⟩, 39⟩) ∧
    (∃ row, Account sampleEnv 4 (run (serve sampleEnv 4) ⟨sampleDb, [], []⟩ sampleCalls) row) ∧
    PaidOut sampleEnv 0 sampleCalls (run (serve sampleEnv 4) ⟨sampleDb, [], []⟩ sampleCalls) [⟨501, 30, 30⟩] ∧
    Tally.sumAt 501 (run (serve sampleEnv 4) ⟨sampleDb, [], []⟩ (sampleCalls ++ [.reward (sampleOutside true)])).supplied =
      Tally.sumAt 501
        (run (serve sampleEnv 4) ⟨sampleDb, [], []⟩ (sampleCalls' ++ [.reward (sampleOutside true)])).supplied := by
  have hT : PassTable sampleEnv 4 3 := by
    refine ⟨by decide, by decide, fun step h1 h2 => ?_⟩
    obtain rfl | rfl | rfl : step = 1 ∨ step = 2 ∨ step = 3 := by omega
    all_goals decide
  have hrow : sampleDb.row = some ⟨1, 1, 0, 0, 0, 0⟩ := rfl
  have hitems : Payout.gathered (serve sampleEnv 4) (rewardItems sampleEnv 4) ⟨sampleDb, [], []⟩ sampleCalls =
      [⟨501, 30, 30⟩] := by decide
  have hruns := pass_rewards hT hrow rfl rfl sampleCalls
  refine ⟨⟨by rfl, by rfl⟩, hruns.1, ?_, ?_⟩
  · rw [← hitems]
    exact hruns.2.1
  · exact hruns.2.2 sampleCalls' (sampleOutside true) (sampleOutside true) ⟨1, 1, 1, 2, 0, 5⟩ ⟨1, 1, 1, 0, 0, 5⟩
      (by decide) (by decide) rfl Iff.rfl (Or.inl (by decide)) (Or.inl (by decide)) 501

end

end GameServer.Event
