/-
Runs of a deterministic step machine under arbitrary operation lists.

- `run`: fold a step function over a list of operations.
- `LegalRun`: every operation is legal in the state it meets. Legality may depend on the state.
- `run_inv`: an invariant kept by every legal step is kept by every legal run. The runs are all runs, so this covers
  every state reached on the way.
- `run_inv_iff`: if legality is exactly what a step needs to keep it, the legal runs are exactly those that keep it.
- `run_mono_iff`: the same for a property together with a preorder that the states must climb.
- `run_inv_of`: the same where what makes an operation legal does not depend on the state.
- `run_sim`: two machines that take related operations keep a relation between their states.
- `run_project`: one machine takes the operations of many, another one those of one of them.
-/
import Mathlib.Tactic

namespace GameServer.Core

variable {σ ο : Type*}

/-- run a list of operations from a state -/
def run (step : σ → ο → σ) (s : σ) (ops : List ο) : σ := ops.foldl step s

/-- every operation is legal in the state it meets -/
def LegalRun (step : σ → ο → σ) (legal : σ → ο → Prop) : σ → List ο → Prop
  | _, [] => True
  | s, o :: ops => legal s o ∧ LegalRun step legal (step s o) ops

instance LegalRun.decide (step : σ → ο → σ) (legal : σ → ο → Prop) [∀ s o, Decidable (legal s o)] :
    ∀ (s : σ) (ops : List ο), Decidable (LegalRun step legal s ops)
  | _, [] => isTrue trivial
  | s, o :: ops =>
    have : Decidable (LegalRun step legal (step s o) ops) := LegalRun.decide step legal (step s o) ops
    inferInstanceAs (Decidable (legal s o ∧ LegalRun step legal (step s o) ops))

@[simp] theorem run_nil (step : σ → ο → σ) (s : σ) : run step s [] = s := rfl

@[simp] theorem run_cons (step : σ → ο → σ) (s : σ) (o : ο) (ops : List ο) :
    run step s (o :: ops) = run step (step s o) ops := rfl

theorem run_append (step : σ → ο → σ) (s : σ) (a b : List ο) :
    run step s (a ++ b) = run step (run step s a) b := by
  simp [run, List.foldl_append]

/-- what every step keeps, every run keeps -/
theorem run_inv_all {step : σ → ο → σ} {I : σ → Prop} (hstep : ∀ s o, I s → I (step s o)) {s : σ} (hs : I s)
    (ops : List ο) : I (run step s ops) := by
  induction ops generalizing s with
  | nil => exact hs
  | cons o ops ih => exact ih (hstep s o hs)

/-- what every operation of a kind keeps, every run of such operations keeps -/
theorem run_inv_of {step : σ → ο → σ} {I : σ → Prop} {P : ο → Prop} (hstep : ∀ s o, P o → I s → I (step s o)) {s : σ}
    (hs : I s) {ops : List ο} (hops : ∀ o ∈ ops, P o) : I (run step s ops) := by
  induction ops generalizing s with
  | nil => exact hs
  | cons o ops ih =>
    exact ih (hstep s o (hops o List.mem_cons_self) hs) fun o' ho' => hops o' (List.mem_cons_of_mem o ho')

section Legal

variable {step : σ → ο → σ} {legal : σ → ο → Prop}

/-- **Invariant rule.** What every legal step keeps, every legal run keeps. -/
theorem run_inv {I : σ → Prop} (hstep : ∀ s o, I s → legal s o → I (step s o)) {s : σ} {ops : List ο}
    (hs : I s) (h : LegalRun step legal s ops) : I (run step s ops) := by
  induction ops generalizing s with
  | nil => exact hs
  | cons o ops ih => exact ih (hstep s o hs h.1) h.2

theorem LegalRun.append_iff (s : σ) (a b : List ο) :
    LegalRun step legal s (a ++ b) ↔ LegalRun step legal s a ∧ LegalRun step legal (run step s a) b := by
  induction a generalizing s with
  | nil => simp [LegalRun]
  | cons o a ih =>
    rw [List.cons_append, LegalRun, ih, LegalRun, run_cons]
    exact and_assoc.symm

theorem run_inv_iff {I : σ → Prop} (hstep : ∀ s o, I s → (I (step s o) ↔ legal s o)) {s : σ} (hs : I s) (ops : List ο) :
    (∀ n, I (run step s (ops.take n))) ↔ LegalRun step legal s ops := by
  induction ops generalizing s with
  | nil => simp [LegalRun, hs]
  | cons o ops ih =>
    constructor
    · intro h
      have hnext : I (step s o) := h 1
      exact ⟨(hstep s o hs).1 hnext, (ih hnext).1 fun n => h (n + 1)⟩
    · intro h n
      have hnext : I (step s o) := (hstep s o hs).2 h.1
      cases n with
      | zero => exact hs
      | succ n => exact (ih hnext).2 h.2 n

/-- A legal step keeps the invariant and moves along the preorder, and only a legal step can keep what the invariant is
there for and do so: the legal runs are those that keep it and climb all the way. -/
theorem run_mono_iff {I P : σ → Prop} {R : σ → σ → Prop} (hrefl : ∀ s, R s s)
    (htrans : ∀ {a b c}, R a b → R b c → R a c) (hIP : ∀ s, I s → P s)
    (hkeep : ∀ s o, I s → legal s o → I (step s o) ∧ R s (step s o))
    (hlegal : ∀ s o, I s → P (step s o) → R s (step s o) → legal s o) {s : σ} (hs : I s) (ops : List ο) :
    ((∀ n, P (run step s (ops.take n))) ∧
        ∀ m n, m ≤ n → R (run step s (ops.take m)) (run step s (ops.take n))) ↔ LegalRun step legal s ops := by
  induction ops generalizing s with
  | nil => simp [LegalRun, hIP s hs, hrefl]
  | cons o ops ih =>
    constructor
    · intro ⟨hP, hR⟩
      have hl : legal s o := hlegal s o hs (hP 1) (hR 0 1 (Nat.zero_le 1))
      refine ⟨hl, (ih (hkeep s o hs hl).1).1 ⟨fun n => hP (n + 1), fun m n hmn => ?_⟩⟩
      exact hR (m + 1) (n + 1) (Nat.succ_le_succ hmn)
    · intro ⟨hl, hrun⟩
      obtain ⟨hnext, hmove⟩ := hkeep s o hs hl
      obtain ⟨hP, hR⟩ := (ih hnext).2 hrun
      constructor
      · intro n
        cases n with
        | zero => exact hIP s hs
        | succ n => exact hP n
      · intro m n hmn
        cases m with
        | succ m =>
          obtain ⟨n, rfl⟩ : ∃ k, n = k + 1 := ⟨n - 1, by omega⟩
          exact hR m n (Nat.le_of_succ_le_succ hmn)
        | zero =>
          cases n with
          | zero => exact hrefl s
          | succ n => exact htrans hmove (hR 0 n (Nat.zero_le n))

/-- legality may be weakened in the states of an invariant -/
theorem LegalRun.imp_inv {legal' : σ → ο → Prop} {I : σ → Prop} (hkeep : ∀ s o, I s → legal s o → I (step s o))
    (himp : ∀ s o, I s → legal s o → legal' s o) {s : σ} {ops : List ο} (hs : I s) (h : LegalRun step legal s ops) :
    LegalRun step legal' s ops := by
  induction ops generalizing s with
  | nil => trivial
  | cons o ops ih => exact ⟨himp s o hs h.1, ih (hkeep s o hs h.1) h.2⟩

theorem LegalRun.and {legal' : σ → ο → Prop} {s : σ} {ops : List ο} (h : LegalRun step legal s ops)
    (h' : LegalRun step legal' s ops) : LegalRun step (fun s o => legal s o ∧ legal' s o) s ops := by
  induction ops generalizing s with
  | nil => trivial
  | cons o ops ih => exact ⟨⟨h.1, h'.1⟩, ih h.2 h'.2⟩

/-- operations that are all legal now and do not spoil each other's legality form a legal run -/
theorem LegalRun.of_pairwise {R : ο → ο → Prop}
    (hkeep : ∀ s o o', legal s o → legal s o' → R o o' → legal (step s o) o') {s : σ} {ops : List ο}
    (hall : ∀ o ∈ ops, legal s o) (hR : ops.Pairwise R) : LegalRun step legal s ops := by
  induction ops generalizing s with
  | nil => trivial
  | cons o ops ih =>
    obtain ⟨h1, h2⟩ := List.pairwise_cons.1 hR
    refine ⟨hall o List.mem_cons_self, ih (fun o' ho' => ?_) h2⟩
    exact hkeep s o o' (hall o List.mem_cons_self) (hall o' (List.mem_cons_of_mem o ho')) (h1 o' ho')

end Legal

/-- **Simulation rule.** What related steps of two machines keep, their runs keep. -/
theorem run_sim {σ' ο' : Type*} {step : σ → ο → σ} {legal : σ → ο → Prop} {step' : σ' → ο' → σ'}
    {legal' : σ' → ο' → Prop} {R : σ → σ' → Prop} {Q : ο → ο' → Prop}
    (hstep : ∀ s s' o o', R s s' → Q o o' → legal s o → legal' s' o' → R (step s o) (step' s' o')) {ops : List ο}
    {ops' : List ο'} (hops : List.Forall₂ Q ops ops') {s : σ} {s' : σ'} (hs : R s s') (h : LegalRun step legal s ops)
    (h' : LegalRun step' legal' s' ops') : R (run step s ops) (run step' s' ops') := by
  induction hops generalizing s s' with
  | nil => exact hs
  | cons ho hops ih => exact ih (hstep _ _ _ _ hs ho h.1 h'.1) h.2 h'.2

/-- **Projection rule.** A machine that takes only the operations of one party follows the one that takes all. -/
theorem run_project {σ' ο' π : Type*} {step : σ → ο → σ} {legal : σ → ο → Prop} {step' : σ' → ο' → σ'}
    {legal' : σ' → ο' → Prop} {R : σ → σ' → Prop} {Q : π → ο' → Prop} {part : ο → Option π}
    (hown : ∀ s s' o p o', R s s' → part o = some p → Q p o' → legal s o → legal' s' o' → R (step s o) (step' s' o'))
    (hother : ∀ s s' o, R s s' → part o = none → legal s o → R (step s o) s') {ops : List ο} {ops' : List ο'}
    (hops : List.Forall₂ Q (ops.filterMap part) ops') {s : σ} {s' : σ'} (hs : R s s') (h : LegalRun step legal s ops)
    (h' : LegalRun step' legal' s' ops') : R (run step s ops) (run step' s' ops') := by
  induction ops generalizing s s' ops' with
  | nil =>
    rw [List.filterMap_nil, List.forall₂_nil_left_iff] at hops
    subst hops
    exact hs
  | cons o ops ih =>
    cases hpart : part o with
    | none =>
      rw [List.filterMap_cons_none hpart] at hops
      exact ih hops (hother s s' o hs hpart h.1) h.2 h'
    | some p =>
      rw [List.filterMap_cons_some hpart, List.forall₂_cons_left_iff] at hops
      obtain ⟨o', ops', ho, hops, rfl⟩ := hops
      exact ih hops (hown s s' o p o' hs hpart ho h.1 h'.1) h.2 h'.2

end GameServer.Core
