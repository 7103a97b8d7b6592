/-
The write queue of one session. `DoSendMsg` posts a message and starts a write if the queue was empty; `HandleWrite`
completes a write, pops the queue and starts the next one. The strand runs one of them at a time.

The front of the queue stays in the queue while it is written. So an empty queue means that nothing is in flight, as long
as no write has failed; a failed write is never popped, and the queue that it leaves non-empty stops every later start.

A write is known by the entry of the queue that it is for. The bytes are outside: `Write` passes `sizeof(msg)` bytes of the
`std::string` object at the front, not its text.
-/
import Mathlib.Tactic
import GameServer.Core.Run

namespace GameServer.Network

open GameServer.Core

/-! ## Model -/

/-- the write side of a session -/
structure Writer (μ : Type*) where
  write_msgs : List μ
  /-- the async writes in flight, by the entries they are for -/
  inFlight : List μ
  /-- every write started so far -/
  started : List μ
  /-- the writes completed without an error: these entries have left the queue -/
  completed : List μ
  /-- the messages given to `DoSendMsg` -/
  posted : List μ
  /-- the socket is closed -/
  closed : Bool
deriving DecidableEq

def Writer.empty (μ : Type*) : Writer μ := ⟨[], [], [], [], [], false⟩

variable {μ : Type*}

/-- called with a non-empty queue only -/
def write (s : Writer μ) : Writer μ :=
  match s.write_msgs with
  | [] => s
  | msg :: _ => { s with inFlight := s.inFlight ++ [msg], started := s.started ++ [msg] }

def doSendMsg (s : Writer μ) (serialized : μ) : Writer μ :=
  let write_in_progress := !s.write_msgs.isEmpty
  let s := { s with write_msgs := s.write_msgs ++ [serialized], posted := s.posted ++ [serialized] }
  if write_in_progress then s else write s

/-- write number i of those in flight has ended -/
def handleWrite (s : Writer μ) (i : ℕ) (error : Bool) : Writer μ :=
  let ended := s.inFlight[i]?
  let s := { s with inFlight := s.inFlight.eraseIdx i }
  if error then { s with closed := true }
  else
    let s := { s with write_msgs := s.write_msgs.tail, completed := s.completed ++ ended.toList }
    if s.write_msgs.isEmpty then s else write s

inductive Step (μ : Type*) where
  | doSendMsg (serialized : μ)
  | handleWrite (i : ℕ) (error : Bool)

def step (s : Writer μ) : Step μ → Writer μ
  | .doSendMsg serialized => doSendMsg s serialized
  | .handleWrite i error => handleWrite s i error

/-- only a write in flight can end -/
def legalStep (s : Writer μ) : Step μ → Prop
  | .doSendMsg _ => True
  | .handleWrite i _ => i < s.inFlight.length

def fails : Step μ → Prop
  | .handleWrite _ error => error = true
  | .doSendMsg _ => False

instance (s : Writer μ) (o : Step μ) : Decidable (legalStep s o) := by
  cases o <;> unfold legalStep <;> infer_instance

/-! ## The invariant -/

/-- before a failure the front is in flight; after one nothing is, and the queue is never empty again -/
structure Flight (s : Writer μ) : Prop where
  front : s.closed = false → s.inFlight = s.write_msgs.head?.toList
  stopped : s.closed = true → s.inFlight = [] ∧ s.write_msgs ≠ []
  history : s.completed ++ s.write_msgs = s.posted

theorem Flight.empty : Flight (Writer.empty μ) := ⟨fun _ => rfl, fun h => (by cases h), rfl⟩

theorem doSendMsg_flight {s : Writer μ} (h : Flight s) (serialized : μ) : Flight (doSendMsg s serialized) := by
  have hhistory : s.completed ++ (s.write_msgs ++ [serialized]) = s.posted ++ [serialized] := by
    rw [← List.append_assoc, h.history]
  cases hq : s.write_msgs with
  | nil =>
    -- nothing is in flight, and no write has failed yet
    have hopen : s.closed = false := by
      by_contra hc
      exact (h.stopped (by simpa using hc)).2 hq
    have hnone : s.inFlight = [] := by rw [h.front hopen, hq]; rfl
    rw [hq] at hhistory
    refine ⟨?_, ?_, ?_⟩
    · intro _
      simp [doSendMsg, write, hq, hnone]
    · intro hc
      simp [doSendMsg, write, hq, hopen] at hc
    · simpa [doSendMsg, write, hq] using hhistory
  | cons msg rest =>
    rw [hq] at hhistory
    refine ⟨?_, ?_, ?_⟩
    · intro hc
      simpa [doSendMsg, hq] using h.front (by simpa [doSendMsg, hq] using hc)
    · intro hc
      have hstop := h.stopped (by simpa [doSendMsg, hq] using hc)
      simpa [doSendMsg, hq] using hstop.1
    · simpa [doSendMsg, hq] using hhistory

/-- a write that ends is the only one, and it is the front of the queue -/
theorem ended_front {s : Writer μ} (h : Flight s) {i : ℕ} (hi : i < s.inFlight.length) :
    i = 0 ∧ s.closed = false ∧ ∃ msg rest, s.write_msgs = msg :: rest ∧ s.inFlight = [msg] := by
  have hopen : s.closed = false := by
    by_contra hc
    rw [(h.stopped (by simpa using hc)).1] at hi
    exact absurd hi (Nat.not_lt_zero i)
  have hfront := h.front hopen
  cases hq : s.write_msgs with
  | nil =>
    rw [hfront, hq] at hi
    exact absurd hi (Nat.not_lt_zero i)
  | cons msg rest =>
    rw [hq] at hfront
    have hone : s.inFlight = [msg] := hfront
    rw [hone] at hi
    exact ⟨Nat.lt_one_iff.1 hi, hopen, msg, rest, rfl, hone⟩

theorem handleWrite_flight {s : Writer μ} (h : Flight s) {i : ℕ} (hi : i < s.inFlight.length) (error : Bool) :
    Flight (handleWrite s i error) := by
  obtain ⟨rfl, hopen, msg, rest, hq, hone⟩ := ended_front h hi
  have hhistory : s.completed ++ msg :: rest = s.posted := hq ▸ h.history
  cases error with
  | true =>
    refine ⟨?_, ?_, ?_⟩
    · intro hc
      simp [handleWrite] at hc
    · intro _
      simp [handleWrite, hone, hq]
    · simpa [handleWrite, hq] using hhistory
  | false =>
    have hsplit : s.completed ++ [msg] ++ rest = s.posted := by simpa using hhistory
    cases rest with
    | nil =>
      refine ⟨?_, ?_, ?_⟩
      · intro _
        simp [handleWrite, hone, hq]
      · intro hc
        simp [handleWrite, hq, hopen] at hc
      · simpa [handleWrite, hone, hq] using hsplit
    | cons next rest =>
      refine ⟨?_, ?_, ?_⟩
      · intro _
        simp [handleWrite, write, hone, hq]
      · intro hc
        simp [handleWrite, write, hq, hopen] at hc
      · simpa [handleWrite, write, hone, hq] using hsplit

/-- step lemma -/
theorem step_flight (s : Writer μ) (o : Step μ) (h : Flight s) (hl : legalStep s o) : Flight (step s o) := by
  cases o with
  | doSendMsg serialized => exact doSendMsg_flight h serialized
  | handleWrite i error => exact handleWrite_flight h hl error

/-! ## Failures -/

/-- without a failure the socket stays open -/
theorem step_closed (s : Writer μ) {o : Step μ} (ho : ¬ fails o) : (step s o).closed = s.closed := by
  cases o with
  | doSendMsg serialized =>
    simp only [step, doSendMsg, write]
    split
    · rfl
    · split <;> rfl
  | handleWrite i error =>
    cases error with
    | true => exact absurd rfl ho
    | false =>
      simp only [step, handleWrite, write]
      split
      · contradiction
      · split
        · rfl
        · split <;> rfl

theorem run_closed (s : Writer μ) {steps : List (Step μ)} (hsteps : ∀ o ∈ steps, ¬ fails o) :
    (run step s steps).closed = s.closed := by
  induction steps generalizing s with
  | nil => rfl
  | cons o steps ih =>
    rw [run_cons, ih _ fun o' ho' => hsteps o' (List.mem_cons_of_mem o ho')]
    exact step_closed s (hsteps o List.mem_cons_self)

/-- nothing is started on a closed socket -/
theorem step_stopped {s : Writer μ} (h : Flight s) (hc : s.closed = true) {o : Step μ} (hl : legalStep s o) :
    (step s o).closed = true ∧ (step s o).started = s.started := by
  obtain ⟨hnone, hq⟩ := h.stopped hc
  cases o with
  | doSendMsg serialized => simp [step, doSendMsg, hq, hc]
  | handleWrite i error =>
    have hi : i < s.inFlight.length := hl
    rw [hnone] at hi
    exact absurd hi (Nat.not_lt_zero i)

theorem run_stopped {s : Writer μ} (h : Flight s) (hc : s.closed = true) {steps : List (Step μ)}
    (hl : LegalRun step legalStep s steps) : (run step s steps).started = s.started := by
  induction steps generalizing s with
  | nil => rfl
  | cons o steps ih =>
    obtain ⟨hnext, hstarted⟩ := step_stopped h hc hl.1
    rw [run_cons, ih (step_flight s o h hl.1) hnext hl.2, hstarted]

/-! ## Every run -/

/-- the messages of the posts, in order -/
def posts (steps : List (Step μ)) : List μ :=
  steps.filterMap fun o => match o with
    | .doSendMsg serialized => some serialized
    | .handleWrite _ _ => none

theorem step_posted (s : Writer μ) (o : Step μ) : (step s o).posted = s.posted ++ posts [o] := by
  cases o with
  | doSendMsg serialized =>
    simp only [step, doSendMsg, write]
    split
    · rfl
    · split <;> rfl
  | handleWrite i error =>
    simp only [step, handleWrite, write, posts, List.filterMap_cons_none, List.filterMap_nil, List.append_nil]
    split
    · rfl
    · split
      · rfl
      · split <;> rfl

theorem run_posted (s : Writer μ) (steps : List (Step μ)) : (run step s steps).posted = s.posted ++ posts steps := by
  induction steps generalizing s with
  | nil => simp [posts]
  | cons o steps ih =>
    have hposts : posts (o :: steps) = posts [o] ++ posts steps := List.filterMap_append (l := [o])
    rw [run_cons, ih, step_posted, hposts, List.append_assoc]

/-- **The write queue loses, duplicates and reorders nothing.** The runs are all orders of posts and completions. -/
theorem queue_in_order (steps : List (Step μ)) (h : LegalRun step legalStep (Writer.empty μ) steps) :
    (run step (Writer.empty μ) steps).inFlight.length ≤ 1 ∧
      ((∀ o ∈ steps, ¬ fails o) →
        (run step (Writer.empty μ) steps).inFlight = (run step (Writer.empty μ) steps).write_msgs.head?.toList) ∧
      (run step (Writer.empty μ) steps).completed ++ (run step (Writer.empty μ) steps).write_msgs = posts steps ∧
      ∀ before i after, steps = before ++ .handleWrite i true :: after →
        (run step (Writer.empty μ) steps).started = (run step (Writer.empty μ) before).started := by
  have hflight : Flight (run step (Writer.empty μ) steps) := run_inv step_flight Flight.empty h
  refine ⟨?_, ?_, ?_, ?_⟩
  · cases hc : (run step (Writer.empty μ) steps).closed with
    | true => simp [(hflight.stopped hc).1]
    | false =>
      rw [hflight.front hc]
      cases (run step (Writer.empty μ) steps).write_msgs <;> simp
  · intro hsteps
    exact hflight.front (run_closed _ hsteps)
  · rw [hflight.history, run_posted]
    rfl
  · intro before i after hsplit
    subst hsplit
    obtain ⟨hbefore, hfail, hafter⟩ := (LegalRun.append_iff _ _ _).1 h
    have hmid : Flight (run step (Writer.empty μ) before) := run_inv step_flight Flight.empty hbefore
    rw [run_append, run_cons, run_stopped (step_flight _ _ hmid hfail) (by simp [step, handleWrite]) hafter]
    rfl

/-- two posts, the first write succeeds, the second one fails, and a later post starts nothing -/
def failing : List (Step ℕ) :=
  [.doSendMsg 1, .doSendMsg 2, .handleWrite 0 false, .handleWrite 0 true, .doSendMsg 3]

theorem queue_in_order_failing :
    run step (Writer.empty ℕ) failing = ⟨[2, 3], [], [1, 2], [1], [1, 2, 3], true⟩ ∧
      (run step (Writer.empty ℕ) failing).completed ++ (run step (Writer.empty ℕ) failing).write_msgs =
        posts failing :=
  ⟨by decide, (queue_in_order failing (by decide)).2.2.1⟩

end GameServer.Network
