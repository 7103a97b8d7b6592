/-
The server as a whole: the accepts of `Server.cpp`, the reads and writes of `Session.cpp` and the rooms, on one `io_context`.
The handlers run one at a time, in any order in which what they wait for has happened: a read of a session that is being read
from, a `DoSendMsg` that has been posted, a write in flight.

- `rooms_reported`: every room ever made is reported once, to the session that made it; the entries that have left a
  session's write queue by a completed write, those still in it and those still posted are its reports in order. Rooms and
  sessions agree throughout.

`serialize` is `SerializeToString`; the ids of the sessions are random texts. What a client can read is outside: a write
passes bytes of the string object (`WriteQueue`).
-/
import GameServer.Core.Run
import GameServer.Core.Dictionary
import GameServer.Network.WriteQueue
import GameServer.Network.Texts

namespace GameServer.Network

open GameServer.Core

/-! ## Model -/

structure Net (σ μ : Type*) where
  server : Server σ
  /-- the `DoSendMsg` handlers posted to the strand of a session -/
  posts : σ → List μ
  writers : σ → Writer μ
  /-- an async read is pending -/
  reading : σ → Bool
  /-- `_session_map` -/
  sessionMap : AList fun _ : String => σ
  /-- the sessions started so far, with their ids -/
  started : List (String × σ)

variable {σ μ : Type*} [DecidableEq σ]

def boot (users : σ → ℕ) : Net σ μ := ⟨start users, fun _ => [], fun _ => Writer.empty μ, fun _ => false, ∅, []⟩

section

variable (serialize : Message → μ)

/-- the messages for a session -/
def messagesTo (x : σ) (sent : List (σ × Message)) : List μ := (sent.filter fun e => e.1 = x).map fun e => serialize e.2

/-- a call, and the posts of its `SendMsg` -/
def serve (n : Net σ μ) (c : Call σ) : Net σ μ :=
  { n with
    server := call n.server c
    posts := fun x => n.posts x ++ messagesTo serialize x ((call n.server c).sent.drop n.server.sent.length) }

/-- `HandleAccept` without an error: `Start` and `try_emplace` -/
def handleAccept (n : Net σ μ) (session : σ) (uuid : String) : Net σ μ :=
  { n with
    reading := Function.update n.reading session true
    sessionMap := if (n.sessionMap.lookup uuid).isSome then n.sessionMap else n.sessionMap.insert uuid session
    started := n.started ++ [(uuid, session)] }

/-- `HandleReadHeader` without an error; the next read is started at once -/
def handleReadHeader (n : Net σ μ) (session : σ) (message : Message) (draws : List ℕ) : Net σ μ :=
  if n.reading session then serve serialize n (.handleMessage session message draws) else n

/-- `HandleReadHeader` with an error -/
def handleReadError (n : Net σ μ) (session : σ) : Net σ μ :=
  if n.reading session then
    { serve serialize n (.handleDisconnect session) with reading := Function.update n.reading session false }
  else n

/-- the strand runs the first posted handler -/
def runPosted (n : Net σ μ) (session : σ) : Net σ μ :=
  match n.posts session with
  | [] => n
  | out :: rest =>
    { n with
      posts := Function.update n.posts session rest
      writers := Function.update n.writers session (doSendMsg (n.writers session) out) }

/-- `HandleWrite`; an error disconnects -/
def handleWritten (n : Net σ μ) (session : σ) (i : ℕ) (error : Bool) : Net σ μ :=
  if i < (n.writers session).inFlight.length then
    let written := { n with writers := Function.update n.writers session (handleWrite (n.writers session) i error) }
    if error then serve serialize written (.handleDisconnect session) else written
  else n

inductive Event (σ : Type*) where
  | accept (session : σ) (uuid : String)
  | read (session : σ) (message : Message) (draws : List ℕ)
  | readError (session : σ)
  | posted (session : σ)
  | written (session : σ) (i : ℕ) (error : Bool)

def netStep (n : Net σ μ) : Event σ → Net σ μ
  | .accept session uuid => handleAccept n session uuid
  | .read session message draws => handleReadHeader serialize n session message draws
  | .readError session => handleReadError serialize n session
  | .posted session => runPosted n session
  | .written session i error => handleWritten serialize n session i error

end

/-! ## What a call sends -/

/-- the create reply -/
def reply (room_id user_id : ℕ) : Message := ⟨.MSG_CREATE_ROOM, room_id, user_id, createMsg (roomName room_id)⟩

variable {s : Server σ} {c : Call σ}

theorem sent_call_none (h : createdId s c = none) : (call s c).sent = s.sent := by
  apply call_rule (P := fun t => t.sent = s.sent) rfl
  · rintro session message draws rfl htype
    rw [handleCreateRoom_of_none]
    intro hcur
    rwa [createdId, if_pos ⟨htype, hcur⟩] at h
  · intro session message _ _ _
    exact sent_handleJoinRoom s session message
  · exact sent_handleLeaveRoom s
  · intro t session ht
    exact ht

theorem sent_call_some {room_id : ℕ} (h : createdId s c = some room_id) :
    ∃ session message draws, c = .handleMessage session message draws ∧ message.type = .MSG_CREATE_ROOM ∧
      (call s c).sent = s.sent ++ [(session, reply room_id (s.sessions session).user_id)] := by
  obtain ⟨session, message, draws, rfl, htype, hcur, hfresh⟩ := createdId_some h
  refine ⟨session, message, draws, rfl, htype, ?_⟩
  rw [call, handleMessage, htype]
  dsimp only
  rw [handleCreateRoom, if_neg (not_inRoom hcur), hfresh]
  rfl

/-- the reports of the rooms -/
structure Reported (users : σ → ℕ) (s : Server σ) : Prop where
  once : (s.sent.map fun e => e.2.room_id).Nodup
  rooms : ∀ id, id ∈ roomIds s ↔ id ∈ s.sent.map fun e => e.2.room_id
  texts : ∀ e ∈ s.sent, e.2 = reply e.2.room_id (users e.1)

theorem Reported.call {users : σ → ℕ} (hlabel : Labelled users s) (h : Reported users s) (c : Call σ) :
    Reported users (call s c) := by
  cases hc : createdId s c with
  | none =>
    have hsent := sent_call_none hc
    have hids := roomIds_growth.same s c hc
    exact ⟨by rw [hsent]; exact h.once, fun id => by rw [hsent, hids]; exact h.rooms id, by rw [hsent]; exact h.texts⟩
  | some room_id =>
    obtain ⟨session, -, -, -, -, hsent⟩ := sent_call_some hc
    have hids := roomIds_growth.insert s c room_id hc
    have hfresh : room_id ∉ s.sent.map fun e => e.2.room_id := fun hmem =>
      roomIds_growth.fresh s c room_id hc ((h.rooms room_id).2 hmem)
    rw [hlabel.users] at hsent
    refine ⟨?_, ?_, ?_⟩
    · rw [hsent, List.map_append, List.map_singleton]
      exact List.nodup_append_comm.1 (List.nodup_cons.2 ⟨hfresh, h.once⟩)
    · intro id
      rw [hsent, hids, Finset.mem_insert, h.rooms, List.map_append, List.mem_append, List.map_singleton, List.mem_singleton]
      exact or_comm
    · intro e he
      rw [hsent] at he
      rcases List.mem_append.1 he with hold | hnew
      · exact h.texts e hold
      · rw [List.mem_singleton.1 hnew]
        rfl

/-- an event sends nothing, or it is a create message that makes a room and is answered -/
theorem netStep_sent (serialize : Message → μ) (n : Net σ μ) (e : Event σ) :
    (netStep serialize n e).server.sent = n.server.sent ∨
      ∃ session message draws room_id, e = .read session message draws ∧ message.type = .MSG_CREATE_ROOM ∧
        (netStep serialize n e).server.sent =
          n.server.sent ++ [(session, reply room_id (n.server.sessions session).user_id)] ∧
        room_id ∉ roomIds n.server ∧ room_id ∈ roomIds (netStep serialize n e).server := by
  cases e with
  | accept session uuid => exact Or.inl rfl
  | read session message draws =>
    rw [netStep, handleReadHeader]
    split_ifs with hreading
    · cases hc : createdId n.server (.handleMessage session message draws) with
      | none => exact Or.inl (sent_call_none hc)
      | some room_id =>
        obtain ⟨_, _, _, heq, htype, hsent⟩ := sent_call_some hc
        obtain ⟨rfl, rfl, rfl⟩ := Call.handleMessage.inj heq
        refine Or.inr ⟨session, message, draws, room_id, rfl, htype, hsent, roomIds_growth.fresh _ _ _ hc, ?_⟩
        rw [serve, roomIds_growth.insert _ _ _ hc]
        exact Finset.mem_insert_self room_id _
    · exact Or.inl rfl
  | readError session =>
    rw [netStep, handleReadError]
    split_ifs
    · exact Or.inl (sent_call_none rfl)
    · exact Or.inl rfl
  | posted session =>
    rw [netStep, runPosted]
    split <;> exact Or.inl rfl
  | written session i error =>
    rw [netStep, handleWritten]
    split_ifs
    · exact Or.inl (sent_call_none rfl)
    · exact Or.inl rfl
    · exact Or.inl rfl

/-! ## The invariant -/

section

variable {serialize : Message → μ} {users : σ → ℕ} {n : Net σ μ}

/-- what a session's writer has been given and what is still posted are the session's messages -/
def InTransit (serialize : Message → μ) (n : Net σ μ) : Prop :=
  ∀ x, (n.writers x).posted ++ n.posts x = messagesTo serialize x n.server.sent

structure NetInv (serialize : Message → μ) (users : σ → ℕ) (n : Net σ μ) : Prop where
  inv : Inv n.server
  labelled : Labelled users n.server
  reported : Reported users n.server
  flight : ∀ x, Flight (n.writers x)
  transit : InTransit serialize n
  /-- an id keeps the session that came first -/
  map : ∀ uuid, n.sessionMap.lookup uuid = (n.started.find? fun e => e.1 = uuid).map Prod.snd

omit [DecidableEq σ] in
theorem Reported.start (users : σ → ℕ) : Reported users (start users) :=
  ⟨List.nodup_nil, fun id => by rw [roomIds_start]; rfl, fun e he => by cases he⟩

theorem NetInv.boot (serialize : Message → μ) (users : σ → ℕ) : NetInv serialize users (boot users : Net σ μ) :=
  ⟨Inv.start users, Labelled.start users, Reported.start users, fun _ => Flight.empty, fun _ => rfl, fun _ => rfl⟩

theorem messagesTo_append (x : σ) (sent more : List (σ × Message)) :
    messagesTo serialize x (sent ++ more) = messagesTo serialize x sent ++ messagesTo serialize x more := by
  unfold messagesTo
  rw [List.filter_append, List.map_append]

theorem NetInv.serve (h : NetInv serialize users n) (c : Call σ) : NetInv serialize users (serve serialize n c) := by
  refine ⟨Inv.call _ c h.inv, Labelled.call _ c h.labelled, h.reported.call h.labelled c, h.flight, ?_, h.map⟩
  intro x
  obtain ⟨more, hmore⟩ : ∃ more, (call n.server c).sent = n.server.sent ++ more := by
    cases hc : createdId n.server c with
    | none => exact ⟨[], (sent_call_none hc).trans (List.append_nil _).symm⟩
    | some room_id =>
      obtain ⟨session, -, -, -, -, hsent⟩ := sent_call_some hc
      exact ⟨_, hsent⟩
  unfold Network.serve
  dsimp only
  rw [hmore, List.drop_left, messagesTo_append, ← h.transit x, List.append_assoc]

/-- a write that ends posts nothing -/
theorem posted_handleWrite (w : Writer μ) (i : ℕ) (error : Bool) : (handleWrite w i error).posted = w.posted := by
  exact (step_posted w (.handleWrite i error)).trans (List.append_nil _)

theorem NetInv.runPosted (h : NetInv serialize users n) (session : σ) : NetInv serialize users (runPosted n session) := by
  unfold Network.runPosted
  cases hposts : n.posts session with
  | nil => exact h
  | cons out rest =>
    refine ⟨h.inv, h.labelled, h.reported, ?_, ?_, h.map⟩
    · intro x
      dsimp only
      by_cases hx : x = session
      · subst hx
        rw [Function.update_self]
        exact doSendMsg_flight (h.flight x) out
      · rw [Function.update_of_ne hx]
        exact h.flight x
    · intro x
      dsimp only
      by_cases hx : x = session
      · subst hx
        have hold := h.transit x
        have hposted : (doSendMsg (n.writers x) out).posted = (n.writers x).posted ++ [out] :=
          step_posted (n.writers x) (.doSendMsg out)
        rw [hposts] at hold
        rw [Function.update_self, Function.update_self, hposted, List.append_assoc]
        exact hold
      · rw [Function.update_of_ne hx, Function.update_of_ne hx]
        exact h.transit x

theorem NetInv.handleWritten (h : NetInv serialize users n) (session : σ) (i : ℕ) (error : Bool) :
    NetInv serialize users (handleWritten serialize n session i error) := by
  unfold Network.handleWritten
  by_cases hi : i < (n.writers session).inFlight.length
  · rw [if_pos hi]
    have hwritten : NetInv serialize users
        { n with writers := Function.update n.writers session (handleWrite (n.writers session) i error) } := by
      refine ⟨h.inv, h.labelled, h.reported, ?_, ?_, h.map⟩
      · intro x
        dsimp only
        by_cases hx : x = session
        · subst hx
          rw [Function.update_self]
          exact handleWrite_flight (h.flight x) hi error
        · rw [Function.update_of_ne hx]
          exact h.flight x
      · intro x
        dsimp only
        by_cases hx : x = session
        · subst hx
          rw [Function.update_self, posted_handleWrite]
          exact h.transit x
        · rw [Function.update_of_ne hx]
          exact h.transit x
    dsimp only
    split_ifs
    · exact hwritten.serve _
    · exact hwritten
  · rw [if_neg hi]
    exact h

theorem NetInv.handleAccept (h : NetInv serialize users n) (session : σ) (uuid : String) :
    NetInv serialize users (handleAccept n session uuid) := by
  refine ⟨h.inv, h.labelled, h.reported, h.flight, h.transit, ?_⟩
  intro uuid'
  have hold := h.map uuid'
  unfold Network.handleAccept
  dsimp only
  rw [List.find?_append, Option.map_or, ← hold]
  split_ifs with hin
  · by_cases heq : uuid = uuid'
    · subst heq
      obtain ⟨x, hx⟩ := Option.isSome_iff_exists.1 hin
      rw [hx]
      rfl
    · simp [heq]
  · rw [Dictionary.lookup_insert]
    by_cases heq : uuid' = uuid
    · subst heq
      rw [if_pos rfl, Option.not_isSome_iff_eq_none.1 hin]
      simp
    · simp [heq, Ne.symm heq]

/-- step lemma -/
theorem NetInv.step (n : Net σ μ) (e : Event σ) (h : NetInv serialize users n) :
    NetInv serialize users (netStep serialize n e) := by
  cases e with
  | accept session uuid => exact h.handleAccept session uuid
  | read session message draws =>
    rw [netStep, handleReadHeader]
    split_ifs
    · exact h.serve _
    · exact h
  | readError session =>
    rw [netStep, handleReadError]
    split_ifs
    · have hserve := h.serve (.handleDisconnect session)
      exact ⟨hserve.inv, hserve.labelled, hserve.reported, hserve.flight, hserve.transit, hserve.map⟩
    · exact h
  | posted session => exact h.runPosted session
  | written session i error => exact h.handleWritten session i error

/-! ## Every run -/

/-- the session has made the room: it came into being when a create message of the session was read -/
def Made (serialize : Message → μ) (users : σ → ℕ) (events : List (Event σ)) (session : σ) (room_id : ℕ) : Prop :=
  ∃ before message draws after, events = before ++ .read session message draws :: after ∧
    message.type = .MSG_CREATE_ROOM ∧ room_id ∉ roomIds (run (netStep serialize) (boot users) before).server ∧
    room_id ∈ roomIds (run (netStep serialize) (boot users) (before ++ [.read session message draws])).server

theorem Made.snoc {events : List (Event σ)} {session : σ} {room_id : ℕ} (h : Made serialize users events session room_id)
    (e : Event σ) : Made serialize users (events ++ [e]) session room_id := by
  obtain ⟨before, message, draws, after, rfl, hmade⟩ := h
  exact ⟨before, message, draws, after ++ [e], by simp, hmade⟩

/-- what is sent goes to the session that has made the room -/
theorem sent_made (serialize : Message → μ) (users : σ → ℕ) (events : List (Event σ)) :
    ∀ e ∈ (run (netStep serialize) (boot users) events).server.sent, Made serialize users events e.1 e.2.room_id := by
  induction events using List.reverseRecOn with
  | nil => exact fun e he => by cases he
  | append_singleton events event ih =>
    intro e he
    rw [run_append, run_cons, run_nil] at he
    rcases netStep_sent serialize (run (netStep serialize) (boot users) events) event with hsent | hsent
    · rw [hsent] at he
      exact (ih e he).snoc event
    · obtain ⟨session, message, draws, room_id, rfl, htype, hsent, hfresh, hin⟩ := hsent
      rw [hsent] at he
      rcases List.mem_append.1 he with hold | hnew
      · exact (ih e hold).snoc _
      · rw [List.mem_singleton.1 hnew]
        refine ⟨events, message, draws, [], rfl, htype, hfresh, ?_⟩
        rwa [run_append, run_cons, run_nil]

/-- **Every room is reported once, to the session that made it, and nothing is lost on the way to its socket.** In every order
of accepts, reads, posted handlers and completed or failed writes: the replies sent name every room of the server exactly
once, each goes to the session whose create message made the room, with its user id; the entries whose write has completed,
the write queue and the posts of a session are together its replies in order, with at most one write in flight; rooms and
sessions agree; and the session map keeps, under each id, the session that came first. -/
theorem rooms_reported (serialize : Message → μ) (users : σ → ℕ) (events : List (Event σ)) :
    let n := run (netStep serialize) (boot users) events
    Reported users n.server ∧ (∀ e ∈ n.server.sent, Made serialize users events e.1 e.2.room_id) ∧ Consistent n.server ∧
      (∀ x, (n.writers x).completed ++ (n.writers x).write_msgs ++ n.posts x = messagesTo serialize x n.server.sent ∧
        (n.writers x).inFlight.length ≤ 1) ∧
      ∀ uuid, n.sessionMap.lookup uuid = (n.started.find? fun e => e.1 = uuid).map Prod.snd := by
  intro n
  have h : NetInv serialize users n := run_inv_all NetInv.step (NetInv.boot serialize users) events
  refine ⟨h.reported, sent_made serialize users events, h.inv.consistent, fun x => ⟨?_, ?_⟩, h.map⟩
  · rw [(h.flight x).history]
    exact h.transit x
  · cases hclosed : (n.writers x).closed with
    | true => simp [((h.flight x).stopped hclosed).1]
    | false =>
      rw [(h.flight x).front hclosed]
      cases (n.writers x).write_msgs <;> simp

end

end GameServer.Network
