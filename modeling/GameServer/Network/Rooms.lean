/-
The room server: a room keeps the set of its members, a session keeps its current room id. `Room::Join` and `Room::Leave`
write both sides; they are reached from the create, join and leave messages and from a disconnect, which may happen
more than once.

Sessions are an arbitrary type. `handleMessage` takes the raw random numbers that a create message may draw; with no free
id among them the loop is still running and nothing has happened yet.
-/
import Mathlib.Data.List.AList
import GameServer.Core.Run
import GameServer.Core.Mirror
import GameServer.Core.Dictionary

namespace GameServer.Network

open GameServer.Core

/-! ## Model -/

inductive MessageType where
  | MSG_CREATE_ROOM
  | MSG_JOIN_ROOM
  | MSG_LEAVE_ROOM
  | MSG_CHAT
  | MSG_ROOM_LIST
  | MSG_USER_LIST
  | unknown (type : ℕ)
deriving DecidableEq

structure Message where
  type : MessageType
  room_id : ℕ
  user_id : ℕ
  data : String
deriving DecidableEq

structure Room (σ : Type*) where
  id : ℕ
  name : String
  members : Finset σ

structure Session where
  current_room_id : ℕ
  user_id : ℕ
  /-- the socket is closed -/
  closed : Bool
deriving DecidableEq

structure Server (σ : Type*) where
  rooms : AList fun _ : ℕ => Room σ
  sessions : σ → Session
  /-- the messages given to `SendMsg` -/
  sent : List (σ × Message)

variable {σ : Type*} [DecidableEq σ]

/-- no room, and every session outside -/
def start (users : σ → ℕ) : Server σ := ⟨∅, fun x => ⟨0, users x, false⟩, []⟩

def getRoom (s : Server σ) (room_id : ℕ) : Option (Room σ) := s.rooms.lookup room_id

def setCurrentRoomId (s : Server σ) (session : σ) (room_id : ℕ) : Server σ :=
  { s with sessions := Function.update s.sessions session { s.sessions session with current_room_id := room_id } }

/-- the room stored under `room_id` -/
def join (s : Server σ) (room_id : ℕ) (room : Room σ) (session : σ) : Server σ :=
  setCurrentRoomId
    { s with rooms := s.rooms.insert room_id { room with members := insert session room.members } } session room.id

def leave (s : Server σ) (room_id : ℕ) (room : Room σ) (session : σ) : Server σ :=
  setCurrentRoomId
    { s with rooms := s.rooms.insert room_id { room with members := room.members.erase session } } session 0

/-- uniform in [min, max - 1], from a raw random number -/
def getRandomNumber (min max draw : ℕ) : ℕ := if max ≤ min then min else min + draw % (max - min)

/-- the first free room id -/
def freshRoomId (s : Server σ) : List ℕ → Option ℕ
  | [] => none
  | draw :: draws =>
    match getRoom s (getRandomNumber 1 9999 draw) with
    | some _ => freshRoomId s draws
    | none => some (getRandomNumber 1 9999 draw)

def sendMsg (s : Server σ) (session : σ) (message : Message) : Server σ :=
  { s with sent := s.sent ++ [(session, message)] }

def handleCreateRoom (s : Server σ) (session : σ) (draws : List ℕ) : Server σ :=
  if 0 < (s.sessions session).current_room_id then s
  else
    match freshRoomId s draws with
    | none => s
    | some room_id =>
      let room : Room σ := ⟨room_id, "Room_" ++ toString room_id, ∅⟩
      sendMsg (join { s with rooms := s.rooms.insert room_id room } room_id room session) session
        ⟨.MSG_CREATE_ROOM, room_id, (s.sessions session).user_id, "Successfully created room " ++ room.name⟩

def handleJoinRoom (s : Server σ) (session : σ) (message : Message) : Server σ :=
  if 0 < (s.sessions session).current_room_id then s
  else
    match getRoom s message.room_id with
    | none => s
    | some room => join s message.room_id room session

def handleLeaveRoom (s : Server σ) (session : σ) : Server σ :=
  match getRoom s (s.sessions session).current_room_id with
  | none => s
  | some room => leave s (s.sessions session).current_room_id room session

def leaveCurrentRoom (s : Server σ) (session : σ) : Server σ :=
  if 0 < (s.sessions session).current_room_id then
    match getRoom s (s.sessions session).current_room_id with
    | none => s
    | some room => leave s (s.sessions session).current_room_id room session
  else s

/-- the other messages change no room and no session -/
def handleMessage (s : Server σ) (session : σ) (message : Message) (draws : List ℕ) : Server σ :=
  match message.type with
  | .MSG_CREATE_ROOM => handleCreateRoom s session draws
  | .MSG_JOIN_ROOM => handleJoinRoom s session message
  | .MSG_LEAVE_ROOM => handleLeaveRoom s session
  | .MSG_CHAT => s
  | .MSG_ROOM_LIST => s
  | .MSG_USER_LIST => s
  | .unknown _ => s

def close (s : Server σ) (session : σ) : Server σ :=
  { s with sessions := Function.update s.sessions session { s.sessions session with closed := true } }

def handleDisconnect (s : Server σ) (session : σ) : Server σ :=
  close (if 0 < (s.sessions session).current_room_id then leaveCurrentRoom s session else s) session

inductive Call (σ : Type*) where
  | handleMessage (session : σ) (message : Message) (draws : List ℕ)
  | handleDisconnect (session : σ)

def call (s : Server σ) : Call σ → Server σ
  | .handleMessage session message draws => handleMessage s session message draws
  | .handleDisconnect session => handleDisconnect s session

/-! ## What a call reads and writes -/

def cur (s : Server σ) (x : σ) : ℕ := (s.sessions x).current_room_id

/-- session x is a member of the room stored under `id` -/
def Member (s : Server σ) (id : ℕ) (x : σ) : Prop := ∃ room, getRoom s id = some room ∧ x ∈ room.members

theorem cur_setCurrentRoomId (s : Server σ) (session : σ) (room_id : ℕ) (x : σ) :
    cur (setCurrentRoomId s session room_id) x = if x = session then room_id else cur s x := by
  unfold cur setCurrentRoomId
  split_ifs with hx
  · subst hx
    simp
  · simp [Function.update_of_ne hx]

theorem cur_close (s : Server σ) (session x : σ) : cur (close s session) x = cur s x := by
  unfold cur close
  by_cases hx : x = session
  · subst hx
    simp
  · simp [Function.update_of_ne hx]

omit [DecidableEq σ] in
theorem member_insert (s : Server σ) (room_id : ℕ) (room : Room σ) (id : ℕ) (x : σ) :
    Member { s with rooms := s.rooms.insert room_id room } id x ↔
      if id = room_id then x ∈ room.members else Member s id x := by
  unfold Member getRoom
  simp only [Dictionary.lookup_insert]
  split_ifs <;> simp

theorem getRandomNumber_pos (draw : ℕ) : getRandomNumber 1 9999 draw ≠ 0 := by
  rw [getRandomNumber, if_neg (by decide)]
  omega

omit [DecidableEq σ] in
theorem freshRoomId_some {s : Server σ} {draws : List ℕ} {room_id : ℕ} (h : freshRoomId s draws = some room_id) :
    getRoom s room_id = none ∧ room_id ≠ 0 := by
  induction draws with
  | nil => cases h
  | cons draw draws ih =>
    rw [freshRoomId] at h
    cases hr : getRoom s (getRandomNumber 1 9999 draw) with
    | some room =>
      rw [hr] at h
      exact ih h
    | none =>
      rw [hr] at h
      obtain rfl := Option.some.inj h
      exact ⟨hr, getRandomNumber_pos draw⟩

omit [DecidableEq σ] in
/-- the loop ends as soon as a free id is drawn -/
theorem freshRoomId_isSome_iff (s : Server σ) (draws : List ℕ) :
    (freshRoomId s draws).isSome ↔ ∃ draw ∈ draws, getRoom s (getRandomNumber 1 9999 draw) = none := by
  induction draws with
  | nil => simp [freshRoomId]
  | cons draw draws ih =>
    rw [freshRoomId, List.exists_mem_cons_iff]
    cases hr : getRoom s (getRandomNumber 1 9999 draw) with
    | some room => simpa [hr] using ih
    | none => simp

/-- what the handlers and a close keep, a call keeps: a disconnect is a leave at most, and a close -/
theorem call_rule {P : Server σ → Prop} {s : Server σ} {c : Call σ} (hsame : P s)
    (hcreate : ∀ session message draws, c = .handleMessage session message draws → message.type = .MSG_CREATE_ROOM →
      P (handleCreateRoom s session draws))
    (hjoin : ∀ session message draws, c = .handleMessage session message draws → message.type = .MSG_JOIN_ROOM →
      P (handleJoinRoom s session message))
    (hleave : ∀ session, P (handleLeaveRoom s session)) (hclose : ∀ t session, P t → P (close t session)) :
    P (call s c) := by
  cases c with
  | handleMessage session message draws =>
    rw [call, handleMessage]
    split
    · rename_i htype
      exact hcreate session message draws rfl htype
    · rename_i htype
      exact hjoin session message draws rfl htype
    · exact hleave session
    · exact hsame
    · exact hsame
    · exact hsame
    · exact hsame
  | handleDisconnect session =>
    apply hclose
    split_ifs with hin
    · rw [leaveCurrentRoom, if_pos hin]
      exact hleave session
    · exact hsame

/-! ## The invariant -/

/-- rooms are stored under their own id, and the two sides of the membership agree -/
structure Inv (s : Server σ) : Prop where
  stored : ∀ id room, getRoom s id = some room → room.id = id ∧ id ≠ 0
  mirror : Mirror (Member s) fun x id => cur s x = id ∧ id ≠ 0

omit [DecidableEq σ] in
theorem Inv.start (users : σ → ℕ) : Inv (start users) := by
  refine ⟨?_, ?_⟩
  · intro id room hroom
    cases hroom
  · intro id x
    constructor
    · intro ⟨room, hroom, _⟩
      cases hroom
    · intro ⟨hcur, hne⟩
      exact absurd hcur.symm hne

omit [DecidableEq σ] in
/-- a new room, without members -/
theorem Inv.create {s : Server σ} (h : Inv s) {room_id : ℕ} (hnone : getRoom s room_id = none) (hne : room_id ≠ 0)
    (name : String) : Inv { s with rooms := s.rooms.insert room_id ⟨room_id, name, ∅⟩ } := by
  refine ⟨?_, ?_⟩
  · intro id room hroom
    rw [getRoom, Dictionary.lookup_insert] at hroom
    split_ifs at hroom with hid
    · obtain rfl := Option.some.inj hroom
      exact ⟨hid.symm, hid ▸ hne⟩
    · exact h.stored id room hroom
  · apply h.mirror.congr
    · intro id x
      rw [member_insert]
      split_ifs with hid
      · subst hid
        simp [Member, hnone]
      · exact Iff.rfl
    · intro x id
      exact Iff.rfl

theorem Inv.join {s : Server σ} (h : Inv s) {room_id : ℕ} {room : Room σ} {session : σ}
    (hroom : getRoom s room_id = some room) (hcur : cur s session = 0) : Inv (join s room_id room session) := by
  obtain ⟨hid, hne⟩ := h.stored room_id room hroom
  refine ⟨?_, ?_⟩
  · intro id room' hroom'
    simp only [getRoom, GameServer.Network.join, setCurrentRoomId, Dictionary.lookup_insert] at hroom'
    split_ifs at hroom' with heq
    · obtain rfl := Option.some.inj hroom'
      exact ⟨hid.trans heq.symm, heq ▸ hne⟩
    · exact h.stored id room' hroom'
  · apply Mirror.link (x := room_id) (y := session) h.mirror
    · intro id x
      refine (member_insert s room_id _ id x).trans ?_
      split_ifs with heq
      · subst heq
        simp [Member, hroom]
      · simp [heq]
    · intro x id
      rw [GameServer.Network.join, cur_setCurrentRoomId]
      split_ifs with hx
      · subst hx
        rw [hid, hcur]
        grind
      · simp only [hx, and_false, false_or]
        exact Iff.rfl

theorem Inv.leave {s : Server σ} (h : Inv s) {room : Room σ} {session : σ}
    (hroom : getRoom s (cur s session) = some room) : Inv (leave s (cur s session) room session) := by
  obtain ⟨hid, hne⟩ := h.stored _ room hroom
  refine ⟨?_, ?_⟩
  · intro id room' hroom'
    simp only [getRoom, GameServer.Network.leave, setCurrentRoomId, Dictionary.lookup_insert] at hroom'
    split_ifs at hroom' with heq
    · obtain rfl := Option.some.inj hroom'
      exact ⟨hid.trans heq.symm, heq ▸ hne⟩
    · exact h.stored id room' hroom'
  · apply Mirror.drop (y := session) h.mirror
    · intro id x
      refine (member_insert s (cur s session) _ id x).trans ?_
      split_ifs with heq
      · subst heq
        simp [Member, hroom, hne, and_comm]
      · simp [Ne.symm heq]
    · intro x id
      rw [GameServer.Network.leave, cur_setCurrentRoomId]
      split_ifs with hx
      · subst hx
        grind
      · simp only [ne_eq, hx, not_false_eq_true, true_and]
        exact Iff.rfl

theorem Inv.handleLeaveRoom {s : Server σ} (h : Inv s) (session : σ) : Inv (handleLeaveRoom s session) := by
  unfold GameServer.Network.handleLeaveRoom
  split
  · exact h
  · rename_i room hroom
    exact h.leave hroom

/-- the two ways out differ outside every room only, where both do nothing -/
theorem Inv.leaveCurrentRoom_eq {s : Server σ} (h : Inv s) (session : σ) :
    leaveCurrentRoom s session = GameServer.Network.handleLeaveRoom s session := by
  unfold leaveCurrentRoom GameServer.Network.handleLeaveRoom
  split_ifs with hin
  · rfl
  · have hzero : (s.sessions session).current_room_id = 0 := Nat.eq_zero_of_not_pos hin
    rw [hzero]
    cases hroom : getRoom s 0 with
    | none => rfl
    | some room => exact absurd rfl (h.stored 0 room hroom).2

omit [DecidableEq σ] in
/-- messages and sockets are no part of it -/
theorem Inv.of_eq {s s' : Server σ} (h : Inv s) (hrooms : s'.rooms = s.rooms) (hcur : ∀ x, cur s' x = cur s x) :
    Inv s' := by
  have hget : ∀ id, getRoom s' id = getRoom s id := by
    intro id
    rw [getRoom, hrooms, getRoom]
  refine ⟨?_, ?_⟩
  · intro id room
    rw [hget]
    exact h.stored id room
  · apply h.mirror.congr
    · intro id x
      rw [Member, hget, Member]
    · intro x id
      rw [hcur]

theorem Inv.close {s : Server σ} (h : Inv s) (session : σ) : Inv (close s session) :=
  h.of_eq rfl (cur_close s session)

theorem Inv.handleCreateRoom {s : Server σ} (h : Inv s) (session : σ) (draws : List ℕ) :
    Inv (handleCreateRoom s session draws) := by
  unfold GameServer.Network.handleCreateRoom
  split_ifs with hin
  · exact h
  · cases hfresh : freshRoomId s draws with
    | none => exact h
    | some room_id =>
      obtain ⟨hnone, hne⟩ := freshRoomId_some hfresh
      have hcreate := h.create hnone hne ("Room_" ++ toString room_id)
      have hcur : (s.sessions session).current_room_id = 0 := by omega
      refine (hcreate.join (AList.lookup_insert s.rooms) ?_).of_eq rfl fun _ => rfl
      exact hcur

theorem Inv.handleJoinRoom {s : Server σ} (h : Inv s) (session : σ) (message : Message) :
    Inv (handleJoinRoom s session message) := by
  unfold GameServer.Network.handleJoinRoom
  split_ifs with hin
  · exact h
  · cases hroom : getRoom s message.room_id with
    | none => exact h
    | some room =>
      have hcur : (s.sessions session).current_room_id = 0 := by omega
      exact h.join hroom hcur

/-- step lemma -/
theorem Inv.call (s : Server σ) (c : Call σ) (h : Inv s) : Inv (call s c) := by
  apply call_rule h
  · intro session _ draws _ _
    exact h.handleCreateRoom session draws
  · intro session message _ _ _
    exact h.handleJoinRoom session message
  · exact h.handleLeaveRoom
  · intro t session ht
    exact ht.close session

/-! ## Sessions outside every room -/

/-- a message that may put session x into a room -/
def Enters (x : σ) : Call σ → Prop
  | .handleMessage session message _ =>
    session = x ∧ (message.type = .MSG_CREATE_ROOM ∨ message.type = .MSG_JOIN_ROOM)
  | .handleDisconnect _ => False

theorem cur_leave {s : Server σ} {x : σ} (hcur : cur s x = 0) (room_id : ℕ) (room : Room σ) (session : σ) :
    cur (leave s room_id room session) x = 0 := by
  rw [leave, cur_setCurrentRoomId]
  split_ifs
  · rfl
  · exact hcur

theorem cur_handleLeaveRoom {s : Server σ} {x : σ} (hcur : cur s x = 0) (session : σ) :
    cur (handleLeaveRoom s session) x = 0 := by
  unfold handleLeaveRoom
  split
  · exact hcur
  · exact cur_leave hcur _ _ session

/-- other sessions do not put x into a room -/
theorem cur_handleCreateRoom {s : Server σ} {session x : σ} (hx : x ≠ session) (draws : List ℕ) :
    cur (handleCreateRoom s session draws) x = cur s x := by
  unfold handleCreateRoom
  split_ifs
  · rfl
  · split
    · rfl
    · exact (cur_setCurrentRoomId _ session _ x).trans (if_neg hx)

theorem cur_handleJoinRoom {s : Server σ} {session x : σ} (hx : x ≠ session) (message : Message) :
    cur (handleJoinRoom s session message) x = cur s x := by
  unfold handleJoinRoom
  split_ifs
  · rfl
  · split
    · rfl
    · exact (cur_setCurrentRoomId _ session _ x).trans (if_neg hx)

theorem cur_call {s : Server σ} {x : σ} {c : Call σ} (hcur : cur s x = 0) (hc : ¬ Enters x c) : cur (call s c) x = 0 := by
  apply call_rule (P := fun t => cur t x = 0) hcur
  · rintro session message draws rfl htype
    have hx : x ≠ session := fun heq => hc ⟨heq.symm, Or.inl htype⟩
    rw [cur_handleCreateRoom hx, hcur]
  · rintro session message draws rfl htype
    have hx : x ≠ session := fun heq => hc ⟨heq.symm, Or.inr htype⟩
    rw [cur_handleJoinRoom hx, hcur]
  · exact cur_handleLeaveRoom hcur
  · intro t session ht
    rw [cur_close, ht]

/-- run lemma -/
theorem cur_run {s : Server σ} {x : σ} {calls : List (Call σ)} (hcur : cur s x = 0) (hc : ∀ c ∈ calls, ¬ Enters x c) :
    cur (run call s calls) x = 0 := by
  induction calls generalizing s with
  | nil => exact hcur
  | cons c calls ih =>
    exact ih (cur_call hcur (hc c List.mem_cons_self)) fun c' hc' => hc c' (List.mem_cons_of_mem c hc')

/-- a disconnect finds the current room, so it leaves it -/
theorem cur_handleDisconnect {s : Server σ} (h : Inv s) (x : σ) : cur (handleDisconnect s x) x = 0 := by
  rw [handleDisconnect, cur_close]
  split_ifs with hin
  · obtain ⟨room, hroom, -⟩ := (h.mirror _ x).2 ⟨rfl, Nat.pos_iff_ne_zero.1 hin⟩
    unfold cur at hroom
    rw [h.leaveCurrentRoom_eq, handleLeaveRoom, hroom]
    exact (cur_setCurrentRoomId _ x 0 x).trans (if_pos rfl)
  · exact Nat.eq_zero_of_not_pos hin

/-! ## Every run -/

/-- both sides of the membership, and what follows for one session -/
structure Consistent (s : Server σ) : Prop where
  stored : ∀ id room, getRoom s id = some room → room.id = id ∧ id ≠ 0
  member_iff : ∀ id room x, getRoom s id = some room → (x ∈ room.members ↔ cur s x = room.id)
  one_room : ∀ id id' room room' x, getRoom s id = some room → getRoom s id' = some room' →
    x ∈ room.members → x ∈ room'.members → id = id'
  outside : ∀ id room x, cur s x = 0 → getRoom s id = some room → x ∉ room.members
  exists_room : ∀ x, cur s x ≠ 0 → ∃ room, getRoom s (cur s x) = some room

omit [DecidableEq σ] in
theorem Inv.consistent {s : Server σ} (h : Inv s) : Consistent s := by
  have hiff : ∀ id room x, getRoom s id = some room → (x ∈ room.members ↔ cur s x = id) := by
    intro id room x hroom
    have hmember : x ∈ room.members ↔ Member s id x := by simp [Member, hroom]
    rw [hmember, h.mirror id x]
    exact and_iff_left (h.stored id room hroom).2
  refine ⟨h.stored, ?_, ?_, ?_, ?_⟩
  · intro id room x hroom
    rw [(h.stored id room hroom).1]
    exact hiff id room x hroom
  · intro id id' room room' x hroom hroom' hx hx'
    exact ((hiff id room x hroom).1 hx).symm.trans ((hiff id' room' x hroom').1 hx')
  · intro id room x hcur hroom hx
    exact (h.stored id room hroom).2 (((hiff id room x hroom).1 hx).symm.trans hcur)
  · intro x hne
    obtain ⟨room, hroom, -⟩ := (h.mirror (cur s x) x).2 ⟨rfl, hne⟩
    exact ⟨room, hroom⟩

/-- **Rooms and sessions agree in every run**, and a disconnected session stays outside until it creates or joins. -/
theorem rooms_consistent (users : σ → ℕ) (calls : List (Call σ)) :
    Consistent (run call (start users) calls) ∧
      ∀ x before after, calls = before ++ .handleDisconnect x :: after → (∀ c ∈ after, ¬ Enters x c) →
        cur (run call (start users) calls) x = 0 ∧
          ∀ id room, getRoom (run call (start users) calls) id = some room → x ∉ room.members := by
  have hok : ∀ calls : List (Call σ), Inv (run call (start users) calls) :=
    fun calls => run_inv_all Inv.call (Inv.start users) calls
  have hcons := (hok calls).consistent
  refine ⟨hcons, ?_⟩
  intro x before after hcalls hafter
  have hcur : cur (run call (start users) calls) x = 0 := by
    rw [hcalls, run_append, run_cons]
    exact cur_run (cur_handleDisconnect (hok before) x) hafter
  exact ⟨hcur, fun id room hroom => hcons.outside id room x hcur hroom⟩

/-- a session that creates a room, is joined by another one, and disconnects twice -/
example : (fun s : Server Bool => (cur s false, cur s true, (getRoom s 8).map Room.members))
    (run call (start fun _ => 0) [.handleMessage true ⟨.MSG_CREATE_ROOM, 0, 0, ""⟩ [7],
      .handleMessage false ⟨.MSG_JOIN_ROOM, 8, 0, ""⟩ [], .handleDisconnect true, .handleDisconnect true]) =
      (8, 0, some {false}) := by decide

end GameServer.Network
