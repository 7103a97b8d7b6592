/-
The texts that the room server copies into a `Message`: the join and leave notices, the create reply and the room list.
`data` holds 511 characters and the terminator; all characters are ASCII.

A notice or a reply is bounded by the widths of its numbers (`length_texts`). The room list has a line for every room ever
created, so whether every text fits is a question of the room map (`texts_fit_iff`), and 25 rooms are too many
(`texts_overflow`).
-/
import GameServer.Core.Decimal
import GameServer.Network.RoomIds

namespace GameServer.Network

open GameServer.Core

variable {σ : Type*}

/-! ## The texts -/

def roomName (room_id : ℕ) : String := "Room_" ++ toString room_id

def joinMsg (user_id : ℕ) : String := "User " ++ toString user_id ++ " joined the room"

def leaveMsg (user_id : ℕ) : String := "User " ++ toString user_id ++ " left the room"

def createMsg (name : String) : String := "Successfully created room " ++ name

/-- one line of the room list -/
def roomLine (room : Room σ) : String :=
  toString room.id ++ ": " ++ room.name ++ " (" ++ toString room.members.card ++ " users)\n"

/-- the rooms of the map, by ascending id -/
def getAllRooms (s : Server σ) : List (Room σ) :=
  (s.rooms.entries.insertionSort fun a b => a.1 ≤ b.1).map Sigma.snd

def roomList (s : Server σ) : String :=
  (getAllRooms s).foldl (fun room_list room => room_list ++ roomLine room) "Available rooms:\n"

/-! ## What a call copies into a message -/

def handleCreateRoomTexts (s : Server σ) (session : σ) (draws : List ℕ) : List String :=
  if 0 < (s.sessions session).current_room_id then []
  else
    match freshRoomId s draws with
    | none => []
    | some room_id => [joinMsg (s.sessions session).user_id, createMsg (roomName room_id)]

def handleJoinRoomTexts (s : Server σ) (session : σ) (message : Message) : List String :=
  if 0 < (s.sessions session).current_room_id then []
  else
    match getRoom s message.room_id with
    | none => []
    | some _ => [joinMsg (s.sessions session).user_id]

def handleLeaveRoomTexts (s : Server σ) (session : σ) : List String :=
  match getRoom s (s.sessions session).current_room_id with
  | none => []
  | some _ => [leaveMsg (s.sessions session).user_id]

/-- a chat message is copied as it came, and the user list is not built -/
def handleMessageTexts (s : Server σ) (session : σ) (message : Message) (draws : List ℕ) : List String :=
  match message.type with
  | .MSG_CREATE_ROOM => handleCreateRoomTexts s session draws
  | .MSG_JOIN_ROOM => handleJoinRoomTexts s session message
  | .MSG_LEAVE_ROOM => handleLeaveRoomTexts s session
  | .MSG_CHAT => []
  | .MSG_ROOM_LIST => [roomList s]
  | .MSG_USER_LIST => []
  | .unknown _ => []

/-- through `LeaveCurrentRoom` -/
def handleDisconnectTexts (s : Server σ) (session : σ) : List String :=
  if 0 < (s.sessions session).current_room_id then handleLeaveRoomTexts s session else []

/-- the texts that a call copies into a `Message` -/
def texts (s : Server σ) : Call σ → List String
  | .handleMessage session message draws => handleMessageTexts s session message draws
  | .handleDisconnect session => handleDisconnectTexts s session

/-! ## What is sent -/

/-- after s, only messages with one of the texts were sent -/
def Sends (s t : Server σ) (texts : List String) : Prop := ∃ l, t.sent = s.sent ++ l ∧ ∀ m ∈ l, m.2.data ∈ texts

theorem Sends.nothing {s t : Server σ} (h : t.sent = s.sent) (texts : List String) : Sends s t texts :=
  ⟨[], h.trans (List.append_nil _).symm, fun m hm => by cases hm⟩

variable [DecidableEq σ]

theorem sent_handleJoinRoom (s : Server σ) (session : σ) (message : Message) :
    (handleJoinRoom s session message).sent = s.sent := by
  unfold handleJoinRoom
  split_ifs
  · rfl
  · split <;> rfl

theorem sent_handleLeaveRoom (s : Server σ) (session : σ) : (handleLeaveRoom s session).sent = s.sent := by
  unfold handleLeaveRoom
  split <;> rfl

theorem sends_handleCreateRoom (s : Server σ) (session : σ) (draws : List ℕ) :
    Sends s (handleCreateRoom s session draws) (handleCreateRoomTexts s session draws) := by
  unfold handleCreateRoom handleCreateRoomTexts
  split_ifs with hin
  · exact Sends.nothing rfl _
  · cases hfresh : freshRoomId s draws with
    | none => exact Sends.nothing rfl _
    | some room_id =>
      refine ⟨[(session, _)], rfl, ?_⟩
      intro m hm
      rw [List.mem_singleton.1 hm]
      exact List.mem_cons_of_mem _ List.mem_cons_self

/-- what a call sends is one of its texts -/
theorem sends_call (s : Server σ) (c : Call σ) : Sends s (call s c) (texts s c) := by
  apply call_rule (P := fun t => Sends s t (texts s c)) (Sends.nothing rfl _)
  · rintro session message draws rfl htype
    rw [texts, handleMessageTexts, htype]
    exact sends_handleCreateRoom s session draws
  · intro session message _ _ _
    exact Sends.nothing (sent_handleJoinRoom s session message) _
  · intro session
    exact Sends.nothing (sent_handleLeaveRoom s session) _
  · intro t session ht
    exact ht

/-! ## What the texts are made of -/

/-- rooms have the id they are stored under and the name made of it, and the user ids are those of the start -/
structure Labelled (users : σ → ℕ) (s : Server σ) : Prop where
  rooms : ∀ id room, getRoom s id = some room → room.id = id ∧ room.name = roomName id
  users : ∀ x, (s.sessions x).user_id = users x

namespace Labelled

variable {users : σ → ℕ} {s : Server σ}

omit [DecidableEq σ] in
theorem start (users : σ → ℕ) : Labelled users (start users) :=
  ⟨fun _ _ hroom => (by cases hroom), fun _ => rfl⟩

omit [DecidableEq σ] in
theorem insert (h : Labelled users s) {room_id : ℕ} (room : Room σ) (hid : room.id = room_id)
    (hname : room.name = roomName room_id) : Labelled users { s with rooms := s.rooms.insert room_id room } := by
  refine ⟨?_, h.users⟩
  intro id room' hroom
  rw [getRoom, Dictionary.lookup_insert] at hroom
  split_ifs at hroom with heq
  · obtain rfl := Option.some.inj hroom
    exact ⟨hid.trans heq.symm, heq ▸ hname⟩
  · exact h.rooms id room' hroom

theorem users_update (h : Labelled users s) (session : σ) {written : Session}
    (hwritten : written.user_id = (s.sessions session).user_id) (x : σ) :
    (Function.update s.sessions session written x).user_id = users x := by
  rw [← h.users x]
  by_cases hx : x = session
  · subst hx
    rw [Function.update_self, hwritten]
  · rw [Function.update_of_ne hx]

theorem setCurrentRoomId (h : Labelled users s) (session : σ) (room_id : ℕ) :
    Labelled users (setCurrentRoomId s session room_id) := ⟨h.rooms, h.users_update session rfl⟩

theorem close (h : Labelled users s) (session : σ) : Labelled users (close s session) :=
  ⟨h.rooms, h.users_update session rfl⟩

/-- a stored room with other members, entered or left -/
theorem update (h : Labelled users s) {room_id : ℕ} {room : Room σ} (hroom : getRoom s room_id = some room)
    (members : Finset σ) (session : σ) (cur : ℕ) :
    Labelled users (GameServer.Network.setCurrentRoomId
      { s with rooms := s.rooms.insert room_id { room with members := members } } session cur) := by
  obtain ⟨hid, hname⟩ := h.rooms room_id room hroom
  exact (h.insert { room with members := members } hid hname).setCurrentRoomId session cur

theorem handleCreateRoom (h : Labelled users s) (session : σ) (draws : List ℕ) :
    Labelled users (handleCreateRoom s session draws) := by
  unfold GameServer.Network.handleCreateRoom
  split_ifs
  · exact h
  · cases hfresh : freshRoomId s draws with
    | none => exact h
    | some room_id =>
      have hnew := h.insert (⟨room_id, roomName room_id, ∅⟩ : Room σ) rfl rfl
      have hjoin := hnew.update (AList.lookup_insert s.rooms) (Insert.insert session ∅) session room_id
      exact ⟨hjoin.rooms, hjoin.users⟩

theorem handleJoinRoom (h : Labelled users s) (session : σ) (message : Message) :
    Labelled users (handleJoinRoom s session message) := by
  unfold GameServer.Network.handleJoinRoom
  split_ifs
  · exact h
  · cases hroom : getRoom s message.room_id with
    | none => exact h
    | some room => exact h.update hroom _ session _

theorem handleLeaveRoom (h : Labelled users s) (session : σ) : Labelled users (handleLeaveRoom s session) := by
  unfold GameServer.Network.handleLeaveRoom
  cases hroom : getRoom s (s.sessions session).current_room_id with
  | none => exact h
  | some room => exact h.update hroom _ session _

/-- step lemma -/
theorem call (s : Server σ) (c : Call σ) (h : Labelled users s) : Labelled users (call s c) := by
  apply call_rule h
  · intro session _ draws _ _
    exact h.handleCreateRoom session draws
  · intro session message _ _ _
    exact h.handleJoinRoom session message
  · exact h.handleLeaveRoom
  · intro t session ht
    exact ht.close session

theorem run (users : σ → ℕ) (calls : List (Call σ)) :
    Labelled users (run GameServer.Network.call (GameServer.Network.start users) calls) :=
  run_inv_all call (Labelled.start users) calls

end Labelled

/-! ## Lengths -/

/-- the length of a room's line -/
def lineCost (room : Room σ) : ℕ := 17 + 2 * decimalWidth room.id + decimalWidth room.members.card

/-- the length of the lines of all rooms -/
def listCost (s : Server σ) : ℕ := ((getAllRooms s).map lineCost).sum

theorem length_roomName (room_id : ℕ) : (roomName room_id).length = 5 + decimalWidth room_id := by
  rw [roomName, String.length_append, length_toString]
  rfl

omit [DecidableEq σ] in
theorem length_roomLine {room : Room σ} (hname : room.name = roomName room.id) :
    (roomLine room).length = lineCost room := by
  calc (roomLine room).length
      = decimalWidth room.id + 2 + (5 + decimalWidth room.id) + 2 + decimalWidth room.members.card + 8 := by
        rw [roomLine, hname]
        simp only [String.length_append, length_toString, length_roomName]
        rfl
    _ = lineCost room := by
        rw [lineCost]
        omega

omit [DecidableEq σ] in
theorem getRoom_of_mem {s : Server σ} {room : Room σ} (h : room ∈ getAllRooms s) : ∃ id, getRoom s id = some room := by
  obtain ⟨e, he, rfl⟩ := List.mem_map.1 h
  exact ⟨e.1, AList.mem_lookup_iff.2 ((List.mem_insertionSort _).1 he)⟩

omit [DecidableEq σ] in
theorem length_roomList {users : σ → ℕ} {s : Server σ} (h : Labelled users s) :
    (roomList s).length = 17 + listCost s := by
  have hline : ∀ room ∈ getAllRooms s, (roomLine room).length = lineCost room := by
    intro room hmem
    obtain ⟨id, hroom⟩ := getRoom_of_mem hmem
    obtain ⟨hid, hname⟩ := h.rooms id room hroom
    exact length_roomLine (hname.trans (congrArg roomName hid.symm))
  have htext : "Available rooms:\n".length = 17 := by decide
  rw [roomList, length_foldl_append, List.map_congr_left hline, htext, listCost]

/-- two rooms, the first one left again -/
example : roomList (run call (start fun _ : Bool => 0) [.handleMessage true ⟨.MSG_CREATE_ROOM, 0, 0, ""⟩ [7],
    .handleMessage false ⟨.MSG_CREATE_ROOM, 0, 0, ""⟩ [1], .handleMessage true ⟨.MSG_LEAVE_ROOM, 0, 0, ""⟩ []]) =
      "Available rooms:\n2: Room_2 (1 users)\n8: Room_8 (0 users)\n" := by decide

theorem decimalWidth_user_id (user_id : UInt32) : decimalWidth user_id.toNat ≤ 10 := by
  have hlt := user_id.toNat_lt
  rw [decimalWidth_le_iff (by decide)]
  omega

theorem decimalWidth_room_id {room_id : ℕ} (h : room_id ∈ randomIds) : decimalWidth room_id ≤ 4 := by
  obtain ⟨-, hle⟩ := Finset.mem_Icc.1 h
  rw [decimalWidth_le_iff (by decide)]
  calc room_id
      ≤ 9998 := hle
    _ < 10 ^ 4 := by decide

theorem length_joinMsg_le (user_id : UInt32) : (joinMsg user_id.toNat).length ≤ 31 := by
  have hwidth := decimalWidth_user_id user_id
  calc (joinMsg user_id.toNat).length
      = 5 + decimalWidth user_id.toNat + 16 := by
        simp only [joinMsg, String.length_append, length_toString]
        rfl
    _ ≤ 31 := by omega

theorem length_leaveMsg_le (user_id : UInt32) : (leaveMsg user_id.toNat).length ≤ 29 := by
  have hwidth := decimalWidth_user_id user_id
  calc (leaveMsg user_id.toNat).length
      = 5 + decimalWidth user_id.toNat + 14 := by
        simp only [leaveMsg, String.length_append, length_toString]
        rfl
    _ ≤ 29 := by omega

theorem length_createMsg (name : String) : (createMsg name).length = 26 + name.length := by
  have htext : "Successfully created room ".length = 26 := by decide
  calc (createMsg name).length
      = "Successfully created room ".length + name.length := String.length_append _ _
    _ = 26 + name.length := congrArg (· + name.length) htext

theorem length_createMsg_le {room_id : ℕ} (h : room_id ∈ randomIds) : (createMsg (roomName room_id)).length ≤ 35 := by
  have hwidth := decimalWidth_room_id h
  rw [length_createMsg, length_roomName]
  omega

/-! ## Which runs fit -/

section

variable {users : σ → UInt32} {s : Server σ} (h : Labelled (fun x => (users x).toNat) s)
include h

omit [DecidableEq σ]

theorem length_handleCreateRoomTexts {session : σ} {draws : List ℕ} {t : String}
    (ht : t ∈ handleCreateRoomTexts s session draws) : t.length ≤ 35 := by
  unfold handleCreateRoomTexts at ht
  split_ifs at ht with hin
  · cases ht
  · cases hfresh : freshRoomId s draws with
    | none =>
      rw [hfresh] at ht
      cases ht
    | some room_id =>
      rw [hfresh, h.users session] at ht
      rcases List.mem_cons.1 ht with rfl | ht
      · exact (length_joinMsg_le _).trans (by decide)
      · rw [List.mem_singleton.1 ht]
        exact length_createMsg_le (freshRoomId_mem hfresh)

theorem length_handleJoinRoomTexts {session : σ} {message : Message} {t : String}
    (ht : t ∈ handleJoinRoomTexts s session message) : t.length ≤ 35 := by
  unfold handleJoinRoomTexts at ht
  rw [h.users session] at ht
  split_ifs at ht with hin
  · cases ht
  · split at ht
    · cases ht
    · rw [List.mem_singleton.1 ht]
      exact (length_joinMsg_le _).trans (by decide)

theorem length_handleLeaveRoomTexts {session : σ} {t : String} (ht : t ∈ handleLeaveRoomTexts s session) :
    t.length ≤ 35 := by
  unfold handleLeaveRoomTexts at ht
  rw [h.users session] at ht
  split at ht
  · cases ht
  · rw [List.mem_singleton.1 ht]
    exact (length_leaveMsg_le _).trans (by decide)

/-- only the room list can be long -/
theorem length_texts {c : Call σ} {t : String} (ht : t ∈ texts s c) : t.length ≤ 35 ∨ t = roomList s := by
  cases c with
  | handleMessage session message draws =>
    rw [texts, handleMessageTexts] at ht
    split at ht
    · exact Or.inl (length_handleCreateRoomTexts h ht)
    · exact Or.inl (length_handleJoinRoomTexts h ht)
    · exact Or.inl (length_handleLeaveRoomTexts h ht)
    · cases ht
    · exact Or.inr (List.mem_singleton.1 ht)
    · cases ht
    · cases ht
  | handleDisconnect session =>
    rw [texts, handleDisconnectTexts] at ht
    split_ifs at ht
    · exact Or.inl (length_handleLeaveRoomTexts h ht)
    · cases ht

theorem texts_fit_state_iff [Nonempty σ] : (∀ c, ∀ t ∈ texts s c, t.length ≤ 511) ↔ listCost s ≤ 494 := by
  have hlength := length_roomList h
  constructor
  · intro hfit
    obtain ⟨x⟩ := ‹Nonempty σ›
    have hlist := hfit (.handleMessage x ⟨.MSG_ROOM_LIST, 0, 0, ""⟩ []) (roomList s) List.mem_cons_self
    omega
  · intro hcost c t ht
    rcases length_texts h ht with hshort | rfl
    · omega
    · omega

end

/-- without sessions nothing is called -/
theorem listCost_run_of_isEmpty [IsEmpty σ] (users : σ → ℕ) (calls : List (Call σ)) :
    listCost (run call (start users) calls) = 0 := by
  cases calls with
  | nil => rfl
  | cons c calls => cases c <;> exact isEmptyElim ‹σ›

/-- **Every text of a run fits exactly if the lines of all rooms have at most 494 characters in every state of it**: the
other texts never have more than 35. -/
theorem texts_fit_iff (users : σ → UInt32) (calls : List (Call σ)) :
    ((∀ n c, ∀ t ∈ texts (run call (start fun x => (users x).toNat) (calls.take n)) c, t.length ≤ 511) ↔
        ∀ n, listCost (run call (start fun x => (users x).toNat) (calls.take n)) ≤ 494) ∧
      ∀ n c, ∀ t ∈ texts (run call (start fun x => (users x).toNat) (calls.take n)) c,
        t.length ≤ 35 ∨ t = roomList (run call (start fun x => (users x).toNat) (calls.take n)) := by
  have hlabelled : ∀ n, Labelled (fun x => (users x).toNat)
      (run call (start fun x => (users x).toNat) (calls.take n)) := fun n => Labelled.run _ _
  refine ⟨?_, fun n c t ht => length_texts (hlabelled n) ht⟩
  rcases isEmpty_or_nonempty σ with hempty | hsome
  · constructor
    · intro _ n
      rw [listCost_run_of_isEmpty]
      exact Nat.zero_le 494
    · intro _ n c
      cases c <;> exact isEmptyElim ‹σ›
  · exact forall_congr' fun n => texts_fit_state_iff (hlabelled n)

/-! ## Too many rooms -/

omit [DecidableEq σ] in
/-- a line has at least 20 characters -/
theorem le_listCost (s : Server σ) : s.rooms.keys.length * 20 ≤ listCost s := by
  have hline : ∀ cost ∈ (getAllRooms s).map lineCost, 20 ≤ cost := by
    intro cost hcost
    obtain ⟨room, -, rfl⟩ := List.mem_map.1 hcost
    have hid := decimalWidth_pos room.id
    have hcount := decimalWidth_pos room.members.card
    rw [lineCost]
    omega
  calc s.rooms.keys.length * 20
      = ((getAllRooms s).map lineCost).length * 20 := by
        rw [List.length_map, getAllRooms, List.length_map, List.length_insertionSort, AList.keys, List.keys,
          List.length_map]
    _ ≤ listCost s := List.card_nsmul_le_sum _ 20 hline

/-- 25 rooms, all empty again: the room list does not fit -/
theorem texts_overflow :
    ¬ ∀ t ∈ texts (run call (start fun _ : Unit => (0 : UInt32).toNat) (fillCalls () 25))
      (.handleMessage () ⟨.MSG_ROOM_LIST, 0, 0, ""⟩ []), t.length ≤ 511 := by
  have hcreated := (fill_run (fun _ : Unit => (0 : UInt32).toNat) () (by decide : 25 ≤ 9998)).2
  have hrooms := card_roomIds_run (fun _ : Unit => (0 : UInt32).toNat) (fillCalls () 25)
  rw [hcreated, card_roomIds] at hrooms
  have hcost := le_listCost (run call (start fun _ : Unit => (0 : UInt32).toNat) (fillCalls () 25))
  have hlength := length_roomList (Labelled.run (fun _ : Unit => (0 : UInt32).toNat) (fillCalls () 25))
  rw [hrooms] at hcost
  intro hfit
  have hlist := hfit _ List.mem_cons_self
  omega

end GameServer.Network
