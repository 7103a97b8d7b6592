/-
The ids of the rooms. A create message stores a new room under an id from 1 to 9998, and nothing ever removes one: leaving
and disconnecting only empty it.

So the number of rooms is the number of create messages served so far, and the search of `HandleCreateRoom` for a free id
can end exactly while it is below 9998 (`search_ends_iff`). One session that creates and leaves gets there (`search_stuck`).
-/
import GameServer.Core.Growth
import GameServer.Network.Rooms

namespace GameServer.Network

open GameServer.Core

variable {σ : Type*}

/-- the keys of `_rooms` -/
def roomIds (s : Server σ) : Finset ℕ := s.rooms.keys.toFinset

theorem mem_roomIds {s : Server σ} {id : ℕ} : id ∈ roomIds s ↔ (getRoom s id).isSome := by
  rw [roomIds, List.mem_toFinset, getRoom, AList.lookup_isSome]
  exact Iff.rfl

theorem notMem_roomIds {s : Server σ} {id : ℕ} : id ∉ roomIds s ↔ getRoom s id = none := by
  rw [mem_roomIds, Option.not_isSome_iff_eq_none]

theorem card_roomIds (s : Server σ) : (roomIds s).card = s.rooms.keys.length :=
  List.toFinset_card_of_nodup s.rooms.keys_nodup

/-- a stored room -/
theorem roomIds_insert (s : Server σ) (room_id : ℕ) (room : Room σ) :
    roomIds { s with rooms := s.rooms.insert room_id room } = insert room_id (roomIds s) := by
  ext id
  rw [Finset.mem_insert, mem_roomIds, mem_roomIds, getRoom, Dictionary.lookup_insert]
  split_ifs with hid
  · simp [hid]
  · simp [hid, getRoom]

/-- a room stored again -/
theorem roomIds_insert_stored {s : Server σ} {room_id : ℕ} {old : Room σ} (h : getRoom s room_id = some old)
    (room : Room σ) : roomIds { s with rooms := s.rooms.insert room_id room } = roomIds s := by
  rw [roomIds_insert, Finset.insert_eq_of_mem]
  rw [mem_roomIds, h]
  rfl

theorem not_inRoom {s : Server σ} {x : σ} (h : cur s x = 0) : ¬ 0 < (s.sessions x).current_room_id := h.le.not_gt

/-! ## The range of the random source -/

/-- what `GetRandomNumber(1, 9999)` can return -/
def randomIds : Finset ℕ := Finset.Icc 1 9998

theorem mem_randomIds {id : ℕ} : id ∈ randomIds ↔ ∃ draw, getRandomNumber 1 9999 draw = id := by
  rw [randomIds, Finset.mem_Icc]
  constructor
  · intro hid
    refine ⟨id - 1, ?_⟩
    rw [getRandomNumber, if_neg (by decide)]
    omega
  · rintro ⟨draw, rfl⟩
    rw [getRandomNumber, if_neg (by decide)]
    omega

theorem card_randomIds : randomIds.card = 9998 := by rw [randomIds, Nat.card_Icc]

theorem freshRoomId_mem {s : Server σ} {draws : List ℕ} {room_id : ℕ} (h : freshRoomId s draws = some room_id) :
    room_id ∈ randomIds := by
  induction draws with
  | nil => cases h
  | cons draw draws ih =>
    rw [freshRoomId] at h
    cases hr : getRoom s (getRandomNumber 1 9999 draw) with
    | some room =>
      rw [hr] at h
      exact ih h
    | none =>
      rw [hr] at h
      exact mem_randomIds.2 ⟨draw, Option.some.inj h⟩

/-! ## What a call creates -/

/-- the id of the room that a call creates -/
def createdId (s : Server σ) : Call σ → Option ℕ
  | .handleMessage session message draws =>
    if message.type = .MSG_CREATE_ROOM ∧ cur s session = 0 then freshRoomId s draws else none
  | .handleDisconnect _ => none

theorem createdId_some {s : Server σ} {c : Call σ} {room_id : ℕ} (h : createdId s c = some room_id) :
    ∃ session message draws, c = .handleMessage session message draws ∧ message.type = .MSG_CREATE_ROOM ∧
      cur s session = 0 ∧ freshRoomId s draws = some room_id := by
  cases c with
  | handleMessage session message draws =>
    rw [createdId] at h
    split_ifs at h with hcreate
    exact ⟨session, message, draws, rfl, hcreate.1, hcreate.2, h⟩
  | handleDisconnect session => cases h

theorem createdId_mem {s : Server σ} {c : Call σ} {room_id : ℕ} (h : createdId s c = some room_id) :
    room_id ∈ randomIds := by
  obtain ⟨-, -, draws, -, -, -, hfresh⟩ := createdId_some h
  exact freshRoomId_mem hfresh

variable [DecidableEq σ]

/-- the create messages served in a run -/
def roomsCreated (s : Server σ) (calls : List (Call σ)) : ℕ := added call createdId s calls

theorem handleCreateRoom_of_none {s : Server σ} {session : σ} {draws : List ℕ}
    (h : cur s session = 0 → freshRoomId s draws = none) : handleCreateRoom s session draws = s := by
  unfold handleCreateRoom
  split_ifs with hin
  · rfl
  · have hfresh : freshRoomId s draws = none := h (Nat.eq_zero_of_not_pos hin)
    rw [hfresh]

theorem roomIds_handleCreateRoom_some {s : Server σ} {session : σ} {draws : List ℕ} {room_id : ℕ}
    (hcur : cur s session = 0) (hfresh : freshRoomId s draws = some room_id) :
    roomIds (handleCreateRoom s session draws) = insert room_id (roomIds s) := by
  rw [handleCreateRoom, if_neg (not_inRoom hcur), hfresh]
  -- the join stores the room a second time
  calc roomIds _
      = insert room_id (insert room_id (roomIds s)) := by
        rw [← roomIds_insert s, ← roomIds_insert]
        rfl
    _ = insert room_id (roomIds s) := Finset.insert_idem _ _

theorem roomIds_handleJoinRoom (s : Server σ) (session : σ) (message : Message) :
    roomIds (handleJoinRoom s session message) = roomIds s := by
  unfold handleJoinRoom
  split_ifs
  · rfl
  · cases hroom : getRoom s message.room_id with
    | none => rfl
    | some room => exact roomIds_insert_stored hroom _

theorem roomIds_handleLeaveRoom (s : Server σ) (session : σ) : roomIds (handleLeaveRoom s session) = roomIds s := by
  unfold handleLeaveRoom
  cases hroom : getRoom s (s.sessions session).current_room_id with
  | none => rfl
  | some room => exact roomIds_insert_stored hroom _

/-- **The ids only grow**, by the one that a create message draws. -/
theorem roomIds_growth : Growth (call (σ := σ)) roomIds createdId := by
  refine ⟨?_, ?_, ?_⟩
  · intro s c hc
    apply call_rule (P := fun t => roomIds t = roomIds s) rfl
    · rintro session message draws rfl htype
      rw [handleCreateRoom_of_none]
      intro hcur
      rwa [createdId, if_pos ⟨htype, hcur⟩] at hc
    · intro session message _ _ _
      exact roomIds_handleJoinRoom s session message
    · exact roomIds_handleLeaveRoom s
    · intro t session ht
      exact ht
  · intro s c room_id hc
    obtain ⟨session, message, draws, rfl, htype, hcur, hfresh⟩ := createdId_some hc
    rw [call, handleMessage, htype]
    exact roomIds_handleCreateRoom_some hcur hfresh
  · intro s c room_id hc
    obtain ⟨-, -, draws, -, -, -, hfresh⟩ := createdId_some hc
    exact notMem_roomIds.2 (freshRoomId_some hfresh).1

omit [DecidableEq σ] in
theorem roomIds_start (users : σ → ℕ) : roomIds (start users) = ∅ := rfl

/-- no room is ever removed -/
theorem card_roomIds_run (users : σ → ℕ) (calls : List (Call σ)) :
    (roomIds (run call (start users) calls)).card = roomsCreated (start users) calls := by
  rw [roomIds_growth.card_run, roomIds_start, Finset.card_empty, Nat.zero_add]
  rfl

/-! ## One session that creates and leaves -/

/-- a room is created and left, with `draw` as the only random number -/
def fillRound (x : σ) (draw : ℕ) : List (Call σ) :=
  [.handleMessage x ⟨.MSG_CREATE_ROOM, 0, 0, ""⟩ [draw], .handleMessage x ⟨.MSG_LEAVE_ROOM, 0, 0, ""⟩ []]

def fillCalls (x : σ) : ℕ → List (Call σ)
  | 0 => []
  | k + 1 => fillCalls x k ++ fillRound x k

/-- after k rounds the session is outside, and the ids in use are at most k -/
structure Filled (s : Server σ) (x : σ) (k : ℕ) : Prop where
  inv : Inv s
  outside : cur s x = 0
  ids : ∀ id ∈ roomIds s, id ≤ k

theorem cur_handleLeaveRoom_self {s : Server σ} (h : Inv s) (x : σ) : cur (handleLeaveRoom s x) x = 0 := by
  by_cases hcur : cur s x = 0
  · exact cur_handleLeaveRoom hcur x
  · obtain ⟨room, hroom, -⟩ := (h.mirror _ x).2 ⟨rfl, hcur⟩
    unfold cur at hroom
    rw [handleLeaveRoom, hroom]
    exact (cur_setCurrentRoomId _ x 0 x).trans (if_pos rfl)

omit [DecidableEq σ] in
theorem Filled.fresh {s : Server σ} {x : σ} {k : ℕ} (h : Filled s x k) (hk : k < 9998) :
    freshRoomId s [k] = some (k + 1) := by
  have hnumber : getRandomNumber 1 9999 k = k + 1 := by
    rw [getRandomNumber, if_neg (by decide)]
    omega
  have hfree : getRoom s (k + 1) = none := by
    rw [← notMem_roomIds]
    intro hmem
    exact absurd (h.ids _ hmem) (by omega)
  rw [freshRoomId, hnumber, hfree]

omit [DecidableEq σ] in
theorem Filled.createdId {s : Server σ} {x : σ} {k : ℕ} (h : Filled s x k) (hk : k < 9998) :
    createdId s (.handleMessage x ⟨.MSG_CREATE_ROOM, 0, 0, ""⟩ [k]) = some (k + 1) := by
  rw [GameServer.Network.createdId, if_pos ⟨rfl, h.outside⟩, h.fresh hk]

/-- step lemma -/
theorem Filled.round {s : Server σ} {x : σ} {k : ℕ} (h : Filled s x k) (hk : k < 9998) :
    Filled (run call s (fillRound x k)) x (k + 1) ∧ roomsCreated s (fillRound x k) = 1 := by
  have hcreated := roomIds_growth.insert _ _ _ (h.createdId hk)
  have hinv := Inv.call _ (.handleMessage x ⟨.MSG_CREATE_ROOM, 0, 0, ""⟩ [k]) h.inv
  constructor
  · refine ⟨?_, ?_, ?_⟩
    · exact Inv.call _ (.handleMessage x ⟨.MSG_LEAVE_ROOM, 0, 0, ""⟩ []) hinv
    · exact cur_handleLeaveRoom_self hinv x
    · intro id hid
      have hid' : id ∈ insert (k + 1) (roomIds s) := by
        rw [← hcreated, ← roomIds_handleLeaveRoom _ x]
        exact hid
      rcases Finset.mem_insert.1 hid' with rfl | hold
      · exact le_rfl
      · exact (h.ids id hold).trans (Nat.le_succ k)
  · rw [roomsCreated, fillRound, added, h.createdId hk]
    rfl

/-- run lemma -/
theorem fill_run (users : σ → ℕ) (x : σ) {k : ℕ} (hk : k ≤ 9998) :
    Filled (run call (start users) (fillCalls x k)) x k ∧ roomsCreated (start users) (fillCalls x k) = k := by
  induction k with
  | zero => exact ⟨⟨Inv.start users, rfl, fun _ hid => by cases hid⟩, rfl⟩
  | succ k ih =>
    obtain ⟨hfilled, hcount⟩ := ih (by omega)
    obtain ⟨hnext, hone⟩ := hfilled.round (by omega)
    refine ⟨?_, ?_⟩
    · rw [fillCalls, run_append]
      exact hnext
    · rw [roomsCreated] at hcount hone
      rw [roomsCreated, fillCalls, added_append, hcount, hone]

/-! ## The search for a free id -/

/-- an id that the random source can return is free, and a session outside any room can create one -/
structure Searchable (s : Server σ) : Prop where
  free : ∃ draw, getRoom s (getRandomNumber 1 9999 draw) = none
  creates : ∀ x, cur s x = 0 → ∃ draws, cur (handleCreateRoom s x draws) x ≠ 0

omit [DecidableEq σ] in
theorem exists_free_draw_iff (s : Server σ) :
    (∃ draw, getRoom s (getRandomNumber 1 9999 draw) = none) ↔ ∃ id ∈ randomIds, id ∉ roomIds s := by
  constructor
  · intro ⟨draw, hdraw⟩
    exact ⟨_, mem_randomIds.2 ⟨draw, rfl⟩, notMem_roomIds.2 hdraw⟩
  · intro ⟨id, hid, hfree⟩
    obtain ⟨draw, rfl⟩ := mem_randomIds.1 hid
    exact ⟨draw, notMem_roomIds.1 hfree⟩

/-- a create message served puts the session into the new room -/
theorem cur_handleCreateRoom_self {s : Server σ} {x : σ} {draws : List ℕ} {room_id : ℕ} (hcur : cur s x = 0)
    (hfresh : freshRoomId s draws = some room_id) : cur (handleCreateRoom s x draws) x = room_id := by
  rw [handleCreateRoom, if_neg (not_inRoom hcur), hfresh]
  exact (cur_setCurrentRoomId _ x room_id x).trans (if_pos rfl)

theorem searchable_iff (s : Server σ) : Searchable s ↔ ∃ id ∈ randomIds, id ∉ roomIds s := by
  rw [← exists_free_draw_iff]
  constructor
  · exact Searchable.free
  · intro hfree
    refine ⟨hfree, ?_⟩
    intro x hcur
    obtain ⟨draw, hdraw⟩ := hfree
    have hends : (freshRoomId s [draw]).isSome := (freshRoomId_isSome_iff s [draw]).2 ⟨draw, by simp, hdraw⟩
    obtain ⟨room_id, hfresh⟩ := Option.isSome_iff_exists.1 hends
    refine ⟨[draw], ?_⟩
    rw [cur_handleCreateRoom_self hcur hfresh]
    exact (freshRoomId_some hfresh).2

theorem searchable_run_iff (users : σ → ℕ) (calls : List (Call σ)) :
    Searchable (run call (start users) calls) ↔ roomsCreated (start users) calls < 9998 := by
  rw [searchable_iff, roomIds_growth.free_run_iff (fun _ _ _ => createdId_mem) (Finset.empty_subset _), roomIds_start,
    Finset.card_empty, Nat.zero_add, card_randomIds, roomsCreated]

/-- **The search for a room id can end in every state of a run exactly if it serves fewer than 9998 create messages**: the
number of rooms is the number of those served so far. -/
theorem search_ends_iff (users : σ → ℕ) (calls : List (Call σ)) :
    ((∀ n, Searchable (run call (start users) (calls.take n))) ↔ roomsCreated (start users) calls < 9998) ∧
      ∀ n, (run call (start users) (calls.take n)).rooms.keys.length = roomsCreated (start users) (calls.take n) := by
  constructor
  · simp only [searchable_iff]
    rw [roomIds_growth.free_iff (fun _ _ _ => createdId_mem) (Finset.empty_subset _), roomIds_start, Finset.card_empty,
      Nat.zero_add, card_randomIds, roomsCreated]
  · intro n
    rw [← card_roomIds, card_roomIds_run]

/-- after 9998 rounds a session outside every room finds no id, whatever is drawn -/
theorem search_stuck :
    cur (run call (start fun _ : Unit => 0) (fillCalls () 9998)) () = 0 ∧
      ¬ Searchable (run call (start fun _ : Unit => 0) (fillCalls () 9998)) ∧
      ∀ draws, handleCreateRoom (run call (start fun _ : Unit => 0) (fillCalls () 9998)) () draws =
        run call (start fun _ : Unit => 0) (fillCalls () 9998) := by
  obtain ⟨hfilled, hcount⟩ := fill_run (fun _ : Unit => 0) () (le_refl 9998)
  have hstuck := (searchable_run_iff _ (fillCalls () 9998)).not.2 hcount.symm.le.not_gt
  refine ⟨hfilled.outside, hstuck, ?_⟩
  intro draws
  apply handleCreateRoom_of_none
  intro _
  by_contra hsome
  obtain ⟨draw, -, hfree⟩ := (freshRoomId_isSome_iff _ draws).1 (Option.isSome_iff_ne_none.2 hsome)
  exact hstuck ((searchable_iff _).2 ((exists_free_draw_iff _).1 ⟨draw, hfree⟩))

end GameServer.Network
