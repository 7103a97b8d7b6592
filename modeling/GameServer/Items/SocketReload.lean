/-
Sockets in three encodings, `C++/Inventory.cpp`.

A socket id counts from `MIN_SOCKET_ID`, an index of the array from 0. `ValidateItemSocketUpdate` converts one into the other;
`UpdateItemSocketInfo` and `CacheItemDataList` take the index as the socket id. With `MIN_SOCKET_ID = 0` the three agree along
every run of updates, and a reload from the last info of each parent gives the sockets back; with any other value the first
accepted update puts the child into another socket (`socket_encodings_iff`).

The infos are stored outside src/: `SocketStore` keeps them in order, and `lastInfos` is what a reload gets.
-/
import Mathlib.Tactic
import GameServer.Core.Overwrite
import GameServer.Core.Run
import GameServer.Items.SocketArray

namespace GameServer.Items

open GameServer.Core

section

variable {w : ℕ} (E : Env) (MIN_SOCKET_ID cleared : ℕ)

/-! ## Updates and reloads -/

structure SocketRequest where
  socketId : ℕ
  itemDBIdParent : ItemDBId
  itemDBIdChild : ItemDBId
deriving DecidableEq, Repr

/-- the inventory, and the infos of the accepted updates -/
structure SocketStore (w : ℕ) where
  inven : Inventory w
  infos : List ItemSocketInfo

/-- validation into an empty array, and update -/
def storeStep (st : SocketStore w) (req : SocketRequest) : SocketStore w :=
  match validateItemSocketUpdate E MIN_SOCKET_ID st.inven req.socketId req.itemDBIdParent req.itemDBIdChild
      (List.replicate E.MAX_SOCKET_COUNT E.INVALID_ITEM_DB_ID) with
  | .error _ => st
  | .ok info => ⟨(updateItemSocketInfo E st.inven req.itemDBIdChild info).2.1, st.infos ++ [info]⟩

/-- the last info of each parent -/
def lastInfos : List ItemSocketInfo → List ItemSocketInfo
  | [] => []
  | info :: infos =>
    if ∃ later ∈ infos, later.mParentItemDBId = info.mParentItemDBId then lastInfos infos else info :: lastInfos infos

/-- items without parent and socket -/
def clearSockets (items : List (ItemDataGateway w)) : List (ItemDataGateway w) :=
  items.map (putInSocket E.INVALID_ITEM_DB_ID cleared)

/-- parent and socket of an item -/
def socketOf (items : List (ItemDataGateway w)) (itemDBId : ItemDBId) : Option (ItemDBId × ℕ) :=
  (getItemData items itemDBId).map fun item => (item.mParentItemDBId, item.mSocketId)

/-- a reload of the items without sockets gives every item its parent and socket -/
def Restored (items : List (ItemDataGateway w)) (infos : List ItemSocketInfo) : Prop :=
  ∀ presets itemDBId,
    socketOf (cacheItemDataList E (clearSockets E cleared items) presets infos).mItemDataGatewayList itemDBId =
      socketOf items itemDBId

/-- an inventory with distinct ids and consistent sockets, and infos that restore them -/
structure Stored (st : SocketStore w) : Prop where
  nodup : (st.inven.mItemDataGatewayList.map (·.mItemDBId)).Nodup
  consistent : SocketsConsistent E st.inven.mItemDataGatewayList
  restored : Restored E cleared st.inven.mItemDataGatewayList (lastInfos st.infos)

/-- the update puts the child into the requested socket and changes nothing else; sockets stay distinct and are restored -/
structure SocketAgrees (req : SocketRequest) (before after : SocketStore w) : Prop where
  update : after.inven.mItemDataGatewayList = before.inven.mItemDataGatewayList.map fun item =>
    if item.mItemDBId = req.itemDBIdChild then putInSocket req.itemDBIdParent req.socketId item else item
  distinct : after.inven.mItemDataGatewayList.Pairwise fun a b => a.mParentItemDBId = b.mParentItemDBId →
    a.mParentItemDBId ≠ E.INVALID_ITEM_DB_ID → a.mSocketId ≠ b.mSocketId
  restored : Restored E cleared after.inven.mItemDataGatewayList (lastInfos after.infos)

theorem lastInfos_append (infos : List ItemSocketInfo) (info : ItemSocketInfo) :
    lastInfos (infos ++ [info]) =
      (lastInfos infos).filter (fun old => old.mParentItemDBId ≠ info.mParentItemDBId) ++ [info] := by
  induction infos with
  | nil => simp [lastInfos]
  | cons old infos ih =>
    rw [List.cons_append, lastInfos, lastInfos, ih]
    by_cases hlater : ∃ later ∈ infos, later.mParentItemDBId = old.mParentItemDBId
    · rw [if_pos hlater, if_pos]
      obtain ⟨later, hmem, hp⟩ := hlater
      exact ⟨later, List.mem_append_left _ hmem, hp⟩
    · rw [if_neg hlater]
      by_cases hp : old.mParentItemDBId = info.mParentItemDBId
      · rw [if_pos ⟨info, by simp, hp.symm⟩]
        simp [hp]
      · rw [if_neg]
        · simp [hp]
        · rintro ⟨later, hmem, heq⟩
          rcases List.mem_append.1 hmem with hold | hnew
          · exact hlater ⟨later, hold, heq⟩
          · exact hp (List.mem_singleton.1 hnew ▸ heq).symm

/-! ## What the loader writes -/

/-- the entries of an info as assignments of parent and socket -/
def infoWrites (info : ItemSocketInfo) : List (ItemDBId × Option (ItemDBId × ℕ)) :=
  (List.range E.MAX_SOCKET_COUNT).filterMap fun socketId =>
    let childItemDBId := info.mChildItemDBIdArray.getD socketId E.INVALID_ITEM_DB_ID
    if childItemDBId = E.INVALID_ITEM_DB_ID then none else some (childItemDBId, some (info.mParentItemDBId, socketId))

/-- the assignments of all infos whose parent exists -/
def loadWrites (ids : List ItemDBId) (infos : List ItemSocketInfo) : List (ItemDBId × Option (ItemDBId × ℕ)) :=
  (infos.filter fun info => info.mParentItemDBId ∈ ids).flatMap (infoWrites E)

variable {E MIN_SOCKET_ID cleared} {items : List (ItemDataGateway w)} {info : ItemSocketInfo}

theorem mem_infoWrites {a : ItemDBId} {v : Option (ItemDBId × ℕ)} :
    (a, v) ∈ infoWrites E info ↔ a ≠ E.INVALID_ITEM_DB_ID ∧ ∃ i < E.MAX_SOCKET_COUNT,
      info.mChildItemDBIdArray.getD i E.INVALID_ITEM_DB_ID = a ∧ v = some (info.mParentItemDBId, i) := by
  simp only [infoWrites, List.mem_filterMap, List.mem_range, Option.ite_none_left_eq_some, Option.some.injEq, Prod.mk.injEq]
  constructor
  · rintro ⟨i, hi, hvalid, rfl, rfl⟩
    exact ⟨hvalid, i, hi, rfl, rfl⟩
  · rintro ⟨hvalid, i, hi, rfl, rfl⟩
    exact ⟨i, hi, hvalid, rfl, rfl⟩

theorem socketOf_isSome {a : ItemDBId} : (socketOf items a).isSome ↔ a ∈ items.map (·.mItemDBId) := by
  rw [socketOf, Option.isSome_map, Option.isSome_iff_ne_none, Ne]
  exact not_iff_comm.1 Keyed.find_eq_none.symm

theorem socketOf_eq_none {a : ItemDBId} : socketOf items a = none ↔ a ∉ items.map (·.mItemDBId) := by
  rw [← socketOf_isSome, Option.not_isSome_iff_eq_none]

/-- a write that keeps ids and sockets -/
theorem socketOf_setItemData {f : ItemDataGateway w → ItemDataGateway w} (hid : ∀ item, (f item).mItemDBId = item.mItemDBId)
    (hf : ∀ item, ((f item).mParentItemDBId, (f item).mSocketId) = (item.mParentItemDBId, item.mSocketId))
    (k a : ItemDBId) : socketOf (setItemData items k f) a = socketOf items a := by
  have hfind : getItemData (setItemData items k f) a =
      if a = k then (getItemData items k).map f else getItemData items a := Keyed.find_modify hid k a
  rw [socketOf, hfind, socketOf]
  split_ifs with ha
  · rw [ha, Option.map_map]
    exact congrArg (Option.map · (getItemData items k)) (funext hf)
  · rfl

theorem socketOf_putInSocket {child : ItemDBId} (hchild : (socketOf items child).isSome) (p : ItemDBId) (i : ℕ)
    (a : ItemDBId) : socketOf (setItemData items child (putInSocket p i)) a =
      if a = child then some (p, i) else socketOf items a := by
  rw [socketOf, getItemData_putInSocket]
  split_ifs
  · rw [socketOf, Option.isSome_map] at hchild
    obtain ⟨item, hitem⟩ := Option.isSome_iff_exists.1 hchild
    rw [hitem]
    rfl
  · rfl

/-- a preset changes neither ids nor sockets -/
theorem cachePreset_sockets (preset : ItemPresetInfo) (items : List (ItemDataGateway w)) :
    (cachePreset E items preset).map (·.mItemDBId) = items.map (·.mItemDBId) ∧
      ∀ a, socketOf (cachePreset E items preset) a = socketOf items a := by
  unfold cachePreset
  induction preset.mEquipItemDBIdList generalizing items with
  | nil => exact ⟨rfl, fun _ => rfl⟩
  | cons itemDBId rest ih =>
    rw [List.foldl_cons]
    split_ifs
    · exact ih items
    · obtain ⟨hids, hsockets⟩ := ih (setItemData items itemDBId fun item =>
        { item with mPresetValue := item.mPresetValue ||| presetBit E w preset.mPresetId })
      refine ⟨hids.trans ?_, fun a => (hsockets a).trans ?_⟩
      · apply Keyed.map_modify
        intro item
        rfl
      · apply socketOf_setItemData
        · intro item
          rfl
        · intro item
          rfl

/-- the loader writes the entries of an info whose parent exists -/
theorem cacheSocket_writes (info : ItemSocketInfo) (items : List (ItemDataGateway w)) :
    (cacheSocket E items info).map (·.mItemDBId) = items.map (·.mItemDBId) ∧
      ∀ a ∈ items.map (·.mItemDBId), socketOf (cacheSocket E items info) a =
        overwrite (socketOf items) (loadWrites E (items.map (·.mItemDBId)) [info]) a := by
  unfold cacheSocket loadWrites
  cases hparent : getItemData items info.mParentItemDBId with
  | none =>
    have hnone : info.mParentItemDBId ∉ items.map (·.mItemDBId) := Keyed.find_eq_none.1 hparent
    simp only [List.filter_cons, hnone, decide_false, Bool.false_eq_true, if_false, List.filter_nil, List.flatMap_nil]
    exact ⟨trivial, fun _ _ => rfl⟩
  | some parentItem =>
    have hin : info.mParentItemDBId ∈ items.map (·.mItemDBId) := by
      obtain ⟨hmem, hid⟩ := Keyed.find_some hparent
      exact hid ▸ List.mem_map_of_mem hmem
    simp only [List.filter_cons, hin, decide_true, if_true, List.filter_nil, List.flatMap_cons, List.flatMap_nil,
      List.append_nil]
    unfold infoWrites
    clear hparent hin
    induction List.range E.MAX_SOCKET_COUNT generalizing items with
    | nil => exact ⟨rfl, fun _ _ => rfl⟩
    | cons i socketIds ih =>
      rw [List.foldl_cons, List.filterMap_cons]
      dsimp only
      split_ifs with hempty
      · exact ih items
      · obtain ⟨hids, hsockets⟩ := ih (setItemData items (info.mChildItemDBIdArray.getD i E.INVALID_ITEM_DB_ID)
          (putInSocket info.mParentItemDBId i))
        have hsame := ids_setItemData items (info.mChildItemDBIdArray.getD i E.INVALID_ITEM_DB_ID) info.mParentItemDBId i
        refine ⟨hids.trans hsame, ?_⟩
        intro a ha
        refine (hsockets a (hsame.symm ▸ ha)).trans ?_
        rw [overwrite_cons]
        apply overwrite_congr
        by_cases hchild : info.mChildItemDBIdArray.getD i E.INVALID_ITEM_DB_ID ∈ items.map (·.mItemDBId)
        · rw [socketOf_putInSocket (socketOf_isSome.2 hchild), Function.update_apply]
        · -- an entry that is no item is not looked for
          rw [setItemData, Keyed.modify_absent (Keyed.find_eq_none.2 hchild), Function.update_of_ne]
          rintro rfl
          exact hchild ha

theorem loadWrites_append (ids : List ItemDBId) (a b : List ItemSocketInfo) :
    loadWrites E ids (a ++ b) = loadWrites E ids a ++ loadWrites E ids b := by
  rw [loadWrites, List.filter_append, List.flatMap_append]
  rfl

theorem cacheSockets_writes (infos : List ItemSocketInfo) (items : List (ItemDataGateway w)) :
    (infos.foldl (cacheSocket E) items).map (·.mItemDBId) = items.map (·.mItemDBId) ∧
      ∀ a ∈ items.map (·.mItemDBId), socketOf (infos.foldl (cacheSocket E) items) a =
        overwrite (socketOf items) (loadWrites E (items.map (·.mItemDBId)) infos) a := by
  induction infos generalizing items with
  | nil => exact ⟨rfl, fun _ _ => rfl⟩
  | cons info infos ih =>
    obtain ⟨hids, hwrites⟩ := cacheSocket_writes (E := E) info items
    obtain ⟨hids', hwrites'⟩ := ih (cacheSocket E items info)
    refine ⟨hids'.trans hids, ?_⟩
    intro a ha
    rw [hids] at hwrites'
    calc socketOf ((info :: infos).foldl (cacheSocket E) items) a
        = overwrite (socketOf (cacheSocket E items info)) (loadWrites E (items.map (·.mItemDBId)) infos) a := hwrites' a ha
      _ = overwrite (overwrite (socketOf items) (loadWrites E (items.map (·.mItemDBId)) [info]))
            (loadWrites E (items.map (·.mItemDBId)) infos) a := overwrite_congr (hwrites a ha) _
      _ = overwrite (socketOf items) (loadWrites E (items.map (·.mItemDBId)) (info :: infos)) a := by
          rw [← overwrite_append, ← loadWrites_append, List.singleton_append]

theorem cachePresets_sockets (presets : List ItemPresetInfo) (items : List (ItemDataGateway w)) :
    (presets.foldl (cachePreset E) items).map (·.mItemDBId) = items.map (·.mItemDBId) ∧
      ∀ a, socketOf (presets.foldl (cachePreset E) items) a = socketOf items a := by
  induction presets generalizing items with
  | nil => exact ⟨rfl, fun _ => rfl⟩
  | cons preset presets ih =>
    obtain ⟨hids, hsockets⟩ := cachePreset_sockets (E := E) preset items
    obtain ⟨hids', hsockets'⟩ := ih (cachePreset E items preset)
    exact ⟨hids'.trans hids, fun a => (hsockets' a).trans (hsockets a)⟩

/-- **A reload reads the assignments of the infos**, starting from items without sockets. -/
theorem restored_iff {infos : List ItemSocketInfo} : Restored E cleared items infos ↔
    ∀ a ∈ items.map (·.mItemDBId),
      overwrite (fun _ => some (E.INVALID_ITEM_DB_ID, cleared)) (loadWrites E (items.map (·.mItemDBId)) infos) a =
        socketOf items a := by
  have hcleared : (clearSockets E cleared items).map (·.mItemDBId) = items.map (·.mItemDBId) :=
    Keyed.keys_map _ (putInSocket_id E.INVALID_ITEM_DB_ID cleared) items
  have hload : ∀ presets : List ItemPresetInfo, ∀ a ∈ items.map (·.mItemDBId),
      socketOf (cacheItemDataList E (clearSockets E cleared items) presets infos).mItemDataGatewayList a =
        overwrite (fun _ => some (E.INVALID_ITEM_DB_ID, cleared)) (loadWrites E (items.map (·.mItemDBId)) infos) a := by
    intro presets a ha
    obtain ⟨hids, hsockets⟩ := cachePresets_sockets (E := E) presets (clearSockets E cleared items)
    have hwrites := (cacheSockets_writes (E := E) infos (presets.foldl (cachePreset E) (clearSockets E cleared items))).2
    rw [hids, hcleared] at hwrites
    refine (hwrites a ha).trans (overwrite_congr ?_ _)
    obtain ⟨item, hfind⟩ := exists_item ha
    have hclear : getItemData (clearSockets E cleared items) a =
        (getItemData items a).map (putInSocket E.INVALID_ITEM_DB_ID cleared) :=
      Keyed.find_map _ (putInSocket_id E.INVALID_ITEM_DB_ID cleared) a
    rw [hsockets, socketOf, hclear, hfind]
    rfl
  constructor
  · intro h a ha
    rw [← hload [] a ha]
    exact h [] a
  · intro h presets a
    by_cases ha : a ∈ items.map (·.mItemDBId)
    · rw [hload presets a ha, h a ha]
    · -- an item that does not exist has no socket, before and after
      rw [socketOf_eq_none.2 ha, socketOf_eq_none]
      rwa [cacheItemDataList, (cacheSockets_writes infos _).1, (cachePresets_sockets presets _).1, hcleared]

theorem loadWrites_cons (ids : List ItemDBId) (old : ItemSocketInfo) (infos : List ItemSocketInfo) :
    loadWrites E ids (old :: infos) =
      (if old.mParentItemDBId ∈ ids then infoWrites E old else []) ++ loadWrites E ids infos := by
  unfold loadWrites
  by_cases hin : old.mParentItemDBId ∈ ids <;> simp [hin]

/-- all assignments of an info are below its parent -/
theorem infoWrites_filter (old : ItemSocketInfo) (p : ItemDBId) :
    (infoWrites E old).filter (fun w => w.2.map Prod.fst ≠ some p) =
      if old.mParentItemDBId = p then [] else infoWrites E old := by
  have hparent : ∀ w ∈ infoWrites E old, w.2.map Prod.fst = some old.mParentItemDBId := by
    rintro ⟨a, v⟩ hw
    obtain ⟨-, i, -, -, rfl⟩ := mem_infoWrites.1 hw
    rfl
  split_ifs with hp
  · rw [List.filter_eq_nil_iff]
    intro w hw
    rw [hparent w hw, hp]
    simp
  · rw [List.filter_eq_self]
    intro w hw
    rw [hparent w hw]
    simpa using hp

theorem loadWrites_filter (ids : List ItemDBId) (p : ItemDBId) (infos : List ItemSocketInfo) :
    loadWrites E ids (infos.filter fun old => old.mParentItemDBId ≠ p) =
      (loadWrites E ids infos).filter fun w => w.2.map Prod.fst ≠ some p := by
  induction infos with
  | nil => rfl
  | cons old infos ih =>
    rw [loadWrites_cons, List.filter_append, ← ih]
    by_cases hp : old.mParentItemDBId = p
    · rw [List.filter_cons_of_neg (by simpa using hp)]
      split_ifs
      · rw [infoWrites_filter, if_pos hp, List.nil_append]
      · rfl
    · rw [List.filter_cons_of_pos (by simpa using hp), loadWrites_cons]
      split_ifs
      · rw [infoWrites_filter, if_neg hp]
      · rfl

/-- a new info of a parent drops the assignments of its old one -/
theorem loadWrites_lastInfos {ids : List ItemDBId} (infos : List ItemSocketInfo) (hin : info.mParentItemDBId ∈ ids) :
    loadWrites E ids (lastInfos (infos ++ [info])) =
      (loadWrites E ids (lastInfos infos)).filter (fun w => w.2.map Prod.fst ≠ some info.mParentItemDBId) ++
        infoWrites E info := by
  rw [lastInfos_append, loadWrites_append, loadWrites_filter, loadWrites_cons, if_pos hin]
  simp [loadWrites]

/-! ## One accepted update -/

variable {socketId : ℕ} {p child : ItemDBId} {inven : Inventory w}

/-- an entry of the child at one index only puts it into this socket -/
theorem foldl_updateSocket_once {k : ℕ} (socketIds : List ℕ) (hnodup : socketIds.Nodup) {s : SocketState w}
    (hchild : (parentOf s.2.1 child).isSome)
    (hk : ∀ i ∈ socketIds, info.mChildItemDBIdArray.getD i E.INVALID_ITEM_DB_ID = child ↔ i = k) :
    (socketIds.foldl (updateSocket E child info) s).2.1 =
      if k ∈ socketIds then setItemData s.2.1 child (putInSocket info.mParentItemDBId k) else s.2.1 := by
  induction socketIds generalizing s with
  | nil => rfl
  | cons i socketIds ih =>
    obtain ⟨hnot, hnodup'⟩ := List.nodup_cons.1 hnodup
    have hrest := ih hnodup' (s := updateSocket E child info s i) (updateSocket_child hchild i)
      fun j hj => hk j (List.mem_cons_of_mem i hj)
    rw [List.foldl_cons, hrest, updateSocket_eq hchild]
    by_cases hi : i = k
    · subst hi
      rw [if_pos ((hk i List.mem_cons_self).2 rfl), if_neg hnot, if_pos List.mem_cons_self]
    · rw [if_neg fun hentry => hi ((hk i List.mem_cons_self).1 hentry)]
      by_cases hmem : k ∈ socketIds
      · rw [if_pos hmem, if_pos (List.mem_cons_of_mem i hmem)]
      · rw [if_neg hmem, if_neg fun hin => (List.mem_cons.1 hin).elim (Ne.symm hi) hmem]

/-- **An accepted update puts the child into the socket of its index.** -/
theorem updateItemSocketInfo_index (hnodup : (inven.mItemDataGatewayList.map (·.mItemDBId)).Nodup)
    (hinvalid : E.INVALID_ITEM_DB_ID ∉ inven.mItemDataGatewayList.map (·.mItemDBId))
    (hok : validateItemSocketUpdate E MIN_SOCKET_ID inven socketId p child
      (List.replicate E.MAX_SOCKET_COUNT E.INVALID_ITEM_DB_ID) = .ok info) :
    (updateItemSocketInfo E inven child info).2.1.mItemDataGatewayList = inven.mItemDataGatewayList.map fun item =>
      if item.mItemDBId = child then putInSocket p (socketId - MIN_SOCKET_ID) item else item := by
  have harray := validateItemSocketUpdate_array hok
  obtain ⟨hparent, hunparented, rfl, -⟩ := (validateItemSocketUpdate_ok hok).1
  obtain ⟨parentItem, hparentItem⟩ := exists_item_of_parentOf hparent
  obtain ⟨childItem, hchildItem, hnone⟩ := Option.map_eq_some_iff.1 hunparented
  have hk : ∀ i ∈ List.range E.MAX_SOCKET_COUNT,
      info.mChildItemDBIdArray.getD i E.INVALID_ITEM_DB_ID = child ↔ i = socketId - MIN_SOCKET_ID := by
    intro i hi
    have hget := getElem?_eq_getD (harray.length.symm ▸ List.mem_range.1 hi) E.INVALID_ITEM_DB_ID
    constructor
    · intro hentry
      by_contra hne
      rcases harray.entry hne (hentry ▸ hget) with heq | ⟨item, hmem, hp, -, hid⟩
      · exact ne_invalid_of_getItemData hinvalid hchildItem heq
      · -- the child has no parent yet
        have hsame : getItemData inven.mItemDataGatewayList child = some item := (Keyed.find_eq_some hnodup).2 ⟨hmem, hid⟩
        rw [hchildItem, Option.some.injEq] at hsame
        exact ne_invalid_of_getItemData hinvalid hparentItem (hp.symm.trans (hsame ▸ hnone))
    · rintro rfl
      exact harray.getD_eq
  unfold updateItemSocketInfo
  rw [hparentItem]
  dsimp only
  rw [foldl_updateSocket_once (List.range E.MAX_SOCKET_COUNT) List.nodup_range (hunparented ▸ rfl) hk,
    if_pos (List.mem_range.2 harray.upper)]
  exact Keyed.modify_eq_map hnodup child _

/-! ## The child in the requested socket -/

section Placed

variable (items p child socketId) in
/-- the items with the child in the socket -/
def placed : List (ItemDataGateway w) :=
  items.map fun item => if item.mItemDBId = child then putInSocket p socketId item else item

theorem placed_keeps_id (item : ItemDataGateway w) :
    (if item.mItemDBId = child then putInSocket p socketId item else item).mItemDBId = item.mItemDBId := by
  split_ifs
  · exact putInSocket_id p socketId item
  · rfl

theorem ids_placed : (placed items socketId p child).map (·.mItemDBId) = items.map (·.mItemDBId) :=
  Keyed.keys_map _ placed_keeps_id items

theorem socketOf_placed {a : ItemDBId} (ha : a ∈ items.map (·.mItemDBId)) :
    socketOf (placed items socketId p child) a = if a = child then some (p, socketId) else socketOf items a := by
  obtain ⟨item, hfind⟩ := exists_item ha
  have hid := (Keyed.find_some hfind).2
  have hplaced : getItemData (placed items socketId p child) a = (getItemData items a).map fun item =>
      if item.mItemDBId = child then putInSocket p socketId item else item := Keyed.find_map _ placed_keeps_id a
  rw [socketOf, hplaced, hfind, socketOf, hfind, Option.map_some, hid]
  split_ifs <;> rfl

/-- the new socket was free -/
theorem placed_consistent (h : SocketsConsistent E items) (hnodup : (items.map (·.mItemDBId)).Nodup)
    (hp : p ∈ items.map (·.mItemDBId))
    (hfree : ∀ item ∈ items, item.mParentItemDBId = p → item.mSocketId ≠ socketId) :
    SocketsConsistent E (placed items socketId p child) := by
  refine ⟨?_, ?_, ?_⟩
  · rw [ids_placed]
    exact h.invalid_id
  · rw [ids_placed]
    intro item' hmem
    obtain ⟨item, hitem, rfl⟩ := List.mem_map.1 hmem
    split_ifs
    · exact Or.inr hp
    · exact h.parent_exists item hitem
  · rw [placed, List.pairwise_map]
    have hpairs := (List.pairwise_map.1 hnodup).and h.distinct
    refine hpairs.imp_of_mem ?_
    intro a b ha hb ⟨hne, hold⟩
    split_ifs with hac hbc hbc
    · exact absurd (hac.trans hbc.symm) hne
    · intro heq _
      exact (hfree b hb heq.symm).symm
    · intro heq _
      exact hfree a ha heq
    · exact hold

/-- the new info of the parent names its children in their sockets -/
theorem infoWrites_placed (hnodup : (items.map (·.mItemDBId)).Nodup)
    (harray : ChildArray E 0 items socketId info.mParentItemDBId child info.mChildItemDBIdArray)
    (hunparented : parentOf items child = some E.INVALID_ITEM_DB_ID)
    (hp : info.mParentItemDBId ≠ E.INVALID_ITEM_DB_ID) {a : ItemDBId} {v : Option (ItemDBId × ℕ)}
    (hw : (a, v) ∈ infoWrites E info) : v = socketOf (placed items socketId info.mParentItemDBId child) a := by
  obtain ⟨hvalid, i, hi, hentry, rfl⟩ := mem_infoWrites.1 hw
  have hget := getElem?_eq_getD (harray.length.symm ▸ hi) E.INVALID_ITEM_DB_ID
  rw [hentry] at hget
  have hchild : child ∈ items.map (·.mItemDBId) := by
    obtain ⟨item, hmem, rfl, -⟩ := parentOf_some hunparented
    exact List.mem_map_of_mem hmem
  by_cases hnew : i = socketId
  · subst hnew
    rw [← hentry.symm.trans harray.getD_eq] at hchild ⊢
    rw [socketOf_placed hchild, if_pos rfl]
  · rcases harray.entry hnew hget with heq | ⟨item, hmem, hparent, hsocket, rfl⟩
    · exact absurd heq hvalid
    · have hfind : getItemData items item.mItemDBId = some item := (Keyed.find_eq_some hnodup).2 ⟨hmem, rfl⟩
      rw [socketOf_placed (List.mem_map_of_mem hmem), if_neg, socketOf, hfind, Option.map_some, hparent, hsocket, Nat.zero_add]
      intro heq
      rw [← heq, parentOf_mem hnodup hmem, hparent, Option.some.injEq] at hunparented
      exact hp hunparented

theorem placed_restored {infos : List ItemSocketInfo} (h : SocketsConsistent E items)
    (hnodup : (items.map (·.mItemDBId)).Nodup) (hin : info.mParentItemDBId ∈ items.map (·.mItemDBId))
    (harray : ChildArray E 0 items socketId info.mParentItemDBId child info.mChildItemDBIdArray)
    (hunparented : parentOf items child = some E.INVALID_ITEM_DB_ID)
    (hrestored : Restored E cleared items (lastInfos infos)) :
    Restored E cleared (placed items socketId info.mParentItemDBId child) (lastInfos (infos ++ [info])) := by
  have hp : info.mParentItemDBId ≠ E.INVALID_ITEM_DB_ID := fun heq => h.invalid_id (heq ▸ hin)
  rw [restored_iff] at hrestored ⊢
  rw [ids_placed]
  intro a ha
  rw [loadWrites_lastInfos infos hin, overwrite_append]
  by_cases hnamed : ∃ w ∈ infoWrites E info, w.1 = a
  · refine overwrite_of_forall ?_ hnamed
    rintro ⟨a', v⟩ hw rfl
    exact infoWrites_placed hnodup harray hunparented hp hw
  · -- an item that the new info does not name is no child of the parent
    have hother : ∀ w ∈ infoWrites E info, w.1 ≠ a := fun w hw heq => hnamed ⟨w, hw, heq⟩
    obtain ⟨item, hfind⟩ := exists_item ha
    obtain ⟨hmem, rfl⟩ := Keyed.find_some hfind
    have hsocket : socketOf items item.mItemDBId = some (item.mParentItemDBId, item.mSocketId) := by
      rw [socketOf, hfind, Option.map_some]
    have hvalid := ne_invalid_of_getItemData h.invalid_id hfind
    have hnotchild : item.mItemDBId ≠ child := by
      intro heq
      refine hnamed ⟨(child, some (info.mParentItemDBId, socketId - 0)), mem_infoWrites.2 ⟨heq ▸ hvalid, socketId - 0, ?_⟩,
        heq.symm⟩
      exact ⟨harray.upper, harray.getD_eq, rfl⟩
    have hnotparent : item.mParentItemDBId ≠ info.mParentItemDBId := by
      intro heq
      have hold := harray.old (h.distinct_children hp) item hmem heq
      have hrange := (harray.range item hmem heq).2.2
      refine hnamed ⟨(item.mItemDBId, some (info.mParentItemDBId, item.mSocketId - 0)),
        mem_infoWrites.2 ⟨hvalid, item.mSocketId - 0, hrange, ?_, rfl⟩, rfl⟩
      rw [List.getD_eq_getElem?_getD, hold]
      rfl
    rw [overwrite_of_not_mem hother, socketOf_placed ha, if_neg hnotchild, ← hrestored _ ha]
    apply overwrite_filter
    intro w _ _ hdrop heq
    rw [heq, hrestored _ ha, hsocket] at hdrop
    simp [hnotparent] at hdrop

end Placed

/-! ## Every run -/

variable {st : SocketStore w} {req : SocketRequest}

theorem storeStep_accepted (hok : validateItemSocketUpdate E MIN_SOCKET_ID st.inven req.socketId req.itemDBIdParent
    req.itemDBIdChild (List.replicate E.MAX_SOCKET_COUNT E.INVALID_ITEM_DB_ID) = .ok info) :
    storeStep E MIN_SOCKET_ID st req =
      ⟨(updateItemSocketInfo E st.inven req.itemDBIdChild info).2.1, st.infos ++ [info]⟩ := by
  rw [storeStep, hok]

/-- an update changes no id -/
theorem storeStep_ids (st : SocketStore w) (req : SocketRequest) :
    (storeStep E MIN_SOCKET_ID st req).inven.mItemDataGatewayList.map (·.mItemDBId) =
      st.inven.mItemDataGatewayList.map (·.mItemDBId) := by
  cases hv : validateItemSocketUpdate E MIN_SOCKET_ID st.inven req.socketId req.itemDBIdParent req.itemDBIdChild
      (List.replicate E.MAX_SOCKET_COUNT E.INVALID_ITEM_DB_ID) with
  | error e => rw [storeStep, hv]
  | ok info =>
    obtain ⟨hacc, hlen⟩ := validateItemSocketUpdate_ok hv
    rw [storeStep_accepted hv]
    exact (updateItemSocketInfo_accepted hacc (hlen.trans List.length_replicate)).2.1

/-- step lemma: with sockets counted from 0 an accepted update does what was requested, and the store stays good -/
theorem storeStep_zero (h : Stored E cleared st) (hok : validateItemSocketUpdate E 0 st.inven req.socketId
    req.itemDBIdParent req.itemDBIdChild (List.replicate E.MAX_SOCKET_COUNT E.INVALID_ITEM_DB_ID) = .ok info) :
    SocketAgrees E cleared req st (storeStep E 0 st req) ∧ Stored E cleared (storeStep E 0 st req) := by
  have hitems := updateItemSocketInfo_index h.nodup h.consistent.invalid_id hok
  have hstep := storeStep_accepted hok
  have harray := validateItemSocketUpdate_array hok
  obtain ⟨hparent, hunparented, hp, -⟩ := (validateItemSocketUpdate_ok hok).1
  have hin : req.itemDBIdParent ∈ st.inven.mItemDataGatewayList.map (·.mItemDBId) := by
    by_contra hnot
    rw [← parentOf_eq_none] at hnot
    rw [hnot] at hparent
    cases hparent
  have hconsistent : SocketsConsistent E
      (placed st.inven.mItemDataGatewayList req.socketId req.itemDBIdParent req.itemDBIdChild) :=
    placed_consistent h.consistent h.nodup hin fun item hmem hq => (harray.range item hmem hq).1
  rw [← hp] at hin harray
  have hrestored := placed_restored h.consistent h.nodup hin harray hunparented h.restored
  rw [hp] at hrestored
  have hafter : (storeStep E 0 st req).inven.mItemDataGatewayList =
      placed st.inven.mItemDataGatewayList req.socketId req.itemDBIdParent req.itemDBIdChild := by
    rw [hstep]
    exact hitems
  have hinfos : (storeStep E 0 st req).infos = st.infos ++ [info] := by rw [hstep]
  refine ⟨⟨hafter, ?_, ?_⟩, ?_, ?_, ?_⟩
  · rw [hafter]
    exact hconsistent.distinct
  · rw [hafter, hinfos]
    exact hrestored
  · rw [storeStep_ids]
    exact h.nodup
  · rw [hafter]
    exact hconsistent
  · rw [hafter, hinfos]
    exact hrestored

theorem storeRun_zero (h : Stored E cleared st) (reqs : List SocketRequest) :
    Stored E cleared (run (storeStep E 0) st reqs) := by
  refine run_inv_all ?_ h reqs
  intro st req h
  cases hv : validateItemSocketUpdate E 0 st.inven req.socketId req.itemDBIdParent req.itemDBIdChild
      (List.replicate E.MAX_SOCKET_COUNT E.INVALID_ITEM_DB_ID) with
  | error e =>
    rw [storeStep, hv]
    exact h
  | ok info => exact (storeStep_zero h hv).2

theorem storeRun_ids (st : SocketStore w) (reqs : List SocketRequest) :
    (run (storeStep E MIN_SOCKET_ID) st reqs).inven.mItemDataGatewayList.map (·.mItemDBId) =
      st.inven.mItemDataGatewayList.map (·.mItemDBId) := by
  refine run_inv_all (I := fun st' : SocketStore w => st'.inven.mItemDataGatewayList.map (·.mItemDBId) =
    st.inven.mItemDataGatewayList.map (·.mItemDBId)) ?_ rfl reqs
  intro st' req h
  exact (storeStep_ids st' req).trans h

/-- any other first socket id moves the child -/
theorem storeStep_shifted (hnodup : (st.inven.mItemDataGatewayList.map (·.mItemDBId)).Nodup)
    (hinvalid : E.INVALID_ITEM_DB_ID ∉ st.inven.mItemDataGatewayList.map (·.mItemDBId))
    (hok : validateItemSocketUpdate E MIN_SOCKET_ID st.inven req.socketId req.itemDBIdParent req.itemDBIdChild
      (List.replicate E.MAX_SOCKET_COUNT E.INVALID_ITEM_DB_ID) = .ok info)
    (h : SocketAgrees E cleared req st (storeStep E MIN_SOCKET_ID st req)) : MIN_SOCKET_ID = 0 := by
  have hlower := (validateItemSocketUpdate_array hok).lower
  obtain ⟨childItem, hmem, hid, -⟩ := parentOf_some (validateItemSocketUpdate_ok hok).1.unparented
  have hafter := h.update
  rw [storeStep_accepted hok] at hafter
  have hsame := List.map_inj_left.1 ((updateItemSocketInfo_index hnodup hinvalid hok).symm.trans hafter) childItem hmem
  rw [if_pos hid, if_pos hid] at hsame
  have hsocket : req.socketId - MIN_SOCKET_ID = req.socketId := congrArg ItemDataGateway.mSocketId hsame
  omega

end

/-- **The encodings agree on an accepted update, at any point of any run, exactly if sockets are counted from 0.** -/
theorem socket_encodings_iff {w : ℕ} (E : Env) (MIN_SOCKET_ID cleared : ℕ) {start : SocketStore w}
    (h : Stored E cleared start) (reqs : List SocketRequest) {n : ℕ} {req : SocketRequest} (hreq : reqs[n]? = some req)
    {info : ItemSocketInfo}
    (hok : validateItemSocketUpdate E MIN_SOCKET_ID (run (storeStep E MIN_SOCKET_ID) start (reqs.take n)).inven
      req.socketId req.itemDBIdParent req.itemDBIdChild
      (List.replicate E.MAX_SOCKET_COUNT E.INVALID_ITEM_DB_ID) = .ok info) :
    SocketAgrees E cleared req (run (storeStep E MIN_SOCKET_ID) start (reqs.take n))
        (run (storeStep E MIN_SOCKET_ID) start (reqs.take (n + 1))) ↔
      MIN_SOCKET_ID = 0 := by
  have hids : (run (storeStep E MIN_SOCKET_ID) start (reqs.take n)).inven.mItemDataGatewayList.map (·.mItemDBId) =
      start.inven.mItemDataGatewayList.map (·.mItemDBId) := storeRun_ids start (reqs.take n)
  rw [List.take_add_one, hreq, Option.toList_some, run_append, run_cons, run_nil]
  constructor
  · refine storeStep_shifted ?_ ?_ hok
    · rw [hids]
      exact h.nodup
    · rw [hids]
      exact h.consistent.invalid_id
  · rintro rfl
    exact (storeStep_zero (storeRun_zero h (reqs.take n)) hok).1

/-! ## Three items without sockets -/

def freshStore : SocketStore 1 := ⟨⟨[1, 2, 3].map socketItem, {1, 2, 3}, true⟩, []⟩

theorem freshStore_stored : Stored socketEnv 0 freshStore := by
  refine ⟨by decide, ⟨by decide, by decide, by decide⟩, ?_⟩
  rw [restored_iff]
  decide

/-- 2 into socket 0 of 1, then 3 into socket 1 of 2 -/
def chainRequests : List SocketRequest := [⟨0, 1, 2⟩, ⟨1, 2, 3⟩]

theorem socket_encodings_chain :
    SocketAgrees socketEnv 0 ⟨1, 2, 3⟩ (run (storeStep socketEnv 0) freshStore (chainRequests.take 1))
      (run (storeStep socketEnv 0) freshStore (chainRequests.take 2)) := by
  have hreq : chainRequests[1]? = some ⟨1, 2, 3⟩ := rfl
  have hok : validateItemSocketUpdate socketEnv 0 (run (storeStep socketEnv 0) freshStore (chainRequests.take 1)).inven 1 2 3
      (List.replicate socketEnv.MAX_SOCKET_COUNT socketEnv.INVALID_ITEM_DB_ID) = .ok ⟨2, [0, 3]⟩ := by decide
  exact (socket_encodings_iff socketEnv 0 0 freshStore_stored chainRequests hreq hok).2 rfl

/-- **With sockets counted from 1 the child gets another socket than the requested one.** -/
theorem socket_encodings_shifted :
    Stored socketEnv 0 freshStore ∧
      validateItemSocketUpdate socketEnv 1 freshStore.inven 1 1 2
        (List.replicate socketEnv.MAX_SOCKET_COUNT socketEnv.INVALID_ITEM_DB_ID) = .ok ⟨1, [2, 0]⟩ ∧
      ¬ SocketAgrees socketEnv 0 ⟨1, 1, 2⟩ freshStore (storeStep socketEnv 1 freshStore ⟨1, 1, 2⟩) := by
  refine ⟨freshStore_stored, by decide, ?_⟩
  intro h
  exact absurd h.update (by decide)

end GameServer.Items
