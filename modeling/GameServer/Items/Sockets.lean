/-
Sockets of the inventory, `C++/Inventory.cpp`: an item may sit in a socket of a parent item (`mParentItemDBId`).

The loader takes the parents from the stored socket infos; a validated socket update hangs an unparented item below
another one; items are added without a parent and deleted. The items are a forest under these parents, but neither the
validation nor the deletion looks at more than one item:
- an update may hang an item below itself or below one of its own descendants;
- a deletion leaves the children of the item behind.
These are the only two ways to lose the forest (`socket_forest_iff`).
-/
import Mathlib.Tactic
import GameServer.Core.Run
import GameServer.Core.Forest
import GameServer.Items.Model

namespace GameServer.Items

open GameServer.Core

section

variable {w : ℕ} (E : Env) (MIN_SOCKET_ID : ℕ)

/-! ## Items -/

/-- `AddItem` -/
def addItem (inven : Inventory w) (itemData : ItemDataGateway w) : Bool × Inventory w :=
  if itemData.mItemDBId ∈ inven.mItemDBIdSet then (false, inven)
  else
    (true, { inven with
      mItemDataGatewayList := inven.mItemDataGatewayList ++ [itemData]
      mItemDBIdSet := insert itemData.mItemDBId inven.mItemDBIdSet })

/-- `DeleteItem` -/
def deleteItem (inven : Inventory w) (itemDBId : ItemDBId) : Bool × Inventory w :=
  if itemDBId ∈ inven.mItemDBIdSet then
    (true, { inven with
      mItemDataGatewayList := inven.mItemDataGatewayList.filter fun item => item.mItemDBId ≠ itemDBId
      mItemDBIdSet := inven.mItemDBIdSet.erase itemDBId })
  else (false, inven)

/-! ## `ValidateItemSocketUpdate` -/

/-- a validation that ends early: `false`, or a write outside the array -/
inductive SocketExit where
  | refused
  | undefined
deriving DecidableEq, Repr

/-- `mChildItemDBIdArray[socketId - MIN_SOCKET_ID] = itemDBId` -/
def setChild (socketId : ℕ) (itemDBId : ItemDBId) (childItemDBIdArray : List ItemDBId) :
    Except SocketExit (List ItemDBId) :=
  if MIN_SOCKET_ID ≤ socketId ∧ socketId - MIN_SOCKET_ID < childItemDBIdArray.length then
    .ok (childItemDBIdArray.set (socketId - MIN_SOCKET_ID) itemDBId)
  else .error .undefined

/-- the children that the parent has already; none may be in the socket -/
def collectChildren (socketId : ℕ) (itemDBIdParent : ItemDBId) :
    List (ItemDataGateway w) → List ItemDBId → Except SocketExit (List ItemDBId)
  | [], childItemDBIdArray => .ok childItemDBIdArray
  | itemData :: items, childItemDBIdArray =>
    if itemData.mParentItemDBId ≠ itemDBIdParent then collectChildren socketId itemDBIdParent items childItemDBIdArray
    else if itemData.mSocketId = socketId then .error .refused
    else
      match setChild MIN_SOCKET_ID itemData.mSocketId itemData.mItemDBId childItemDBIdArray with
      | .error e => .error e
      | .ok childItemDBIdArray => collectChildren socketId itemDBIdParent items childItemDBIdArray

/-- `ValidateItemSocketUpdate`; `ok` is `true` with the info. The array comes in with what the caller has put there -/
def validateItemSocketUpdate (inven : Inventory w) (socketId : ℕ) (itemDBIdParent itemDBIdChild : ItemDBId)
    (childItemDBIdArray : List ItemDBId) : Except SocketExit ItemSocketInfo :=
  match getItemData inven.mItemDataGatewayList itemDBIdParent with
  | none => .error .refused
  | some _ =>
    match getItemData inven.mItemDataGatewayList itemDBIdChild with
    | none => .error .refused
    | some childItemData =>
      if childItemData.mParentItemDBId ≠ E.INVALID_ITEM_DB_ID then .error .refused
      else
        match collectChildren MIN_SOCKET_ID socketId itemDBIdParent inven.mItemDataGatewayList childItemDBIdArray with
        | .error e => .error e
        | .ok collected =>
          match setChild MIN_SOCKET_ID socketId itemDBIdChild collected with
          | .error e => .error e
          | .ok childItemDBIdArray => .ok ⟨itemDBIdParent, childItemDBIdArray⟩

/-! ## `UpdateItemSocketInfo` -/

/-- `success`, the items, and parent and socket of `itemDataEquipUpdated` -/
abbrev SocketState (w : ℕ) := Bool × List (ItemDataGateway w) × Option (ItemDBId × ℕ)

/-- the write to a child -/
def putInSocket (itemDBIdParent : ItemDBId) (socketId : ℕ) (item : ItemDataGateway w) : ItemDataGateway w :=
  { item with mParentItemDBId := itemDBIdParent, mSocketId := socketId }

/-- one socket of the loop; children other than the updated one are only checked by an assertion -/
def updateSocket (childDBIdUpdate : ItemDBId) (itemSocketInfoUpdate : ItemSocketInfo) (s : SocketState w) (socketId : ℕ) :
    SocketState w :=
  let childItemDBId := itemSocketInfoUpdate.mChildItemDBIdArray.getD socketId E.INVALID_ITEM_DB_ID
  match getItemData s.2.1 childItemDBId with
  | none => s
  | some _ =>
    if childItemDBId = childDBIdUpdate then
      (true,
        setItemData s.2.1 childItemDBId (putInSocket itemSocketInfoUpdate.mParentItemDBId socketId),
        some (itemSocketInfoUpdate.mParentItemDBId, socketId))
    else s

/-- `UpdateItemSocketInfo`: the result, the inventory and `itemDataEquipUpdated` -/
def updateItemSocketInfo (inven : Inventory w) (childDBIdUpdate : ItemDBId) (itemSocketInfoUpdate : ItemSocketInfo) :
    Bool × Inventory w × Option (ItemDBId × ℕ) :=
  match getItemData inven.mItemDataGatewayList itemSocketInfoUpdate.mParentItemDBId with
  | none => (false, inven, none)
  | some _ =>
    let s := (List.range E.MAX_SOCKET_COUNT).foldl (updateSocket E childDBIdUpdate itemSocketInfoUpdate)
      (false, inven.mItemDataGatewayList, none)
    (s.1, { inven with mItemDataGatewayList := s.2.1 }, s.2.2)

/-! ## Steps -/

/-- items are added without a parent; a socket update starts from any array of the right size -/
inductive ItemOp (E : Env) (w : ℕ) where
  | addItem (itemData : ItemDataGateway w) (parentless : itemData.mParentItemDBId = E.INVALID_ITEM_DB_ID)
  | deleteItem (itemDBId : ItemDBId)
  | socketUpdate (socketId : ℕ) (itemDBIdParent itemDBIdChild : ItemDBId) (childItemDBIdArray : List ItemDBId)
      (size : childItemDBIdArray.length = E.MAX_SOCKET_COUNT)

/-- validation and update -/
def socketUpdate (inven : Inventory w) (socketId : ℕ) (itemDBIdParent itemDBIdChild : ItemDBId)
    (childItemDBIdArray : List ItemDBId) : Inventory w :=
  match validateItemSocketUpdate E MIN_SOCKET_ID inven socketId itemDBIdParent itemDBIdChild childItemDBIdArray with
  | .error _ => inven
  | .ok itemSocketInfoUpdate => (updateItemSocketInfo E inven itemDBIdChild itemSocketInfoUpdate).2.1

def itemStep (inven : Inventory w) : ItemOp E w → Inventory w
  | .addItem itemData _ => (addItem inven itemData).2
  | .deleteItem itemDBId => (deleteItem inven itemDBId).2
  | .socketUpdate socketId itemDBIdParent itemDBIdChild childItemDBIdArray _ =>
    socketUpdate E MIN_SOCKET_ID inven socketId itemDBIdParent itemDBIdChild childItemDBIdArray

/-! ## Parents -/

/-- `mParentItemDBId` of an item of the inventory -/
def parentOf (items : List (ItemDataGateway w)) (itemDBId : ItemDBId) : Option ItemDBId :=
  (getItemData items itemDBId).map (·.mParentItemDBId)

/-- from every item the parents lead to `INVALID_ITEM_DB_ID` through items of the inventory -/
def SocketForest (items : List (ItemDataGateway w)) : Prop := Forest (parentOf items) E.INVALID_ITEM_DB_ID

/-- the ids are distinct, and they are the ones of the set -/
structure Ids (inven : Inventory w) : Prop where
  nodup : (inven.mItemDataGatewayList.map (·.mItemDBId)).Nodup
  mem_set : ∀ itemDBId, itemDBId ∈ inven.mItemDBIdSet ↔ itemDBId ∈ inven.mItemDataGatewayList.map (·.mItemDBId)

variable {E MIN_SOCKET_ID} {inven : Inventory w}

theorem parentOf_eq_none {items : List (ItemDataGateway w)} {a : ItemDBId} :
    parentOf items a = none ↔ a ∉ items.map (·.mItemDBId) := by
  rw [parentOf, Option.map_eq_none_iff]
  exact Keyed.find_eq_none

theorem exists_item {items : List (ItemDataGateway w)} {a : ItemDBId} (h : a ∈ items.map (·.mItemDBId)) :
    ∃ item, getItemData items a = some item :=
  Option.ne_none_iff_exists'.1 fun hnone => Keyed.find_eq_none.1 hnone h

theorem exists_item_of_parentOf {items : List (ItemDataGateway w)} {a : ItemDBId} (h : (parentOf items a).isSome) :
    ∃ item, getItemData items a = some item := by
  rw [parentOf, Option.isSome_map] at h
  exact Option.isSome_iff_exists.1 h

theorem parentOf_some {items : List (ItemDataGateway w)} {a p : ItemDBId} (h : parentOf items a = some p) :
    ∃ item ∈ items, item.mItemDBId = a ∧ item.mParentItemDBId = p := by
  obtain ⟨item, hfind, hp⟩ := Option.map_eq_some_iff.1 h
  obtain ⟨hmem, hid⟩ := Keyed.find_some hfind
  exact ⟨item, hmem, hid, hp⟩

theorem parentOf_mem {items : List (ItemDataGateway w)} (hnd : (items.map (·.mItemDBId)).Nodup)
    {item : ItemDataGateway w} (hmem : item ∈ items) : parentOf items item.mItemDBId = some item.mParentItemDBId := by
  have hfind : getItemData items item.mItemDBId = some item := (Keyed.find_eq_some hnd).2 ⟨hmem, rfl⟩
  rw [parentOf, hfind]
  rfl

theorem parentOf_append (items : List (ItemDataGateway w)) (itemData : ItemDataGateway w)
    (hfresh : itemData.mItemDBId ∉ items.map (·.mItemDBId)) (a : ItemDBId) :
    parentOf (items ++ [itemData]) a =
      if a = itemData.mItemDBId then some itemData.mParentItemDBId else parentOf items a := by
  have hnone := Keyed.find_eq_none.2 hfresh
  rw [parentOf, getItemData, Keyed.find_append_singleton]
  split_ifs with h1 h2 h2
  · rw [← h1, hnone]
    rfl
  · exact absurd h1.symm h2
  · exact absurd h2.symm h1
  · rw [Option.or_none]
    rfl

theorem parentOf_filter (items : List (ItemDataGateway w)) (d a : ItemDBId) :
    parentOf (items.filter fun item => item.mItemDBId ≠ d) a = if a = d then none else parentOf items a := by
  have hfind : getItemData (items.filter fun item => item.mItemDBId ≠ d) a =
      if a = d then none else getItemData items a := Keyed.find_filter_ne items d a
  rw [parentOf, hfind]
  split_ifs <;> rfl

theorem putInSocket_id (p : ItemDBId) (socketId : ℕ) (item : ItemDataGateway w) :
    (putInSocket p socketId item).mItemDBId = item.mItemDBId := rfl

theorem parentOf_setItemData {items : List (ItemDataGateway w)} {child : ItemDBId} (hchild : (parentOf items child).isSome)
    (p : ItemDBId) (socketId : ℕ) (a : ItemDBId) :
    parentOf (setItemData items child (putInSocket p socketId)) a = if a = child then some p else parentOf items a := by
  have hfind : getItemData (setItemData items child (putInSocket p socketId)) a =
      if a = child then (getItemData items child).map (putInSocket p socketId) else getItemData items a :=
    Keyed.find_modify (putInSocket_id p socketId) child a
  rw [parentOf, hfind]
  split_ifs with ha
  · obtain ⟨item, hitem⟩ := exists_item_of_parentOf hchild
    rw [hitem]
    rfl
  · rfl

theorem ids_setItemData (items : List (ItemDataGateway w)) (child p : ItemDBId) (socketId : ℕ) :
    (setItemData items child (putInSocket p socketId)).map (·.mItemDBId) = items.map (·.mItemDBId) :=
  Keyed.map_modify ItemDataGateway.mItemDBId (putInSocket_id p socketId) child items

/-! ## What a socket update does -/

theorem setChild_ok {socketId : ℕ} {itemDBId : ItemDBId} {arr arr' : List ItemDBId}
    (h : setChild MIN_SOCKET_ID socketId itemDBId arr = .ok arr') :
    arr'.length = arr.length ∧ ∃ i < arr'.length, arr'[i]? = some itemDBId := by
  unfold setChild at h
  split_ifs at h with hin
  obtain rfl := Except.ok.inj h
  have hlt : socketId - MIN_SOCKET_ID < (arr.set (socketId - MIN_SOCKET_ID) itemDBId).length := by
    rw [List.length_set]
    exact hin.2
  refine ⟨List.length_set, socketId - MIN_SOCKET_ID, hlt, ?_⟩
  rw [List.getElem?_set_self hin.2]

theorem collectChildren_length {socketId : ℕ} {p : ItemDBId} {items : List (ItemDataGateway w)}
    {arr arr' : List ItemDBId} (h : collectChildren MIN_SOCKET_ID socketId p items arr = .ok arr') :
    arr'.length = arr.length := by
  induction items generalizing arr with
  | nil =>
    obtain rfl := Except.ok.inj h
    rfl
  | cons item items ih =>
    unfold collectChildren at h
    split_ifs at h
    · exact ih h
    · cases hset : setChild MIN_SOCKET_ID item.mSocketId item.mItemDBId arr with
      | error e =>
        rw [hset] at h
        cases h
      | ok arr₁ =>
        rw [hset] at h
        rw [ih h, (setChild_ok hset).1]

/-- an accepted update: parent and child exist, the child has no parent, and the array names the child -/
structure SocketAccepted (E : Env) (inven : Inventory w) (p child : ItemDBId) (info : ItemSocketInfo) : Prop where
  parent_exists : (parentOf inven.mItemDataGatewayList p).isSome
  unparented : parentOf inven.mItemDataGatewayList child = some E.INVALID_ITEM_DB_ID
  parent : info.mParentItemDBId = p
  named : ∃ i < info.mChildItemDBIdArray.length, info.mChildItemDBIdArray[i]? = some child

/-- an accepted request has passed all of the validation -/
theorem validateItemSocketUpdate_inv {socketId : ℕ} {p child : ItemDBId} {arr : List ItemDBId} {info : ItemSocketInfo}
    (h : validateItemSocketUpdate E MIN_SOCKET_ID inven socketId p child arr = .ok info) :
    (parentOf inven.mItemDataGatewayList p).isSome ∧
      parentOf inven.mItemDataGatewayList child = some E.INVALID_ITEM_DB_ID ∧ info.mParentItemDBId = p ∧
      ∃ collected, collectChildren MIN_SOCKET_ID socketId p inven.mItemDataGatewayList arr = .ok collected ∧
        setChild MIN_SOCKET_ID socketId child collected = .ok info.mChildItemDBIdArray := by
  unfold validateItemSocketUpdate at h
  split at h
  · cases h
  rename_i parentItemData hp
  split at h
  · cases h
  rename_i childItemData hc
  split_ifs at h with hparent
  split at h
  · cases h
  rename_i collected hcollect
  split at h
  · cases h
  rename_i arr' hset
  obtain rfl := Except.ok.inj h
  refine ⟨?_, ?_, rfl, collected, hcollect, hset⟩
  · rw [parentOf, hp]
    rfl
  · rw [parentOf, hc, Option.map_some, not_not.1 hparent]

theorem validateItemSocketUpdate_ok {socketId : ℕ} {p child : ItemDBId} {arr : List ItemDBId} {info : ItemSocketInfo}
    (h : validateItemSocketUpdate E MIN_SOCKET_ID inven socketId p child arr = .ok info) :
    SocketAccepted E inven p child info ∧ info.mChildItemDBIdArray.length = arr.length := by
  obtain ⟨hp, hc, hparent, collected, hcollect, hset⟩ := validateItemSocketUpdate_inv h
  obtain ⟨hlen, hnamed⟩ := setChild_ok hset
  exact ⟨⟨hp, hc, hparent, hnamed⟩, hlen.trans (collectChildren_length hcollect)⟩

/-- only an entry of the child changes something -/
theorem updateSocket_eq {info : ItemSocketInfo} {child : ItemDBId} {s : SocketState w}
    (hchild : (parentOf s.2.1 child).isSome) (i : ℕ) :
    updateSocket E child info s i =
      if info.mChildItemDBIdArray.getD i E.INVALID_ITEM_DB_ID = child then
        (true, setItemData s.2.1 child (putInSocket info.mParentItemDBId i), some (info.mParentItemDBId, i))
      else s := by
  obtain ⟨item, hitem⟩ := exists_item_of_parentOf hchild
  unfold updateSocket
  by_cases hi : info.mChildItemDBIdArray.getD i E.INVALID_ITEM_DB_ID = child
  · simp only [hi, hitem, if_true]
  · simp only [if_neg hi]
    split <;> rfl

theorem updateSocket_child {info : ItemSocketInfo} {child : ItemDBId} {s : SocketState w}
    (hchild : (parentOf s.2.1 child).isSome) (i : ℕ) : (parentOf (updateSocket E child info s i).2.1 child).isSome := by
  rw [updateSocket_eq hchild]
  split_ifs
  · rw [parentOf_setItemData hchild, if_pos rfl]
    rfl
  · exact hchild

/-- the loop hangs the child below the parent, if a socket names it -/
theorem foldl_updateSocket {info : ItemSocketInfo} {child : ItemDBId} (socketIds : List ℕ) {s : SocketState w}
    (hchild : (parentOf s.2.1 child).isSome) :
    (socketIds.foldl (updateSocket E child info) s).2.1.map (·.mItemDBId) = s.2.1.map (·.mItemDBId) ∧
      (∀ a, a ≠ child → parentOf (socketIds.foldl (updateSocket E child info) s).2.1 a = parentOf s.2.1 a) ∧
      (parentOf (socketIds.foldl (updateSocket E child info) s).2.1 child = some info.mParentItemDBId ∨
        parentOf (socketIds.foldl (updateSocket E child info) s).2.1 child = parentOf s.2.1 child ∧
          ∀ i ∈ socketIds, info.mChildItemDBIdArray.getD i E.INVALID_ITEM_DB_ID ≠ child) := by
  induction socketIds generalizing s with
  | nil => simp
  | cons i socketIds ih =>
    rw [List.foldl_cons]
    by_cases hi : info.mChildItemDBIdArray.getD i E.INVALID_ITEM_DB_ID = child
    · have hstep : (updateSocket E child info s i).2.1 = setItemData s.2.1 child (putInSocket info.mParentItemDBId i) := by
        rw [updateSocket_eq hchild, if_pos hi]
      have hparents := parentOf_setItemData hchild info.mParentItemDBId i
      have hset : parentOf (updateSocket E child info s i).2.1 child = some info.mParentItemDBId := by
        rw [hstep, hparents, if_pos rfl]
      obtain ⟨hids, hother, hnew⟩ := ih (updateSocket_child hchild i)
      refine ⟨?_, ?_, ?_⟩
      · rw [hids, hstep]
        exact ids_setItemData s.2.1 child _ i
      · intro a ha
        rw [hother a ha, hstep, hparents, if_neg ha]
      · exact Or.inl (hnew.elim id fun hold => hold.1.trans hset)
    · have hstep : updateSocket E child info s i = s := by rw [updateSocket_eq hchild, if_neg hi]
      rw [hstep]
      obtain ⟨hids, hother, hnew⟩ := ih hchild
      refine ⟨hids, hother, hnew.imp_right ?_⟩
      intro ⟨hsame, hnot⟩
      refine ⟨hsame, ?_⟩
      intro j hj
      rcases List.mem_cons.1 hj with rfl | hmem
      · exact hi
      · exact hnot j hmem

/-- **An accepted socket update hangs the child below the parent**, and changes no other parent. -/
theorem updateItemSocketInfo_accepted {p child : ItemDBId} {info : ItemSocketInfo}
    (h : SocketAccepted E inven p child info) (hsize : info.mChildItemDBIdArray.length = E.MAX_SOCKET_COUNT) :
    (updateItemSocketInfo E inven child info).2.1.mItemDBIdSet = inven.mItemDBIdSet ∧
      (updateItemSocketInfo E inven child info).2.1.mItemDataGatewayList.map (·.mItemDBId) =
        inven.mItemDataGatewayList.map (·.mItemDBId) ∧
      ∀ a, parentOf (updateItemSocketInfo E inven child info).2.1.mItemDataGatewayList a =
        if a = child then some p else parentOf inven.mItemDataGatewayList a := by
  obtain ⟨item, hitem⟩ := exists_item_of_parentOf h.parent_exists
  have hchild : (parentOf inven.mItemDataGatewayList child).isSome := by rw [h.unparented]; rfl
  have hloop := @foldl_updateSocket w E info child (List.range E.MAX_SOCKET_COUNT)
    (false, inven.mItemDataGatewayList, none) hchild
  obtain ⟨hids, hother, hnew⟩ := hloop
  obtain ⟨i, hi, hnamed⟩ := h.named
  unfold updateItemSocketInfo
  rw [h.parent, hitem]
  refine ⟨rfl, hids, ?_⟩
  intro a
  split_ifs with ha
  · subst ha
    rcases hnew with hset | ⟨-, hnot⟩
    · rw [← h.parent]
      exact hset
    · refine absurd ?_ (hnot i (List.mem_range.2 (hsize ▸ hi)))
      rw [List.getD_eq_getElem?_getD, hnamed]
      rfl
  · exact hother a ha

/-! ## Steps and the forest -/

variable (E MIN_SOCKET_ID) in
/-- an accepted update does not hang an item below itself or a descendant, and no parent is deleted -/
def Sound (inven : Inventory w) : ItemOp E w → Prop
  | .addItem _ _ => True
  | .deleteItem itemDBId =>
    itemDBId = E.INVALID_ITEM_DB_ID ∨ ∀ item ∈ inven.mItemDataGatewayList, item.mParentItemDBId ≠ itemDBId
  | .socketUpdate socketId itemDBIdParent itemDBIdChild childItemDBIdArray _ =>
    ∀ info,
      validateItemSocketUpdate E MIN_SOCKET_ID inven socketId itemDBIdParent itemDBIdChild childItemDBIdArray = .ok info →
        ¬ OnPath (parentOf inven.mItemDataGatewayList) E.INVALID_ITEM_DB_ID itemDBIdParent itemDBIdChild

theorem addItem_ids (h : Ids inven) (itemData : ItemDataGateway w) : Ids (addItem inven itemData).2 := by
  unfold addItem
  split_ifs with hmem
  · exact h
  · rw [h.mem_set] at hmem
    refine ⟨?_, ?_⟩
    · rw [List.map_append, List.map_singleton, List.nodup_append]
      refine ⟨h.nodup, List.nodup_singleton _, ?_⟩
      intro a ha b hb heq
      rw [List.mem_singleton.1 hb] at heq
      exact hmem (heq ▸ ha)
    · intro itemDBId
      simp [h.mem_set, or_comm, eq_comm]

theorem deleteItem_ids (h : Ids inven) (itemDBId : ItemDBId) : Ids (deleteItem inven itemDBId).2 := by
  unfold deleteItem
  split_ifs
  · refine ⟨h.nodup.sublist (List.filter_sublist.map _), ?_⟩
    intro a
    rw [Finset.mem_erase, h.mem_set]
    simp only [List.mem_map, List.mem_filter, decide_eq_true_eq]
    constructor
    · intro ⟨hne, item, hmem, hid⟩
      exact ⟨item, ⟨hmem, fun heq => hne (hid.symm.trans heq)⟩, hid⟩
    · intro ⟨item, ⟨hmem, hne⟩, hid⟩
      exact ⟨fun heq => hne (hid.trans heq), item, hmem, hid⟩
  · exact h

/-- the same ids in list and set -/
theorem Ids.of_eq (h : Ids inven) {inven' : Inventory w}
    (hids : inven'.mItemDataGatewayList.map (·.mItemDBId) = inven.mItemDataGatewayList.map (·.mItemDBId))
    (hset : inven'.mItemDBIdSet = inven.mItemDBIdSet) : Ids inven' := by
  refine ⟨?_, ?_⟩
  · rw [hids]
    exact h.nodup
  · intro itemDBId
    rw [hset, hids]
    exact h.mem_set itemDBId

theorem socketUpdate_ids (h : Ids inven) {socketId : ℕ} {p child : ItemDBId} {arr : List ItemDBId}
    (hsize : arr.length = E.MAX_SOCKET_COUNT) : Ids (socketUpdate E MIN_SOCKET_ID inven socketId p child arr) := by
  unfold socketUpdate
  cases hv : validateItemSocketUpdate E MIN_SOCKET_ID inven socketId p child arr with
  | error e => exact h
  | ok info =>
    obtain ⟨hacc, hlen⟩ := validateItemSocketUpdate_ok hv
    obtain ⟨hset, hids, -⟩ := updateItemSocketInfo_accepted hacc (hlen.trans hsize)
    exact h.of_eq hids hset

theorem itemStep_ids (inven : Inventory w) (op : ItemOp E w) (h : Ids inven) : Ids (itemStep E MIN_SOCKET_ID inven op) := by
  cases op with
  | addItem itemData _ => exact addItem_ids h itemData
  | deleteItem itemDBId => exact deleteItem_ids h itemDBId
  | socketUpdate socketId p child arr hsize => exact socketUpdate_ids h hsize

theorem addItem_forest (hids : Ids inven) (h : SocketForest E inven.mItemDataGatewayList) {itemData : ItemDataGateway w}
    (hparentless : itemData.mParentItemDBId = E.INVALID_ITEM_DB_ID) :
    SocketForest E (addItem inven itemData).2.mItemDataGatewayList := by
  unfold addItem
  split_ifs with hmem
  · exact h
  · rw [hids.mem_set] at hmem
    refine Forest.add h (parentOf_eq_none.2 hmem) ?_
    intro a
    rw [parentOf_append _ _ hmem, hparentless]

/-- deleting an item keeps the forest exactly if no item has it as parent -/
theorem deleteItem_forest_iff (hids : Ids inven) (h : SocketForest E inven.mItemDataGatewayList) (itemDBId : ItemDBId) :
    SocketForest E (deleteItem inven itemDBId).2.mItemDataGatewayList ↔
      itemDBId = E.INVALID_ITEM_DB_ID ∨ ∀ item ∈ inven.mItemDataGatewayList, item.mParentItemDBId ≠ itemDBId := by
  have hparent : (∀ a, parentOf inven.mItemDataGatewayList a ≠ some itemDBId) ↔
      ∀ item ∈ inven.mItemDataGatewayList, item.mParentItemDBId ≠ itemDBId := by
    constructor
    · intro hall item hmem heq
      exact hall item.mItemDBId (heq ▸ parentOf_mem hids.nodup hmem)
    · intro hall a ha
      obtain ⟨item, hmem, -, hp⟩ := parentOf_some ha
      exact hall item hmem hp
  rw [← hparent]
  unfold deleteItem
  split_ifs with hmem
  · exact Forest.remove_iff h (parentOf_filter inven.mItemDataGatewayList itemDBId)
  · -- nothing is deleted, and a missing item is nobody's parent
    refine iff_of_true h ?_
    rw [hids.mem_set, ← parentOf_eq_none] at hmem
    by_cases hroot : itemDBId = E.INVALID_ITEM_DB_ID
    · exact Or.inl hroot
    · refine Or.inr fun a ha => ?_
      rcases Forest.parent_exists h ha with heq | hsome
      · exact hroot heq
      · rw [hmem] at hsome
        cases hsome

/-- a socket update keeps the forest exactly if the child is not on the path from the parent -/
theorem socketUpdate_forest_iff (h : SocketForest E inven.mItemDataGatewayList) {socketId : ℕ} {p child : ItemDBId}
    {arr : List ItemDBId} (hsize : arr.length = E.MAX_SOCKET_COUNT) :
    SocketForest E (socketUpdate E MIN_SOCKET_ID inven socketId p child arr).mItemDataGatewayList ↔
      Sound E MIN_SOCKET_ID inven (.socketUpdate socketId p child arr hsize) := by
  unfold socketUpdate Sound
  cases hv : validateItemSocketUpdate E MIN_SOCKET_ID inven socketId p child arr with
  | error e =>
    refine iff_of_true h ?_
    intro info hok
    rw [hv] at hok
    cases hok
  | ok info =>
    obtain ⟨hacc, hlen⟩ := validateItemSocketUpdate_ok hv
    obtain ⟨-, -, hparents⟩ := updateItemSocketInfo_accepted hacc (hlen.trans hsize)
    have hground := Forest.grounded h hacc.parent_exists
    refine (Forest.attach_iff h hground hparents).trans ?_
    constructor
    · intro hpath info' _
      exact hpath
    · intro hall
      exact hall info hv

/-- step lemma -/
theorem itemStep_forest_iff (inven : Inventory w) (op : ItemOp E w) (hids : Ids inven)
    (h : SocketForest E inven.mItemDataGatewayList) :
    SocketForest E (itemStep E MIN_SOCKET_ID inven op).mItemDataGatewayList ↔ Sound E MIN_SOCKET_ID inven op := by
  cases op with
  | addItem itemData hparentless => exact iff_of_true (addItem_forest hids h hparentless) trivial
  | deleteItem itemDBId => exact deleteItem_forest_iff hids h itemDBId
  | socketUpdate socketId p child arr hsize => exact socketUpdate_forest_iff h hsize

/-! ## The loader -/

variable (E) in
/-- a stored socket info names `child` in a socket of `parent` -/
def Linked (itemSocketInfoList : List ItemSocketInfo) (child parent : ItemDBId) : Prop :=
  ∃ info ∈ itemSocketInfoList, info.mParentItemDBId = parent ∧
    ∃ socketId < E.MAX_SOCKET_COUNT, info.mChildItemDBIdArray.getD socketId E.INVALID_ITEM_DB_ID = child

/-- each item is unparented or linked to an existing item -/
structure LoadedParents (E : Env) (infos : List ItemSocketInfo) (ids : List ItemDBId) (items : List (ItemDataGateway w)) :
    Prop where
  same_ids : items.map (·.mItemDBId) = ids
  parent : ∀ item ∈ items, item.mParentItemDBId = E.INVALID_ITEM_DB_ID ∨
    Linked E infos item.mItemDBId item.mParentItemDBId ∧ item.mParentItemDBId ∈ ids

variable {infos : List ItemSocketInfo} {ids : List ItemDBId} {items : List (ItemDataGateway w)}

/-- a write of some items that keeps the ids and leaves each item unparented or linked -/
theorem LoadedParents.modify (h : LoadedParents E infos ids items) {f : ItemDataGateway w → ItemDataGateway w}
    (hid : ∀ item, (f item).mItemDBId = item.mItemDBId) {child : ItemDBId}
    (hf : ∀ item ∈ items, item.mItemDBId = child → (f item).mParentItemDBId = item.mParentItemDBId ∨
      Linked E infos child (f item).mParentItemDBId ∧ (f item).mParentItemDBId ∈ ids) :
    LoadedParents E infos ids (setItemData items child f) := by
  refine ⟨(Keyed.map_modify ItemDataGateway.mItemDBId hid child items).trans h.same_ids, ?_⟩
  intro item hitem
  rcases Keyed.mem_modify hitem with hold | ⟨item₀, hmem, hchild, rfl⟩
  · exact h.parent item hold
  · rw [hid]
    rcases hf item₀ hmem hchild with hsame | hlinked
    · rw [hsame]
      exact h.parent item₀ hmem
    · rw [hchild]
      exact Or.inr hlinked

theorem LoadedParents.cachePreset (h : LoadedParents E infos ids items) (info : ItemPresetInfo) :
    LoadedParents E infos ids (cachePreset E items info) := by
  unfold GameServer.Items.cachePreset
  induction info.mEquipItemDBIdList generalizing items with
  | nil => exact h
  | cons itemDBId rest ih =>
    rw [List.foldl_cons]
    apply ih
    split_ifs
    · exact h
    · refine h.modify ?_ ?_
      · intro item
        rfl
      · intro item _ _
        exact Or.inl rfl

theorem LoadedParents.cacheSocket (h : LoadedParents E infos ids items) {info : ItemSocketInfo} (hinfo : info ∈ infos) :
    LoadedParents E infos ids (cacheSocket E items info) := by
  unfold GameServer.Items.cacheSocket
  cases hparent : getItemData items info.mParentItemDBId with
  | none => exact h
  | some parentItemData =>
    obtain ⟨hmem, hid⟩ := Keyed.find_some hparent
    have hin : info.mParentItemDBId ∈ ids := by
      rw [← h.same_ids, ← hid]
      exact List.mem_map_of_mem hmem
    have hloop : ∀ socketIds : List ℕ, (∀ socketId ∈ socketIds, socketId < E.MAX_SOCKET_COUNT) →
        ∀ {items : List (ItemDataGateway w)}, LoadedParents E infos ids items →
          LoadedParents E infos ids (socketIds.foldl (fun items socketId =>
            if info.mChildItemDBIdArray.getD socketId E.INVALID_ITEM_DB_ID = E.INVALID_ITEM_DB_ID then items
            else setItemData items (info.mChildItemDBIdArray.getD socketId E.INVALID_ITEM_DB_ID)
              (putInSocket info.mParentItemDBId socketId)) items) := by
      intro socketIds
      induction socketIds with
      | nil => exact fun _ _ h => h
      | cons socketId socketIds ih =>
        intro hlt items h
        rw [List.foldl_cons]
        apply ih fun i hi => hlt i (List.mem_cons_of_mem socketId hi)
        split_ifs
        · exact h
        · refine h.modify (putInSocket_id info.mParentItemDBId socketId) fun item _ _ => Or.inr ⟨?_, hin⟩
          exact ⟨info, hinfo, rfl, socketId, hlt socketId List.mem_cons_self, rfl⟩
    exact hloop (List.range E.MAX_SOCKET_COUNT) (fun i hi => List.mem_range.1 hi) h

/-- what one step of a loop keeps, the loop keeps -/
theorem LoadedParents.foldl {β : Type*} {f : List (ItemDataGateway w) → β → List (ItemDataGateway w)} (l : List β)
    (hf : ∀ b ∈ l, ∀ items, LoadedParents E infos ids items → LoadedParents E infos ids (f items b))
    (h : LoadedParents E infos ids items) : LoadedParents E infos ids (l.foldl f items) := by
  induction l generalizing items with
  | nil => exact h
  | cons b l ih =>
    exact ih (fun b' hb' => hf b' (List.mem_cons_of_mem b hb')) (hf b List.mem_cons_self items h)

/-- the set is filled before the list is changed -/
theorem loaded_ids {presets : List ItemPresetInfo} (hnd : (items.map (·.mItemDBId)).Nodup)
    (hsame : (cacheItemDataList E items presets infos).mItemDataGatewayList.map (·.mItemDBId) =
      items.map (·.mItemDBId)) : Ids (cacheItemDataList E items presets infos) := by
  refine ⟨?_, ?_⟩
  · rw [hsame]
    exact hnd
  · intro itemDBId
    rw [hsame]
    exact List.mem_toFinset

/-- **The loader builds a forest** from socket infos without cycles. -/
theorem cacheItemDataList_forest (presets : List ItemPresetInfo) (infos : List ItemSocketInfo)
    (hparentless : ∀ item ∈ items, item.mParentItemDBId = E.INVALID_ITEM_DB_ID)
    (hacyclic : WellFounded fun parent child => Linked E infos child parent) :
    SocketForest E (cacheItemDataList E items presets infos).mItemDataGatewayList ∧
      (cacheItemDataList E items presets infos).mItemDataGatewayList.map (·.mItemDBId) = items.map (·.mItemDBId) := by
  have hraw : LoadedParents E infos (items.map (·.mItemDBId)) items :=
    ⟨rfl, fun item hmem => Or.inl (hparentless item hmem)⟩
  have hpresets := hraw.foldl presets fun info _ _ h => h.cachePreset info
  have hsockets : LoadedParents E infos (items.map (·.mItemDBId))
      (cacheItemDataList E items presets infos).mItemDataGatewayList :=
    hpresets.foldl infos fun info hinfo _ h => h.cacheSocket hinfo
  refine ⟨Forest.of_wf hacyclic ?_, hsockets.same_ids⟩
  intro a b hb
  obtain ⟨item, hmem, rfl, rfl⟩ := parentOf_some hb
  refine (hsockets.parent item hmem).imp_right fun hlinked => ⟨hlinked.1, ?_⟩
  rw [Option.isSome_iff_ne_none, Ne, parentOf_eq_none, not_not, hsockets.same_ids]
  exact hlinked.2

end

/-! ## Every run -/

/-- **The items stay a forest exactly in the runs that hang no item below itself or a descendant and delete no parent.** -/
theorem socket_forest_iff {w : ℕ} (E : Env) (MIN_SOCKET_ID : ℕ) (items : List (ItemDataGateway w))
    (presets : List ItemPresetInfo) (infos : List ItemSocketInfo) (hids : (items.map (·.mItemDBId)).Nodup)
    (hparentless : ∀ item ∈ items, item.mParentItemDBId = E.INVALID_ITEM_DB_ID)
    (hacyclic : WellFounded fun parent child => Linked E infos child parent) (ops : List (ItemOp E w)) :
    (∀ n, SocketForest E
        (run (itemStep E MIN_SOCKET_ID) (cacheItemDataList E items presets infos) (ops.take n)).mItemDataGatewayList) ↔
      LegalRun (itemStep E MIN_SOCKET_ID) (Sound E MIN_SOCKET_ID) (cacheItemDataList E items presets infos) ops := by
  obtain ⟨hforest, hsame⟩ := cacheItemDataList_forest presets infos hparentless hacyclic
  have hloaded := loaded_ids hids hsame
  have hall : ∀ n, Ids (run (itemStep E MIN_SOCKET_ID) (cacheItemDataList E items presets infos) (ops.take n)) :=
    fun n => run_inv_all itemStep_ids hloaded (ops.take n)
  have hstep : ∀ (inven : Inventory w) (op : ItemOp E w), (Ids inven ∧ SocketForest E inven.mItemDataGatewayList) →
      ((Ids (itemStep E MIN_SOCKET_ID inven op) ∧
        SocketForest E (itemStep E MIN_SOCKET_ID inven op).mItemDataGatewayList) ↔ Sound E MIN_SOCKET_ID inven op) := by
    intro inven op ⟨hi, hf⟩
    rw [and_iff_right (itemStep_ids inven op hi)]
    exact itemStep_forest_iff inven op hi hf
  rw [← run_inv_iff hstep ⟨hloaded, hforest⟩ ops]
  constructor
  · intro h n
    exact ⟨hall n, h n⟩
  · intro h n
    exact (h n).2

/-! ## Runs on a small inventory -/

/-- ids above 0, two sockets an item, numbered from 0 -/
def socketEnv : Env where
  INVALID_ITEM_DB_ID := 0
  MIN_PRESET_ID := 1
  MAX_EQUIP_MIN := 0
  MAX_EQUIP_MAX := 1
  MAX_SOCKET_COUNT := 2
  equip_max_lt := by decide
  find _ := none

def socketItem (itemDBId : ItemDBId) : ItemDataGateway 1 := ⟨itemDBId, 0, 0, 1, false, 1, 1, 0, 0, 0, 0⟩

/-- 2 is in a socket of 1 -/
def storedSockets : List ItemSocketInfo := [⟨1, [2, 0]⟩]

theorem storedSockets_acyclic : WellFounded fun parent child => Linked socketEnv storedSockets child parent := by
  have hrank : ∀ child parent, Linked socketEnv storedSockets child parent →
      (if parent = 1 then 0 else 1) < if child = 1 then 0 else 1 := by
    intro child parent ⟨info, hinfo, hparent, socketId, hlt, hchild⟩
    have hlt : socketId < 2 := hlt
    rw [List.mem_singleton.1 hinfo] at hparent hchild
    rw [← hparent, ← hchild]
    interval_cases socketId <;> decide
  exact Subrelation.wf (fun h => hrank _ _ h) (measure fun a : ItemDBId => if a = 1 then 0 else 1).wf

def smallInventory : Inventory 1 := cacheItemDataList socketEnv ([1, 2, 3].map socketItem) [] storedSockets

/-- 3 is put into 2 and deleted, 4 is added and put into 2 -/
def deepOps : List (ItemOp socketEnv 1) :=
  [.socketUpdate 0 2 3 [0, 0] rfl, .deleteItem 3, .addItem (socketItem 4) rfl, .socketUpdate 1 2 4 [0, 0] rfl]

/-- a path that goes up from 2 over 1 -/
theorem path_from_two {node : ItemDBId → Option ItemDBId} {c : ItemDBId} (h2 : node 2 = some 1) (h1 : node 1 = some 0)
    (h : OnPath node 0 2 c) : c = 2 ∨ c = 1 := by
  by_cases hc : c = 2
  · exact Or.inl hc
  · have hfrom1 := h.parent (Ne.symm hc) h2
    by_cases hc1 : c = 1
    · exact Or.inr hc1
    · exact absurd rfl (hfrom1.parent (Ne.symm hc1) h1).ne_root

theorem socket_forest_deep :
    SocketForest socketEnv (run (itemStep socketEnv 0) smallInventory deepOps).mItemDataGatewayList := by
  refine (socket_forest_iff socketEnv 0 ([1, 2, 3].map socketItem) [] storedSockets (by decide) (by decide)
    storedSockets_acyclic deepOps).2 ⟨?_, ?_, trivial, ?_, trivial⟩ 4
  · intro info _ hpath
    rcases path_from_two (by decide) (by decide) hpath with h | h <;> exact absurd h (by decide)
  · exact Or.inr (by decide)
  · intro info _ hpath
    rcases path_from_two (by decide) (by decide) hpath with h | h <;> exact absurd h (by decide)

/-- 1 below 2, which is below 1 already -/
def loopOps : List (ItemOp socketEnv 1) := [.socketUpdate 0 2 1 [0, 0] rfl]

/-- 1 is deleted, with 2 in its socket -/
def orphanOps : List (ItemOp socketEnv 1) := [.deleteItem 1]

/-- **Neither the validation nor the deletion looks further than one item**: a loop of two items, and a parent that is gone -/
theorem socket_forest_lost :
    ¬ SocketForest socketEnv (run (itemStep socketEnv 0) smallInventory loopOps).mItemDataGatewayList ∧
      ¬ SocketForest socketEnv (run (itemStep socketEnv 0) smallInventory orphanOps).mItemDataGatewayList := by
  refine ⟨fun h => ?_, fun h => ?_⟩
  · have h12 : parentOf (run (itemStep socketEnv 0) smallInventory loopOps).mItemDataGatewayList 1 = some 2 := by decide
    have h21 : parentOf (run (itemStep socketEnv 0) smallInventory loopOps).mItemDataGatewayList 2 = some 1 := by decide
    exact Forest.not_ancestor h h12 (OnPath.up (by decide) h21 (OnPath.here (by decide)))
  · have h21 : parentOf (run (itemStep socketEnv 0) smallInventory orphanOps).mItemDataGatewayList 2 = some 1 := by decide
    rcases Forest.parent_exists h h21 with hroot | hsome
    · exact absurd hroot (by decide)
    · exact absurd hsome (by decide)

end GameServer.Items
