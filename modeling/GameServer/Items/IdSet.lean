/-
The two containers of the inventory, `C++/Inventory.cpp`: `mItemDataGatewayList` holds the items, `mItemDBIdSet` their ids.

Additions and deletions decide by the set and write both; lookups and updates walk the list alone. Batches go on after a
failure. In every run the set is the set of the list's ids, which are distinct, and every operation does to the list what
its name says (`inventory_in_sync`).
-/
import Mathlib.Tactic
import GameServer.Core.FirstOf
import GameServer.Items.Counts
import GameServer.Items.PresetBits

namespace GameServer.Items

open GameServer.Core

section

variable {w : ℕ} (E : Env)

/-! ## Model -/

/-- one round of `AddItems`: the result so far and the inventory -/
def addStep (s : Bool × Inventory w) (itemData : ItemDataGateway w) : Bool × Inventory w :=
  let added := addItem s.2 itemData
  (if added.1 = false then false else s.1, added.2)

/-- `AddItems`; a failed addition does not end the loop -/
def addItems (inven : Inventory w) (itemDataList : List (ItemDataGateway w)) : Bool × Inventory w :=
  run addStep (true, inven) itemDataList

/-- a write through the pointer of `GetItemData`, unless it is null -/
def updateItemData (inven : Inventory w) (itemDBId : ItemDBId) (f : ItemDataGateway w → ItemDataGateway w) : Inventory w :=
  match getItemData inven.mItemDataGatewayList itemDBId with
  | none => inven
  | some _ => { inven with mItemDataGatewayList := setItemData inven.mItemDataGatewayList itemDBId f }

/-- `UpdateItemLock` -/
def updateItemLock (inven : Inventory w) (itemDBId : ItemDBId) (isLocked : Bool) : Inventory w :=
  updateItemData inven itemDBId fun item => { item with mIsLocked := isLocked }

/-- `UpdateItemCount` -/
def updateItemCount (inven : Inventory w) (itemUpdate : ItemDBId × ℤ) : Inventory w :=
  updateItemData inven itemUpdate.1 fun item => { item with mStackCount := itemUpdate.2 }

/-- `UpdateItemCountList` -/
def updateItemCountList (inven : Inventory w) (itemList : List (ItemDBId × ℤ)) : Inventory w :=
  itemList.foldl updateItemCount inven

/-- `UpdateItemLevel` -/
def updateItemLevel (inven : Inventory w) (itemDBId : ItemDBId) (level grade exp : ℤ) : Inventory w :=
  updateItemData inven itemDBId fun item => { item with mLevel := level, mGrade := grade, mExp := exp }

inductive InvenOp (w : ℕ) where
  | addItem (itemData : ItemDataGateway w)
  | addItems (itemDataList : List (ItemDataGateway w))
  | deleteItem (itemDBId : ItemDBId)
  | deleteItems (itemDBIdList : List ItemDBId)
  | updateItemLock (itemDBId : ItemDBId) (isLocked : Bool)
  | updateItemCount (itemUpdate : ItemDBId × ℤ)
  | updateItemCountList (itemList : List (ItemDBId × ℤ))
  | updateItemLevel (itemDBId : ItemDBId) (level grade exp : ℤ)
  | updateItemPresetInfo (presetId : ℕ) (equipDBIdList unequipDBIdList : List ItemDBId)
  | updateItemSocketInfo (childDBIdUpdate : ItemDBId) (itemSocketInfoUpdate : ItemSocketInfo)

def invenStep (inven : Inventory w) : InvenOp w → Inventory w
  | .addItem itemData => (addItem inven itemData).2
  | .addItems itemDataList => (addItems inven itemDataList).2
  | .deleteItem itemDBId => (deleteItem inven itemDBId).2
  | .deleteItems itemDBIdList => deleteItems inven itemDBIdList
  | .updateItemLock itemDBId isLocked => updateItemLock inven itemDBId isLocked
  | .updateItemCount itemUpdate => updateItemCount inven itemUpdate
  | .updateItemCountList itemList => updateItemCountList inven itemList
  | .updateItemLevel itemDBId level grade exp => updateItemLevel inven itemDBId level grade exp
  | .updateItemPresetInfo presetId equipDBIdList unequipDBIdList =>
    (updateItemPresetInfo E inven presetId equipDBIdList unequipDBIdList).2.1
  | .updateItemSocketInfo childDBIdUpdate itemSocketInfoUpdate =>
    (updateItemSocketInfo E inven childDBIdUpdate itemSocketInfoUpdate).2.1

/-! ## What the operations should do -/

/-- the ids of the items, in list order -/
def itemIds (inven : Inventory w) : List ItemDBId := inven.mItemDataGatewayList.map (·.mItemDBId)

/-- an addition of a list: the first item of each new id is appended, and it succeeds if there is no other item -/
structure Adds (inven : Inventory w) (l : List (ItemDataGateway w)) (added : Bool × Inventory w) : Prop where
  items : added.2.mItemDataGatewayList =
    inven.mItemDataGatewayList ++ firstOf ItemDataGateway.mItemDBId (itemIds inven) l
  result : added.1 = true ↔ (l.map (·.mItemDBId)).Nodup ∧ ∀ item ∈ l, item.mItemDBId ∉ itemIds inven

/-- only items with a named id may change, and no id and no place does -/
def Touches (named : List ItemDBId) (inven inven' : Inventory w) : Prop :=
  Keyed.SameBut ItemDataGateway.mItemDBId named inven.mItemDataGatewayList inven'.mItemDataGatewayList

def OpLaw (inven : Inventory w) : InvenOp w → Prop
  | .addItem itemData => Adds inven [itemData] (addItem inven itemData)
  | .addItems itemDataList => Adds inven itemDataList (addItems inven itemDataList)
  | .deleteItem itemDBId =>
    (deleteItem inven itemDBId).2.mItemDataGatewayList =
        inven.mItemDataGatewayList.filter (fun item => item.mItemDBId ≠ itemDBId) ∧
      ((deleteItem inven itemDBId).1 = true ↔ itemDBId ∈ itemIds inven)
  | .deleteItems itemDBIdList =>
    (deleteItems inven itemDBIdList).mItemDataGatewayList =
      inven.mItemDataGatewayList.filter fun item => item.mItemDBId ∉ itemDBIdList
  | .updateItemLock itemDBId isLocked => Touches [itemDBId] inven (updateItemLock inven itemDBId isLocked)
  | .updateItemCount itemUpdate => Touches [itemUpdate.1] inven (updateItemCount inven itemUpdate)
  | .updateItemCountList itemList => Touches (itemList.map Prod.fst) inven (updateItemCountList inven itemList)
  | .updateItemLevel itemDBId level grade exp =>
    Touches [itemDBId] inven (updateItemLevel inven itemDBId level grade exp)
  | .updateItemPresetInfo presetId equipDBIdList unequipDBIdList =>
    Touches (equipDBIdList ++ unequipDBIdList) inven
      (updateItemPresetInfo E inven presetId equipDBIdList unequipDBIdList).2.1
  | .updateItemSocketInfo childDBIdUpdate itemSocketInfoUpdate =>
    Touches [childDBIdUpdate] inven (updateItemSocketInfo E inven childDBIdUpdate itemSocketInfoUpdate).2.1

variable {E} {inven : Inventory w}

/-! ## Additions -/

theorem addItem_of_mem {itemData : ItemDataGateway w} (h : itemData.mItemDBId ∈ inven.mItemDBIdSet) :
    addItem inven itemData = (false, inven) := if_pos h

theorem addItem_of_notMem {itemData : ItemDataGateway w} (h : itemData.mItemDBId ∉ inven.mItemDBIdSet) :
    (addItem inven itemData).1 = true ∧
      (addItem inven itemData).2.mItemDataGatewayList = inven.mItemDataGatewayList ++ [itemData] := by
  rw [addItem, if_neg h]
  exact ⟨rfl, rfl⟩

theorem addItems_ids (h : Ids inven) (l : List (ItemDataGateway w)) : Ids (addItems inven l).2 := by
  have hstep : ∀ (s : Bool × Inventory w) itemData, Ids s.2 → Ids (addStep s itemData).2 :=
    fun _ itemData hids => addItem_ids hids itemData
  exact run_inv_all hstep h l

/-- by induction on the list: every addition meets the items appended before it -/
theorem run_addStep (h : Ids inven) (result : Bool) (l : List (ItemDataGateway w)) :
    (run addStep (result, inven) l).2.mItemDataGatewayList =
        inven.mItemDataGatewayList ++ firstOf ItemDataGateway.mItemDBId (itemIds inven) l ∧
      ((run addStep (result, inven) l).1 = true ↔
        result = true ∧ (l.map (·.mItemDBId)).Nodup ∧ ∀ item ∈ l, item.mItemDBId ∉ itemIds inven) := by
  induction l generalizing inven result with
  | nil => simp [firstOf]
  | cons itemData l ih =>
    obtain ⟨hitems, hresult⟩ := ih (addItem_ids h itemData) (if (addItem inven itemData).1 = false then false else result)
    rw [run_cons, addStep, hitems, hresult, firstOf, List.map_cons, List.nodup_cons, List.forall_mem_cons]
    by_cases hmem : itemData.mItemDBId ∈ inven.mItemDBIdSet
    · have hold : itemData.mItemDBId ∈ itemIds inven := (h.mem_set _).1 hmem
      rw [addItem_of_mem hmem, if_pos hold]
      simp [hold]
    · have hnew : itemData.mItemDBId ∉ itemIds inven := fun hid => hmem ((h.mem_set _).2 hid)
      obtain ⟨hsuccess, hlist⟩ := addItem_of_notMem hmem
      have hids : itemIds (addItem inven itemData).2 = itemIds inven ++ [itemData.mItemDBId] := by
        rw [itemIds, hlist, List.map_append]
        rfl
      have hseen : ∀ t, t ∈ itemIds inven ++ [itemData.mItemDBId] ↔ t ∈ itemData.mItemDBId :: itemIds inven := by
        intro t
        rw [List.mem_append, List.mem_singleton, List.mem_cons, or_comm]
      have hfresh : (∀ item ∈ l, item.mItemDBId ∉ itemIds inven ++ [itemData.mItemDBId]) ↔
          itemData.mItemDBId ∉ l.map (·.mItemDBId) ∧ ∀ item ∈ l, item.mItemDBId ∉ itemIds inven := by
        constructor
        · intro hall
          refine ⟨?_, fun item hitem hold => hall item hitem (List.mem_append_left _ hold)⟩
          intro hagain
          obtain ⟨item, hitem, hid⟩ := List.mem_map.1 hagain
          exact hall item hitem (List.mem_append_right _ (List.mem_singleton.2 hid))
        · rintro ⟨honce, hall⟩ item hitem hmem
          rcases List.mem_append.1 hmem with hold | hsame
          · exact hall item hitem hold
          · exact honce (List.mem_map.2 ⟨item, hitem, List.mem_singleton.1 hsame⟩)
      rw [hids, firstOf_congr hseen, hlist, hsuccess, if_neg hnew, hfresh]
      refine ⟨List.append_assoc _ _ _, ?_⟩
      rw [if_neg (by decide)]
      tauto

theorem addItems_adds (h : Ids inven) (l : List (ItemDataGateway w)) : Adds inven l (addItems inven l) := by
  obtain ⟨hitems, hresult⟩ := run_addStep h true l
  refine ⟨hitems, hresult.trans ?_⟩
  rw [eq_self_iff_true, true_and]

theorem addItem_eq_addItems (inven : Inventory w) (itemData : ItemDataGateway w) :
    addItem inven itemData = addItems inven [itemData] := by
  rw [addItems, run_cons, run_nil, addStep]
  by_cases hmem : itemData.mItemDBId ∈ inven.mItemDBIdSet
  · rw [addItem_of_mem hmem]
    rfl
  · obtain ⟨hsuccess, -⟩ := addItem_of_notMem hmem
    exact Prod.ext (by simp [hsuccess]) rfl

theorem addItem_adds (h : Ids inven) (itemData : ItemDataGateway w) : Adds inven [itemData] (addItem inven itemData) := by
  rw [addItem_eq_addItems]
  exact addItems_adds h [itemData]

/-! ## Deletions -/

theorem deleteItem_items (h : Ids inven) (itemDBId : ItemDBId) :
    (deleteItem inven itemDBId).2.mItemDataGatewayList =
      inven.mItemDataGatewayList.filter fun item => item.mItemDBId ≠ itemDBId := by
  unfold deleteItem
  split_ifs with hmem
  · rfl
  · -- nothing has the id
    refine (List.filter_eq_self.2 ?_).symm
    intro item hitem
    have hne : item.mItemDBId ≠ itemDBId := by
      rintro rfl
      exact hmem ((h.mem_set _).2 (List.mem_map_of_mem hitem))
    exact decide_eq_true hne

theorem deleteItem_result (h : Ids inven) (itemDBId : ItemDBId) :
    (deleteItem inven itemDBId).1 = true ↔ itemDBId ∈ itemIds inven := by
  rw [itemIds, ← h.mem_set, deleteItem]
  split_ifs with hmem <;> simp [hmem]

theorem deleteItems_ids (h : Ids inven) (itemDBIdList : List ItemDBId) : Ids (deleteItems inven itemDBIdList) := by
  have hstep : ∀ (inven : Inventory w) itemDBId, Ids inven → Ids (deleteStep inven itemDBId) :=
    fun _ itemDBId hids => deleteItem_ids hids itemDBId
  exact run_inv_all hstep h itemDBIdList

theorem deleteItems_items (h : Ids inven) (itemDBIdList : List ItemDBId) :
    (deleteItems inven itemDBIdList).mItemDataGatewayList =
      inven.mItemDataGatewayList.filter fun item => item.mItemDBId ∉ itemDBIdList := by
  induction itemDBIdList generalizing inven with
  | nil => exact (List.filter_eq_self.2 fun _ _ => by simp).symm
  | cons itemDBId rest ih =>
    calc (deleteItems (deleteStep inven itemDBId) rest).mItemDataGatewayList
        = (deleteStep inven itemDBId).mItemDataGatewayList.filter fun item => item.mItemDBId ∉ rest :=
          ih (deleteItem_ids h itemDBId)
      _ = (inven.mItemDataGatewayList.filter fun item => item.mItemDBId ≠ itemDBId).filter
            fun item => item.mItemDBId ∉ rest := by rw [deleteStep, deleteItem_items h]
      _ = inven.mItemDataGatewayList.filter fun item => item.mItemDBId ∉ itemDBId :: rest := by
        rw [List.filter_filter]
        apply List.filter_congr
        intro item _
        simp [Bool.and_comm]

/-! ## Updates -/

theorem Touches.refl (named : List ItemDBId) (inven : Inventory w) : Touches named inven inven :=
  Keyed.SameBut.refl _ named _

/-- the set is not written -/
theorem Touches.ids {named : List ItemDBId} {inven' : Inventory w} (ht : Touches named inven inven')
    (hset : inven'.mItemDBIdSet = inven.mItemDBIdSet) (h : Ids inven) : Ids inven' := h.of_eq ht.keys hset

theorem sameBut_setItemData {f : ItemDataGateway w → ItemDataGateway w} (hf : ∀ item, (f item).mItemDBId = item.mItemDBId)
    (itemDBId : ItemDBId) (items : List (ItemDataGateway w)) :
    Keyed.SameBut ItemDataGateway.mItemDBId [itemDBId] items (setItemData items itemDBId f) :=
  Keyed.sameBut_modify hf itemDBId items

theorem touches_updateItemData (inven : Inventory w) (itemDBId : ItemDBId) {f : ItemDataGateway w → ItemDataGateway w}
    (hf : ∀ item, (f item).mItemDBId = item.mItemDBId) : Touches [itemDBId] inven (updateItemData inven itemDBId f) := by
  unfold updateItemData
  split
  · exact Touches.refl _ inven
  · exact sameBut_setItemData hf itemDBId _

theorem set_updateItemData (inven : Inventory w) (itemDBId : ItemDBId) (f : ItemDataGateway w → ItemDataGateway w) :
    (updateItemData inven itemDBId f).mItemDBIdSet = inven.mItemDBIdSet := by
  unfold updateItemData
  split <;> rfl

theorem updateItemData_ids (h : Ids inven) (itemDBId : ItemDBId) {f : ItemDataGateway w → ItemDataGateway w}
    (hf : ∀ item, (f item).mItemDBId = item.mItemDBId) : Ids (updateItemData inven itemDBId f) :=
  (touches_updateItemData inven itemDBId hf).ids (set_updateItemData inven itemDBId f) h

theorem touches_updateItemCountList (inven : Inventory w) (itemList : List (ItemDBId × ℤ)) :
    Touches (itemList.map Prod.fst) inven (updateItemCountList inven itemList) := by
  apply Keyed.SameBut.foldl Inventory.mItemDataGatewayList itemList
  intro itemUpdate hmem inven
  have hone : Touches [itemUpdate.1] inven (updateItemCount inven itemUpdate) :=
    touches_updateItemData inven itemUpdate.1 fun _ => rfl
  exact hone.of_mem (List.mem_map_of_mem hmem)

theorem set_updateItemCountList (inven : Inventory w) (itemList : List (ItemDBId × ℤ)) :
    (updateItemCountList inven itemList).mItemDBIdSet = inven.mItemDBIdSet := by
  induction itemList generalizing inven with
  | nil => rfl
  | cons itemUpdate rest ih => exact (ih (updateItemCount inven itemUpdate)).trans (set_updateItemData inven _ _)

/-- one loop of `UpdateItemPresetInfo` -/
theorem sameBut_updateBits (f : BitVec w → BitVec w) (ids : List ItemDBId)
    (s : List (ItemDataGateway w) × List (ItemDataGateway w)) :
    Keyed.SameBut ItemDataGateway.mItemDBId ids s.1 (updateBits f ids s).1 := by
  have hid : ∀ item : ItemDataGateway w, (mapBits f item).mItemDBId = item.mItemDBId := fun _ => rfl
  rw [updateBits_fst]
  apply Keyed.SameBut.foldl id ids
  intro itemDBId hmem items
  exact (sameBut_setItemData hid itemDBId items).of_mem hmem

theorem touches_updateItemPresetInfo (inven : Inventory w) (presetId : ℕ) (equip unequip : List ItemDBId) :
    Touches (equip ++ unequip) inven (updateItemPresetInfo E inven presetId equip unequip).2.1 := by
  have hequip := sameBut_updateBits (· ||| presetBit E w presetId) equip (inven.mItemDataGatewayList, [])
  have hunequip := sameBut_updateBits (· &&& ~~~presetBit E w presetId) unequip
    (updateBits (· ||| presetBit E w presetId) equip (inven.mItemDataGatewayList, []))
  exact (hequip.mono fun k hk => List.mem_append_left _ hk).trans (hunequip.mono fun k hk => List.mem_append_right _ hk)

/-- only an entry of the updated child is written -/
theorem sameBut_updateSocket (child : ItemDBId) (info : ItemSocketInfo) (s : SocketState w) (socketId : ℕ) :
    Keyed.SameBut ItemDataGateway.mItemDBId [child] s.2.1 (updateSocket E child info s socketId).2.1 := by
  unfold updateSocket
  dsimp only
  split
  · exact Keyed.SameBut.refl _ _ _
  · split_ifs with hchild
    · rw [hchild]
      exact sameBut_setItemData (putInSocket_id _ socketId) child _
    · exact Keyed.SameBut.refl _ _ _

theorem touches_updateItemSocketInfo (inven : Inventory w) (child : ItemDBId) (info : ItemSocketInfo) :
    Touches [child] inven (updateItemSocketInfo E inven child info).2.1 ∧
      (updateItemSocketInfo E inven child info).2.1.mItemDBIdSet = inven.mItemDBIdSet := by
  unfold updateItemSocketInfo
  split
  · exact ⟨Touches.refl _ inven, rfl⟩
  · refine ⟨?_, rfl⟩
    exact Keyed.SameBut.foldl (fun s : SocketState w => s.2.1) (List.range E.MAX_SOCKET_COUNT)
      (fun socketId _ s => sameBut_updateSocket child info s socketId) (false, inven.mItemDataGatewayList, none)

/-! ## Every run -/

/-- step lemma -/
theorem invenStep_ids (inven : Inventory w) (op : InvenOp w) (h : Ids inven) : Ids (invenStep E inven op) := by
  cases op with
  | addItem itemData => exact addItem_ids h itemData
  | addItems itemDataList => exact addItems_ids h itemDataList
  | deleteItem itemDBId => exact deleteItem_ids h itemDBId
  | deleteItems itemDBIdList => exact deleteItems_ids h itemDBIdList
  | updateItemLock itemDBId isLocked => exact updateItemData_ids h itemDBId fun _ => rfl
  | updateItemCount itemUpdate => exact updateItemData_ids h itemUpdate.1 fun _ => rfl
  | updateItemCountList itemList =>
    exact (touches_updateItemCountList inven itemList).ids (set_updateItemCountList inven itemList) h
  | updateItemLevel itemDBId level grade exp => exact updateItemData_ids h itemDBId fun _ => rfl
  | updateItemPresetInfo presetId equip unequip =>
    exact (touches_updateItemPresetInfo inven presetId equip unequip).ids rfl h
  | updateItemSocketInfo child info =>
    obtain ⟨htouches, hset⟩ := touches_updateItemSocketInfo (E := E) inven child info
    exact htouches.ids hset h

theorem opLaw (h : Ids inven) (op : InvenOp w) : OpLaw E inven op := by
  cases op with
  | addItem itemData => exact addItem_adds h itemData
  | addItems itemDataList => exact addItems_adds h itemDataList
  | deleteItem itemDBId => exact ⟨deleteItem_items h itemDBId, deleteItem_result h itemDBId⟩
  | deleteItems itemDBIdList => exact deleteItems_items h itemDBIdList
  | updateItemLock itemDBId isLocked => exact touches_updateItemData inven itemDBId fun _ => rfl
  | updateItemCount itemUpdate => exact touches_updateItemData inven itemUpdate.1 fun _ => rfl
  | updateItemCountList itemList => exact touches_updateItemCountList inven itemList
  | updateItemLevel itemDBId level grade exp => exact touches_updateItemData inven itemDBId fun _ => rfl
  | updateItemPresetInfo presetId equip unequip => exact touches_updateItemPresetInfo inven presetId equip unequip
  | updateItemSocketInfo child info => exact (touches_updateItemSocketInfo inven child info).1

/-- a load changes no id -/
theorem cacheItemDataList_ids (E : Env) {items : List (ItemDataGateway w)} (presets : List ItemPresetInfo)
    (sockets : List ItemSocketInfo) (hnd : (items.map (·.mItemDBId)).Nodup) :
    Ids (cacheItemDataList E items presets sockets) := by
  have hbits := congrArg (List.map Prod.fst) (idBits_load E items presets sockets hnd)
  apply loaded_ids hnd
  simpa [idBits, Function.comp_def] using hbits

end

/-- **Set and list hold the same items in every run**, and every operation does to the list what its name says. -/
theorem inventory_in_sync {w : ℕ} (E : Env) (items : List (ItemDataGateway w)) (presets : List ItemPresetInfo)
    (sockets : List ItemSocketInfo) (hnd : (items.map (·.mItemDBId)).Nodup) (ops : List (InvenOp w)) :
    Ids (run (invenStep E) (cacheItemDataList E items presets sockets) ops) ∧
      ∀ op, OpLaw E (run (invenStep E) (cacheItemDataList E items presets sockets) ops) op := by
  have hids : Ids (run (invenStep E) (cacheItemDataList E items presets sockets) ops) :=
    run_inv_all invenStep_ids (cacheItemDataList_ids E presets sockets hnd) ops
  exact ⟨hids, opLaw hids⟩

/-- an addition with an old and a repeated id, and a deletion with an absent one -/
def batchOps : List (InvenOp 1) :=
  [.addItems [socketItem 4, socketItem 2, socketItem 4], .deleteItems [2, 9], .updateItemSocketInfo 4 ⟨1, [4, 0]⟩]

theorem inventory_in_sync_batch : itemIds (run (invenStep socketEnv) smallInventory batchOps) = [1, 3, 4] ∧
    Ids (run (invenStep socketEnv) smallInventory batchOps) ∧
    ∀ op, OpLaw socketEnv (run (invenStep socketEnv) smallInventory batchOps) op :=
  ⟨by decide, inventory_in_sync socketEnv ([1, 2, 3].map socketItem) [] storedSockets (by decide) batchOps⟩

end GameServer.Items
