/-
The inventory of one user, `C++/Inventory.cpp`: loading with presets and sockets, and the preset update.

An item carries one bit per equip preset (`mPresetValue`). `ValidateItemPresetUpdate` computes from the bits and a request
the array that is stored for a preset; `UpdateItemPresetInfo` then changes the bits; `CacheItemDataList` sets the bits from
the stored arrays.

Not under src/: the constants, the item sheet (`Env`) and the record declarations; `ItemDataEquip` has the layout of
`ItemDataGateway`, and `ItemPresetArray` has one slot a category from `MAX_EQUIP_MIN` to `MAX_EQUIP_MAX`. `PresetValue` is
a bit vector of any width; the 1 that is shifted to a preset's bit is an `int` of 32 bits, which is then converted. A failed
`_ASSERT_CRASH` is a log. An access outside the preset array and an access through a null template end a validation as
`undefined`.
-/
import Mathlib.Tactic
import GameServer.Core.Keyed

namespace GameServer.Items

open GameServer.Core

/-! ## Items -/

abbrev ItemDBId := ℤ

/-- `ItemDataGateway` -/
structure ItemDataGateway (w : ℕ) where
  mItemDBId : ItemDBId
  mTemplateId : ℤ
  mOwnerDBId : ℤ
  mStackCount : ℤ
  mIsLocked : Bool
  mLevel : ℤ
  mGrade : ℤ
  mExp : ℤ
  mPresetValue : BitVec w
  mParentItemDBId : ItemDBId
  mSocketId : ℕ
deriving DecidableEq, Repr

inductive ItemType where
  | EQUIP | other
deriving DecidableEq, Repr

structure ItemTemplate where
  type : ItemType
  category : ℕ
deriving DecidableEq, Repr

structure Env where
  INVALID_ITEM_DB_ID : ItemDBId
  MIN_PRESET_ID : ℕ
  MAX_EQUIP_MIN : ℕ
  MAX_EQUIP_MAX : ℕ
  MAX_SOCKET_COUNT : ℕ
  equip_max_lt : MAX_EQUIP_MAX < 2 ^ 64
  /-- `ItemDataSheet::Find` -/
  find : ℤ → Option ItemTemplate

structure ItemPresetInfo where
  mPresetId : ℕ
  mEquipItemDBIdList : List ItemDBId
deriving DecidableEq, Repr

structure ItemSocketInfo where
  mParentItemDBId : ItemDBId
  mChildItemDBIdArray : List ItemDBId
deriving DecidableEq, Repr

structure Inventory (w : ℕ) where
  mItemDataGatewayList : List (ItemDataGateway w)
  mItemDBIdSet : Finset ItemDBId
  mCached : Bool

section

variable {w : ℕ} (E : Env)

/-- `GetItemData` -/
def getItemData (items : List (ItemDataGateway w)) (itemDBId : ItemDBId) : Option (ItemDataGateway w) :=
  Keyed.find ItemDataGateway.mItemDBId itemDBId items

/-- a write through the pointer of `GetItemData` -/
def setItemData (items : List (ItemDataGateway w)) (itemDBId : ItemDBId)
    (f : ItemDataGateway w → ItemDataGateway w) : List (ItemDataGateway w) :=
  Keyed.modify ItemDataGateway.mItemDBId itemDBId f items

/-- `1 << (presetId - MIN_PRESET_ID)`, an `int`, converted to `PresetValue`: a wider one extends the sign. A shift by 32 or
more is not defined in C++; here it leaves no bit. -/
def presetBit (w : ℕ) (presetId : ℕ) : BitVec w := (1#32 <<< (presetId - E.MIN_PRESET_ID)).signExtend w

/-! ## `CacheItemDataList` -/

/-- the bits of one stored preset -/
def cachePreset (items : List (ItemDataGateway w)) (itemPresetInfo : ItemPresetInfo) : List (ItemDataGateway w) :=
  itemPresetInfo.mEquipItemDBIdList.foldl
    (fun items itemDBId =>
      if itemDBId = E.INVALID_ITEM_DB_ID then items
      else setItemData items itemDBId fun item =>
        { item with mPresetValue := item.mPresetValue ||| presetBit E w itemPresetInfo.mPresetId }) items

/-- the children of one stored socket info -/
def cacheSocket (items : List (ItemDataGateway w)) (itemSocketInfo : ItemSocketInfo) : List (ItemDataGateway w) :=
  match getItemData items itemSocketInfo.mParentItemDBId with
  | none => items
  | some _ =>
    (List.range E.MAX_SOCKET_COUNT).foldl
      (fun items socketId =>
        let childItemDBId := itemSocketInfo.mChildItemDBIdArray.getD socketId E.INVALID_ITEM_DB_ID
        if childItemDBId = E.INVALID_ITEM_DB_ID then items
        else setItemData items childItemDBId fun item =>
          { item with mParentItemDBId := itemSocketInfo.mParentItemDBId, mSocketId := socketId }) items

/-- `CacheItemDataList` -/
def cacheItemDataList (itemDataGatewayList : List (ItemDataGateway w)) (itemPresetInfoList : List ItemPresetInfo)
    (itemSocketInfoList : List ItemSocketInfo) : Inventory w where
  mItemDataGatewayList :=
    itemSocketInfoList.foldl (cacheSocket E) (itemPresetInfoList.foldl (cachePreset E) itemDataGatewayList)
  mItemDBIdSet := (itemDataGatewayList.map (·.mItemDBId)).toFinset
  mCached := true

/-! ## `ValidateItemPresetUpdate` -/

/-- the number of slots of `ItemPresetArray` -/
def slotCount : ℕ := E.MAX_EQUIP_MAX - E.MAX_EQUIP_MIN + 1

/-- `static_cast<size_t>(itemCategory) - static_cast<size_t>(MAX_EQUIP_MIN)` -/
def categoryIndex (itemCategory : ℕ) : ℕ := (2 ^ 64 + itemCategory - E.MAX_EQUIP_MIN) % 2 ^ 64

/-- `0 != (mPresetValue & presetValue)` -/
def hasBit (presetValue : BitVec w) (item : ItemDataGateway w) : Bool := decide (item.mPresetValue &&& presetValue ≠ 0)

/-- a validation that ends early: `false` with the array so far, or an undefined access -/
inductive Exit where
  | refused (itemPresetArray : List ItemDBId)
  | undefined
deriving DecidableEq, Repr

/-- the slot of an item in the array, by its template's category -/
def slotAccess (itemTemplate : ItemTemplate) (itemPresetArray : List ItemDBId) : Except Exit (ℕ × ItemDBId) :=
  let index := categoryIndex E itemTemplate.category
  match itemPresetArray[index]? with
  | none => .error .undefined
  | some itemDBId => .ok (index, itemDBId)

/-- the equipped items of the preset -/
def collectEquipped (presetValue : BitVec w) :
    List (ItemDataGateway w) → List ItemDBId → Except Exit (List ItemDBId)
  | [], itemPresetArray => .ok itemPresetArray
  | item :: items, itemPresetArray =>
    if hasBit presetValue item = false then collectEquipped presetValue items itemPresetArray
    else
      match E.find item.mTemplateId with
      | none => .error (.refused itemPresetArray)
      | some itemTemplate =>
        if itemTemplate.type ≠ .EQUIP then .error (.refused itemPresetArray)
        else if itemTemplate.category < E.MAX_EQUIP_MIN ∨ E.MAX_EQUIP_MAX < itemTemplate.category then
          .error (.refused itemPresetArray)
        else
          match slotAccess E itemTemplate itemPresetArray with
          | .error e => .error e
          | .ok (index, equipped) =>
            if equipped ≠ E.INVALID_ITEM_DB_ID then .error (.refused itemPresetArray)
            else collectEquipped presetValue items (itemPresetArray.set index item.mItemDBId)

/-- the items to take off -/
def checkUnequip (items : List (ItemDataGateway w)) (presetValue : BitVec w) :
    List ItemDBId → List ItemDBId → Except Exit (List ItemDBId)
  | [], itemPresetArray => .ok itemPresetArray
  | itemDBId :: rest, itemPresetArray =>
    match getItemData items itemDBId with
    | none => .error (.refused itemPresetArray)
    | some item =>
      if hasBit presetValue item = false then .error (.refused itemPresetArray)
      else
        match E.find item.mTemplateId with
        | none => .error .undefined
        | some itemTemplate =>
          match slotAccess E itemTemplate itemPresetArray with
          | .error e => .error e
          | .ok (index, equipped) =>
            if equipped = E.INVALID_ITEM_DB_ID then .error (.refused itemPresetArray)
            else checkUnequip items presetValue rest (itemPresetArray.set index E.INVALID_ITEM_DB_ID)

/-- the items to put on -/
def checkEquip (items : List (ItemDataGateway w)) (presetValue : BitVec w) :
    List ItemDBId → List ItemDBId → Except Exit (List ItemDBId)
  | [], itemPresetArray => .ok itemPresetArray
  | itemDBId :: rest, itemPresetArray =>
    match getItemData items itemDBId with
    | none => .error (.refused itemPresetArray)
    | some item =>
      if hasBit presetValue item = true then .error (.refused itemPresetArray)
      else
        match E.find item.mTemplateId with
        | none => .error .undefined
        | some itemTemplate =>
          match slotAccess E itemTemplate itemPresetArray with
          | .error e => .error e
          | .ok (index, equipped) =>
            if equipped ≠ E.INVALID_ITEM_DB_ID then .error (.refused itemPresetArray)
            else checkEquip items presetValue rest (itemPresetArray.set index itemDBId)

/-- `ValidateItemPresetUpdate`; `ok` is `true` with the array -/
def validateItemPresetUpdate (inven : Inventory w) (presetId : ℕ) (equipItemDBIdList unequipItemDBIdList : List ItemDBId) :
    Except Exit (List ItemDBId) :=
  let items := inven.mItemDataGatewayList
  let presetValue := presetBit E w presetId
  match collectEquipped E presetValue items (List.replicate (slotCount E) E.INVALID_ITEM_DB_ID) with
  | .error e => .error e
  | .ok equipped =>
    match checkUnequip E items presetValue unequipItemDBIdList equipped with
    | .error e => .error e
    | .ok left => checkEquip E items presetValue equipItemDBIdList left

/-! ## `UpdateItemPresetInfo` -/

/-- one loop of the update: the new bits of the listed items, and copies of these items -/
def updateBits (f : BitVec w → BitVec w) (itemDBIdList : List ItemDBId)
    (s : List (ItemDataGateway w) × List (ItemDataGateway w)) : List (ItemDataGateway w) × List (ItemDataGateway w) :=
  itemDBIdList.foldl
    (fun s itemDBId =>
      match getItemData s.1 itemDBId with
      | none => s
      | some item =>
        let item' := { item with mPresetValue := f item.mPresetValue }
        (setItemData s.1 itemDBId fun _ => item', s.2 ++ [item'])) s

/-- `UpdateItemPresetInfo`: the result, the inventory and `itemDataEquipList` -/
def updateItemPresetInfo (inven : Inventory w) (presetId : ℕ) (equipDBIdList unequipDBIdList : List ItemDBId) :
    Bool × Inventory w × List (ItemDataGateway w) :=
  let presetValue := presetBit E w presetId
  let equipped := updateBits (· ||| presetValue) equipDBIdList (inven.mItemDataGatewayList, [])
  let s := updateBits (· &&& ~~~presetValue) unequipDBIdList equipped
  (true, { inven with mItemDataGatewayList := s.1 }, s.2)

end

end GameServer.Items
