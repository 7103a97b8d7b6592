/-
The accesses to the two fixed arrays, `itemPresetArray` and `mChildItemDBIdArray`, `C++/Inventory.cpp`.

Every index is a category minus `MAX_EQUIP_MIN`, as an unsigned number, or a socket id minus `MIN_SOCKET_ID`. Where it comes from:
- equipped items: the first loop checks the category;
- items to take off: they have the preset's bit, so the first loop has checked them;
- items to put on: nothing has checked the category;
- children of a parent: their sockets were checked when they were put in;
- the requested socket: it is the number that the client sent.
So no access leaves its array exactly if the equip loop reaches no item of another category, and the requested socket is one of
the array or the request is refused before (`accesses_iff`).
-/
import Mathlib.Tactic
import GameServer.Items.PresetArray
import GameServer.Items.Sockets

namespace GameServer.Items

open GameServer.Core

section

variable {w : ℕ} (E : Env) (MIN_SOCKET_ID : ℕ)

/-! ## Assumptions and conditions -/

/-- every item has a template, and the categories fit the type of the index -/
structure SheetOk (items : List (ItemDataGateway w)) : Prop where
  template : ∀ item ∈ items, (E.find item.mTemplateId).isSome
  category_lt : ∀ templateId itemTemplate, E.find templateId = some itemTemplate → itemTemplate.category < 2 ^ 64
  equip_range : E.MAX_EQUIP_MIN ≤ E.MAX_EQUIP_MAX

/-- a socket id of the array -/
def SocketInRange (socketId : ℕ) : Prop := MIN_SOCKET_ID ≤ socketId ∧ socketId - MIN_SOCKET_ID < E.MAX_SOCKET_COUNT

/-- the items in sockets of other items are in sockets of the array -/
def ChildrenInRange (items : List (ItemDataGateway w)) : Prop :=
  ∀ item ∈ items, (getItemData items item.mParentItemDBId).isSome → SocketInRange E MIN_SOCKET_ID item.mSocketId

def EquipCategory (itemTemplate : ItemTemplate) : Prop :=
  E.MAX_EQUIP_MIN ≤ itemTemplate.category ∧ itemTemplate.category ≤ E.MAX_EQUIP_MAX

/-- an item without the preset's bit that the equip loop reaches has an equip category -/
def EquipReachesCategories (inven : Inventory w) (presetId : ℕ) (equipItemDBIdList unequipItemDBIdList : List ItemDBId) :
    Prop :=
  ∀ before itemDBId after, equipItemDBIdList = before ++ itemDBId :: after →
    (∃ A, validateItemPresetUpdate E inven presetId before unequipItemDBIdList = .ok A) →
    ∀ item, getItemData inven.mItemDataGatewayList itemDBId = some item → hasBit (presetBit E w presetId) item = false →
      ∀ itemTemplate, E.find item.mTemplateId = some itemTemplate → EquipCategory E itemTemplate

/-- a request for an unparented item of the inventory and a parent of the inventory names a socket of the array -/
def RequestInRange (inven : Inventory w) (socketId : ℕ) (itemDBIdParent itemDBIdChild : ItemDBId) : Prop :=
  (getItemData inven.mItemDataGatewayList itemDBIdParent).isSome →
    parentOf inven.mItemDataGatewayList itemDBIdChild = some E.INVALID_ITEM_DB_ID → SocketInRange E MIN_SOCKET_ID socketId

variable {E MIN_SOCKET_ID} {items : List (ItemDataGateway w)} {presetValue : BitVec w} {arr arr' : List ItemDBId}

/-! ## The preset array -/

theorem slotAccess_of_category {itemTemplate : ItemTemplate} (hcat : EquipCategory E itemTemplate)
    (hlen : arr.length = slotCount E) : ∃ itemDBId,
      slotAccess E itemTemplate arr = .ok (itemTemplate.category - E.MAX_EQUIP_MIN, itemDBId) := by
  have hlt : itemTemplate.category - E.MAX_EQUIP_MIN < arr.length := by
    rw [hlen, slotCount]
    have := hcat.2
    omega
  refine ⟨arr[itemTemplate.category - E.MAX_EQUIP_MIN], ?_⟩
  simp only [slotAccess, categoryIndex_eq E hcat.1 hcat.2, List.getElem?_eq_getElem hlt]

/-- a category below the range wraps around to an index above it -/
theorem slotAccess_undefined {itemTemplate : ItemTemplate} (hrange : E.MAX_EQUIP_MIN ≤ E.MAX_EQUIP_MAX)
    (hwidth : itemTemplate.category < 2 ^ 64) (hcat : ¬ EquipCategory E itemTemplate) (hlen : arr.length = slotCount E) :
    slotAccess E itemTemplate arr = .error .undefined := by
  have hmax := E.equip_max_lt
  have hle : arr.length ≤ categoryIndex E itemTemplate.category := by
    rw [hlen, slotCount, categoryIndex]
    unfold EquipCategory at hcat
    by_cases hlow : E.MAX_EQUIP_MIN ≤ itemTemplate.category
    · have hsum : 2 ^ 64 + itemTemplate.category - E.MAX_EQUIP_MIN = itemTemplate.category - E.MAX_EQUIP_MIN + 2 ^ 64 := by
        omega
      rw [hsum, Nat.add_mod_right, Nat.mod_eq_of_lt (by omega)]
      omega
    · rw [Nat.mod_eq_of_lt (by omega)]
      omega
  simp only [slotAccess, List.getElem?_eq_none hle]

theorem collectEquipped_defined (hlen : arr.length = slotCount E) :
    collectEquipped E presetValue items arr ≠ .error .undefined := by
  induction items generalizing arr with
  | nil => simp [collectEquipped]
  | cons item items ih =>
    unfold collectEquipped
    split_ifs
    · exact ih hlen
    · split
      · simp
      · rename_i itemTemplate hfind
        split_ifs with htype hcat
        · simp
        · simp
        · have hin : EquipCategory E itemTemplate := ⟨by omega, by omega⟩
          obtain ⟨itemDBId, haccess⟩ := slotAccess_of_category hin hlen
          rw [haccess]
          dsimp only
          split_ifs
          · simp
          · exact ih ((List.length_set ..).trans hlen)

theorem equipCategory_of_catSlot {item : ItemDataGateway w} {itemTemplate : ItemTemplate}
    (hfind : E.find item.mTemplateId = some itemTemplate) (h : (catSlot E item).isSome) : EquipCategory E itemTemplate := by
  unfold catSlot at h
  rw [hfind] at h
  dsimp only at h
  split_ifs at h with hcat
  · exact hcat.2
  · cases h

/-- an item to take off has been checked through its bit -/
theorem checkUnequip_defined (itemDBIds : List ItemDBId) (hlen : arr.length = slotCount E)
    (hbits : ∀ item ∈ items, hasBit presetValue item = true → (catSlot E item).isSome)
    (htemplate : ∀ item ∈ items, (E.find item.mTemplateId).isSome) :
    checkUnequip E items presetValue itemDBIds arr ≠ .error .undefined ∧
      ∀ arr', checkUnequip E items presetValue itemDBIds arr = .ok arr' → arr'.length = slotCount E := by
  induction itemDBIds generalizing arr with
  | nil => simp [checkUnequip, hlen]
  | cons itemDBId rest ih =>
    unfold checkUnequip
    cases hitem : getItemData items itemDBId with
    | none => simp
    | some item =>
      have hmem := (Keyed.find_some hitem).1
      by_cases hbit : hasBit presetValue item = true
      · obtain ⟨itemTemplate, hfind⟩ := Option.isSome_iff_exists.1 (htemplate item hmem)
        obtain ⟨equipped, haccess⟩ := slotAccess_of_category (equipCategory_of_catSlot hfind (hbits item hmem hbit)) hlen
        simp only [hbit, Bool.true_eq_false, if_false, hfind, haccess]
        split_ifs
        · simp
        · exact ih ((List.length_set ..).trans hlen)
      · simp [hbit]

/-- the positions of a list: its head, and the positions of its tail -/
theorem forall_split_cons {a : ItemDBId} {l : List ItemDBId} {P : List ItemDBId → ItemDBId → Prop} :
    (∀ before b after, a :: l = before ++ b :: after → P before b) ↔
      P [] a ∧ ∀ before b after, l = before ++ b :: after → P (a :: before) b := by
  constructor
  · intro h
    exact ⟨h [] a l rfl, fun before b after hl => h (a :: before) b after (hl ▸ rfl)⟩
  · intro ⟨hhead, htail⟩ before b after hl
    cases before with
    | nil =>
      obtain ⟨rfl, -⟩ := List.cons.inj hl
      exact hhead
    | cons c before =>
      obtain ⟨rfl, hrest⟩ := List.cons.inj hl
      exact htail before b after hrest

/-- the equip loop stays in the array exactly if every item that it reaches has an equip category -/
theorem checkEquip_defined_iff (hsheet : SheetOk E items) (itemDBIds : List ItemDBId) (hlen : arr.length = slotCount E) :
    checkEquip E items presetValue itemDBIds arr ≠ .error .undefined ↔
      ∀ before itemDBId after, itemDBIds = before ++ itemDBId :: after →
        (∃ A, checkEquip E items presetValue before arr = .ok A) →
        ∀ item, getItemData items itemDBId = some item → hasBit presetValue item = false →
          ∀ itemTemplate, E.find item.mTemplateId = some itemTemplate → EquipCategory E itemTemplate := by
  induction itemDBIds generalizing arr with
  | nil => simp [checkEquip]
  | cons itemDBId rest ih =>
    rw [forall_split_cons]
    cases hitem : getItemData items itemDBId with
    | none => simp [checkEquip, hitem]
    | some item =>
      by_cases hbit : hasBit presetValue item = true
      · simp [checkEquip, hitem, hbit]
      · rw [Bool.not_eq_true] at hbit
        obtain ⟨itemTemplate, hfind⟩ := Option.isSome_iff_exists.1 (hsheet.template item (Keyed.find_some hitem).1)
        by_cases hcat : EquipCategory E itemTemplate
        · obtain ⟨equipped, haccess⟩ := slotAccess_of_category hcat hlen
          by_cases hfree : equipped = E.INVALID_ITEM_DB_ID
          · have hstep : ∀ ids, checkEquip E items presetValue (itemDBId :: ids) arr =
                checkEquip E items presetValue ids (arr.set (itemTemplate.category - E.MAX_EQUIP_MIN) itemDBId) := by
              intro ids
              simp [checkEquip, hitem, hbit, hfind, haccess, hfree]
            simp only [hstep]
            rw [ih ((List.length_set ..).trans hlen)]
            refine (and_iff_right ?_).symm
            intro _ item' hitem' _ itemTemplate' hfind'
            obtain rfl := Option.some.inj hitem'
            obtain rfl := Option.some.inj (hfind.symm.trans hfind')
            exact hcat
          · simp [checkEquip, hitem, hbit, hfind, haccess, hfree, hcat]
        · have haccess := slotAccess_undefined hsheet.equip_range (hsheet.category_lt _ _ hfind) hcat hlen
          simp [checkEquip, hitem, hbit, hfind, haccess, hcat]

/-- **The preset array is accessed in range exactly if the equip loop reaches no other category.** -/
theorem validateItemPresetUpdate_defined_iff {inven : Inventory w} (hsheet : SheetOk E inven.mItemDataGatewayList)
    (presetId : ℕ) (equip unequip : List ItemDBId) :
    validateItemPresetUpdate E inven presetId equip unequip ≠ .error .undefined ↔
      EquipReachesCategories E inven presetId equip unequip := by
  have hinit : (List.replicate (slotCount E) E.INVALID_ITEM_DB_ID).length = slotCount E := List.length_replicate
  unfold EquipReachesCategories validateItemPresetUpdate
  dsimp only
  cases hcollect : collectEquipped E (presetBit E w presetId) inven.mItemDataGatewayList
      (List.replicate (slotCount E) E.INVALID_ITEM_DB_ID) with
  | error e =>
    have hdefined : Except.error e ≠ .error Exit.undefined := hcollect ▸ collectEquipped_defined hinit
    simpa using hdefined
  | ok equipped =>
    obtain ⟨hlen, hbits⟩ := collectEquipped_categories hcollect
    obtain ⟨hdefined, hlen'⟩ := checkUnequip_defined unequip (hlen.trans hinit) hbits hsheet.template
    dsimp only
    cases hleft : checkUnequip E inven.mItemDataGatewayList (presetBit E w presetId) unequip equipped with
    | error e =>
      rw [hleft] at hdefined
      simpa using hdefined
    | ok left => exact checkEquip_defined_iff hsheet equip (hlen' left hleft)

/-! ## The socket array -/

theorem setChild_defined_iff {socketId : ℕ} {itemDBId : ItemDBId} (hlen : arr.length = E.MAX_SOCKET_COUNT) :
    setChild MIN_SOCKET_ID socketId itemDBId arr ≠ .error .undefined ↔ SocketInRange E MIN_SOCKET_ID socketId := by
  unfold setChild SocketInRange
  rw [hlen]
  split_ifs with hin <;> simp [hin]

/-- the children of the parent were put in range, so only a taken socket ends the loop -/
theorem collectChildren_error {socketId : ℕ} {p : ItemDBId} {e : SocketExit} (hlen : arr.length = E.MAX_SOCKET_COUNT)
    (hchildren : ∀ item ∈ items, item.mParentItemDBId = p → SocketInRange E MIN_SOCKET_ID item.mSocketId)
    (h : collectChildren MIN_SOCKET_ID socketId p items arr = .error e) :
    e = .refused ∧ SocketInRange E MIN_SOCKET_ID socketId := by
  induction items generalizing arr with
  | nil => cases h
  | cons item items ih =>
    have hrest : ∀ item' ∈ items, item'.mParentItemDBId = p → SocketInRange E MIN_SOCKET_ID item'.mSocketId :=
      fun item' hmem => hchildren item' (List.mem_cons_of_mem item hmem)
    unfold collectChildren at h
    split_ifs at h with hparent hsocket
    · exact ih hlen hrest h
    · obtain rfl := Except.error.inj h
      exact ⟨rfl, hsocket ▸ hchildren item List.mem_cons_self (not_not.1 hparent)⟩
    · obtain ⟨hlow, hhigh⟩ := hchildren item List.mem_cons_self (not_not.1 hparent)
      rw [setChild, if_pos ⟨hlow, hlen.symm ▸ hhigh⟩] at h
      exact ih ((List.length_set ..).trans hlen) hrest h

/-- **The socket array is accessed in range exactly if the requested socket is, or the request is refused for its items.** -/
theorem validateItemSocketUpdate_defined_iff {inven : Inventory w}
    (hchildren : ChildrenInRange E MIN_SOCKET_ID inven.mItemDataGatewayList) (socketId : ℕ) (p child : ItemDBId)
    (hlen : arr.length = E.MAX_SOCKET_COUNT) :
    validateItemSocketUpdate E MIN_SOCKET_ID inven socketId p child arr ≠ .error .undefined ↔
      RequestInRange E MIN_SOCKET_ID inven socketId p child := by
  unfold RequestInRange parentOf validateItemSocketUpdate
  cases hp : getItemData inven.mItemDataGatewayList p with
  | none => simp
  | some parentItem =>
    cases hc : getItemData inven.mItemDataGatewayList child with
    | none => simp
    | some childItem =>
      by_cases hunparented : childItem.mParentItemDBId = E.INVALID_ITEM_DB_ID
      · have hbelow : ∀ item ∈ inven.mItemDataGatewayList, item.mParentItemDBId = p →
            SocketInRange E MIN_SOCKET_ID item.mSocketId :=
          fun item hmem heq => hchildren item hmem (by rw [heq, hp]; rfl)
        simp only [hunparented, ne_eq, not_true_eq_false, if_false, Option.isSome_some, Option.map_some, true_imp_iff]
        cases hcollect : collectChildren MIN_SOCKET_ID socketId p inven.mItemDataGatewayList arr with
        | error e =>
          obtain ⟨rfl, hin⟩ := collectChildren_error hlen hbelow hcollect
          simp [hin]
        | ok collected =>
          have hset : setChild MIN_SOCKET_ID socketId child collected ≠ .error .undefined ↔
              SocketInRange E MIN_SOCKET_ID socketId :=
            setChild_defined_iff ((collectChildren_length hcollect).trans hlen)
          dsimp only
          rw [← hset]
          cases setChild MIN_SOCKET_ID socketId child collected <;> simp
      · simp [hunparented]

end

/-- **No access leaves its array exactly if the equip loop reaches equip categories only, and the client's socket is one of
the array or the request is refused for its items.** -/
theorem accesses_iff {w : ℕ} (E : Env) (MIN_SOCKET_ID : ℕ) {inven : Inventory w}
    (hsheet : SheetOk E inven.mItemDataGatewayList)
    (hchildren : ChildrenInRange E MIN_SOCKET_ID inven.mItemDataGatewayList) (presetId : ℕ)
    (equipItemDBIdList unequipItemDBIdList : List ItemDBId) (socketId : ℕ) (itemDBIdParent itemDBIdChild : ItemDBId)
    {childItemDBIdArray : List ItemDBId} (hlen : childItemDBIdArray.length = E.MAX_SOCKET_COUNT) :
    (validateItemPresetUpdate E inven presetId equipItemDBIdList unequipItemDBIdList ≠ .error .undefined ∧
        validateItemSocketUpdate E MIN_SOCKET_ID inven socketId itemDBIdParent itemDBIdChild childItemDBIdArray ≠
          .error .undefined) ↔
      EquipReachesCategories E inven presetId equipItemDBIdList unequipItemDBIdList ∧
        RequestInRange E MIN_SOCKET_ID inven socketId itemDBIdParent itemDBIdChild :=
  and_congr (validateItemPresetUpdate_defined_iff hsheet presetId equipItemDBIdList unequipItemDBIdList)
    (validateItemSocketUpdate_defined_iff hchildren socketId itemDBIdParent itemDBIdChild hlen)

/-! ## Equip categories 1 and 2 -/

/-- template 0 is equipment of category 1, every other template has category 0 -/
def categoryEnv : Env where
  INVALID_ITEM_DB_ID := 0
  MIN_PRESET_ID := 1
  MAX_EQUIP_MIN := 1
  MAX_EQUIP_MAX := 2
  MAX_SOCKET_COUNT := 2
  equip_max_lt := by decide
  find templateId := some (if templateId = 0 then ⟨.EQUIP, 1⟩ else ⟨.other, 0⟩)

/-- 1 is equipment, 2 is not -/
def categoryInventory : Inventory 1 := ⟨[socketItem 1, { socketItem 2 with mTemplateId := 1 }], {1, 2}, true⟩

theorem categoryInventory_sheet : SheetOk categoryEnv categoryInventory.mItemDataGatewayList := by
  refine ⟨by decide, ?_, by decide⟩
  intro templateId itemTemplate hfind
  obtain rfl := Option.some.inj hfind
  split_ifs <;> decide

theorem categoryInventory_children : ChildrenInRange categoryEnv 0 categoryInventory.mItemDataGatewayList := by
  unfold ChildrenInRange SocketInRange
  decide

theorem accesses_equipment :
    validateItemPresetUpdate categoryEnv categoryInventory 1 [1] [] ≠ .error .undefined ∧
      validateItemSocketUpdate categoryEnv 0 categoryInventory 1 1 2 [0, 0] ≠ .error .undefined := by
  refine (accesses_iff categoryEnv 0 categoryInventory_sheet categoryInventory_children 1 [1] [] 1 1 2 rfl).2 ⟨?_, ?_⟩
  · intro before itemDBId after hequip _ item hitem _ itemTemplate hfind
    have hmem : itemDBId ∈ [1] := hequip ▸ List.mem_append_right before List.mem_cons_self
    obtain rfl := List.mem_singleton.1 hmem
    obtain rfl := Option.some.inj hitem
    obtain rfl := Option.some.inj hfind
    exact ⟨le_refl _, Nat.le_succ 1⟩
  · intro _ _
    exact ⟨Nat.zero_le 1, Nat.one_lt_two⟩

/-- **Two requests of a client that leave the arrays**: an item of category 0 for the preset, and socket 7. -/
theorem accesses_outside :
    SheetOk categoryEnv categoryInventory.mItemDataGatewayList ∧
      ChildrenInRange categoryEnv 0 categoryInventory.mItemDataGatewayList ∧
      validateItemPresetUpdate categoryEnv categoryInventory 1 [2] [] = .error .undefined ∧
      validateItemSocketUpdate categoryEnv 0 categoryInventory 7 1 2 [0, 0] = .error .undefined :=
  ⟨categoryInventory_sheet, categoryInventory_children, by decide, by decide⟩

end GameServer.Items
