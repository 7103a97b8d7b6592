/-
The array of `ValidateItemPresetUpdate` against the bits.

The array is a table from slots to item ids (`occ`), and every worn item claims the slot of its category (`worn`). Each
phase of the validation keeps table and claims in agreement (`Core.Agree`): the collection and the equip loop place an
item in a free slot, the unequip loop empties the slot of an item. `validate_agree` is the whole validation.
-/
import Mathlib.Tactic
import GameServer.Core.Placement
import GameServer.Items.Model

namespace GameServer.Items

open GameServer.Core

section

variable {w : ℕ} (E : Env)

/-! ## Slots -/

/-- the slot of an equip item -/
def catSlot (item : ItemDataGateway w) : Option ℕ :=
  match E.find item.mTemplateId with
  | none => none
  | some itemTemplate =>
    if itemTemplate.type = .EQUIP ∧ E.MAX_EQUIP_MIN ≤ itemTemplate.category ∧ itemTemplate.category ≤ E.MAX_EQUIP_MAX then
      some (itemTemplate.category - E.MAX_EQUIP_MIN)
    else none

/-- the occupant of a slot -/
def occ (itemPresetArray : List ItemDBId) (i : ℕ) : Option ItemDBId :=
  match itemPresetArray[i]? with
  | none => none
  | some itemDBId => if itemDBId = E.INVALID_ITEM_DB_ID then none else some itemDBId

/-- the slot that an item with the bit claims -/
def worn (items : List (ItemDataGateway w)) (presetValue : BitVec w) (itemDBId : ItemDBId) : Option ℕ :=
  match getItemData items itemDBId with
  | none => none
  | some item => if hasBit presetValue item = true then catSlot E item else none

theorem categoryIndex_eq {itemCategory : ℕ} (h1 : E.MAX_EQUIP_MIN ≤ itemCategory) (h2 : itemCategory ≤ E.MAX_EQUIP_MAX) :
    categoryIndex E itemCategory = itemCategory - E.MAX_EQUIP_MIN := by
  have hlt := E.equip_max_lt
  have hsum : 2 ^ 64 + itemCategory - E.MAX_EQUIP_MIN = itemCategory - E.MAX_EQUIP_MIN + 2 ^ 64 := by omega
  rw [categoryIndex, hsum, Nat.add_mod_right, Nat.mod_eq_of_lt (by omega)]

theorem catSlot_eq {item : ItemDataGateway w} {itemTemplate : ItemTemplate} {i : ℕ}
    (hfind : E.find item.mTemplateId = some itemTemplate) (h : catSlot E item = some i) :
    categoryIndex E itemTemplate.category = i := by
  unfold catSlot at h
  rw [hfind] at h
  dsimp only at h
  split_ifs at h with hcat
  rw [categoryIndex_eq E hcat.2.1 hcat.2.2]
  exact Option.some.inj h

theorem slotAccess_ok {itemTemplate : ItemTemplate} {arr : List ItemDBId} {i : ℕ} {itemDBId : ItemDBId}
    (h : slotAccess E itemTemplate arr = .ok (i, itemDBId)) :
    categoryIndex E itemTemplate.category = i ∧ arr[i]? = some itemDBId := by
  unfold slotAccess at h
  dsimp only at h
  split at h
  · cases h
  · rename_i found hfound
    cases h
    exact ⟨rfl, hfound⟩

theorem occ_replicate (n : ℕ) : occ E (List.replicate n E.INVALID_ITEM_DB_ID) = fun _ => none := by
  funext i
  unfold occ
  split
  · rfl
  · rename_i itemDBId h
    rw [if_pos]
    exact List.eq_of_mem_replicate (List.mem_of_getElem? h)

theorem occ_set {arr : List ItemDBId} {i : ℕ} (hi : i < arr.length) {itemDBId : ItemDBId}
    (hid : itemDBId ≠ E.INVALID_ITEM_DB_ID) :
    occ E (arr.set i itemDBId) = Function.update (occ E arr) i (some itemDBId) := by
  funext j
  rcases eq_or_ne j i with rfl | hj
  · rw [Function.update_self, occ, List.getElem?_set_self hi]
    exact if_neg hid
  · rw [Function.update_of_ne hj, occ, List.getElem?_set_ne hj.symm]
    rfl

theorem occ_clear {arr : List ItemDBId} {i : ℕ} (hi : i < arr.length) :
    occ E (arr.set i E.INVALID_ITEM_DB_ID) = Function.update (occ E arr) i none := by
  funext j
  rcases eq_or_ne j i with rfl | hj
  · rw [Function.update_self, occ, List.getElem?_set_self hi]
    exact if_pos rfl
  · rw [Function.update_of_ne hj, occ, List.getElem?_set_ne hj.symm]
    rfl

theorem lt_of_getElem? {arr : List ItemDBId} {i : ℕ} {itemDBId : ItemDBId} (h : arr[i]? = some itemDBId) : i < arr.length :=
  (List.getElem?_eq_some_iff.1 h).1

/-! ## One step of each loop -/

section Steps

variable {E} {presetValue : BitVec w} {items : List (ItemDataGateway w)} {arr arr' : List ItemDBId}

/-- a collected item goes to its free slot -/
theorem collectEquipped_step {item : ItemDataGateway w} (hbit : hasBit presetValue item = true)
    (h : collectEquipped E presetValue (item :: items) arr = .ok arr') :
    ∃ i, catSlot E item = some i ∧ arr[i]? = some E.INVALID_ITEM_DB_ID ∧
      collectEquipped E presetValue items (arr.set i item.mItemDBId) = .ok arr' := by
  rw [collectEquipped, if_neg (by simp [hbit])] at h
  split at h
  · cases h
  · rename_i itemTemplate hfind
    split_ifs at h with htype hcat
    split at h
    · cases h
    · rename_i i equipped haccess
      split_ifs at h with hfree
      obtain ⟨hindex, hget⟩ := slotAccess_ok E haccess
      have hcat' : E.MAX_EQUIP_MIN ≤ itemTemplate.category ∧ itemTemplate.category ≤ E.MAX_EQUIP_MAX := by omega
      rw [categoryIndex_eq E hcat'.1 hcat'.2] at hindex
      refine ⟨i, ?_, not_not.1 hfree ▸ hget, h⟩
      rw [catSlot, hfind]
      dsimp only
      rw [if_pos ⟨not_not.1 htype, hcat'⟩, hindex]

/-- an accepted collection has checked every item with the bit -/
theorem collectEquipped_categories (h : collectEquipped E presetValue items arr = .ok arr') :
    arr'.length = arr.length ∧ ∀ item ∈ items, hasBit presetValue item = true → (catSlot E item).isSome := by
  induction items generalizing arr with
  | nil =>
    obtain rfl := Except.ok.inj h
    simp
  | cons item items ih =>
    by_cases hbit : hasBit presetValue item = true
    · obtain ⟨i, hslot, -, hrest⟩ := collectEquipped_step hbit h
      obtain ⟨hlen, hall⟩ := ih hrest
      refine ⟨hlen.trans (List.length_set ..), ?_⟩
      intro item' hmem hbit'
      rcases List.mem_cons.1 hmem with rfl | hmem
      · rw [hslot]
        rfl
      · exact hall item' hmem hbit'
    · rw [collectEquipped, if_pos (by simpa using hbit)] at h
      obtain ⟨hlen, hall⟩ := ih h
      refine ⟨hlen, ?_⟩
      intro item' hmem hbit'
      rcases List.mem_cons.1 hmem with rfl | hmem
      · exact absurd hbit' hbit
      · exact hall item' hmem hbit'

/-- the lookup of an item's slot, in front of what is done with it -/
theorem slot_found {item : ItemDataGateway w} {f : ℕ → ItemDBId → Except Exit (List ItemDBId)}
    (h : (match E.find item.mTemplateId with
      | none => Except.error Exit.undefined
      | some itemTemplate =>
        match slotAccess E itemTemplate arr with
        | .error e => Except.error e
        | .ok (index, equipped) => f index equipped) = Except.ok arr') :
    ∃ i equipped, (∀ j, catSlot E item = some j → i = j) ∧ arr[i]? = some equipped ∧ f i equipped = .ok arr' := by
  split at h
  · cases h
  · rename_i itemTemplate hfind
    split at h
    · cases h
    · rename_i i equipped haccess
      obtain ⟨hindex, hget⟩ := slotAccess_ok E haccess
      exact ⟨i, equipped, fun j hj => hindex.symm.trans (catSlot_eq E hfind hj), hget, h⟩

/-- an item to take off has the bit, and its slot is occupied -/
theorem checkUnequip_step {itemDBId : ItemDBId} {rest : List ItemDBId}
    (h : checkUnequip E items presetValue (itemDBId :: rest) arr = .ok arr') :
    ∃ item, getItemData items itemDBId = some item ∧ hasBit presetValue item = true ∧
      ∀ j, catSlot E item = some j → ∃ equipped, arr[j]? = some equipped ∧ equipped ≠ E.INVALID_ITEM_DB_ID ∧
        checkUnequip E items presetValue rest (arr.set j E.INVALID_ITEM_DB_ID) = .ok arr' := by
  rw [checkUnequip] at h
  split at h
  · cases h
  · rename_i item hitem
    split_ifs at h with hbit
    obtain ⟨i, equipped, hslot, hget, hrest⟩ := slot_found h
    split_ifs at hrest with hfree
    refine ⟨item, hitem, by simpa using hbit, fun j hj => ?_⟩
    obtain rfl := hslot j hj
    exact ⟨equipped, hget, hfree, hrest⟩

/-- an item to put on does not have the bit, and its slot is free -/
theorem checkEquip_step {itemDBId : ItemDBId} {rest : List ItemDBId}
    (h : checkEquip E items presetValue (itemDBId :: rest) arr = .ok arr') :
    ∃ item, getItemData items itemDBId = some item ∧ hasBit presetValue item = false ∧
      ∀ j, catSlot E item = some j → arr[j]? = some E.INVALID_ITEM_DB_ID ∧
        checkEquip E items presetValue rest (arr.set j itemDBId) = .ok arr' := by
  rw [checkEquip] at h
  split at h
  · cases h
  · rename_i item hitem
    split_ifs at h with hbit
    obtain ⟨i, equipped, hslot, hget, hrest⟩ := slot_found h
    split_ifs at hrest with hfree
    refine ⟨item, hitem, by simpa using hbit, fun j hj => ?_⟩
    obtain rfl := hslot j hj
    exact ⟨not_not.1 hfree ▸ hget, hrest⟩

end Steps

theorem occ_free {arr : List ItemDBId} {i : ℕ} (h : arr[i]? = some E.INVALID_ITEM_DB_ID) : occ E arr i = none := by
  rw [occ, h]
  exact if_pos rfl

theorem occ_taken {arr : List ItemDBId} {i : ℕ} {itemDBId : ItemDBId} (h : arr[i]? = some itemDBId)
    (hid : itemDBId ≠ E.INVALID_ITEM_DB_ID) : occ E arr i = some itemDBId := by
  rw [occ, h]
  exact if_neg hid

/-! ## Collection -/

/-- the claims after the items of a list: their own, and older ones -/
def claims (items : List (ItemDataGateway w)) (presetValue : BitVec w) (pos : ItemDBId → Option ℕ) (itemDBId : ItemDBId) :
    Option ℕ :=
  match getItemData items itemDBId with
  | none => pos itemDBId
  | some item => if hasBit presetValue item = true then catSlot E item else pos itemDBId

theorem collect_agree {presetValue : BitVec w} {items : List (ItemDataGateway w)} {arr arr' : List ItemDBId}
    {pos : ItemDBId → Option ℕ} (h : collectEquipped E presetValue items arr = .ok arr')
    (hnd : (items.map (·.mItemDBId)).Nodup) (hvalid : ∀ item ∈ items, item.mItemDBId ≠ E.INVALID_ITEM_DB_ID)
    (hpos : ∀ item ∈ items, pos item.mItemDBId = none) (ha : Agree (occ E arr) pos) :
    Agree (occ E arr') (claims E items presetValue pos) := by
  induction items generalizing arr pos with
  | nil =>
    cases h
    exact ha
  | cons item items ih =>
    obtain ⟨hnotin, hnd'⟩ := List.nodup_cons.1 hnd
    have hvalid' : ∀ i ∈ items, i.mItemDBId ≠ E.INVALID_ITEM_DB_ID := fun i hi => hvalid i (List.mem_cons_of_mem item hi)
    have hrest : getItemData items item.mItemDBId = none := Keyed.find_eq_none.2 hnotin
    by_cases hbit : hasBit presetValue item = true
    · obtain ⟨i, hslot, hget, h⟩ := collectEquipped_step hbit h
      have ha' := ha.occupy (hpos item List.mem_cons_self) (occ_free E hget)
      rw [← occ_set E (lt_of_getElem? hget) (hvalid item List.mem_cons_self)] at ha'
      have hpos' : ∀ j ∈ items, Function.update pos item.mItemDBId (some i) j.mItemDBId = none := by
        intro j hj
        have hne : j.mItemDBId ≠ item.mItemDBId := fun heq => hnotin (List.mem_map.2 ⟨j, hj, heq⟩)
        rw [Function.update_of_ne hne]
        exact hpos j (List.mem_cons_of_mem item hj)
      refine (ih h hnd' hvalid' hpos' ha').congr (fun _ => rfl) fun itemDBId => ?_
      unfold claims
      rw [getItemData, Keyed.find_cons]
      split_ifs with hid
      · subst hid
        rw [hrest, Function.update_self]
        simp [hbit, hslot]
      · rw [Function.update_of_ne (Ne.symm hid)]
        rfl
    · rw [collectEquipped, if_pos (by simpa using hbit)] at h
      have ih' := ih h hnd' hvalid' (fun i hi => hpos i (List.mem_cons_of_mem item hi)) ha
      refine ih'.congr (fun _ => rfl) fun itemDBId => ?_
      unfold claims
      rw [getItemData, Keyed.find_cons]
      split_ifs with hid
      · subst hid
        rw [hrest]
        simp [hbit]
      · rfl

/-! ## Unequip and equip -/

theorem unequip_agree {presetValue : BitVec w} {items : List (ItemDataGateway w)} {ids : List ItemDBId}
    {arr arr' : List ItemDBId} {pos : ItemDBId → Option ℕ} (h : checkUnequip E items presetValue ids arr = .ok arr')
    (hslots : ∀ item ∈ items, hasBit presetValue item = true → (catSlot E item).isSome)
    (hinj : ∀ a b i, worn E items presetValue a = some i → worn E items presetValue b = some i → a = b)
    (hsub : ∀ a i, pos a = some i → worn E items presetValue a = some i) (ha : Agree (occ E arr) pos) :
    arr'.length = arr.length ∧ Agree (occ E arr') (fun a => if a ∈ ids then none else pos a) ∧
      ∀ a ∈ ids, ∃ item, getItemData items a = some item ∧ hasBit presetValue item = true := by
  induction ids generalizing arr pos with
  | nil =>
    cases h
    exact ⟨rfl, ha.congr (fun _ => rfl) fun _ => by simp, by simp⟩
  | cons itemDBId rest ih =>
    obtain ⟨item, hitem, hbit, hstep⟩ := checkUnequip_step h
    obtain ⟨i, hslot⟩ := Option.isSome_iff_exists.1 (hslots item (Keyed.find_some hitem).1 hbit)
    obtain ⟨equipped, hget, hfree, h⟩ := hstep i hslot
    -- the slot is occupied, and only this item claims it
    have hclaim : worn E items presetValue itemDBId = some i := by rw [worn, hitem]; simp [hbit, hslot]
    have hpos : pos itemDBId = some i := by
      have hequipped := (ha i equipped).1 (occ_taken E hget hfree)
      rwa [hinj _ _ _ (hsub _ _ hequipped) hclaim] at hequipped
    have ha' : Agree (occ E (arr.set i E.INVALID_ITEM_DB_ID)) (Function.update pos itemDBId none) := by
      refine (ha.vacate itemDBId).congr (fun j => ?_) fun _ => rfl
      rw [occ_clear E (lt_of_getElem? hget), hpos]
      rcases eq_or_ne j i with rfl | hne
      · simp
      · simp [Function.update_of_ne hne, Ne.symm hne]
    have hsub' : ∀ a k, Function.update pos itemDBId none a = some k → worn E items presetValue a = some k := by
      intro a k hk
      rcases eq_or_ne a itemDBId with rfl | hne
      · rw [Function.update_self] at hk
        cases hk
      · rw [Function.update_of_ne hne] at hk
        exact hsub a k hk
    obtain ⟨h1, h2, h3⟩ := ih h hsub' ha'
    refine ⟨h1.trans (List.length_set ..), h2.congr (fun _ => rfl) fun a => ?_, fun a hmem => ?_⟩
    · rcases eq_or_ne a itemDBId with rfl | hne
      · simp
      · simp [hne]
    · rcases List.mem_cons.1 hmem with rfl | hmem
      · exact ⟨item, hitem, hbit⟩
      · exact h3 a hmem

/-- the slot of an item id, if there is such an item -/
def idSlot (items : List (ItemDataGateway w)) (itemDBId : ItemDBId) : Option ℕ :=
  match getItemData items itemDBId with
  | none => none
  | some item => catSlot E item

theorem equip_agree {presetValue : BitVec w} {items : List (ItemDataGateway w)} {ids : List ItemDBId}
    {arr arr' : List ItemDBId} {pos : ItemDBId → Option ℕ} (h : checkEquip E items presetValue ids arr = .ok arr')
    (hequip : ∀ a ∈ ids, ∀ item, getItemData items a = some item → (catSlot E item).isSome)
    (hvalid : ∀ item ∈ items, item.mItemDBId ≠ E.INVALID_ITEM_DB_ID)
    (hsub : ∀ a i, pos a = some i → idSlot E items a = some i) (ha : Agree (occ E arr) pos) :
    arr'.length = arr.length ∧ Agree (occ E arr') (fun a => if a ∈ ids then idSlot E items a else pos a) ∧
      ∀ a ∈ ids, ∃ item, getItemData items a = some item ∧ hasBit presetValue item = false := by
  induction ids generalizing arr pos with
  | nil =>
    cases h
    exact ⟨rfl, ha.congr (fun _ => rfl) fun _ => by simp, by simp⟩
  | cons itemDBId rest ih =>
    obtain ⟨item, hitem, hbit, hstep⟩ := checkEquip_step h
    obtain ⟨i, hslot⟩ := Option.isSome_iff_exists.1 (hequip itemDBId List.mem_cons_self item hitem)
    obtain ⟨hget, h⟩ := hstep i hslot
    have hid : idSlot E items itemDBId = some i := by rw [idSlot, hitem]; exact hslot
    have hocc := occ_free E hget
    -- an id that is in the array already would occupy this slot
    have hpos : pos itemDBId = none := by
      cases hp : pos itemDBId with
      | none => rfl
      | some k =>
        obtain rfl : k = i := Option.some.inj ((hsub _ _ hp).symm.trans hid)
        have htaken := (ha k itemDBId).2 hp
        rw [hocc] at htaken
        cases htaken
    have ha' := ha.occupy hpos hocc
    obtain ⟨hmem, hkey⟩ := Keyed.find_some hitem
    rw [← occ_set E (lt_of_getElem? hget) (hkey ▸ hvalid item hmem)] at ha'
    have hsub' : ∀ a k, Function.update pos itemDBId (some i) a = some k → idSlot E items a = some k := by
      intro a k hk
      rcases eq_or_ne a itemDBId with rfl | hne
      · rw [Function.update_self] at hk
        exact hid.trans hk
      · rw [Function.update_of_ne hne] at hk
        exact hsub a k hk
    obtain ⟨h1, h2, h3⟩ := ih h (fun a hmem => hequip a (List.mem_cons_of_mem itemDBId hmem)) hsub' ha'
    refine ⟨h1.trans (List.length_set ..), h2.congr (fun _ => rfl) fun a => ?_, fun a hmem => ?_⟩
    · rcases eq_or_ne a itemDBId with rfl | hne
      · simp [hid]
      · simp [hne]
    · rcases List.mem_cons.1 hmem with rfl | hmem
      · exact ⟨item, hitem, hbit⟩
      · exact h3 a hmem

/-! ## The whole validation -/

/-- **The validated array is the table of the new claims**: the equipped items, and the worn ones that stay. -/
theorem validate_agree {inven : Inventory w} {presetId : ℕ} {equip unequip A : List ItemDBId}
    (h : validateItemPresetUpdate E inven presetId equip unequip = .ok A)
    (hnd : (inven.mItemDataGatewayList.map (·.mItemDBId)).Nodup)
    (hvalid : ∀ item ∈ inven.mItemDataGatewayList, item.mItemDBId ≠ E.INVALID_ITEM_DB_ID)
    (hequip : ∀ a ∈ equip, ∀ item, getItemData inven.mItemDataGatewayList a = some item → (catSlot E item).isSome) :
    A.length = slotCount E ∧
    Agree (occ E A) (fun a => if a ∈ equip then idSlot E inven.mItemDataGatewayList a else
      if a ∈ unequip then none else worn E inven.mItemDataGatewayList (presetBit E w presetId) a) ∧
    (∀ item ∈ inven.mItemDataGatewayList, hasBit (presetBit E w presetId) item = true → (catSlot E item).isSome) ∧
    (∀ a ∈ unequip, ∃ item, getItemData inven.mItemDataGatewayList a = some item ∧
      hasBit (presetBit E w presetId) item = true) ∧
    ∀ a ∈ equip, ∃ item, getItemData inven.mItemDataGatewayList a = some item ∧
      hasBit (presetBit E w presetId) item = false := by
  set items := inven.mItemDataGatewayList
  set v := presetBit E w presetId
  unfold validateItemPresetUpdate at h
  dsimp only at h
  split at h
  · cases h
  · rename_i equipped hcollect
    split at h
    · cases h
    · rename_i left hleft
      have hempty : Agree (occ E (List.replicate (slotCount E) E.INVALID_ITEM_DB_ID)) (fun _ => none) := by
        rw [occ_replicate]
        simp [Agree]
      obtain ⟨hlen, hslots⟩ := collectEquipped_categories hcollect
      have hagree := collect_agree E hcollect hnd hvalid (fun _ _ => rfl) hempty
      have hworn : claims E items v (fun _ => none) = worn E items v := rfl
      rw [hworn] at hagree
      have hinj : ∀ a b i, worn E items v a = some i → worn E items v b = some i → a = b := fun a b i =>
        hagree.unique_claim
      obtain ⟨u1, u2, u3⟩ := unequip_agree E hleft hslots hinj (fun _ _ hp => hp) hagree
      have hsub : ∀ a i, (if a ∈ unequip then none else worn E items v a) = some i → idSlot E items a = some i := by
        intro a i hp
        split_ifs at hp
        unfold worn at hp
        unfold idSlot
        split at hp
        · cases hp
        · split_ifs at hp
          exact hp
      obtain ⟨e1, e2, e3⟩ := equip_agree E h hequip hvalid hsub u2
      refine ⟨?_, e2, hslots, u3, e3⟩
      rw [e1, u1, hlen, List.length_replicate]

end

end GameServer.Items
