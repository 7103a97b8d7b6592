/-
What the update and the loader do to the preset bits.

Both write through the first item of an id, so with distinct ids they are maps over the items (`update_eq`,
`cachePresets_eq`), and everything can be read off bit by bit (`newBits_getLsbD`, `granted_getLsbD`).
-/
import Mathlib.Tactic
import GameServer.Items.Model

namespace GameServer.Items

open GameServer.Core

section

variable {w : ℕ} (E : Env)

/-! ## One bit -/

/-- a preset with a bit of its own: `PresetValue` has it, and so has the `int` that is shifted, below the sign if this would
be extended -/
def ValidPreset (w presetId : ℕ) : Prop :=
  E.MIN_PRESET_ID ≤ presetId ∧ presetId - E.MIN_PRESET_ID < w ∧ (presetId - E.MIN_PRESET_ID < 31 ∨ w ≤ 32)

instance (w presetId : ℕ) : Decidable (ValidPreset E w presetId) :=
  inferInstanceAs (Decidable (E.MIN_PRESET_ID ≤ presetId ∧ presetId - E.MIN_PRESET_ID < w ∧
    (presetId - E.MIN_PRESET_ID < 31 ∨ w ≤ 32)))

theorem presetBit_getLsbD {presetId : ℕ} (hp : ValidPreset E w presetId) (b : ℕ) :
    (presetBit E w presetId).getLsbD b = decide (b < w ∧ b = presetId - E.MIN_PRESET_ID) := by
  obtain ⟨-, hwidth, hsign⟩ := hp
  unfold presetBit
  rw [BitVec.getLsbD_signExtend, BitVec.msb_eq_getLsbD_last, BitVec.getLsbD_shiftLeft, BitVec.getLsbD_shiftLeft,
    BitVec.getLsbD_one, BitVec.getLsbD_one, Bool.eq_iff_iff]
  split_ifs
  all_goals
    simp only [Bool.and_eq_true, decide_eq_true_eq, Bool.not_eq_true', decide_eq_false_iff_not]
    omega

/-- the mask test reads one bit -/
theorem hasBit_eq {presetId : ℕ} (hp : ValidPreset E w presetId) (item : ItemDataGateway w) :
    hasBit (presetBit E w presetId) item = item.mPresetValue.getLsbD (presetId - E.MIN_PRESET_ID) := by
  have hiff : item.mPresetValue &&& presetBit E w presetId ≠ 0 ↔
      item.mPresetValue.getLsbD (presetId - E.MIN_PRESET_ID) = true := by
    constructor
    · intro hne
      by_contra hbit
      refine hne (BitVec.eq_of_getLsbD_eq fun b _ => ?_)
      rw [BitVec.getLsbD_and, presetBit_getLsbD E hp]
      by_cases hb : b = presetId - E.MIN_PRESET_ID
      · subst hb
        simp [hbit]
      · simp [hb]
    · intro hbit hzero
      have h := congrArg (fun v : BitVec w => v.getLsbD (presetId - E.MIN_PRESET_ID)) hzero
      simp only [BitVec.getLsbD_and, presetBit_getLsbD E hp, hbit, hp.2.1, Bool.true_and, true_and, decide_true] at h
      exact absurd h (by simp)
  unfold hasBit
  rw [Bool.eq_iff_iff, decide_eq_true_eq]
  exact hiff

/-! ## `UpdateItemPresetInfo` -/

def mapBits (f : BitVec w → BitVec w) (item : ItemDataGateway w) : ItemDataGateway w :=
  { item with mPresetValue := f item.mPresetValue }

theorem mapBits_idem {f : BitVec w → BitVec w} (hf : ∀ v, f (f v) = f v) (item : ItemDataGateway w) :
    mapBits f (mapBits f item) = mapBits f item := by
  simp [mapBits, hf]

/-- new bits for the items of a list of ids -/
def mapListed (f : BitVec w → BitVec w) (ids : List ItemDBId) (items : List (ItemDataGateway w)) :
    List (ItemDataGateway w) :=
  items.map fun item => if item.mItemDBId ∈ ids then mapBits f item else item

theorem ids_mapListed (f : BitVec w → BitVec w) (ids : List ItemDBId) (items : List (ItemDataGateway w)) :
    (mapListed f ids items).map (·.mItemDBId) = items.map (·.mItemDBId) := by
  refine Keyed.keys_map _ (fun item => ?_) items
  split_ifs <;> rfl

theorem foldl_mapBits (f : BitVec w → BitVec w) (hf : ∀ v, f (f v) = f v) {items : List (ItemDataGateway w)}
    (hnd : (items.map (·.mItemDBId)).Nodup) (ids : List ItemDBId) :
    ids.foldl (fun items itemDBId => setItemData items itemDBId (mapBits f)) items = mapListed f ids items :=
  Keyed.foldl_modify_eq_map (mapBits f) (fun _ => rfl) (mapBits_idem hf) hnd ids

/-- one loop of the update writes each listed item through its pointer -/
theorem updateBits_fst (f : BitVec w → BitVec w) (ids : List ItemDBId)
    (s : List (ItemDataGateway w) × List (ItemDataGateway w)) :
    (updateBits f ids s).1 = ids.foldl (fun items itemDBId => setItemData items itemDBId (mapBits f)) s.1 := by
  induction ids generalizing s with
  | nil => rfl
  | cons itemDBId rest ih =>
    have hcons : updateBits f (itemDBId :: rest) s = updateBits f rest (updateBits f [itemDBId] s) := rfl
    have hstep : (updateBits f [itemDBId] s).1 = setItemData s.1 itemDBId (mapBits f) := by
      rw [updateBits, List.foldl_cons, List.foldl_nil]
      split
      · rename_i hfind
        exact (Keyed.modify_absent hfind _).symm
      · rename_i found hfind
        exact Keyed.modify_found hfind (mapBits f)
    rw [hcons, ih, hstep, List.foldl_cons]

/-- the bits of an item after an update -/
def newBits (presetId : ℕ) (equip unequip : List ItemDBId) (item : ItemDataGateway w) : BitVec w :=
  let equipped := if item.mItemDBId ∈ equip then item.mPresetValue ||| presetBit E w presetId else item.mPresetValue
  if item.mItemDBId ∈ unequip then equipped &&& ~~~presetBit E w presetId else equipped

/-- an item after an update -/
def updateItem (presetId : ℕ) (equip unequip : List ItemDBId) (item : ItemDataGateway w) : ItemDataGateway w :=
  { item with mPresetValue := newBits E presetId equip unequip item }

theorem update_eq (inven : Inventory w) (presetId : ℕ) (equip unequip : List ItemDBId)
    (hnd : (inven.mItemDataGatewayList.map (·.mItemDBId)).Nodup) :
    (updateItemPresetInfo E inven presetId equip unequip).2.1.mItemDataGatewayList =
      inven.mItemDataGatewayList.map (updateItem E presetId equip unequip) := by
  have hor : ∀ v : BitVec w, v ||| presetBit E w presetId ||| presetBit E w presetId = v ||| presetBit E w presetId :=
    fun v => by rw [BitVec.or_assoc, BitVec.or_self]
  have hand : ∀ v : BitVec w, v &&& ~~~presetBit E w presetId &&& ~~~presetBit E w presetId =
      v &&& ~~~presetBit E w presetId := fun v => by rw [BitVec.and_assoc, BitVec.and_self]
  unfold updateItemPresetInfo
  dsimp only
  rw [updateBits_fst, updateBits_fst, foldl_mapBits (· ||| presetBit E w presetId) hor hnd,
    foldl_mapBits (· &&& ~~~presetBit E w presetId) hand ((ids_mapListed _ equip _).symm ▸ hnd), mapListed, mapListed,
    List.map_map]
  apply List.map_congr_left
  intro item _
  by_cases he : item.mItemDBId ∈ equip <;> by_cases hu : item.mItemDBId ∈ unequip <;>
    simp [he, hu, updateItem, newBits, mapBits]

theorem update_ids (inven : Inventory w) (presetId : ℕ) (equip unequip : List ItemDBId)
    (hnd : (inven.mItemDataGatewayList.map (·.mItemDBId)).Nodup) :
    (updateItemPresetInfo E inven presetId equip unequip).2.1.mItemDataGatewayList.map (·.mItemDBId) =
      inven.mItemDataGatewayList.map (·.mItemDBId) := by
  rw [update_eq E inven presetId equip unequip hnd]
  exact Keyed.keys_map (updateItem E presetId equip unequip) (fun _ => rfl) _

/-- bit by bit: the preset's bit follows the lists, all others stay -/
theorem newBits_getLsbD {presetId : ℕ} (hp : ValidPreset E w presetId) (equip unequip : List ItemDBId)
    (item : ItemDataGateway w) (b : ℕ) :
    (newBits E presetId equip unequip item).getLsbD b =
      if b = presetId - E.MIN_PRESET_ID then
        (item.mPresetValue.getLsbD b || decide (item.mItemDBId ∈ equip)) && !decide (item.mItemDBId ∈ unequip)
      else item.mPresetValue.getLsbD b := by
  unfold newBits
  dsimp only
  have hwidth : item.mPresetValue.getLsbD b = true → b < w := BitVec.lt_of_getLsbD
  have hbit := presetBit_getLsbD E hp b
  have hp' := hp.2.1
  by_cases he : item.mItemDBId ∈ equip <;> by_cases hu : item.mItemDBId ∈ unequip <;>
    by_cases hb : b = presetId - E.MIN_PRESET_ID <;>
    simp_all [BitVec.getLsbD_or, BitVec.getLsbD_and, BitVec.getLsbD_not]

/-! ## `CacheItemDataList` -/

/-- the bits of an item id that stored presets add to older bits -/
def granted (itemPresetInfoList : List ItemPresetInfo) (itemDBId : ItemDBId) (presetValue : BitVec w) : BitVec w :=
  itemPresetInfoList.foldl
    (fun presetValue info =>
      if itemDBId ≠ E.INVALID_ITEM_DB_ID ∧ itemDBId ∈ info.mEquipItemDBIdList then
        presetValue ||| presetBit E w info.mPresetId
      else presetValue) presetValue

theorem cachePreset_eq (info : ItemPresetInfo) {items : List (ItemDataGateway w)} (hnd : (items.map (·.mItemDBId)).Nodup) :
    cachePreset E items info = mapListed (· ||| presetBit E w info.mPresetId)
      (info.mEquipItemDBIdList.filter (· ≠ E.INVALID_ITEM_DB_ID)) items := by
  have hor : ∀ v : BitVec w, v ||| presetBit E w info.mPresetId ||| presetBit E w info.mPresetId =
      v ||| presetBit E w info.mPresetId := fun v => by rw [BitVec.or_assoc, BitVec.or_self]
  rw [← foldl_mapBits (· ||| presetBit E w info.mPresetId) hor hnd, List.foldl_filter]
  unfold cachePreset
  congr 1
  funext items itemDBId
  by_cases hid : itemDBId = E.INVALID_ITEM_DB_ID
  · simp [hid]
  · simp only [hid, if_false, ne_eq, not_false_eq_true, decide_true, if_true]
    rfl

theorem cachePresets_eq (infos : List ItemPresetInfo) {items : List (ItemDataGateway w)}
    (hnd : (items.map (·.mItemDBId)).Nodup) :
    infos.foldl (cachePreset E) items =
      items.map fun item => { item with mPresetValue := granted E infos item.mItemDBId item.mPresetValue } := by
  induction infos generalizing items with
  | nil =>
    have hid : (fun item : ItemDataGateway w =>
        { item with mPresetValue := granted E [] item.mItemDBId item.mPresetValue }) = id := rfl
    rw [hid, List.map_id, List.foldl_nil]
  | cons info infos ih =>
    rw [List.foldl_cons, cachePreset_eq E info hnd, ih ((ids_mapListed _ _ items).symm ▸ hnd), mapListed, List.map_map]
    apply List.map_congr_left
    intro item _
    by_cases hid : item.mItemDBId = E.INVALID_ITEM_DB_ID <;>
      by_cases hmem : item.mItemDBId ∈ info.mEquipItemDBIdList <;> simp [granted, mapBits, hid, hmem]

/-- a bit is old, or its preset lists the item -/
theorem granted_getLsbD {infos : List ItemPresetInfo} (hpresets : ∀ info ∈ infos, ValidPreset E w info.mPresetId)
    (itemDBId : ItemDBId) (presetValue : BitVec w) (b : ℕ) :
    (granted E infos itemDBId presetValue).getLsbD b = true ↔ presetValue.getLsbD b = true ∨
      itemDBId ≠ E.INVALID_ITEM_DB_ID ∧
        ∃ info ∈ infos, info.mPresetId - E.MIN_PRESET_ID = b ∧ itemDBId ∈ info.mEquipItemDBIdList := by
  induction infos generalizing presetValue with
  | nil => simp [granted]
  | cons info infos ih =>
    have hvalid := hpresets info List.mem_cons_self
    have hcons : granted E (info :: infos) itemDBId presetValue = granted E infos itemDBId
        (if itemDBId ≠ E.INVALID_ITEM_DB_ID ∧ itemDBId ∈ info.mEquipItemDBIdList then
          presetValue ||| presetBit E w info.mPresetId else presetValue) := rfl
    rw [hcons, ih fun info' hinfo' => hpresets info' (List.mem_cons_of_mem info hinfo')]
    split_ifs with hlisted
    · rw [BitVec.getLsbD_or, presetBit_getLsbD E hvalid, Bool.or_eq_true, decide_eq_true_eq, or_assoc]
      constructor
      · rintro (h | ⟨-, hb⟩ | ⟨hid, info', h3, h4⟩)
        · exact Or.inl h
        · exact Or.inr ⟨hlisted.1, info, List.mem_cons_self, hb.symm, hlisted.2⟩
        · exact Or.inr ⟨hid, info', List.mem_cons_of_mem info h3, h4⟩
      · rintro (h | ⟨hid, info', h3, h4, h5⟩)
        · exact Or.inl h
        · rcases List.mem_cons.1 h3 with rfl | h3
          · exact Or.inr (Or.inl ⟨h4 ▸ hvalid.2.1, h4.symm⟩)
          · exact Or.inr (Or.inr ⟨hid, info', h3, h4, h5⟩)
    · refine or_congr Iff.rfl (and_congr_right fun hid => ?_)
      have hnot : itemDBId ∉ info.mEquipItemDBIdList := fun hmem => hlisted ⟨hid, hmem⟩
      simp [hnot]

/-- the id and the bits of each item -/
def idBits (items : List (ItemDataGateway w)) : List (ItemDBId × BitVec w) :=
  items.map fun item => (item.mItemDBId, item.mPresetValue)

/-- sockets do not touch the bits -/
theorem idBits_cacheSocket (items : List (ItemDataGateway w)) (info : ItemSocketInfo) :
    idBits (cacheSocket E items info) = idBits items := by
  unfold cacheSocket
  split
  · rfl
  · refine List.foldlRecOn (motive := fun s => idBits s = idBits items) _ _ rfl fun s hs socketId _ => ?_
    dsimp only
    split_ifs
    · exact hs
    · rw [← hs]
      refine Keyed.map_modify ItemDataGateway.mItemDBId (fun item => ?_) _ s
      rfl

/-- the bits after a load -/
theorem idBits_load (items : List (ItemDataGateway w)) (infos : List ItemPresetInfo) (sockets : List ItemSocketInfo)
    (hnd : (items.map (·.mItemDBId)).Nodup) :
    idBits (cacheItemDataList E items infos sockets).mItemDataGatewayList =
      items.map fun item => (item.mItemDBId, granted E infos item.mItemDBId item.mPresetValue) := by
  have hsockets : idBits (cacheItemDataList E items infos sockets).mItemDataGatewayList =
      idBits (infos.foldl (cachePreset E) items) :=
    List.foldlRecOn (motive := fun s => idBits s = idBits (infos.foldl (cachePreset E) items)) sockets _ rfl
      fun s hs info _ => (idBits_cacheSocket E s info).trans hs
  rw [hsockets, cachePresets_eq E infos hnd, idBits, List.map_map]
  rfl

end

end GameServer.Items
