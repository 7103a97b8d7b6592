/-
Preset updates over whole runs: bits, stored arrays and reload.

A run starts at a load and serves preset updates. An accepted update stores the array of the validation in place of the
preset's last one and changes the bits; any other request changes nothing.

- `update_agree`: after an accepted update the array is the table of the worn slots.
- `run_listed`: an item has a bit exactly when the stored array of this preset lists it, for every preset updated in the run and
  every other one of which this was so at the start.
- `preset_updates`: the array slot by slot, what an update leaves alone, and when the reload rebuilds the bits.
- `preset_updates_fails`: bits that items bring along, a preset at the sign of the shifted `int`, and an item under the id that
  means no item.

The loader adds to the bits that an item brings along. Those of a preset that is neither stored nor updated are in no array.
-/
import Mathlib.Tactic
import GameServer.Core.Run
import GameServer.Items.PresetArray
import GameServer.Items.PresetBits

namespace GameServer.Items

open GameServer.Core

section

variable {w : ℕ} (E : Env)

/-! ## The run -/

structure State (w : ℕ) where
  inven : Inventory w
  /-- the last stored array of each preset -/
  itemPresetInfoList : List ItemPresetInfo

structure Request where
  presetId : ℕ
  equipItemDBIdList : List ItemDBId
  unequipItemDBIdList : List ItemDBId

/-- validation, store of the array, and update -/
def presetUpdate (s : State w) (r : Request) : State w :=
  match validateItemPresetUpdate E s.inven r.presetId r.equipItemDBIdList r.unequipItemDBIdList with
  | .error _ => s
  | .ok itemPresetArray =>
    { inven := (updateItemPresetInfo E s.inven r.presetId r.equipItemDBIdList r.unequipItemDBIdList).2.1
      itemPresetInfoList := s.itemPresetInfoList.filter (·.mPresetId ≠ r.presetId) ++ [⟨r.presetId, itemPresetArray⟩] }

structure Legal (s : State w) (r : Request) : Prop where
  preset : ValidPreset E w r.presetId
  /-- existing items to put on are equip items of a category in range -/
  equip : ∀ item ∈ s.inven.mItemDataGatewayList, item.mItemDBId ∈ r.equipItemDBIdList → (catSlot E item).isSome

/-! ## One update -/

section Update

variable {E} {inven : Inventory w} {presetId : ℕ} {equip unequip A : List ItemDBId}

/-- an accepted request has no id in both lists, so the new bit is the union less the unequipped -/
theorem hasBit_update (hp : ValidPreset E w presetId) (item : ItemDataGateway w)
    (hequip : item.mItemDBId ∈ equip → hasBit (presetBit E w presetId) item = false)
    (hunequip : item.mItemDBId ∈ unequip → hasBit (presetBit E w presetId) item = true) :
    hasBit (presetBit E w presetId) (updateItem E presetId equip unequip item) =
      if item.mItemDBId ∈ equip then true else if item.mItemDBId ∈ unequip then false
      else hasBit (presetBit E w presetId) item := by
  rw [hasBit_eq E hp] at hequip hunequip ⊢
  rw [hasBit_eq E hp, updateItem, newBits_getLsbD E hp, if_pos rfl]
  by_cases he : item.mItemDBId ∈ equip <;> by_cases hu : item.mItemDBId ∈ unequip
  · have h := hequip he
    rw [hunequip hu] at h
    cases h
  all_goals simp [he, hu]

/-- **After an accepted update the array is the table of the worn slots**, and every worn item has a slot. -/
theorem update_agree (hA : validateItemPresetUpdate E inven presetId equip unequip = .ok A)
    (hp : ValidPreset E w presetId) (hnd : (inven.mItemDataGatewayList.map (·.mItemDBId)).Nodup)
    (hids : ∀ item ∈ inven.mItemDataGatewayList, item.mItemDBId ≠ E.INVALID_ITEM_DB_ID)
    (hequip : ∀ item ∈ inven.mItemDataGatewayList, item.mItemDBId ∈ equip → (catSlot E item).isSome) :
    A.length = slotCount E ∧
    Agree (occ E A) (worn E (updateItemPresetInfo E inven presetId equip unequip).2.1.mItemDataGatewayList
      (presetBit E w presetId)) ∧
    ∀ item ∈ (updateItemPresetInfo E inven presetId equip unequip).2.1.mItemDataGatewayList,
      hasBit (presetBit E w presetId) item = true → (catSlot E item).isSome := by
  have hequip' : ∀ a ∈ equip, ∀ item, getItemData inven.mItemDataGatewayList a = some item → (catSlot E item).isSome := by
    rintro a ha item hfound
    obtain ⟨hmem, rfl⟩ := Keyed.find_some hfound
    exact hequip item hmem ha
  obtain ⟨hlen, hagree, hslots, hold, hnew⟩ := validate_agree E hA hnd hids hequip'
  rw [update_eq E inven presetId equip unequip hnd]
  have hfind : ∀ item ∈ inven.mItemDataGatewayList,
      getItemData inven.mItemDataGatewayList item.mItemDBId = some item := fun item hmem =>
    (Keyed.find_eq_some hnd).2 ⟨hmem, rfl⟩
  have hbit : ∀ item ∈ inven.mItemDataGatewayList,
      hasBit (presetBit E w presetId) (updateItem E presetId equip unequip item) =
        if item.mItemDBId ∈ equip then true else if item.mItemDBId ∈ unequip then false
        else hasBit (presetBit E w presetId) item := by
    intro item hmem
    refine hasBit_update hp item (fun he => ?_) fun hu => ?_
    · obtain ⟨found, hfound, hb⟩ := hnew _ he
      rwa [Option.some.inj ((hfind item hmem).symm.trans hfound)]
    · obtain ⟨found, hfound, hb⟩ := hold _ hu
      rwa [Option.some.inj ((hfind item hmem).symm.trans hfound)]
  refine ⟨hlen, hagree.congr (fun _ => rfl) fun a => ?_, ?_⟩
  · have hmap : getItemData (inven.mItemDataGatewayList.map (updateItem E presetId equip unequip)) a =
        (getItemData inven.mItemDataGatewayList a).map (updateItem E presetId equip unequip) :=
      Keyed.find_map (updateItem E presetId equip unequip) (fun _ => rfl) a
    unfold worn idSlot
    rw [hmap]
    cases hfound : getItemData inven.mItemDataGatewayList a with
    | none =>
      simp
    | some item =>
      obtain ⟨hmem, rfl⟩ := Keyed.find_some hfound
      have hslot : catSlot E (updateItem E presetId equip unequip item) = catSlot E item := rfl
      rw [Option.map_some]
      dsimp only
      rw [hbit item hmem, hslot]
      by_cases he : item.mItemDBId ∈ equip
      · simp [he]
      · by_cases hu : item.mItemDBId ∈ unequip <;> simp [he, hu]
  · intro item' hmem' hb
    obtain ⟨item, hmem, rfl⟩ := List.mem_map.1 hmem'
    rw [hbit item hmem] at hb
    split_ifs at hb with he hu
    · exact hequip item hmem he
    · exact hslots item hmem hb

end Update

/-! ## Bits and stored arrays -/

structure Inv (s : State w) : Prop where
  distinct : (s.inven.mItemDataGatewayList.map (·.mItemDBId)).Nodup
  ids : ∀ item ∈ s.inven.mItemDataGatewayList, item.mItemDBId ≠ E.INVALID_ITEM_DB_ID
  presets : ∀ info ∈ s.itemPresetInfoList, ValidPreset E w info.mPresetId

/-- a stored array of the preset with bit b lists the id -/
def ListsAt (infos : List ItemPresetInfo) (b : ℕ) (itemDBId : ItemDBId) : Prop :=
  ∃ info ∈ infos, info.mPresetId - E.MIN_PRESET_ID = b ∧ itemDBId ∈ info.mEquipItemDBIdList

/-- an item has bit b exactly when the stored array of this preset lists the item -/
def Listed (s : State w) (b : ℕ) : Prop :=
  ∀ item ∈ s.inven.mItemDataGatewayList,
    item.mPresetValue.getLsbD b = true ↔ ListsAt E s.itemPresetInfoList b item.mItemDBId

/-- the ids in a table are the occupants of its slots -/
theorem mem_array {A : List ItemDBId} {a : ItemDBId} (ha : a ≠ E.INVALID_ITEM_DB_ID) :
    a ∈ A ↔ ∃ i, occ E A i = some a := by
  rw [List.mem_iff_getElem?]
  apply exists_congr
  intro i
  unfold occ
  split
  · rename_i hnone
    rw [hnone]
  · rename_i found hfound
    rw [hfound]
    split_ifs with hinvalid
    · subst hinvalid
      simp [Ne.symm ha]
    · exact Iff.rfl

/-- a worn slot belongs to a member -/
theorem worn_eq_some {items : List (ItemDataGateway w)} (hnd : (items.map (·.mItemDBId)).Nodup) {v : BitVec w}
    {item : ItemDataGateway w} (hmem : item ∈ items) :
    worn E items v item.mItemDBId = if hasBit v item = true then catSlot E item else none := by
  have hfind : getItemData items item.mItemDBId = some item := (Keyed.find_eq_some hnd).2 ⟨hmem, rfl⟩
  rw [worn, hfind]

theorem presetUpdate_ok {s : State w} {r : Request} {A : List ItemDBId}
    (hA : validateItemPresetUpdate E s.inven r.presetId r.equipItemDBIdList r.unequipItemDBIdList = .ok A) :
    presetUpdate E s r =
      { inven := (updateItemPresetInfo E s.inven r.presetId r.equipItemDBIdList r.unequipItemDBIdList).2.1
        itemPresetInfoList := s.itemPresetInfoList.filter (·.mPresetId ≠ r.presetId) ++ [⟨r.presetId, A⟩] } := by
  rw [presetUpdate, hA]

theorem presetUpdate_error {s : State w} {r : Request} {e : Exit}
    (he : validateItemPresetUpdate E s.inven r.presetId r.equipItemDBIdList r.unequipItemDBIdList = .error e) :
    presetUpdate E s r = s := by
  rw [presetUpdate, he]

/-- step lemma -/
theorem presetUpdate_inv {s : State w} {r : Request} (hinv : Inv E s) (hlegal : Legal E s r) :
    Inv E (presetUpdate E s r) := by
  cases hA : validateItemPresetUpdate E s.inven r.presetId r.equipItemDBIdList r.unequipItemDBIdList with
  | error e => rwa [presetUpdate_error E hA]
  | ok A =>
    rw [presetUpdate_ok E hA]
    have hids := update_ids E s.inven r.presetId r.equipItemDBIdList r.unequipItemDBIdList hinv.distinct
    refine ⟨?_, ?_, ?_⟩
    · rw [hids]
      exact hinv.distinct
    · intro item hmem
      have hid : item.mItemDBId ∈ s.inven.mItemDataGatewayList.map (·.mItemDBId) := hids ▸ List.mem_map_of_mem hmem
      obtain ⟨old, hold, hkey⟩ := List.mem_map.1 hid
      exact hkey ▸ hinv.ids old hold
    · intro info hinfo
      rcases List.mem_append.1 hinfo with hinfo | hinfo
      · exact hinv.presets info (List.mem_filter.1 hinfo).1
      · rw [List.mem_singleton.1 hinfo]
        exact hlegal.preset

/-- after an update the stored array is the one of its preset, and the others are as before -/
theorem listsAt_update {infos : List ItemPresetInfo} (hpresets : ∀ info ∈ infos, ValidPreset E w info.mPresetId)
    {presetId : ℕ} (hp : ValidPreset E w presetId) (A : List ItemDBId) (b : ℕ) (itemDBId : ItemDBId) :
    ListsAt E (infos.filter (·.mPresetId ≠ presetId) ++ [⟨presetId, A⟩]) b itemDBId ↔
      if b = presetId - E.MIN_PRESET_ID then itemDBId ∈ A else ListsAt E infos b itemDBId := by
  have hsame : ∀ info ∈ infos,
      (info.mPresetId - E.MIN_PRESET_ID = presetId - E.MIN_PRESET_ID ↔ info.mPresetId = presetId) := by
    intro info hinfo
    have h1 := (hpresets info hinfo).1
    have h2 := hp.1
    omega
  unfold ListsAt
  simp only [List.mem_append, List.mem_filter, List.mem_singleton, or_and_right, exists_or, exists_eq_left]
  split_ifs with hb
  · subst hb
    constructor
    · rintro (⟨info, ⟨hinfo, hne⟩, hshift, -⟩ | ⟨-, hin⟩)
      · exact absurd ((hsame info hinfo).1 hshift) (of_decide_eq_true hne)
      · exact hin
    · exact fun hin => Or.inr ⟨rfl, hin⟩
  · constructor
    · rintro (⟨info, ⟨hinfo, -⟩, hshift, hin⟩ | ⟨hshift, -⟩)
      · exact ⟨info, hinfo, hshift, hin⟩
      · exact absurd hshift.symm hb
    · rintro ⟨info, hinfo, hshift, hin⟩
      have hne : info.mPresetId ≠ presetId := fun heq => hb (by rw [← hshift, heq])
      exact Or.inl ⟨info, ⟨hinfo, decide_eq_true hne⟩, hshift, hin⟩

/-- **Step lemma.** An accepted update brings the bits of its preset together with the stored array, and leaves the others
as they are. -/
theorem presetUpdate_listed {s : State w} {r : Request} (hinv : Inv E s) (hlegal : Legal E s r) {A : List ItemDBId}
    (hA : validateItemPresetUpdate E s.inven r.presetId r.equipItemDBIdList r.unequipItemDBIdList = .ok A) (b : ℕ) :
    Listed E (presetUpdate E s r) b ↔ r.presetId - E.MIN_PRESET_ID = b ∨ Listed E s b := by
  obtain ⟨-, hagree, hslots⟩ := update_agree hA hlegal.preset hinv.distinct hinv.ids hlegal.equip
  have hinv' := presetUpdate_inv E hinv hlegal
  rw [presetUpdate_ok E hA] at hinv' ⊢
  unfold Listed
  simp only [listsAt_update E hinv.presets hlegal.preset A]
  by_cases hb : b = r.presetId - E.MIN_PRESET_ID
  · subst hb
    refine iff_of_true (fun item' hmem' => ?_) (Or.inl rfl)
    -- the new array is the table of the worn slots
    have hnew := worn_eq_some E hinv'.distinct (v := presetBit E w r.presetId) hmem'
    rw [if_pos rfl, ← hasBit_eq E hlegal.preset, mem_array E (hinv'.ids item' hmem')]
    constructor
    · intro hbit
      obtain ⟨i, hi⟩ := Option.isSome_iff_exists.1 (hslots item' hmem' hbit)
      rw [if_pos hbit, hi] at hnew
      exact ⟨i, (hagree i _).2 hnew⟩
    · rintro ⟨i, hi⟩
      rw [(hagree i _).1 hi] at hnew
      by_contra hbit
      rw [if_neg hbit] at hnew
      cases hnew
  · -- another bit: unchanged, and so are the arrays of its preset
    have hne : ¬ r.presetId - E.MIN_PRESET_ID = b := Ne.symm hb
    simp only [if_neg hb, hne, false_or, update_eq E s.inven r.presetId _ _ hinv.distinct, List.forall_mem_map]
    refine forall₂_congr fun item _ => ?_
    have hbits : (updateItem E r.presetId r.equipItemDBIdList r.unequipItemDBIdList item).mPresetValue.getLsbD b =
        item.mPresetValue.getLsbD b := (newBits_getLsbD E hlegal.preset _ _ item b).trans (if_neg hb)
    rw [hbits]
    rfl

/-- the presets that the accepted requests of a run have updated -/
def updatedPresets (s : State w) : List Request → List ℕ
  | [] => []
  | r :: requests =>
    let rest := updatedPresets (presetUpdate E s r) requests
    match validateItemPresetUpdate E s.inven r.presetId r.equipItemDBIdList r.unequipItemDBIdList with
    | .error _ => rest
    | .ok _ => r.presetId :: rest

/-- run lemma -/
theorem run_listed {s : State w} (hinv : Inv E s) {requests : List Request}
    (hlegal : LegalRun (presetUpdate E) (Legal E) s requests) (b : ℕ) :
    Listed E (run (presetUpdate E) s requests) b ↔
      (∃ presetId ∈ updatedPresets E s requests, presetId - E.MIN_PRESET_ID = b) ∨ Listed E s b := by
  induction requests generalizing s with
  | nil => simp [updatedPresets]
  | cons r requests ih =>
    rw [run_cons, ih (presetUpdate_inv E hinv hlegal.1) hlegal.2, updatedPresets]
    cases hA : validateItemPresetUpdate E s.inven r.presetId r.equipItemDBIdList r.unequipItemDBIdList with
    | error e =>
      dsimp only
      rw [presetUpdate_error E hA]
    | ok A =>
      dsimp only
      rw [presetUpdate_listed E hinv hlegal.1 hA, List.exists_mem_cons_iff, ← or_assoc]
      exact or_congr_left or_comm

/-! ## Runs from a load -/

/-- the state after a load -/
def loaded (items : List (ItemDataGateway w)) (infos : List ItemPresetInfo) (sockets : List ItemSocketInfo) : State w where
  inven := cacheItemDataList E items infos sockets
  itemPresetInfoList := infos

/-- every bit that an item brings along is of a preset that lists the item or is updated -/
def Covered (items : List (ItemDataGateway w)) (infos : List ItemPresetInfo) (updated : List ℕ) : Prop :=
  ∀ item ∈ items, ∀ b, item.mPresetValue.getLsbD b = true →
    (∃ presetId ∈ updated, presetId - E.MIN_PRESET_ID = b) ∨ ListsAt E infos b item.mItemDBId

/-- without such bits nothing is asked -/
theorem covered_of_cleared {items : List (ItemDataGateway w)} (h : ∀ item ∈ items, item.mPresetValue = 0)
    (infos : List ItemPresetInfo) (updated : List ℕ) : Covered E items infos updated := by
  intro item hmem b hbit
  rw [h item hmem, BitVec.ofNat_eq_ofNat, BitVec.getLsbD_zero] at hbit
  cases hbit

section Load

variable {items : List (ItemDataGateway w)} {infos : List ItemPresetInfo} {sockets : List ItemSocketInfo}
  (hnd : (items.map (·.mItemDBId)).Nodup) (hids : ∀ item ∈ items, item.mItemDBId ≠ E.INVALID_ITEM_DB_ID)
  (hpresets : ∀ info ∈ infos, ValidPreset E w info.mPresetId)

include hnd in
/-- an item of a load comes from an item that was read -/
theorem mem_loaded {item : ItemDataGateway w} (hmem : item ∈ (loaded E items infos sockets).inven.mItemDataGatewayList) :
    ∃ read ∈ items, read.mItemDBId = item.mItemDBId ∧
      granted E infos read.mItemDBId read.mPresetValue = item.mPresetValue := by
  have hpair : (item.mItemDBId, item.mPresetValue) ∈ idBits (loaded E items infos sockets).inven.mItemDataGatewayList :=
    List.mem_map.2 ⟨item, hmem, rfl⟩
  rw [loaded, idBits_load E items infos sockets hnd] at hpair
  obtain ⟨read, hread, heq⟩ := List.mem_map.1 hpair
  exact ⟨read, hread, congrArg Prod.fst heq, congrArg Prod.snd heq⟩

include hnd hids hpresets

theorem loaded_inv : Inv E (loaded E items infos sockets) := by
  refine ⟨?_, ?_, hpresets⟩
  · have hfst := congrArg (List.map Prod.fst) (idBits_load E items infos sockets hnd)
    rw [idBits, List.map_map, List.map_map] at hfst
    have hkeys : (loaded E items infos sockets).inven.mItemDataGatewayList.map (·.mItemDBId) =
        items.map (·.mItemDBId) := hfst
    rw [hkeys]
    exact hnd
  · intro item hmem
    obtain ⟨read, hread, hid, -⟩ := mem_loaded E hnd hmem
    exact hid ▸ hids read hread

/-- the loader lists a bit, unless an item brings it along -/
theorem loaded_listed_iff (b : ℕ) : Listed E (loaded E items infos sockets) b ↔
    ∀ item ∈ items, item.mPresetValue.getLsbD b = true → ListsAt E infos b item.mItemDBId := by
  have hbits : Listed E (loaded E items infos sockets) b ↔
      ∀ p ∈ idBits (loaded E items infos sockets).inven.mItemDataGatewayList,
        p.2.getLsbD b = true ↔ ListsAt E infos b p.1 := by
    rw [idBits, List.forall_mem_map]
    rfl
  rw [hbits, loaded, idBits_load E items infos sockets hnd, List.forall_mem_map]
  refine forall₂_congr fun item hmem => ?_
  rw [granted_getLsbD E hpresets]
  have hid := hids item hmem
  constructor
  · exact fun h hold => h.1 (Or.inl hold)
  · exact fun h => ⟨fun hor => hor.elim h And.right, fun hlists => Or.inr ⟨hid, hlists⟩⟩

/-- run lemma -/
theorem run_inv_loaded {requests : List Request}
    (hlegal : LegalRun (presetUpdate E) (Legal E) (loaded E items infos sockets) requests) :
    Inv E (run (presetUpdate E) (loaded E items infos sockets) requests) ∧
      ((∀ b, Listed E (run (presetUpdate E) (loaded E items infos sockets) requests) b) ↔
        Covered E items infos (updatedPresets E (loaded E items infos sockets) requests)) := by
  have hstart : Inv E (loaded E items infos sockets) := loaded_inv E hnd hids hpresets
  refine ⟨run_inv (fun s r => presetUpdate_inv E) hstart hlegal, ?_⟩
  simp only [run_listed E hstart hlegal, loaded_listed_iff E hnd hids hpresets]
  constructor
  · exact fun h item hmem b hbit => (h b).imp_right fun hlists => hlists item hmem hbit
  · intro h b
    by_cases hupdated : ∃ presetId ∈ updatedPresets E (loaded E items infos sockets) requests,
        presetId - E.MIN_PRESET_ID = b
    · exact Or.inl hupdated
    · exact Or.inr fun item hmem hbit => (h item hmem b hbit).resolve_left hupdated

end Load

/-! ## The result -/

/-- an item with the preset's bit and the slot's category -/
def Wears (presetId i : ℕ) (item : ItemDataGateway w) : Prop :=
  hasBit (presetBit E w presetId) item = true ∧ catSlot E item = some i

instance (presetId i : ℕ) (item : ItemDataGateway w) : Decidable (Wears E presetId i item) :=
  inferInstanceAs (Decidable (hasBit (presetBit E w presetId) item = true ∧ catSlot E item = some i))

/-- slot by slot the one item that wears the slot, or `INVALID_ITEM_DB_ID` -/
structure Table (presetId : ℕ) (A : List ItemDBId) (items : List (ItemDataGateway w)) : Prop where
  length : A.length = slotCount E
  slot : ∀ i < slotCount E,
    (∃ item ∈ items, A[i]? = some item.mItemDBId ∧ Wears E presetId i item ∧
      ∀ item' ∈ items, Wears E presetId i item' → item' = item) ∨
    (A[i]? = some E.INVALID_ITEM_DB_ID ∧ ∀ item ∈ items, ¬ Wears E presetId i item)
  /-- no item has the bit without a slot -/
  worn : ∀ item ∈ items, hasBit (presetBit E w presetId) item = true → ∃ i < slotCount E, Wears E presetId i item

/-- the same items, apart from the bit of one preset -/
def SameButBit (presetId : ℕ) (items items' : List (ItemDataGateway w)) : Prop :=
  List.Forall₂ (fun item item' => item' = { item with mPresetValue := item'.mPresetValue } ∧
    ∀ b, b ≠ presetId - E.MIN_PRESET_ID → item'.mPresetValue.getLsbD b = item.mPresetValue.getLsbD b) items items'

/-- the items with preset bits cleared -/
def cleared (items : List (ItemDataGateway w)) : List (ItemDataGateway w) :=
  items.map fun item => { item with mPresetValue := 0 }

/-- a load of the cleared items from the stored arrays gives every item its bits -/
def Rebuilt (s : State w) : Prop :=
  ∀ sockets,
    idBits (cacheItemDataList E (cleared s.inven.mItemDataGatewayList) s.itemPresetInfoList sockets).mItemDataGatewayList =
      idBits s.inven.mItemDataGatewayList

theorem catSlot_lt {item : ItemDataGateway w} {i : ℕ} (h : catSlot E item = some i) : i < slotCount E := by
  unfold catSlot at h
  split at h
  · cases h
  · split_ifs at h with hcat
    unfold slotCount
    have := Option.some.inj h
    omega

theorem table_of_agree {presetId : ℕ} {A : List ItemDBId} {items : List (ItemDataGateway w)} (hlen : A.length = slotCount E)
    (hnd : (items.map (·.mItemDBId)).Nodup) (hagree : Agree (occ E A) (worn E items (presetBit E w presetId)))
    (hslots : ∀ item ∈ items, hasBit (presetBit E w presetId) item = true → (catSlot E item).isSome) :
    Table E presetId A items := by
  have hclaim : ∀ item ∈ items, ∀ i, Wears E presetId i item → occ E A i = some item.mItemDBId := by
    intro item hmem i hwears
    refine (hagree i _).2 ?_
    rw [worn_eq_some E hnd hmem, if_pos hwears.1]
    exact hwears.2
  refine ⟨hlen, ?_, ?_⟩
  · intro i hi
    have hlt : i < A.length := hlen ▸ hi
    obtain ⟨a, hget⟩ : ∃ a, A[i]? = some a := ⟨A[i], List.getElem?_eq_getElem hlt⟩
    by_cases ha : a = E.INVALID_ITEM_DB_ID
    · rw [ha] at hget
      have hocc := occ_free E hget
      refine Or.inr ⟨hget, fun item hmem hwears => ?_⟩
      rw [hclaim item hmem i hwears] at hocc
      cases hocc
    · have hocc := occ_taken E hget ha
      have hworn : worn E items (presetBit E w presetId) a = some i := (hagree i a).1 hocc
      unfold worn at hworn
      split at hworn
      · cases hworn
      · rename_i item hfind
        split_ifs at hworn with hbit
        obtain ⟨hmem, rfl⟩ := Keyed.find_some hfind
        refine Or.inl ⟨item, hmem, hget, ⟨hbit, hworn⟩, fun item' hmem' hwears' => ?_⟩
        have hsame := (hclaim item' hmem' i hwears').symm.trans hocc
        exact List.inj_on_of_nodup_map hnd hmem' hmem (Option.some.inj hsame)
  · intro item hmem hbit
    obtain ⟨i, hslot⟩ := Option.isSome_iff_exists.1 (hslots item hmem hbit)
    exact ⟨i, catSlot_lt E hslot, hbit, hslot⟩

theorem rebuilt_iff {s : State w} (hinv : Inv E s) : Rebuilt E s ↔ ∀ b, Listed E s b := by
  have hnd : ((cleared s.inven.mItemDataGatewayList).map (·.mItemDBId)).Nodup := by
    rw [cleared, Keyed.keys_map (fun item : ItemDataGateway w => { item with mPresetValue := 0 }) (fun _ => rfl)]
    exact hinv.distinct
  have hgranted : ∀ item ∈ s.inven.mItemDataGatewayList, ∀ b,
      (granted E s.itemPresetInfoList item.mItemDBId (0 : BitVec w)).getLsbD b = true ↔
        ListsAt E s.itemPresetInfoList b item.mItemDBId := by
    intro item hmem b
    rw [granted_getLsbD E hinv.presets]
    simp [hinv.ids item hmem, ListsAt]
  have hload : ∀ sockets,
      idBits (cacheItemDataList E (cleared s.inven.mItemDataGatewayList) s.itemPresetInfoList sockets).mItemDataGatewayList =
        s.inven.mItemDataGatewayList.map fun item =>
          (item.mItemDBId, granted E s.itemPresetInfoList item.mItemDBId (0 : BitVec w)) := by
    intro sockets
    rw [idBits_load E _ _ sockets hnd, cleared, List.map_map]
    rfl
  unfold Rebuilt
  simp only [hload]
  constructor
  · intro h b item hmem
    have hpair := List.map_inj_left.1 (h []) item hmem
    have hvalue : granted E s.itemPresetInfoList item.mItemDBId 0 = item.mPresetValue := congrArg Prod.snd hpair
    rw [← hgranted item hmem b, hvalue]
  · intro h _
    refine List.map_congr_left fun item hmem => Prod.ext rfl (BitVec.eq_of_getLsbD_eq fun b _ => ?_)
    rw [Bool.eq_iff_iff]
    exact (hgranted item hmem b).trans (h b item hmem).symm

/-- **Preset updates.** After every update of a run the array shows, slot by slot, the one item that wears the slot; other
presets' bits and other fields are as before; and a reload from the stored arrays rebuilds all bits exactly if every bit that
an item brought to the load is of a preset that lists the item or has been updated. -/
theorem preset_updates {items : List (ItemDataGateway w)} {infos : List ItemPresetInfo} {sockets : List ItemSocketInfo}
    (hnd : (items.map (·.mItemDBId)).Nodup) (hids : ∀ item ∈ items, item.mItemDBId ≠ E.INVALID_ITEM_DB_ID)
    (hpresets : ∀ info ∈ infos, ValidPreset E w info.mPresetId) {requests : List Request}
    (hlegal : LegalRun (presetUpdate E) (Legal E) (loaded E items infos sockets) requests) {r : Request}
    (hr : Legal E (run (presetUpdate E) (loaded E items infos sockets) requests) r) {A : List ItemDBId}
    (hA : validateItemPresetUpdate E (run (presetUpdate E) (loaded E items infos sockets) requests).inven r.presetId
      r.equipItemDBIdList r.unequipItemDBIdList = .ok A) :
    Table E r.presetId A
      (run (presetUpdate E) (loaded E items infos sockets) (requests ++ [r])).inven.mItemDataGatewayList ∧
    SameButBit E r.presetId (run (presetUpdate E) (loaded E items infos sockets) requests).inven.mItemDataGatewayList
      (run (presetUpdate E) (loaded E items infos sockets) (requests ++ [r])).inven.mItemDataGatewayList ∧
    (Rebuilt E (run (presetUpdate E) (loaded E items infos sockets) (requests ++ [r])) ↔
      Covered E items infos (updatedPresets E (loaded E items infos sockets) (requests ++ [r]))) := by
  have hlegal' : LegalRun (presetUpdate E) (Legal E) (loaded E items infos sockets) (requests ++ [r]) :=
    (LegalRun.append_iff _ _ _).2 ⟨hlegal, hr, trivial⟩
  obtain ⟨hinv, -⟩ := run_inv_loaded E hnd hids hpresets hlegal
  obtain ⟨hinv', hlisted⟩ := run_inv_loaded E hnd hids hpresets hlegal'
  rw [rebuilt_iff E hinv', hlisted]
  rw [run_append, run_cons, run_nil] at hinv' ⊢
  generalize run (presetUpdate E) (loaded E items infos sockets) requests = s at *
  refine ⟨?_, ?_, Iff.rfl⟩
  · obtain ⟨hlen, hagree, hslots⟩ := update_agree hA hr.preset hinv.distinct hinv.ids hr.equip
    rw [presetUpdate_ok E hA] at hinv' ⊢
    exact table_of_agree E hlen hinv'.distinct hagree hslots
  · rw [presetUpdate_ok E hA]
    dsimp only
    rw [update_eq E s.inven _ _ _ hinv.distinct, SameButBit, List.forall₂_map_right_iff, List.forall₂_same]
    exact fun item _ => ⟨rfl, fun b hb => (newBits_getLsbD E hr.preset _ _ item b).trans (if_neg hb)⟩

/-- two equip categories; template 3 is no equip item -/
def sampleEnv : Env where
  INVALID_ITEM_DB_ID := 0
  MIN_PRESET_ID := 1
  MAX_EQUIP_MIN := 10
  MAX_EQUIP_MAX := 11
  MAX_SOCKET_COUNT := 1
  equip_max_lt := by decide
  find templateId := [(1, ⟨.EQUIP, 10⟩), (2, ⟨.EQUIP, 11⟩), (3, ⟨.other, 10⟩)].lookup templateId

/-- two items of one category, one of the other, and one that is no equip item -/
def sampleItems : List (ItemDataGateway 2) :=
  [(101, 1), (102, 1), (103, 2), (104, 3)].map fun p => ⟨p.1, p.2, 7, 1, false, 1, 1, 0, 0, 0, 0⟩

/-- item 101 is in both presets -/
def sampleInfos : List ItemPresetInfo := [⟨1, [101, 0]⟩, ⟨2, [101, 103]⟩]

/-- preset 1 swaps items of one category; a second request is refused -/
def sampleRequests : List Request := [⟨1, [102, 103], [101]⟩, ⟨2, [102], []⟩]

theorem preset_updates_sample :
    Table sampleEnv 2 [102, 0]
      (run (presetUpdate sampleEnv) (loaded sampleEnv sampleItems sampleInfos [])
        (sampleRequests ++ [⟨2, [102], [103, 101]⟩])).inven.mItemDataGatewayList ∧
    SameButBit sampleEnv 2
      (run (presetUpdate sampleEnv) (loaded sampleEnv sampleItems sampleInfos []) sampleRequests).inven.mItemDataGatewayList
      (run (presetUpdate sampleEnv) (loaded sampleEnv sampleItems sampleInfos [])
        (sampleRequests ++ [⟨2, [102], [103, 101]⟩])).inven.mItemDataGatewayList ∧
    Rebuilt sampleEnv (run (presetUpdate sampleEnv) (loaded sampleEnv sampleItems sampleInfos [])
      (sampleRequests ++ [⟨2, [102], [103, 101]⟩])) := by
  have hpresets : ∀ info ∈ sampleInfos, ValidPreset sampleEnv 2 info.mPresetId := by decide
  have hlegal : LegalRun (presetUpdate sampleEnv) (Legal sampleEnv) (loaded sampleEnv sampleItems sampleInfos [])
      sampleRequests := ⟨⟨by decide, by decide⟩, ⟨by decide, by decide⟩, trivial⟩
  have hr : Legal sampleEnv (run (presetUpdate sampleEnv) (loaded sampleEnv sampleItems sampleInfos []) sampleRequests)
      ⟨2, [102], [103, 101]⟩ := ⟨by decide, by decide⟩
  have hruns := preset_updates sampleEnv (by decide) (by decide) hpresets hlegal hr (A := [102, 0]) (by decide)
  exact ⟨hruns.1, hruns.2.1, hruns.2.2.2 (covered_of_cleared sampleEnv (by decide) sampleInfos _)⟩

/-- an item 101 with the given bits -/
def strayItems {w : ℕ} (presetValue : BitVec w) : List (ItemDataGateway w) :=
  [⟨101, 1, 7, 1, false, 1, 1, 0, presetValue, 0, 0⟩]

/-- two items of one category, the first under the id that means no item -/
def nullItems : List (ItemDataGateway 2) :=
  [(0, 1), (102, 1)].map fun p => ⟨p.1, p.2, 7, 1, false, 1, 1, 0, 0, 0, 0⟩

/-- **Where array, bits and reload do not agree.** An item brings the bit of preset 2 along, preset 1 is updated, and a reload
from its array loses the bit. With 64 bits in `PresetValue`, an update of the preset at the sign of the `int` changes the bits
of 32 others. An item under `INVALID_ITEM_DB_ID` shares its slot with another one. -/
theorem preset_updates_fails :
    (Legal sampleEnv (loaded sampleEnv (strayItems 2#2) [] []) ⟨1, [101], []⟩ ∧
      validateItemPresetUpdate sampleEnv (loaded sampleEnv (strayItems 2#2) [] []).inven 1 [101] [] = .ok [101, 0] ∧
      ¬ Rebuilt sampleEnv (run (presetUpdate sampleEnv) (loaded sampleEnv (strayItems 2#2) [] []) [⟨1, [101], []⟩])) ∧
    (32 - sampleEnv.MIN_PRESET_ID < 64 ∧
      validateItemPresetUpdate sampleEnv (loaded sampleEnv (strayItems 0#64) [] []).inven 32 [101] [] = .ok [101, 0] ∧
      ¬ SameButBit sampleEnv 32 (loaded sampleEnv (strayItems 0#64) [] []).inven.mItemDataGatewayList
        (run (presetUpdate sampleEnv) (loaded sampleEnv (strayItems 0#64) [] [])
          [⟨32, [101], []⟩]).inven.mItemDataGatewayList) ∧
    (Legal sampleEnv (loaded sampleEnv nullItems [] []) ⟨1, [0, 102], []⟩ ∧
      validateItemPresetUpdate sampleEnv (loaded sampleEnv nullItems [] []).inven 1 [0, 102] [] = .ok [102, 0] ∧
      ¬ Table sampleEnv 1 [102, 0]
        (run (presetUpdate sampleEnv) (loaded sampleEnv nullItems [] []) [⟨1, [0, 102], []⟩]).inven.mItemDataGatewayList) := by
  refine ⟨⟨⟨by decide, by decide⟩, by decide, fun h => ?_⟩, ⟨by decide, by decide, fun h => ?_⟩,
    ⟨by decide, by decide⟩, by decide, fun h => ?_⟩
  · have hload := h []
    revert hload
    decide
  · have hbit := (List.forall₂_cons.1 h).1.2 40 (by decide)
    revert hbit
    decide
  · have hboth : ∃ item ∈ (run (presetUpdate sampleEnv) (loaded sampleEnv nullItems [] [])
        [⟨1, [0, 102], []⟩]).inven.mItemDataGatewayList, ∃ item' ∈ (run (presetUpdate sampleEnv)
          (loaded sampleEnv nullItems [] []) [⟨1, [0, 102], []⟩]).inven.mItemDataGatewayList,
        item ≠ item' ∧ Wears sampleEnv 1 0 item ∧ Wears sampleEnv 1 0 item' := by decide
    obtain ⟨item, hmem, item', hmem', hne, hwears, hwears'⟩ := hboth
    rcases h.slot 0 (by decide) with ⟨one, -, -, -, honly⟩ | ⟨-, hnone⟩
    · exact hne ((honly item hmem hwears).trans (honly item' hmem' hwears').symm)
    · exact hnone item hmem hwears

end

end GameServer.Items
