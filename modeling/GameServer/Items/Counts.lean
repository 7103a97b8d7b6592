/-
Batches of item counts, `C++/Inventory.cpp`: a list of (item, count) pairs is validated and then applied as a whole.

`ValidateIncreaseItems`, `ValidateDecreaseItems` and `ValidateDeleteItems` look at the pairs one by one, against the inventory
as it is. So an item that is listed once is checked, and an item that is listed twice is checked twice against its full stack:
the sums of its counts and its second deletion are not (`batchItems_iff`).
-/
import Mathlib.Tactic
import GameServer.Core.Run
import GameServer.Core.Tally
import GameServer.Items.Sockets

namespace GameServer.Items

open GameServer.Core

section

variable {w : ℕ}

/-! ## Validation -/

/-- the loop of the three validations; `refused` compares a stack with a count -/
def validateCounts (refused : ℤ → ℤ → Bool) (items : List (ItemDataGateway w)) : List (ItemDBId × ℤ) → Bool
  | [] => true
  | (itemDBId, count) :: rest =>
    match getItemData items itemDBId with
    | none => false
    | some itemData => if refused itemData.mStackCount count = true then false else validateCounts refused items rest

/-- `ValidateIncreaseItems` -/
def validateIncreaseItems (MAX_ITEM_COUNT : ℤ) (inven : Inventory w) (pairs : List (ItemDBId × ℤ)) : Bool :=
  validateCounts (fun mStackCount count => MAX_ITEM_COUNT < mStackCount + count) inven.mItemDataGatewayList pairs

/-- `ValidateDecreaseItems` -/
def validateDecreaseItems (inven : Inventory w) (pairs : List (ItemDBId × ℤ)) : Bool :=
  validateCounts (fun mStackCount count => mStackCount ≤ count) inven.mItemDataGatewayList pairs

/-- `ValidateDeleteItems` -/
def validateDeleteItems (inven : Inventory w) (pairs : List (ItemDBId × ℤ)) : Bool :=
  validateCounts (fun mStackCount count => mStackCount ≠ count) inven.mItemDataGatewayList pairs

/-! ## Deletion -/

def deleteStep (inven : Inventory w) (itemDBId : ItemDBId) : Inventory w := (deleteItem inven itemDBId).2

/-- `DeleteItems`; a failed deletion does not end the loop -/
def deleteItems (inven : Inventory w) (itemDBIdList : List ItemDBId) : Inventory w := run deleteStep inven itemDBIdList

/-- the deletion finds an item and takes it out of the list -/
structure Removes (inven : Inventory w) (itemDBId : ItemDBId) : Prop where
  success : (deleteItem inven itemDBId).1 = true
  existed : (getItemData inven.mItemDataGatewayList itemDBId).isSome
  gone : getItemData (deleteStep inven itemDBId).mItemDataGatewayList itemDBId = none

/-! ## Whole lists -/

/-- no stack grows over the maximum -/
def IncreaseSound (MAX_ITEM_COUNT : ℤ) (inven : Inventory w) (pairs : List (ItemDBId × ℤ)) : Prop :=
  ∀ item ∈ inven.mItemDataGatewayList, item.mStackCount + Tally.sumAt item.mItemDBId pairs ≤ MAX_ITEM_COUNT

/-- something is left of every listed stack -/
def DecreaseSound (inven : Inventory w) (pairs : List (ItemDBId × ℤ)) : Prop :=
  ∀ item ∈ inven.mItemDataGatewayList, item.mItemDBId ∈ pairs.map Prod.fst →
    Tally.sumAt item.mItemDBId pairs < item.mStackCount

/-- every step of `DeleteItems` removes an item -/
def DeleteSound (inven : Inventory w) (pairs : List (ItemDBId × ℤ)) : Prop :=
  ∀ n itemDBId, (pairs.map Prod.fst)[n]? = some itemDBId →
    Removes (deleteItems inven ((pairs.map Prod.fst).take n)) itemDBId

variable {inven : Inventory w} {pairs : List (ItemDBId × ℤ)}

/-- every pair is checked against the inventory as it is -/
theorem validateCounts_iff {refused : ℤ → ℤ → Bool} {items : List (ItemDataGateway w)} :
    validateCounts refused items pairs = true ↔ ∀ pair ∈ pairs, ∃ itemData, getItemData items pair.1 = some itemData ∧
      refused itemData.mStackCount pair.2 = false := by
  induction pairs with
  | nil => simp [validateCounts]
  | cons pair pairs ih =>
    rw [List.forall_mem_cons, ← ih, validateCounts]
    cases getItemData items pair.1 with
    | none => simp
    | some itemData =>
      by_cases hrefused : refused itemData.mStackCount pair.2 = true <;> simp [hrefused]

/-- an item that is listed once was checked with the sum of its counts -/
theorem validateCounts_once {refused : ℤ → ℤ → Bool} (hids : Ids inven)
    (hok : validateCounts refused inven.mItemDataGatewayList pairs = true) {item : ItemDataGateway w}
    (hmem : item ∈ inven.mItemDataGatewayList) (hcount : (pairs.map Prod.fst).count item.mItemDBId = 1) :
    refused item.mStackCount (Tally.sumAt item.mItemDBId pairs) = false := by
  have hlisted : item.mItemDBId ∈ pairs.map Prod.fst := by
    rw [← List.count_pos_iff, hcount]
    exact Nat.one_pos
  obtain ⟨⟨itemDBId, count⟩, hpair, rfl⟩ := List.mem_map.1 hlisted
  obtain ⟨itemData, hfind, haccepted⟩ := validateCounts_iff.1 hok (item.mItemDBId, count) hpair
  have hself : getItemData inven.mItemDataGatewayList item.mItemDBId = some item :=
    (Keyed.find_eq_some hids.nodup).2 ⟨hmem, rfl⟩
  rw [hself] at hfind
  obtain rfl := Option.some.inj hfind
  rwa [Tally.sumAt_of_count_one hcount hpair]

/-! ## The three lists -/

theorem increase_iff (hids : Ids inven) {MAX_ITEM_COUNT : ℤ} (hok : validateIncreaseItems MAX_ITEM_COUNT inven pairs = true) :
    IncreaseSound MAX_ITEM_COUNT inven pairs ↔ ∀ item ∈ inven.mItemDataGatewayList,
      (pairs.map Prod.fst).count item.mItemDBId ≠ 1 →
        item.mStackCount + Tally.sumAt item.mItemDBId pairs ≤ MAX_ITEM_COUNT := by
  constructor
  · intro h item hmem _
    exact h item hmem
  · intro h item hmem
    by_cases hcount : (pairs.map Prod.fst).count item.mItemDBId = 1
    · simpa using validateCounts_once hids hok hmem hcount
    · exact h item hmem hcount

theorem decrease_iff (hids : Ids inven) (hok : validateDecreaseItems inven pairs = true) :
    DecreaseSound inven pairs ↔ ∀ item ∈ inven.mItemDataGatewayList,
      1 < (pairs.map Prod.fst).count item.mItemDBId → Tally.sumAt item.mItemDBId pairs < item.mStackCount := by
  constructor
  · intro h item hmem hcount
    exact h item hmem (List.count_pos_iff.1 (Nat.zero_lt_of_lt hcount))
  · intro h item hmem hlisted
    have hpos := List.count_pos_iff.2 hlisted
    by_cases hcount : (pairs.map Prod.fst).count item.mItemDBId = 1
    · simpa using validateCounts_once hids hok hmem hcount
    · exact h item hmem (by omega)

theorem removes_iff (hids : Ids inven) (itemDBId : ItemDBId) :
    Removes inven itemDBId ↔ itemDBId ∈ inven.mItemDataGatewayList.map (·.mItemDBId) := by
  constructor
  · intro h
    by_contra hnot
    have hsome := h.existed
    rw [getItemData, Keyed.find_eq_none.2 hnot] at hsome
    cases hsome
  · intro hmem
    have hset := (hids.mem_set itemDBId).2 hmem
    refine ⟨?_, ?_, ?_⟩
    · rw [deleteItem, if_pos hset]
    · rw [Option.isSome_iff_ne_none]
      exact fun hnone => Keyed.find_eq_none.1 hnone hmem
    · rw [deleteStep, deleteItem, if_pos hset]
      exact (Keyed.find_filter_ne inven.mItemDataGatewayList itemDBId itemDBId).trans (if_pos rfl)

theorem mem_deleteStep (hids : Ids inven) (d a : ItemDBId) :
    a ∈ (deleteStep inven d).mItemDataGatewayList.map (·.mItemDBId) ↔
      a ≠ d ∧ a ∈ inven.mItemDataGatewayList.map (·.mItemDBId) := by
  rw [deleteStep, ← (deleteItem_ids hids d).mem_set, ← hids.mem_set, deleteItem]
  split_ifs with hd
  · exact Finset.mem_erase
  · exact ⟨fun ha => ⟨fun heq => hd (heq ▸ ha), ha⟩, And.right⟩

/-- deletions in list order all find their item exactly if the items exist and none is listed twice -/
theorem deleteItems_removes_iff (hids : Ids inven) (itemDBIdList : List ItemDBId) :
    (∀ n itemDBId, itemDBIdList[n]? = some itemDBId → Removes (deleteItems inven (itemDBIdList.take n)) itemDBId) ↔
      itemDBIdList.Nodup ∧ ∀ itemDBId ∈ itemDBIdList, itemDBId ∈ inven.mItemDataGatewayList.map (·.mItemDBId) := by
  induction itemDBIdList generalizing inven with
  | nil => simp
  | cons d rest ih =>
    have hids' : Ids (deleteStep inven d) := deleteItem_ids hids d
    have hrest := ih hids'
    have hsplit : (∀ n itemDBId, (d :: rest)[n]? = some itemDBId →
        Removes (deleteItems inven ((d :: rest).take n)) itemDBId) ↔
        Removes inven d ∧ ∀ n itemDBId, rest[n]? = some itemDBId →
          Removes (deleteItems (deleteStep inven d) (rest.take n)) itemDBId := by
      constructor
      · intro h
        exact ⟨h 0 d rfl, fun n itemDBId hn => h (n + 1) itemDBId hn⟩
      · intro ⟨hhead, htail⟩ n itemDBId hn
        cases n with
        | zero =>
          obtain rfl := Option.some.inj hn
          exact hhead
        | succ n => exact htail n itemDBId hn
    rw [hsplit, hrest, removes_iff hids, List.nodup_cons, List.forall_mem_cons]
    simp only [mem_deleteStep hids]
    constructor
    · intro ⟨hd, hnodup, hall⟩
      exact ⟨⟨fun hmem => (hall d hmem).1 rfl, hnodup⟩, hd, fun a ha => (hall a ha).2⟩
    · intro ⟨⟨hnot, hnodup⟩, hd, hall⟩
      exact ⟨hd, hnodup, fun a ha => ⟨fun heq => hnot (heq ▸ ha), hall a ha⟩⟩

theorem delete_iff (hids : Ids inven) (hok : validateDeleteItems inven pairs = true) :
    DeleteSound inven pairs ↔ (pairs.map Prod.fst).Nodup := by
  unfold DeleteSound
  rw [deleteItems_removes_iff hids, and_iff_left]
  intro itemDBId hlisted
  obtain ⟨pair, hpair, rfl⟩ := List.mem_map.1 hlisted
  obtain ⟨itemData, hfind, -⟩ := validateCounts_iff.1 hok pair hpair
  obtain ⟨hmem, hid⟩ := Keyed.find_some hfind
  exact hid ▸ List.mem_map_of_mem hmem

end

/-- **An accepted list is sound as a whole exactly if its repeated items are**: their counts must fit together, and no item
may be deleted twice. -/
theorem batchItems_iff {w : ℕ} {inven : Inventory w} (hids : Ids inven) (MAX_ITEM_COUNT : ℤ)
    (pairs : List (ItemDBId × ℤ)) :
    (validateIncreaseItems MAX_ITEM_COUNT inven pairs = true →
      (IncreaseSound MAX_ITEM_COUNT inven pairs ↔ ∀ item ∈ inven.mItemDataGatewayList,
        (pairs.map Prod.fst).count item.mItemDBId ≠ 1 →
          item.mStackCount + Tally.sumAt item.mItemDBId pairs ≤ MAX_ITEM_COUNT)) ∧
    (validateDecreaseItems inven pairs = true →
      (DecreaseSound inven pairs ↔ ∀ item ∈ inven.mItemDataGatewayList,
        1 < (pairs.map Prod.fst).count item.mItemDBId → Tally.sumAt item.mItemDBId pairs < item.mStackCount)) ∧
    (validateDeleteItems inven pairs = true → (DeleteSound inven pairs ↔ (pairs.map Prod.fst).Nodup)) :=
  ⟨increase_iff hids, decrease_iff hids, delete_iff hids⟩

/-! ## One stack of four -/

def stackInventory : Inventory 1 := ⟨[{ socketItem 1 with mStackCount := 4 }], {1}, true⟩

theorem stackInventory_ids : Ids stackInventory := ⟨by decide, by simp [stackInventory, socketItem]⟩

theorem batchItems_once : IncreaseSound 10 stackInventory [(1, 4)] ∧ DecreaseSound stackInventory [(1, 3)] ∧
    DeleteSound stackInventory [(1, 4)] := by
  obtain ⟨hincrease, -, hdelete⟩ := batchItems_iff stackInventory_ids 10 [(1, 4)]
  have hdecrease := (batchItems_iff stackInventory_ids 10 [(1, 3)]).2.1
  exact ⟨(hincrease (by decide)).2 (by decide), (hdecrease (by decide)).2 (by decide), (hdelete (by decide)).2 (by decide)⟩

/-- **A pair that is listed twice is checked twice against the full stack.** -/
theorem batchItems_twice :
    (validateIncreaseItems 10 stackInventory [(1, 4), (1, 4)] = true ∧ ¬ IncreaseSound 10 stackInventory [(1, 4), (1, 4)]) ∧
    (validateDecreaseItems stackInventory [(1, 3), (1, 3)] = true ∧ ¬ DecreaseSound stackInventory [(1, 3), (1, 3)]) ∧
    (validateDeleteItems stackInventory [(1, 4), (1, 4)] = true ∧ ¬ DeleteSound stackInventory [(1, 4), (1, 4)]) := by
  refine ⟨⟨by decide, by unfold IncreaseSound; decide⟩, ⟨by decide, by unfold DecreaseSound; decide⟩, by decide, ?_⟩
  intro h
  exact absurd (h 1 1 rfl).success (by decide)

end GameServer.Items
