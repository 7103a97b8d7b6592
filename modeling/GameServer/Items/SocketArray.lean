/-
The array between `ValidateItemSocketUpdate` and `UpdateItemSocketInfo`, `C++/Inventory.cpp`.

The validation writes the children of the parent and the new child into the array (`ChildArray`); the update looks up every
entry again, and an entry that is no item fails an assertion. An empty socket is such an entry: the loader skips it, the
update does not. So an accepted update passes without a failed assertion exactly if it fills the last empty socket of the
parent (`socketUpdate_asserts_iff`).
-/
import Mathlib.Tactic
import GameServer.Items.Sockets

namespace GameServer.Items

open GameServer.Core

section

variable {w : ℕ} (E : Env)

/-! ## The assertions of `UpdateItemSocketInfo` -/

/-- the `_ASSERT_CRASH(0)` branches -/
inductive SocketAssert where
  | noParent
  | noItem (socketId : ℕ)
  | mismatch (socketId : ℕ)
deriving DecidableEq, Repr

/-- the assertion that fails at one socket of the loop -/
def socketAssert (childDBIdUpdate : ItemDBId) (itemSocketInfoUpdate : ItemSocketInfo) (items : List (ItemDataGateway w))
    (socketId : ℕ) : Option SocketAssert :=
  let childItemDBId := itemSocketInfoUpdate.mChildItemDBIdArray.getD socketId E.INVALID_ITEM_DB_ID
  match getItemData items childItemDBId with
  | none => some (.noItem socketId)
  | some childItemDataGateway =>
    if childItemDBId = childDBIdUpdate then none
    else if itemSocketInfoUpdate.mParentItemDBId ≠ childItemDataGateway.mParentItemDBId ∨
        socketId ≠ childItemDataGateway.mSocketId then some (.mismatch socketId)
    else none

/-- the failed assertions of the loop -/
def loopAsserts (childDBIdUpdate : ItemDBId) (itemSocketInfoUpdate : ItemSocketInfo) :
    List ℕ → SocketState w → List SocketAssert
  | [], _ => []
  | socketId :: socketIds, s =>
    (socketAssert E childDBIdUpdate itemSocketInfoUpdate s.2.1 socketId).toList ++
      loopAsserts childDBIdUpdate itemSocketInfoUpdate socketIds
        (updateSocket E childDBIdUpdate itemSocketInfoUpdate s socketId)

/-- the failed assertions of `UpdateItemSocketInfo` -/
def updateAsserts (inven : Inventory w) (childDBIdUpdate : ItemDBId) (itemSocketInfoUpdate : ItemSocketInfo) :
    List SocketAssert :=
  match getItemData inven.mItemDataGatewayList itemSocketInfoUpdate.mParentItemDBId with
  | none => [.noParent]
  | some _ =>
    loopAsserts E childDBIdUpdate itemSocketInfoUpdate (List.range E.MAX_SOCKET_COUNT)
      (false, inven.mItemDataGatewayList, none)

/-! ## Consistent sockets -/

/-- every parent exists, and no two items share parent and socket -/
structure SocketsConsistent (items : List (ItemDataGateway w)) : Prop where
  invalid_id : E.INVALID_ITEM_DB_ID ∉ items.map (·.mItemDBId)
  parent_exists : ∀ item ∈ items, item.mParentItemDBId = E.INVALID_ITEM_DB_ID ∨
    item.mParentItemDBId ∈ items.map (·.mItemDBId)
  distinct : items.Pairwise fun a b => a.mParentItemDBId = b.mParentItemDBId →
    a.mParentItemDBId ≠ E.INVALID_ITEM_DB_ID → a.mSocketId ≠ b.mSocketId

/-- all sockets of the parent but one hold an item, the one that `GetItemData` finds under its id -/
def OthersFilled (items : List (ItemDataGateway w)) (socketId : ℕ) (itemDBIdParent itemDBIdChild : ItemDBId) : Prop :=
  ∀ i < E.MAX_SOCKET_COUNT, i ≠ socketId → ∃ item ∈ items, item.mParentItemDBId = itemDBIdParent ∧ item.mSocketId = i ∧
    (item.mItemDBId = itemDBIdChild ∨ getItemData items item.mItemDBId = some item)

instance (items : List (ItemDataGateway w)) (socketId : ℕ) (p child : ItemDBId) :
    Decidable (OthersFilled E items socketId p child) := by
  unfold OthersFilled
  infer_instance

variable {E} {items : List (ItemDataGateway w)}

theorem ne_invalid_of_getItemData (hinvalid : E.INVALID_ITEM_DB_ID ∉ items.map (·.mItemDBId)) {a : ItemDBId}
    {item : ItemDataGateway w} (hfind : getItemData items a = some item) : a ≠ E.INVALID_ITEM_DB_ID := by
  rintro rfl
  obtain ⟨hmem, hid⟩ := Keyed.find_some hfind
  exact hinvalid (hid ▸ List.mem_map_of_mem hmem)

theorem getElem?_eq_getD {arr : List ItemDBId} {i : ℕ} (hi : i < arr.length) (d : ItemDBId) :
    arr[i]? = some (arr.getD i d) := by
  rw [List.getD_eq_getElem?_getD, List.getElem?_eq_getElem hi]
  rfl

theorem SocketsConsistent.eq_of_socket (h : SocketsConsistent E items) {a b : ItemDataGateway w} (ha : a ∈ items)
    (hb : b ∈ items) (hparent : a.mParentItemDBId = b.mParentItemDBId)
    (hvalid : a.mParentItemDBId ≠ E.INVALID_ITEM_DB_ID) (hsocket : a.mSocketId = b.mSocketId) : a = b := by
  by_contra hne
  have hsymm : Std.Symm fun a b : ItemDataGateway w => a.mParentItemDBId = b.mParentItemDBId →
      a.mParentItemDBId ≠ E.INVALID_ITEM_DB_ID → a.mSocketId ≠ b.mSocketId :=
    ⟨fun a b hab hba hvalid => (hab hba.symm (hba ▸ hvalid)).symm⟩
  exact h.distinct.forall ha hb hne hparent hvalid hsocket

/-- the children of one parent are in distinct sockets -/
theorem SocketsConsistent.distinct_children (h : SocketsConsistent E items) {p : ItemDBId} (hp : p ≠ E.INVALID_ITEM_DB_ID) :
    items.Pairwise fun a b => a.mParentItemDBId = p → b.mParentItemDBId = p → a.mSocketId ≠ b.mSocketId := by
  refine h.distinct.imp ?_
  intro a b hab ha hb
  exact hab (ha.trans hb.symm) (by rwa [ha])

/-! ## The array of an accepted update -/

variable {MIN_SOCKET_ID socketId : ℕ} {p child : ItemDBId} {arr arr' : List ItemDBId} {info : ItemSocketInfo}

/-- an entry comes from a child of the parent, or was there before -/
theorem collectChildren_entry (h : collectChildren MIN_SOCKET_ID socketId p items arr = .ok arr') {i : ℕ} {c : ItemDBId}
    (hc : arr'[i]? = some c) :
    arr[i]? = some c ∨ ∃ item ∈ items, item.mParentItemDBId = p ∧ item.mSocketId = MIN_SOCKET_ID + i ∧
      item.mItemDBId = c := by
  induction items generalizing arr with
  | nil =>
    obtain rfl := Except.ok.inj h
    exact Or.inl hc
  | cons item items ih =>
    unfold collectChildren at h
    split_ifs at h with hparent hsocket
    · rcases ih h with hold | ⟨item', hmem, hrest⟩
      · exact Or.inl hold
      · exact Or.inr ⟨item', List.mem_cons_of_mem item hmem, hrest⟩
    · unfold setChild at h
      split_ifs at h with hin
      rcases ih h with hold | ⟨item', hmem, hrest⟩
      · by_cases hi : item.mSocketId - MIN_SOCKET_ID = i
        · rw [hi, List.getElem?_set_self (hi ▸ hin.2)] at hold
          refine Or.inr ⟨item, List.mem_cons_self, not_not.1 hparent, by omega, Option.some.inj hold⟩
        · rw [List.getElem?_set_ne hi] at hold
          exact Or.inl hold
      · exact Or.inr ⟨item', List.mem_cons_of_mem item hmem, hrest⟩

/-- a child of the parent is not in the new socket, and its socket is one of the array -/
theorem collectChildren_range (h : collectChildren MIN_SOCKET_ID socketId p items arr = .ok arr')
    {item : ItemDataGateway w} (hmem : item ∈ items) (hp : item.mParentItemDBId = p) :
    item.mSocketId ≠ socketId ∧ MIN_SOCKET_ID ≤ item.mSocketId ∧ item.mSocketId - MIN_SOCKET_ID < arr.length := by
  induction items generalizing arr with
  | nil => cases hmem
  | cons item₀ items ih =>
    unfold collectChildren at h
    split_ifs at h with hparent hsocket
    · rcases List.mem_cons.1 hmem with rfl | hmem
      · exact absurd hp hparent
      · exact ih h hmem
    · unfold setChild at h
      split_ifs at h with hin
      rcases List.mem_cons.1 hmem with rfl | hmem
      · exact ⟨hsocket, hin⟩
      · have hrest := ih h hmem
        rwa [List.length_set] at hrest

/-- with distinct sockets every child of the parent is in the array -/
theorem collectChildren_child (h : collectChildren MIN_SOCKET_ID socketId p items arr = .ok arr')
    (hdistinct : items.Pairwise fun a b => a.mParentItemDBId = p → b.mParentItemDBId = p → a.mSocketId ≠ b.mSocketId)
    {item : ItemDataGateway w} (hmem : item ∈ items) (hp : item.mParentItemDBId = p) :
    arr'[item.mSocketId - MIN_SOCKET_ID]? = some item.mItemDBId := by
  induction items generalizing arr with
  | nil => cases hmem
  | cons item₀ items ih =>
    obtain ⟨hhead, htail⟩ := List.pairwise_cons.1 hdistinct
    unfold collectChildren at h
    split_ifs at h with hparent hsocket
    · rcases List.mem_cons.1 hmem with rfl | hmem
      · exact absurd hp hparent
      · exact ih h htail hmem
    · unfold setChild at h
      split_ifs at h with hin
      rcases List.mem_cons.1 hmem with rfl | hmem
      · -- no later child has this socket
        have hlt : item.mSocketId - MIN_SOCKET_ID < arr'.length := by
          rw [collectChildren_length h, List.length_set]
          exact hin.2
        have hget := List.getElem?_eq_getElem hlt
        rcases collectChildren_entry h hget with hold | ⟨item', hmem', hp', hsocket', -⟩
        · rw [List.getElem?_set_self hin.2] at hold
          rw [hget, ← hold]
        · exact absurd (by omega) (hhead item' hmem' hp hp')
      · exact ih h htail hmem

/-- the array of an accepted update: the children of the parent and the new child -/
structure ChildArray (E : Env) (MIN_SOCKET_ID : ℕ) (items : List (ItemDataGateway w)) (socketId : ℕ)
    (p child : ItemDBId) (arr : List ItemDBId) : Prop where
  length : arr.length = E.MAX_SOCKET_COUNT
  lower : MIN_SOCKET_ID ≤ socketId
  upper : socketId - MIN_SOCKET_ID < E.MAX_SOCKET_COUNT
  new : arr[socketId - MIN_SOCKET_ID]? = some child
  entry : ∀ {i c}, i ≠ socketId - MIN_SOCKET_ID → arr[i]? = some c → c = E.INVALID_ITEM_DB_ID ∨
    ∃ item ∈ items, item.mParentItemDBId = p ∧ item.mSocketId = MIN_SOCKET_ID + i ∧ item.mItemDBId = c
  range : ∀ item ∈ items, item.mParentItemDBId = p → item.mSocketId ≠ socketId ∧ MIN_SOCKET_ID ≤ item.mSocketId ∧
    item.mSocketId - MIN_SOCKET_ID < E.MAX_SOCKET_COUNT
  old : (items.Pairwise fun a b => a.mParentItemDBId = p → b.mParentItemDBId = p → a.mSocketId ≠ b.mSocketId) →
    ∀ item ∈ items, item.mParentItemDBId = p → arr[item.mSocketId - MIN_SOCKET_ID]? = some item.mItemDBId

/-- **What an accepted update carries**, from an array without children. -/
theorem validateItemSocketUpdate_array {inven : Inventory w}
    (h : validateItemSocketUpdate E MIN_SOCKET_ID inven socketId p child
      (List.replicate E.MAX_SOCKET_COUNT E.INVALID_ITEM_DB_ID) = .ok info) :
    ChildArray E MIN_SOCKET_ID inven.mItemDataGatewayList socketId p child info.mChildItemDBIdArray := by
  obtain ⟨-, -, -, collected, hcollect, hset⟩ := validateItemSocketUpdate_inv h
  unfold setChild at hset
  split_ifs at hset with hin
  rw [← Except.ok.inj hset]
  have hlen' : collected.length = E.MAX_SOCKET_COUNT := by
    rw [collectChildren_length hcollect, List.length_replicate]
  have hrange : ∀ item ∈ inven.mItemDataGatewayList, item.mParentItemDBId = p → item.mSocketId ≠ socketId ∧
      MIN_SOCKET_ID ≤ item.mSocketId ∧ item.mSocketId - MIN_SOCKET_ID < E.MAX_SOCKET_COUNT := by
    intro item hmem hp
    simpa using collectChildren_range hcollect hmem hp
  refine ⟨?_, hin.1, hlen' ▸ hin.2, List.getElem?_set_self hin.2, ?_, hrange, ?_⟩
  · rw [List.length_set, hlen']
  · intro i c hi hc
    rw [List.getElem?_set_ne hi.symm] at hc
    refine (collectChildren_entry hcollect hc).imp_left fun hold => ?_
    exact List.eq_of_mem_replicate (List.mem_of_getElem? hold)
  · intro hdistinct item hmem hp
    obtain ⟨hne, hlower, -⟩ := hrange item hmem hp
    have hindex : socketId - MIN_SOCKET_ID ≠ item.mSocketId - MIN_SOCKET_ID := by omega
    rw [List.getElem?_set_ne hindex]
    exact collectChildren_child hcollect hdistinct hmem hp

/-! ## The loop of the update -/

theorem getItemData_putInSocket (items : List (ItemDataGateway w)) (child p : ItemDBId) (i : ℕ) (a : ItemDBId) :
    getItemData (setItemData items child (putInSocket p i)) a =
      if a = child then (getItemData items child).map (putInSocket p i) else getItemData items a :=
  Keyed.find_modify (putInSocket_id p i) child a

theorem socketAssert_eq_none_iff (hchild : (parentOf items child).isSome) (i : ℕ) :
    socketAssert E child info items i = none ↔ info.mChildItemDBIdArray.getD i E.INVALID_ITEM_DB_ID = child ∨
      ∃ item, getItemData items (info.mChildItemDBIdArray.getD i E.INVALID_ITEM_DB_ID) = some item ∧
        item.mParentItemDBId = info.mParentItemDBId ∧ item.mSocketId = i := by
  obtain ⟨childItem, hitem⟩ := exists_item_of_parentOf hchild
  unfold socketAssert
  generalize info.mChildItemDBIdArray.getD i E.INVALID_ITEM_DB_ID = c
  by_cases hc : c = child
  · simp [hc, hitem]
  · cases hfind : getItemData items c with
    | none => simp [hfind, hc]
    | some item => simp [hfind, hc, eq_comm]

/-- the update of the child does not change what the other sockets assert -/
theorem socketAssert_updateSocket {s : SocketState w} (hchild : (parentOf s.2.1 child).isSome) (i j : ℕ) :
    socketAssert E child info (updateSocket E child info s i).2.1 j = none ↔ socketAssert E child info s.2.1 j = none := by
  rw [socketAssert_eq_none_iff (updateSocket_child hchild i), socketAssert_eq_none_iff hchild, updateSocket_eq hchild]
  split_ifs
  · by_cases hj : info.mChildItemDBIdArray.getD j E.INVALID_ITEM_DB_ID = child
    · rw [hj, eq_self, true_or, true_or]
    · rw [getItemData_putInSocket, if_neg hj]
  · rfl

theorem loopAsserts_eq_nil_iff (socketIds : List ℕ) {s : SocketState w} (hchild : (parentOf s.2.1 child).isSome) :
    loopAsserts E child info socketIds s = [] ↔ ∀ i ∈ socketIds, socketAssert E child info s.2.1 i = none := by
  induction socketIds generalizing s with
  | nil => simp [loopAsserts]
  | cons i socketIds ih =>
    have hrest := ih (s := updateSocket E child info s i) (updateSocket_child hchild i)
    simp only [socketAssert_updateSocket hchild] at hrest
    simp [loopAsserts, hrest]

/-- an entry of the child makes the update a success -/
theorem foldl_updateSocket_success (socketIds : List ℕ) {s : SocketState w} (hchild : (parentOf s.2.1 child).isSome)
    (h : s.1 = true ∨ ∃ i ∈ socketIds, info.mChildItemDBIdArray.getD i E.INVALID_ITEM_DB_ID = child) :
    (socketIds.foldl (updateSocket E child info) s).1 = true := by
  induction socketIds generalizing s with
  | nil => simpa using h
  | cons i socketIds ih =>
    rw [List.foldl_cons]
    refine ih (updateSocket_child hchild i) ?_
    rw [updateSocket_eq hchild]
    split_ifs with hi
    · exact Or.inl rfl
    · rcases h with hs | ⟨j, hj, hentry⟩
      · exact Or.inl hs
      · rcases List.mem_cons.1 hj with rfl | hj
        · exact absurd hentry hi
        · exact Or.inr ⟨j, hj, hentry⟩

/-! ## The assertions of an accepted update -/

theorem ChildArray.getD_eq (h : ChildArray E MIN_SOCKET_ID items socketId p child arr) :
    arr.getD (socketId - MIN_SOCKET_ID) E.INVALID_ITEM_DB_ID = child := by
  rw [List.getD_eq_getElem?_getD, h.new]
  rfl

/-- the entry of another socket is the child in it, or empty -/
theorem ChildArray.entry_iff (h : ChildArray E 0 items socketId p child arr) (hsockets : SocketsConsistent E items)
    (hp : p ≠ E.INVALID_ITEM_DB_ID) (hchild : (parentOf items child).isSome) {i : ℕ} (hi : i < E.MAX_SOCKET_COUNT)
    (hne : i ≠ socketId) :
    (arr.getD i E.INVALID_ITEM_DB_ID = child ∨ ∃ item, getItemData items (arr.getD i E.INVALID_ITEM_DB_ID) = some item ∧
      item.mParentItemDBId = p ∧ item.mSocketId = i) ↔
    ∃ item ∈ items, item.mParentItemDBId = p ∧ item.mSocketId = i ∧
      (item.mItemDBId = child ∨ getItemData items item.mItemDBId = some item) := by
  have hget := getElem?_eq_getD (h.length.symm ▸ hi) E.INVALID_ITEM_DB_ID
  constructor
  · intro hentry
    rcases h.entry hne hget with hempty | ⟨item, hmem, hparent, hsocket, hid⟩
    · -- an empty entry is neither the child nor an item
      rw [hempty] at hentry
      rcases hentry with heq | ⟨item, hfind, -⟩
      · obtain ⟨childItem, hchildItem⟩ := exists_item_of_parentOf hchild
        exact absurd heq.symm (ne_invalid_of_getItemData hsockets.invalid_id hchildItem)
      · exact absurd rfl (ne_invalid_of_getItemData hsockets.invalid_id hfind)
    · rw [Nat.zero_add] at hsocket
      refine ⟨item, hmem, hparent, hsocket, ?_⟩
      rw [hid]
      refine hentry.imp_right ?_
      intro ⟨item', hfind, hparent', hsocket'⟩
      have hsame := hsockets.eq_of_socket hmem (Keyed.find_some hfind).1 (hparent.trans hparent'.symm) (hparent ▸ hp)
        (hsocket.trans hsocket'.symm)
      rw [hfind, hsame]
  · intro ⟨item, hmem, hparent, hsocket, hid⟩
    have hold := h.old (hsockets.distinct_children hp) item hmem hparent
    rw [hsocket, Nat.sub_zero, hget] at hold
    rw [Option.some.inj hold]
    exact hid.imp_right fun hfind => ⟨item, hfind, hparent, hsocket⟩

/-- **An accepted update passes without a failed assertion exactly if it fills the last empty socket of the parent.** -/
theorem socketUpdate_asserts_iff {inven : Inventory w} (hsockets : SocketsConsistent E inven.mItemDataGatewayList)
    (hok : validateItemSocketUpdate E 0 inven socketId p child
      (List.replicate E.MAX_SOCKET_COUNT E.INVALID_ITEM_DB_ID) = .ok info) :
    (updateAsserts E inven child info = [] ∧ (updateItemSocketInfo E inven child info).1 = true) ↔
      OthersFilled E inven.mItemDataGatewayList socketId p child := by
  have harray := validateItemSocketUpdate_array hok
  obtain ⟨hparent, hunparented, rfl, -⟩ := (validateItemSocketUpdate_ok hok).1
  obtain ⟨parentItem, hparentItem⟩ := exists_item_of_parentOf hparent
  have hchild : (parentOf inven.mItemDataGatewayList child).isSome := hunparented ▸ rfl
  have hp := ne_invalid_of_getItemData hsockets.invalid_id hparentItem
  have hsuccess : (updateItemSocketInfo E inven child info).1 = true := by
    unfold updateItemSocketInfo
    rw [hparentItem]
    refine foldl_updateSocket_success (List.range E.MAX_SOCKET_COUNT) hchild (Or.inr ⟨socketId - 0, ?_, harray.getD_eq⟩)
    exact List.mem_range.2 harray.upper
  rw [and_iff_left hsuccess, updateAsserts, hparentItem]
  dsimp only
  rw [loopAsserts_eq_nil_iff (List.range E.MAX_SOCKET_COUNT) hchild]
  simp only [socketAssert_eq_none_iff hchild, List.mem_range]
  constructor
  · intro hall i hi hne
    exact (harray.entry_iff hsockets hp hchild hi hne).1 (hall i hi)
  · intro hfilled i hi
    rcases eq_or_ne i socketId with rfl | hne
    · exact Or.inl harray.getD_eq
    · exact (harray.entry_iff hsockets hp hchild hi hne).2 (hfilled i hi hne)

end

/-! ## Two sockets, one of them filled or none -/

theorem smallInventory_sockets : SocketsConsistent socketEnv smallInventory.mItemDataGatewayList :=
  ⟨by decide, by decide, by decide⟩

/-- 3 goes to the last empty socket of 1 -/
theorem socketUpdate_asserts_last :
    updateAsserts socketEnv smallInventory 3 ⟨1, [2, 3]⟩ = [] ∧
      (updateItemSocketInfo socketEnv smallInventory 3 ⟨1, [2, 3]⟩).1 = true := by
  have hok : validateItemSocketUpdate socketEnv 0 smallInventory 1 1 3
      (List.replicate socketEnv.MAX_SOCKET_COUNT socketEnv.INVALID_ITEM_DB_ID) = .ok ⟨1, [2, 3]⟩ := by decide
  exact (socketUpdate_asserts_iff smallInventory_sockets hok).2 (by decide)

/-- **The empty sockets of an accepted array fail an assertion**: 3 goes to one of the two sockets of 2. -/
theorem socketUpdate_asserts_empty :
    SocketsConsistent socketEnv smallInventory.mItemDataGatewayList ∧
      validateItemSocketUpdate socketEnv 0 smallInventory 0 2 3
        (List.replicate socketEnv.MAX_SOCKET_COUNT socketEnv.INVALID_ITEM_DB_ID) = .ok ⟨2, [3, 0]⟩ ∧
      updateAsserts socketEnv smallInventory 3 ⟨2, [3, 0]⟩ = [.noItem 1] :=
  ⟨smallInventory_sockets, by decide, by decide⟩

end GameServer.Items
