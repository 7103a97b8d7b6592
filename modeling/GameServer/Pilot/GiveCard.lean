/-
`GivePilotCard` is an increment of a mixed-radix counter along an upgrade chain.

Chain c_0, ..., c_n (`UpgradeChain`): c_i is upgraded to c_{i+1} at enchant `num i`, and c_n cannot be enchanted. Digit i
is 0 for a card that is not owned, and enchant + 1 for one that is; card c_n counts as one unit of digit n.
- `chainLoop_spec`: from c_k on, the loop collects the full cards c_k, ..., c_{j-1} and stops at c_j;
- `applied_carry`: removing them and inserting or enchanting c_j is a carry from k to j (`Core.Carry`);
- `unsetDatas_apply`, `setDatas_apply`: the update documents do to the ITEM document what the code does to `_Inven`;
- `givePilotCard_counts`: the loop ends; the total grows by the weight of c_k, unless the carry runs into an owned c_n,
  where c_n gets experience or gold is paid; nothing else changes.
-/
import Mathlib.Tactic
import GameServer.Core.Radix
import GameServer.Pilot.Model

namespace GameServer.Pilot

open GameServer.Core

/-! ## Both copies of the inventory change alike -/

/-- one of the two keys of a card of the list -/
def keyOf (l : List ℤ) : InvenKey → Bool
  | .pCard i => decide (i ∈ l)
  | .pCardExp i => decide (i ∈ l)
  | .other _ => false

theorem unsetInven_apply (inven : Inven) (l : List ℤ) (key : InvenKey) :
    unsetInven inven l key = if keyOf l key then none else inven key := by
  induction l generalizing inven with
  | nil => cases key <;> simp [unsetInven, keyOf]
  | cons i l ih =>
    change unsetInven (Function.update (Function.update inven (.pCard i) none) (.pCardExp i) none) l key = _
    rw [ih]
    cases key with
    | pCard i' => by_cases h : i' = i <;> simp [keyOf, h]
    | pCardExp i' => by_cases h : i' = i <;> simp [keyOf, h]
    | other name => simp [keyOf]

theorem unsetDatas_fields (l : List ℤ) (key : InvenKey) :
    (unsetDatas l).set key = none ∧ (unsetDatas l).inc key = none ∧ (unsetDatas l).unset key = keyOf l key := by
  induction l using List.reverseRecOn with
  | nil => cases key <;> exact ⟨rfl, rfl, by simp [keyOf, unsetDatas, Update.empty]⟩
  | append_singleton l i ih =>
    have happ : unsetDatas (l ++ [i]) = ((unsetDatas l).addUnset (.pCard i)).addUnset (.pCardExp i) := by
      simp [unsetDatas]
    rw [happ]
    refine ⟨ih.1, ih.2.1, ?_⟩
    simp only [Update.addUnset]
    cases key with
    | pCard i' => by_cases h : i' = i <;> simp [keyOf, h, ih.2.2]
    | pCardExp i' => by_cases h : i' = i <;> simp [keyOf, h, ih.2.2]
    | other name => simp [keyOf, ih.2.2]

theorem unsetDatas_apply (inven : Inven) (l : List ℤ) : (unsetDatas l).apply inven = unsetInven inven l := by
  funext key
  obtain ⟨h1, h2, h3⟩ := unsetDatas_fields l key
  simp only [Update.apply, h1, h2, h3, unsetInven_apply]

theorem setDatas_apply (inven : Inven) (c : CardSet) : (setDatas c).apply inven =
    Function.update (Function.update inven (.pCard c.idx) (some c.enchant)) (.pCardExp c.idx) (some c.exp) := by
  funext key
  cases key with
  | pCard i => by_cases h : i = c.idx <;> simp [setDatas, Update.ofWrites, Update.add, Update.apply, Update.empty, h]
  | pCardExp i => by_cases h : i = c.idx <;> simp [setDatas, Update.ofWrites, Update.add, Update.apply, Update.empty, h]
  | other name => simp [setDatas, Update.ofWrites, Update.add, Update.apply, Update.empty]

/-- the same update documents lead from the old to the new inventory, in memory and in the store -/
def SameChange (s s' : St) : Prop :=
  ∃ us : List (Update InvenKey ℤ),
    s'.item = us.foldl (fun doc u => u.apply doc) s.item ∧ s'.inven = us.foldl (fun doc u => u.apply doc) s.inven

theorem applyUnset_item (s : St) (l : List ℤ) : (applyUnset s l).item = (unsetDatas l).apply s.item := by
  unfold applyUnset
  split_ifs with h
  · rw [h, unsetDatas_apply]; rfl
  · rfl

theorem applyUnset_inven (s : St) (l : List ℤ) : (applyUnset s l).inven = unsetInven s.inven l := by
  unfold applyUnset
  split_ifs with h
  · rw [h]; rfl
  · rfl

@[simp] theorem applyUnset_gold (s : St) (l : List ℤ) : (applyUnset s l).gold = s.gold := by
  unfold applyUnset; split_ifs <;> rfl

@[simp] theorem applyUnset_player (s : St) (l : List ℤ) : (applyUnset s l).player = s.player := by
  unfold applyUnset; split_ifs <;> rfl

theorem applyResult_sameChange (M : Managers) (s : St) (idx : ℤ) (l : List ℤ) (r : ResSet) :
    SameChange s (applyResult M s idx l r).2 := by
  cases r with
  | card c =>
    refine ⟨[unsetDatas l, setDatas c], ?_, ?_⟩
    · change (setDatas c).apply (applyUnset s l).item = _
      rw [applyUnset_item]; rfl
    · change Function.update (Function.update (applyUnset s l).inven _ _) _ _ = _
      rw [← setDatas_apply, applyUnset_inven, ← unsetDatas_apply]; rfl
  | gold amount tidx =>
    refine ⟨[unsetDatas l], ?_, ?_⟩
    · cases amount <;> exact applyUnset_item s l
    · rw [List.foldl_cons, List.foldl_nil, unsetDatas_apply]
      cases amount <;> exact applyUnset_inven s l

/-! ## Upgrade chains -/

/-- c_i with i < n is a card that is enchanted up to `num i` and then upgraded; c_n is not enchanted -/
structure UpgradeChain (M : Managers) (n : ℕ) where
  card : ℕ → ℤ
  num : ℕ → ℤ
  top : ItemRow
  maxLV : ℤ
  alterGold : ℤ
  acyclic : ∀ i j, i ≤ n → j ≤ n → card i = card j → i = j
  num_pos : ∀ i < n, 1 ≤ num i
  link : ∀ i < n, ∃ row, M.getItem (card i) = some row ∧ row.isPCard = true ∧ row.PcardUpgradeNum = some (num i) ∧
    row.PcardMaxLV ≠ none ∧ row.PCardUpgrade = some (card (i + 1))
  top_item : M.getItem (card n) = some top
  top_isPCard : top.isPCard = true
  top_num : ∃ u ≤ 0, top.PcardUpgradeNum = some u
  top_maxLV : top.PcardMaxLV = some maxLV
  top_alterGold : top.AlterGold = some alterGold

namespace UpgradeChain

variable {M : Managers} {n : ℕ} (C : UpgradeChain M n) (inven : Inven)

def Owned (i : ℕ) : Prop := inven (.pCard (C.card i)) ≠ none

instance (i : ℕ) : Decidable (C.Owned inven i) := by unfold Owned; infer_instance

/-- 0 for a card that is not owned, enchant + 1 for one that is; the top card is worth one -/
def digit (i : ℕ) : ℤ :=
  if i < n then
    match inven (.pCard (C.card i)) with
    | none => 0
    | some e => e + 1
  else if i = n ∧ C.Owned inven n then 1 else 0

/-- the sum of the digits below n by weight, and the weight of c_n if it is owned -/
def total : ℤ := value C.num (C.digit inven) n + if C.Owned inven n then weight C.num n else 0

def InRange : Prop := ∀ i < n, ∀ e, inven (.pCard (C.card i)) = some e → e ≤ C.num i - 1

def Full (i : ℕ) : Prop := C.digit inven i = C.num i

/-- the carry from c_k runs into an owned c_n -/
def Overflows (k : ℕ) : Prop := (∀ i, k ≤ i → i < n → C.Full inven i) ∧ C.Owned inven n

def topExp : ℤ := (inven (.pCardExp (C.card n))).getD 0

def topLevel : ℤ := M.calcPCardLevel (C.card n) (C.topExp inven)

variable {C inven}

theorem total_eq : C.total inven = value C.num (C.digit inven) (n + 1) := by
  unfold total value
  rw [Finset.sum_range_succ]
  congr 1
  simp only [digit, lt_irrefl, if_false, true_and]
  split_ifs <;> ring

theorem digit_lt {i : ℕ} (hi : i < n) : C.digit inven i = match inven (.pCard (C.card i)) with
    | none => 0
    | some e => e + 1 := if_pos hi

/-- a full card is owned with the last enchant -/
theorem full_iff {i : ℕ} (hi : i < n) : C.Full inven i ↔ inven (.pCard (C.card i)) = some (C.num i - 1) := by
  unfold Full
  rw [digit_lt hi]
  have hpos := C.num_pos i hi
  cases inven (.pCard (C.card i)) with
  | none => simp only [reduceCtorEq, iff_false]; omega
  | some e => simp only [Option.some.injEq]; omega

/-! ## One round -/

/-- below the top: a new card, one more enchant, or on to the next card -/
theorem round_lt (hr : C.InRange inven) {i : ℕ} (hi : i < n) :
    (C.Full inven i ∧ chainRound M inven (C.card i) = .next (C.card (i + 1))) ∨
      (¬ C.Full inven i ∧ ∃ c, chainRound M inven (C.card i) = .stop (.card c) ∧ c.idx = C.card i ∧
        c.enchant = C.digit inven i ∧ c.enchant ≤ C.num i - 1) := by
  obtain ⟨row, hrow, hcard, hnum, hlv, hup⟩ := C.link i hi
  obtain ⟨lv, hlv⟩ := Option.ne_none_iff_exists'.1 hlv
  have hpos := C.num_pos i hi
  rw [full_iff hi, digit_lt hi]
  cases hown : inven (.pCard (C.card i)) with
  | none =>
    refine Or.inr ⟨by simp, ⟨C.card i, 0, 0, 0, 0, 1, 1, 0, 0⟩, by simp only [chainRound, hown], rfl, rfl, ?_⟩
    simp only
    omega
  | some e =>
    have he := hr i hi e hown
    have hnum' : ¬ C.num i ≤ 0 := by omega
    simp only [chainRound, hown, ownedRound, hrow, hnum, hlv, hcard, hup, hnum', if_false]
    by_cases hlt : e + 1 < C.num i
    · right
      rw [if_pos hlt]
      refine ⟨by simp only [Option.some.injEq]; omega, _, rfl, rfl, rfl, ?_⟩
      simp only
      omega
    · left
      rw [if_neg hlt]
      exact ⟨by congr 1; omega, rfl⟩

/-- the top card: new, experience below the last level, else gold -/
theorem round_top : chainRound M inven (C.card n) = .stop
    (if C.Owned inven n then
      if C.maxLV ≤ C.topLevel inven then .gold (some C.alterGold) (C.card n)
      else .card ⟨C.card n, 0, C.topExp inven + C.top.PCardReturnExp.getD 0, C.topExp inven,
        C.topExp inven + C.top.PCardReturnExp.getD 0, C.topLevel inven,
        M.calcPCardLevel (C.card n) (C.topExp inven + C.top.PCardReturnExp.getD 0), 0, 0⟩
    else .card ⟨C.card n, 0, 0, 0, 0, 1, 1, 0, 0⟩) := by
  obtain ⟨u, hu, hnum⟩ := C.top_num
  by_cases hown : C.Owned inven n
  · obtain ⟨e, he⟩ := Option.ne_none_iff_exists'.1 hown
    have hexp : (inven (.pCardExp (C.card n))).getD 0 = C.topExp inven := rfl
    have hlevel : M.calcPCardLevel (C.card n) (C.topExp inven) = C.topLevel inven := rfl
    rw [if_pos hown]
    simp only [chainRound, he, ownedRound, C.top_item, hnum, C.top_maxLV, C.top_isPCard, C.top_alterGold, hu, if_true,
      hexp, hlevel]
    split_ifs <;> rfl
  · have hnone : inven (.pCard (C.card n)) = none := by simpa [Owned] using hown
    rw [if_neg hown]
    simp only [chainRound, hnone]

/-! ## The loop -/

/-- **Loop spec.** The loop collects the full cards c_k, ..., c_{j-1} and stops at c_j. -/
theorem chainLoop_spec (hr : C.InRange inven) {k : ℕ} (hk : k ≤ n) (acc : List ℤ) :
    ∃ j r, k ≤ j ∧ j ≤ n ∧ (∀ i, k ≤ i → i < j → C.Full inven i) ∧ (j < n → ¬ C.Full inven j) ∧
      chainRound M inven (C.card j) = .stop r ∧ ∀ fuel, n - k < fuel →
        chainLoop M inven fuel (C.card k) acc = some (some (acc ++ (List.range' k (j - k)).map C.card, r)) := by
  obtain ⟨r, hr'⟩ := Nat.exists_eq_add_of_le hk
  -- the induction is on the number of links above c_k
  induction r generalizing k acc with
  | zero =>
    have hkn : k = n := hr'.symm
    subst hkn
    refine ⟨k, _, le_rfl, le_rfl, fun i h1 h2 => by omega, fun h => absurd h (lt_irrefl _), round_top, fun fuel hf => ?_⟩
    obtain ⟨fuel, rfl⟩ := Nat.exists_eq_succ_of_ne_zero (by omega : fuel ≠ 0)
    simp only [chainLoop, round_top]
    simp
  | succ r ih =>
    have hlt : k < n := by omega
    rcases round_lt hr hlt with ⟨hfull, hround⟩ | ⟨hnot, c, hround, -⟩
    · obtain ⟨j, res, h1, h2, h3, h4, h5, h6⟩ := ih (k := k + 1) (by omega) (acc ++ [C.card k]) (by omega)
      refine ⟨j, res, by omega, h2, ?_, h4, h5, ?_⟩
      · intro i hi hij
        rcases eq_or_lt_of_le hi with rfl | hi
        · exact hfull
        · exact h3 i hi hij
      · intro fuel hf
        obtain ⟨fuel, rfl⟩ := Nat.exists_eq_succ_of_ne_zero (by omega : fuel ≠ 0)
        have hrange : List.range' k (j - k) = k :: List.range' (k + 1) (j - (k + 1)) := by
          rw [show j - k = (j - (k + 1)) + 1 by omega, List.range'_succ]
        simp only [chainLoop, hround]
        rw [h6 fuel (by omega), hrange]
        simp
    · refine ⟨k, _, le_rfl, hk, fun i h1 h2 => by omega, fun _ => hnot, hround, fun fuel hf => ?_⟩
      obtain ⟨fuel, rfl⟩ := Nat.exists_eq_succ_of_ne_zero (by omega : fuel ≠ 0)
      simp only [chainLoop, hround]
      simp

/-! ## The new inventory -/

section Applied

variable {k j : ℕ}

/-- the cards that a carry from c_k to c_j removes -/
theorem mem_removed (hj : j ≤ n) {i : ℕ} (hi : i ≤ n) :
    C.card i ∈ (List.range' k (j - k)).map C.card ↔ k ≤ i ∧ i < j := by
  rw [List.mem_map]
  constructor
  · rintro ⟨i', hi', heq⟩
    rw [List.mem_range'_1] at hi'
    have := C.acyclic i' i (by omega) hi heq
    omega
  · rintro ⟨h1, h2⟩
    exact ⟨i, List.mem_range'_1.2 ⟨h1, by omega⟩, rfl⟩

/-- the inventory after removing c_k, ..., c_{j-1} and writing c_j -/
def carried (C : UpgradeChain M n) (inven : Inven) (k j : ℕ) (enchant exp : ℤ) : Inven :=
  Function.update (Function.update (unsetInven inven ((List.range' k (j - k)).map C.card))
    (.pCard (C.card j)) (some enchant)) (.pCardExp (C.card j)) (some exp)

theorem carried_pCard (hj : j ≤ n) {i : ℕ} (hi : i ≤ n) (enchant exp : ℤ) :
    carried C inven k j enchant exp (.pCard (C.card i)) =
      if i = j then some enchant else if k ≤ i ∧ i < j then none else inven (.pCard (C.card i)) := by
  unfold carried
  rw [Function.update_of_ne (by simp)]
  rcases eq_or_ne i j with rfl | hij
  · rw [Function.update_self, if_pos rfl]
  · have hne : InvenKey.pCard (C.card i) ≠ .pCard (C.card j) := fun h =>
      hij (C.acyclic i j hi hj (InvenKey.pCard.inj h))
    rw [Function.update_of_ne hne, unsetInven_apply, if_neg hij]
    simp only [keyOf, decide_eq_true_eq, mem_removed hj hi]

/-- a removed card loses both keys -/
theorem unsetInven_removed (hj : j ≤ n) {i : ℕ} (hki : k ≤ i) (hij : i < j) :
    unsetInven inven ((List.range' k (j - k)).map C.card) (.pCard (C.card i)) = none ∧
      unsetInven inven ((List.range' k (j - k)).map C.card) (.pCardExp (C.card i)) = none := by
  have hmem := (mem_removed (C := C) hj (by omega)).2 ⟨hki, hij⟩
  rw [unsetInven_apply, unsetInven_apply]
  simp only [keyOf, decide_eq_true_eq, hmem, if_true, and_self]

/-- keys of other cards, and all other keys, stay -/
theorem unsetInven_frame {key : InvenKey}
    (hkey : ∀ i, k ≤ i → i ≤ j → key ≠ .pCard (C.card i) ∧ key ≠ .pCardExp (C.card i)) :
    unsetInven inven ((List.range' k (j - k)).map C.card) key = inven key := by
  have hkept : keyOf ((List.range' k (j - k)).map C.card) key = false := by
    cases key with
    | pCard x =>
      simp only [keyOf, decide_eq_false_iff_not, List.mem_map, not_exists, not_and, List.mem_range'_1]
      exact fun i hi h => (hkey i hi.1 (by omega)).1 (by rw [h])
    | pCardExp x =>
      simp only [keyOf, decide_eq_false_iff_not, List.mem_map, not_exists, not_and, List.mem_range'_1]
      exact fun i hi h => (hkey i hi.1 (by omega)).2 (by rw [h])
    | other name => rfl
  rw [unsetInven_apply, hkept]
  rfl

theorem carried_removed (hj : j ≤ n) {i : ℕ} (hki : k ≤ i) (hij : i < j) (enchant exp : ℤ) :
    carried C inven k j enchant exp (.pCard (C.card i)) = none ∧
      carried C inven k j enchant exp (.pCardExp (C.card i)) = none := by
  have hne : C.card i ≠ C.card j := fun h => by
    have := C.acyclic i j (by omega) hj h
    omega
  obtain ⟨h1, h2⟩ := unsetInven_removed hj hki hij
  unfold carried
  rw [Function.update_of_ne (by simp), Function.update_of_ne (by simpa using hne),
    Function.update_of_ne (by simpa using hne), Function.update_of_ne (by simp)]
  exact ⟨h1, h2⟩

theorem carried_frame {key : InvenKey} (hj : k ≤ j)
    (hkey : ∀ i, k ≤ i → i ≤ j → key ≠ .pCard (C.card i) ∧ key ≠ .pCardExp (C.card i)) (enchant exp : ℤ) :
    carried C inven k j enchant exp key = inven key := by
  obtain ⟨h1, h2⟩ := hkey j hj le_rfl
  rw [carried, Function.update_of_ne h2, Function.update_of_ne h1]
  exact unsetInven_frame hkey

/-- **Removing the full cards and counting c_j up is a carry of the digits.** -/
theorem applied_carry (hkj : k ≤ j) (hj : j ≤ n) (hfull : ∀ i, k ≤ i → i < j → C.Full inven i) {enchant : ℤ} (exp : ℤ)
    (hnew : if j < n then enchant = C.digit inven j else ¬ C.Owned inven n) :
    Carry C.num k j (C.digit inven) (C.digit (carried C inven k j enchant exp)) := by
  have hself : carried C inven k j enchant exp (.pCard (C.card j)) = some enchant := by
    rw [carried_pCard hj hj, if_pos rfl]
  refine ⟨hfull, ?_, ?_, ?_⟩
  · intro i h1 h2
    rw [digit_lt (by omega), carried_pCard hj (by omega), if_neg (by omega), if_pos ⟨h1, h2⟩]
  · rcases lt_or_eq_of_le hj with hlt | rfl
    · rw [if_pos hlt] at hnew
      rw [digit_lt hlt, hself, hnew]
    · rw [if_neg (lt_irrefl j)] at hnew
      have hown : C.Owned (carried C inven k j enchant exp) j := by
        unfold Owned
        rw [hself]
        exact Option.some_ne_none _
      simp [digit, hnew, hown]
  · intro i hi
    by_cases hin : i ≤ n
    · have hsame : carried C inven k j enchant exp (.pCard (C.card i)) = inven (.pCard (C.card i)) := by
        rw [carried_pCard hj hin, if_neg (by omega), if_neg (by omega)]
      unfold digit Owned
      rcases lt_or_eq_of_le hin with hlt | rfl
      · simp only [if_pos hlt, hsame]
      · simp only [lt_irrefl, if_false, true_and, hsame]
    · simp only [digit, if_neg (show ¬ i < n by omega), show i ≠ n by omega, false_and, if_false]

theorem carried_inRange (hr : C.InRange inven) (hj : j ≤ n) {enchant : ℤ} (exp : ℤ)
    (hnew : j < n → enchant ≤ C.num j - 1) : C.InRange (carried C inven k j enchant exp) := by
  intro i hi e he
  rw [carried_pCard hj hi.le] at he
  split_ifs at he with h1 h2
  · subst h1
    rw [← Option.some.inj he]
    exact hnew hi
  · exact hr i hi e he

end Applied

end UpgradeChain

/-! ## `GivePilotCard` -/

/-- what `GivePilotCard(c_k)` does to the inventory and the gold -/
structure Given {M : Managers} {n : ℕ} (C : UpgradeChain M n) (k : ℕ) (s s' : St) : Prop where
  /-- the ITEM document and `_Inven` change alike -/
  sameChange : SameChange s s'
  /-- the keys of c_k, ..., c_j change, up to the first card that is not full -/
  frame : ∃ j, k ≤ j ∧ j ≤ n ∧ (∀ i, k ≤ i → i < j → C.Full s.inven i) ∧
    ∀ key, (∀ i, k ≤ i → i ≤ j → key ≠ .pCard (C.card i) ∧ key ≠ .pCardExp (C.card i)) → s'.inven key = s.inven key
  counts : ¬ C.Overflows s.inven k → C.total s'.inven = C.total s.inven + weight C.num k ∧ C.InRange s'.inven ∧
    s'.gold = s.gold ∧ s'.player = s.player
  removes : C.Overflows s.inven k → ∀ i, k ≤ i → i < n →
    s'.inven (.pCard (C.card i)) = none ∧ s'.inven (.pCardExp (C.card i)) = none
  returnsExp : C.Overflows s.inven k → C.topLevel s.inven < C.maxLV →
    s'.inven (.pCard (C.card n)) = some 0 ∧
      s'.inven (.pCardExp (C.card n)) = some (C.topExp s.inven + C.top.PCardReturnExp.getD 0) ∧
      s'.gold = s.gold ∧ s'.player = s.player
  paysGold : C.Overflows s.inven k → C.maxLV ≤ C.topLevel s.inven →
    s'.inven (.pCard (C.card n)) = s.inven (.pCard (C.card n)) ∧
      s'.inven (.pCardExp (C.card n)) = s.inven (.pCardExp (C.card n)) ∧
      s'.gold = s.gold + C.alterGold ∧ s'.player = (Update.ofWrites [.inc .Gold C.alterGold]).apply s.player

section

variable {M : Managers} {n : ℕ} {C : UpgradeChain M n} {s : St} {k j : ℕ}

open UpgradeChain

/-- the inventory after a card result -/
theorem applyResult_card (idx : ℤ) {c : CardSet} (hidx : c.idx = C.card j) :
    (applyResult M s idx ((List.range' k (j - k)).map C.card) (.card c)).2.inven =
      carried C s.inven k j c.enchant c.exp := by
  change Function.update (Function.update (applyUnset s _).inven (.pCard c.idx) (some c.enchant)) (.pCardExp c.idx)
    (some c.exp) = _
  rw [applyUnset_inven, hidx]
  rfl

/-- a new card, or one more enchant -/
theorem given_card (hr : C.InRange s.inven) (hkj : k ≤ j) (hj : j ≤ n) (hfull : ∀ i, k ≤ i → i < j → C.Full s.inven i)
    (hno : ¬ C.Overflows s.inven k) {c : CardSet} (hidx : c.idx = C.card j)
    (hnew : if j < n then c.enchant = C.digit s.inven j else ¬ C.Owned s.inven n)
    (hrange : j < n → c.enchant ≤ C.num j - 1) :
    Given C k s (applyResult M s (C.card k) ((List.range' k (j - k)).map C.card) (.card c)).2 := by
  have hinv := applyResult_card (s := s) (k := k) (C.card k) hidx
  refine ⟨applyResult_sameChange M s _ _ _, ⟨j, hkj, hj, hfull, fun key hkey => ?_⟩, fun _ => ⟨?_, ?_, ?_, ?_⟩,
    fun h => absurd h hno, fun h => absurd h hno, fun h => absurd h hno⟩
  · rw [hinv]
    exact carried_frame hkj hkey _ _
  · rw [hinv, total_eq, total_eq]
    exact (applied_carry hkj hj hfull c.exp hnew).value hkj (by omega)
  · rw [hinv]
    exact carried_inRange hr hj c.exp hrange
  · exact applyUnset_gold s _
  · exact applyUnset_player s _

/-- the top card is owned, and every card from c_k on is full -/
theorem given_overflow (hk : k < n) (ho : C.Overflows s.inven k) {r : ResSet}
    (hround : chainRound M s.inven (C.card n) = .stop r) :
    Given C k s (applyResult M s (C.card k) ((List.range' k (n - k)).map C.card) r).2 := by
  rw [round_top, if_pos ho.2, Round.stop.injEq] at hround
  by_cases hmax : C.maxLV ≤ C.topLevel s.inven
  · -- the last level is reached: gold
    rw [if_pos hmax] at hround
    subst hround
    set l := (List.range' k (n - k)).map C.card with hl
    have hinv : (applyResult M s (C.card k) l (.gold (some C.alterGold) (C.card n))).2.inven = unsetInven s.inven l :=
      applyUnset_inven s l
    have htop : C.card n ∉ l := fun h => lt_irrefl n ((mem_removed le_rfl le_rfl).1 h).2
    refine ⟨applyResult_sameChange M s _ _ _, ⟨n, hk.le, le_rfl, ho.1, fun key hkey => ?_⟩, fun h => absurd ho h,
      fun _ i h1 h2 => ?_, fun _ hlt => absurd hmax (not_le.2 hlt), fun _ _ => ⟨?_, ?_, ?_, ?_⟩⟩
    · rw [hinv]
      exact unsetInven_frame hkey
    · rw [hinv]
      exact unsetInven_removed le_rfl h1 h2
    · rw [hinv, unsetInven_apply]
      simp only [keyOf, decide_eq_true_eq, htop, if_false]
    · rw [hinv, unsetInven_apply]
      simp only [keyOf, decide_eq_true_eq, htop, if_false]
    · change (applyUnset s l).gold + C.alterGold = _
      rw [applyUnset_gold]
    · change (Update.ofWrites [.inc .Gold C.alterGold]).apply (applyUnset s l).player = _
      rw [applyUnset_player]
  · -- experience for the top card
    rw [if_neg hmax] at hround
    subst hround
    have hinv := applyResult_card (s := s) (k := k) (C := C) (j := n) (C.card k) (c := ⟨C.card n, 0,
      C.topExp s.inven + C.top.PCardReturnExp.getD 0, C.topExp s.inven, C.topExp s.inven + C.top.PCardReturnExp.getD 0,
      C.topLevel s.inven, M.calcPCardLevel (C.card n) (C.topExp s.inven + C.top.PCardReturnExp.getD 0), 0, 0⟩) rfl
    refine ⟨applyResult_sameChange M s _ _ _, ⟨n, hk.le, le_rfl, ho.1, fun key hkey => ?_⟩, fun h => absurd ho h,
      fun _ i h1 h2 => ?_, fun _ _ => ⟨?_, ?_, applyUnset_gold s _, applyUnset_player s _⟩,
      fun _ hle => absurd hle hmax⟩
    · rw [hinv]
      exact carried_frame hk.le hkey _ _
    · rw [hinv]
      exact carried_removed le_rfl h1 h2 _ _
    · rw [hinv, carried_pCard le_rfl le_rfl, if_pos rfl]
    · rw [hinv, carried, Function.update_self]

/-- **`GivePilotCard` counts along the upgrade chain.** The loop ends after at most n - k + 1 rounds. The total grows by
the weight of c_k; if the carry runs into an owned c_n, the full cards are removed and c_n gets experience, or gold is
paid once. -/
theorem givePilotCard_counts (C : UpgradeChain M n) (s : St) (hr : C.InRange s.inven) (hk : k < n) :
    ∃ out s', (∀ fuel, n - k < fuel → givePilotCard M fuel s (C.card k) = some (some (out, s'))) ∧ Given C k s s' := by
  obtain ⟨j, r, hkj, hj, hfull, hnot, hround, hloop⟩ := chainLoop_spec hr hk.le []
  refine ⟨(applyResult M s (C.card k) ((List.range' k (j - k)).map C.card) r).1,
    (applyResult M s (C.card k) ((List.range' k (j - k)).map C.card) r).2, fun fuel hf => ?_, ?_⟩
  · rw [givePilotCard, hloop fuel hf, List.nil_append]
  rcases lt_or_eq_of_le hj with hlt | rfl
  · -- the carry ends below the top
    have hno : ¬ C.Overflows s.inven k := fun ho => hnot hlt (ho.1 j hkj hlt)
    rcases round_lt hr hlt with ⟨hf, -⟩ | ⟨-, c, hc, hidx, henc, hle⟩
    · exact absurd hf (hnot hlt)
    · rw [hround] at hc
      cases hc
      exact given_card hr hkj hj hfull hno hidx (by rw [if_pos hlt]; exact henc) fun _ => hle
  · by_cases hown : C.Owned s.inven j
    · exact given_overflow hk ⟨hfull, hown⟩ hround
    · rw [round_top, if_neg hown, Round.stop.injEq] at hround
      subst hround
      exact given_card hr hkj hj hfull (fun ho => hown ho.2) rfl (by rw [if_neg (lt_irrefl j)]; exact hown)
        fun h => absurd h (lt_irrefl j)

end

/-- cards 10 → 11 → 12, two copies each for an upgrade, experience 100 a copy for card 12 up to level 3 -/
def sampleManagers : Managers where
  getItem idx :=
    if idx = 10 then some ⟨true, some 2, some 5, some 11, none, none⟩
    else if idx = 11 then some ⟨true, some 2, some 5, some 12, none, none⟩
    else if idx = 12 then some ⟨true, some 0, some 3, none, some 500, some 100⟩
    else none
  calcPCardLevel _ exp := exp / 100 + 1
  calcPCardLevelData _ _ := none

def sampleChain : UpgradeChain sampleManagers 2 where
  card i := 10 + i
  num _ := 2
  top := ⟨true, some 0, some 3, none, some 500, some 100⟩
  maxLV := 3
  alterGold := 500
  acyclic i j _ _ h := by omega
  num_pos _ _ := by decide
  link i hi := by
    match i, hi with
    | 0, _ => exact ⟨_, rfl, rfl, rfl, by decide, rfl⟩
    | 1, _ => exact ⟨_, rfl, rfl, rfl, by decide, rfl⟩
  top_item := rfl
  top_isPCard := rfl
  top_num := ⟨0, le_rfl, rfl⟩
  top_maxLV := rfl
  top_alterGold := rfl

/-- both cards of the chain are full, and the top card is owned -/
def sampleInven : Inven
  | .pCard 10 | .pCard 11 => some 1
  | .pCard 12 => some 0
  | .pCardExp 12 => some 50
  | _ => none

theorem givePilotCard_counts_full : ∃ out s',
    (∀ fuel, 2 < fuel → givePilotCard sampleManagers fuel ⟨sampleInven, sampleInven, 7, fun _ => none, 10, []⟩ 10 =
      some (some (out, s'))) ∧ Given sampleChain 0 ⟨sampleInven, sampleInven, 7, fun _ => none, 10, []⟩ s' := by
  have hr : sampleChain.InRange sampleInven := by
    intro i hi e he
    match i, hi with
    | 0, _ => exact (Option.some.inj he) ▸ le_rfl
    | 1, _ => exact (Option.some.inj he) ▸ le_rfl
  exact givePilotCard_counts sampleChain ⟨sampleInven, sampleInven, 7, fun _ => none, 10, []⟩ hr (k := 0) (by decide)

end GameServer.Pilot
