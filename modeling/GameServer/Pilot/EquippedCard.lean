/-
Whether the equipped pilot card is still owned after `GivePilotCard`, for any acyclic card table.

A gift walks from the given card along the full cards (`UpgradesTo`) and removes them; at the end of the walk a card is
inserted or enchanted, or gold is paid for a card that cannot go further (`MaxedOut`). If the equipped card was removed,
the card at the end is equipped in its place; the branch that pays gold does not do that.

- `chainRound_next`, `chainRound_gold`, `chainRound_card`: one round of the loop, in the terms of the card table;
- `chainLoop_walk`: the loop removes the points of the walk (`Core.Walk`) and decides at its end;
- `equipped_owned_iff`: `GivePilotCard` ends, and the equipped card is owned exactly when it is not used up for gold;
- `equipped_lost`: a gift that removes the equipped card and pays gold.
-/
import Mathlib.Tactic
import GameServer.Core.Walk
import GameServer.Pilot.GiveCard

namespace GameServer.Pilot

open GameServer.Core Relation

/-! ## The card table -/

/-- the row of card a names b as the card it is upgraded to -/
def TableLink (M : Managers) (a b : ℤ) : Prop := ∃ row, M.getItem a = some row ∧ row.PCardUpgrade = some b

/-- a finite card table without a cycle of upgrades -/
structure AcyclicTable (M : Managers) : Prop where
  finite : Set.Finite {a | M.getItem a ≠ none}
  acyclic : ∀ a, ¬ TransGen (TableLink M) a a

theorem AcyclicTable.wf {M : Managers} (h : AcyclicTable M) : WellFounded fun b a => TableLink M a b := by
  refine wellFounded_of_acyclic h.finite ?_ h.acyclic
  rintro a b ⟨row, hrow, -⟩
  change M.getItem a ≠ none
  rw [hrow]
  exact Option.some_ne_none row

/-! ## One round -/

/-- card a is owned and full: one more copy turns it into card b -/
def UpgradesTo (M : Managers) (inven : Inven) (a b : ℤ) : Prop :=
  ∃ before row maxUpgradeNum maxLevel, inven (.pCard a) = some before ∧ M.getItem a = some row ∧ row.isPCard = true ∧
    row.PcardUpgradeNum = some maxUpgradeNum ∧ row.PcardMaxLV = some maxLevel ∧ 0 < maxUpgradeNum ∧
    maxUpgradeNum ≤ before + 1 ∧ row.PCardUpgrade = some b

/-- card a is owned, cannot be enchanted, and has reached its last level -/
def MaxedOut (M : Managers) (inven : Inven) (a : ℤ) : Prop :=
  ∃ before row maxUpgradeNum maxLevel, inven (.pCard a) = some before ∧ M.getItem a = some row ∧ row.isPCard = true ∧
    row.PcardUpgradeNum = some maxUpgradeNum ∧ row.PcardMaxLV = some maxLevel ∧ maxUpgradeNum ≤ 0 ∧
    maxLevel ≤ M.calcPCardLevel a ((inven (.pCardExp a)).getD 0)

section Round

variable {M : Managers} {inven : Inven} {a b : ℤ}

theorem UpgradesTo.tableLink (h : UpgradesTo M inven a b) : TableLink M a b := by
  obtain ⟨-, row, -, -, -, hrow, -, -, -, -, -, hup⟩ := h
  exact ⟨row, hrow, hup⟩

theorem UpgradesTo.round (h : UpgradesTo M inven a b) : chainRound M inven a = .next b := by
  obtain ⟨before, row, num, lv, hown, hrow, hcard, hnum, hlv, hpos, hfull, hup⟩ := h
  have h1 : ¬ num ≤ 0 := not_le.2 hpos
  have h2 : ¬ before + 1 < num := not_lt.2 hfull
  simp only [chainRound, hown, ownedRound, hrow, hcard, hnum, hlv, hup, h1, h2, if_false]

theorem MaxedOut.round (h : MaxedOut M inven a) : ∃ amount, chainRound M inven a = .stop (.gold amount a) := by
  obtain ⟨before, row, num, lv, hown, hrow, hcard, hnum, hlv, hmax, hlevel⟩ := h
  refine ⟨row.AlterGold, ?_⟩
  simp only [chainRound, hown, ownedRound, hrow, hcard, hnum, hlv, hmax, hlevel, if_true]

/-- what one round can decide -/
theorem chainRound_cases (M : Managers) (inven : Inven) (a : ℤ) :
    chainRound M inven a = .error ∨ (∃ c, chainRound M inven a = .stop (.card c) ∧ c.idx = a) ∨ MaxedOut M inven a ∨
      ∃ b, UpgradesTo M inven a b := by
  cases hown : inven (.pCard a) with
  | none => exact Or.inr (Or.inl ⟨⟨a, 0, 0, 0, 0, 1, 1, 0, 0⟩, by simp only [chainRound, hown], rfl⟩)
  | some before =>
    cases hrow : M.getItem a with
    | none => exact Or.inl (by simp only [chainRound, hown, ownedRound, hrow])
    | some row =>
      cases hnum : row.PcardUpgradeNum with
      | none => exact Or.inl (by simp only [chainRound, hown, ownedRound, hrow, hnum])
      | some num =>
        cases hlv : row.PcardMaxLV with
        | none => exact Or.inl (by simp only [chainRound, hown, ownedRound, hrow, hnum, hlv])
        | some lv =>
          cases hcard : row.isPCard with
          | false => exact Or.inl (by simp only [chainRound, hown, ownedRound, hrow, hnum, hlv, hcard])
          | true =>
            simp only [chainRound, hown, ownedRound, hrow, hnum, hlv, hcard]
            split_ifs with hzero hlevel hlast
            · exact Or.inr (Or.inr (Or.inl ⟨before, row, num, lv, hown, hrow, hcard, hnum, hlv, hzero, hlevel⟩))
            · exact Or.inr (Or.inl ⟨_, rfl, rfl⟩)
            · exact Or.inr (Or.inl ⟨_, rfl, rfl⟩)
            · cases hup : row.PCardUpgrade with
              | none => exact Or.inl rfl
              | some b =>
                exact Or.inr (Or.inr (Or.inr ⟨b, before, row, num, lv, hown, hrow, hcard, hnum, hlv, not_le.1 hzero,
                  not_lt.1 hlast, hup⟩))

theorem chainRound_next : chainRound M inven a = .next b ↔ UpgradesTo M inven a b := by
  refine ⟨fun h => ?_, UpgradesTo.round⟩
  rcases chainRound_cases M inven a with herr | ⟨c, hc, -⟩ | hmax | ⟨b', hb'⟩
  · rw [herr] at h; cases h
  · rw [hc] at h; cases h
  · obtain ⟨amount, hgold⟩ := hmax.round
    rw [hgold] at h; cases h
  · rw [hb'.round] at h
    cases h
    exact hb'

theorem chainRound_gold {amount : Option ℤ} {tidx : ℤ} (h : chainRound M inven a = .stop (.gold amount tidx)) :
    MaxedOut M inven a := by
  rcases chainRound_cases M inven a with herr | ⟨c, hc, -⟩ | hmax | ⟨b', hb'⟩
  · rw [herr] at h; cases h
  · rw [hc] at h; cases h
  · exact hmax
  · rw [hb'.round] at h; cases h

theorem chainRound_card {c : CardSet} (h : chainRound M inven a = .stop (.card c)) : ¬ MaxedOut M inven a := by
  intro hmax
  obtain ⟨amount, hgold⟩ := hmax.round
  rw [hgold] at h
  cases h

end Round

/-! ## The loop -/

/-- the card that the loop goes on to -/
def nextCard (M : Managers) (inven : Inven) (a : ℤ) : Option ℤ :=
  match chainRound M inven a with
  | .next b => some b
  | _ => none

theorem link_nextCard {M : Managers} {inven : Inven} {a b : ℤ} :
    Link (nextCard M inven) a b ↔ UpgradesTo M inven a b := by
  rw [← chainRound_next, Link, nextCard]
  cases chainRound M inven a <;> simp

/-- what the loop returns at the end of its walk -/
def loopEnd (removed : List ℤ) : Round → Option (List ℤ × ResSet)
  | .stop r => some (removed, r)
  | _ => none

/-- **The loop removes the cards of the walk**, and decides at its end. -/
theorem chainLoop_walk {M : Managers} {inven : Inven} {a e : ℤ} {l : List ℤ} (h : Walk (nextCard M inven) a l e)
    {fuel : ℕ} (hfuel : l.length < fuel) (acc : List ℤ) :
    chainLoop M inven fuel a acc = some (loopEnd (acc ++ l) (chainRound M inven e)) := by
  induction h generalizing fuel acc with
  | @done a hnone =>
    obtain ⟨fuel, rfl⟩ := Nat.exists_eq_succ_of_ne_zero (by omega : fuel ≠ 0)
    rw [nextCard] at hnone
    rw [chainLoop, List.append_nil]
    cases hround : chainRound M inven a with
    | next b =>
      rw [hround] at hnone
      cases hnone
    | _ => rfl
  | @step a b e l hab _ ih =>
    rw [List.length_cons] at hfuel
    obtain ⟨fuel, rfl⟩ := Nat.exists_eq_succ_of_ne_zero (by omega : fuel ≠ 0)
    have hround : chainRound M inven a = .next b := chainRound_next.2 (link_nextCard.1 hab)
    rw [chainLoop, hround]
    dsimp only
    rw [ih (by omega), List.append_assoc, List.singleton_append]

/-! ## The equipped card -/

/-- the card index in `_EquipPCard` is owned in `_Inven` -/
def EquipOwned (s : St) : Prop := s.inven (.pCard s.equipPCard) ≠ none

instance (s : St) : Decidable (EquipOwned s) := by
  unfold EquipOwned; infer_instance

/-- the state after `GivePilotCard`: nothing has changed if it returns false -/
def afterGive (s : St) : Option (Out × St) → St
  | none => s
  | some r => r.2

theorem applyResult_card_owned {M : Managers} {s : St} (hown : EquipOwned s) (idx : ℤ) (l : List ℤ) (c : CardSet) :
    EquipOwned (applyResult M s idx l (.card c)).2 := by
  have hinven : (applyResult M s idx l (.card c)).2.inven = Function.update (Function.update (applyUnset s l).inven
    (.pCard c.idx) (some c.enchant)) (.pCardExp c.idx) (some c.exp) := rfl
  have hequip : (applyResult M s idx l (.card c)).2.equipPCard =
      if s.equipPCard ∈ l then c.idx else (applyUnset s l).equipPCard := by
    by_cases h : s.equipPCard ∈ l <;> simp [applyResult, applyCard, h]
  have hkept : (applyUnset s l).equipPCard = s.equipPCard := by
    unfold applyUnset
    split_ifs <;> rfl
  unfold EquipOwned at hown ⊢
  rw [hinven, hequip, hkept, Function.update_of_ne (by simp)]
  split_ifs with hmem
  · rw [Function.update_self]
    exact Option.some_ne_none _
  · rcases eq_or_ne s.equipPCard c.idx with heq | hne
    · rw [heq, Function.update_self]
      exact Option.some_ne_none _
    · rw [Function.update_of_ne (by simpa using hne), applyUnset_inven, unsetInven_apply]
      simpa [keyOf, hmem] using hown

theorem applyResult_gold_owned {M : Managers} {s : St} (hown : EquipOwned s) (idx : ℤ) (l : List ℤ) (amount : Option ℤ)
    (tidx : ℤ) : EquipOwned (applyResult M s idx l (.gold amount tidx)).2 ↔ s.equipPCard ∉ l := by
  have hinven : (applyResult M s idx l (.gold amount tidx)).2.inven = unsetInven s.inven l := by
    cases amount <;> exact applyUnset_inven s l
  have hequip : (applyResult M s idx l (.gold amount tidx)).2.equipPCard = s.equipPCard := by
    have hkept : (applyUnset s l).equipPCard = s.equipPCard := by
      unfold applyUnset
      split_ifs <;> rfl
    cases amount <;> exact hkept
  unfold EquipOwned at hown ⊢
  rw [hinven, hequip, unsetInven_apply]
  by_cases hmem : s.equipPCard ∈ l
  · simp [keyOf, hmem]
  · simpa [keyOf, hmem] using hown

/-- the equipped card is one of the full cards from `idx` on, and the last of them turns into a card that is maxed out -/
def UsedUpForGold (M : Managers) (s : St) (idx : ℤ) : Prop :=
  ∃ b top, ReflTransGen (UpgradesTo M s.inven) idx s.equipPCard ∧ UpgradesTo M s.inven s.equipPCard b ∧
    ReflTransGen (UpgradesTo M s.inven) b top ∧ MaxedOut M s.inven top

theorem usedUpForGold_iff {M : Managers} {s : St} {idx e : ℤ} {l : List ℤ} (h : Walk (nextCard M s.inven) idx l e) :
    UsedUpForGold M s idx ↔ s.equipPCard ∈ l ∧ MaxedOut M s.inven e := by
  have hlink : Link (nextCard M s.inven) = UpgradesTo M s.inven := by
    funext a b
    exact propext link_nextCard
  rw [h.mem_iff, hlink]
  constructor
  · rintro ⟨b, top, hreach, hup, hrest, hmax⟩
    have htop : ReflTransGen (Link (nextCard M s.inven)) idx top := by
      rw [hlink]
      exact hreach.trans (.head hup hrest)
    obtain ⟨amount, hgold⟩ := hmax.round
    have hend : top = e := h.eq_end htop (by rw [nextCard, hgold])
    have hnext : nextCard M s.inven s.equipPCard = some b := link_nextCard.2 hup
    exact ⟨⟨hreach, by rw [hnext]; exact Option.some_ne_none b⟩, hend ▸ hmax⟩
  · rintro ⟨⟨hreach, hnext⟩, hmax⟩
    obtain ⟨b, hb⟩ := Option.ne_none_iff_exists'.1 hnext
    have hup : UpgradesTo M s.inven s.equipPCard b := link_nextCard.1 hb
    have hrest := h.reach_end (hlink ▸ hreach.tail hup)
    exact ⟨b, e, hreach, hup, hlink ▸ hrest, hmax⟩

/-- **The equipped card is owned after `GivePilotCard`, unless it is used up for gold.** The loop ends for every acyclic
card table, every inventory and every card. -/
theorem equipped_owned_iff {M : Managers} (hM : AcyclicTable M) {s : St} (hown : EquipOwned s) (idx : ℤ) :
    ∃ res, (∃ rounds, ∀ fuel, rounds < fuel → givePilotCard M fuel s idx = some res) ∧
      (EquipOwned (afterGive s res) ↔ ¬ UsedUpForGold M s idx) := by
  have hwf : WellFounded fun b a => Link (nextCard M s.inven) a b :=
    Subrelation.wf (fun hab => (link_nextCard.1 hab).tableLink) hM.wf
  obtain ⟨l, e, hwalk⟩ := exists_walk hwf idx
  have hloop : ∀ fuel, l.length < fuel →
      chainLoop M s.inven fuel idx [] = some (loopEnd l (chainRound M s.inven e)) :=
    fun fuel hfuel => chainLoop_walk hwalk hfuel []
  rw [usedUpForGold_iff hwalk]
  cases hround : chainRound M s.inven e with
  | next b =>
    have hnone := hwalk.next_end
    rw [nextCard, hround] at hnone
    cases hnone
  | error =>
    refine ⟨none, ⟨l.length, fun fuel hfuel => ?_⟩, iff_of_true hown ?_⟩
    · rw [givePilotCard, hloop fuel hfuel, hround]
      rfl
    · rintro ⟨-, hmax⟩
      obtain ⟨amount, hgold⟩ := hmax.round
      rw [hround] at hgold
      cases hgold
  | stop r =>
    refine ⟨some (applyResult M s idx l r), ⟨l.length, fun fuel hfuel => ?_⟩, ?_⟩
    · rw [givePilotCard, hloop fuel hfuel, hround]
      rfl
    · cases r with
      | card c => exact iff_of_true (applyResult_card_owned hown idx l c) fun h => chainRound_card hround h.2
      | gold amount tidx =>
        have hmax := chainRound_gold hround
        have hgold := applyResult_gold_owned (M := M) hown idx l amount tidx
        exact hgold.trans ⟨fun h hc => h hc.1, fun h hmem => h ⟨hmem, hmax⟩⟩

theorem sampleManagers_acyclic : AcyclicTable sampleManagers := by
  have hup : ∀ a b, TableLink sampleManagers a b → a < b := by
    rintro a b ⟨row, hrow, hrowUp⟩
    simp only [sampleManagers] at hrow
    split_ifs at hrow with h1 h2 h3
    all_goals
      cases hrow
      simp only [Option.some.injEq, reduceCtorEq] at hrowUp
      try omega
  have htrans : ∀ a b, TransGen (TableLink sampleManagers) a b → a < b := by
    intro a b h
    induction h with
    | single hab => exact hup _ _ hab
    | tail _ hbc ih => exact ih.trans (hup _ _ hbc)
  refine ⟨Set.Finite.subset (Set.toFinite {10, 11, 12}) ?_, fun a h => lt_irrefl a (htrans a a h)⟩
  intro a ha
  by_contra hout
  simp only [Set.mem_insert_iff, Set.mem_singleton_iff, not_or] at hout
  exact ha (by simp [sampleManagers, hout])

/-- card 10 is equipped, cards 10 and 11 are full, and card 12 has the given experience -/
def equipSt (exp : ℤ) : St :=
  ⟨Function.update sampleInven (.pCardExp 12) (some exp), sampleInven, 7, fun _ => none, 10, []⟩

/-- card 12 is below its last level, and no other card can be maxed out -/
theorem equipped_owned_top : ∃ res,
    (∃ rounds, ∀ fuel, rounds < fuel → givePilotCard sampleManagers fuel (equipSt 50) 10 = some res) ∧
      EquipOwned (afterGive (equipSt 50) res) := by
  obtain ⟨res, hres, hiff⟩ := equipped_owned_iff sampleManagers_acyclic (s := equipSt 50) (by decide) 10
  refine ⟨res, hres, hiff.2 ?_⟩
  rintro ⟨b, top, -, -, -, before, row, num, lv, -, hrow, -, hnum, hlv, hzero, hlevel⟩
  simp only [sampleManagers] at hrow
  split_ifs at hrow with h1 h2 h3
  · cases hrow
    cases hnum
    exact absurd hzero (by decide)
  · cases hrow
    cases hnum
    exact absurd hzero (by decide)
  · cases hrow
    cases hlv
    subst h3
    exact absurd hlevel (by decide)

/-- **The equipped card is lost**: card 12 has reached its last level, gold is paid, and card 10 stays equipped without
being owned -/
theorem equipped_lost : AcyclicTable sampleManagers ∧ EquipOwned (equipSt 250) ∧
    ∃ out s', givePilotCard sampleManagers 3 (equipSt 250) 10 = some (some (out, s')) ∧ ¬ EquipOwned s' := by
  refine ⟨sampleManagers_acyclic, by decide, ?_⟩
  obtain ⟨⟨out, s'⟩, hres⟩ : ∃ r, givePilotCard sampleManagers 3 (equipSt 250) 10 = some (some r) := ⟨_, rfl⟩
  refine ⟨out, s', hres, ?_⟩
  cases hres
  decide

end GameServer.Pilot
