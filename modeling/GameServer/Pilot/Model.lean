/-
The player object of `PHP/PilotCard.php`: the in-memory `_PlayerData`, the stored documents, and `GivePilotCard`.

PHP integers are modelled as `ℤ`; a key of an associative array that is absent (or null) is `none`.
- `_Inven` and the ITEM document: inventory key ↦ value. Pilot cards use two keys, `PCard_<idx>` (enchant) and
  `PCardExp_<idx>`.
- the PLAYER document: field ↦ value. `PlayerField` lists the fields that `GivePilotCard` and `FinishGame` write.

Not under src/, and therefore parameters (`Managers`): the item table `GetItem`, `CalcPCardLevel` and
`CalcPCardLevelData`. `SetEquipPilotCard(c)` sets `_EquipPCard` to c, and `MDB()->UpdateData` applies its document
(`Core.Update.apply`). Calls to `SetEquipPilotCard`, `SendMessageByAdmin` and `AddResult` are recorded in the order they
are made.
-/
import Mathlib.Tactic
import GameServer.Core.Document

namespace GameServer.Pilot

open GameServer.Core

/-! ## Data -/

/-- keys of `_Inven` and of the ITEM document; `other` is any key that is not one of the two card keys -/
inductive InvenKey where
  | pCard (idx : ℤ)
  | pCardExp (idx : ℤ)
  | other (name : String)
deriving DecidableEq, Repr

abbrev Inven := InvenKey → Option ℤ

/-- the fields of `_PlayerData` and of the PLAYER document -/
inductive PlayerField where
  | Level | Exp | Gold | Medal | Life | LifeUseDateTime
  | RecentScore | RecentScoreDateTime | TopScore | TopScoreDateTime
  | WeeklyTopScore | WeeklyTopScoreDateTime | WeeklyAccumulateScore | WeeklyAccumulateScoreDateTime
  | TotalPlayCount | TotalPlayTime | TotalPlayTimeDateTime
  | WeeklyPlayCount | WeeklyPlayCountDateTime | WeeklyPlayTime | WeeklyPlayTimeDateTime
  | TotalVictoryCount | TotalDefeatCount
  | WeeklyVictoryCount | WeeklyVictoryCountDateTime | WeeklyDefeatCount | WeeklyDefeatCountDateTime
  | TutorialStepCategory | TutorialStepIndex
  | PVP_LastConsecutiveVictory | PVP_ConsecutiveVictory | PVP_TopConsecutiveVictory | PVP_TopConsecutiveVictoryDateTime
  | RBattleSeasonPoint | RBattleWarPoint | RBattleSeasonKey | RBattleWarKey | RBattleLegion
deriving DecidableEq, Repr

/-- an item row: the columns that pilot cards use. `isPCard` is `SC($row['Type'], 'PCard')` -/
structure ItemRow where
  isPCard : Bool
  PcardUpgradeNum : Option ℤ
  PcardMaxLV : Option ℤ
  PCardUpgrade : Option ℤ
  AlterGold : Option ℤ
  PCardReturnExp : Option ℤ
deriving DecidableEq, Repr

/-- `PCardLvRewardIndex`, a number or a name -/
inductive RewardIndex where
  | num (n : ℤ)
  | name (s : String)
deriving DecidableEq, Repr

structure Managers where
  getItem : ℤ → Option ItemRow
  calcPCardLevel : ℤ → ℤ → ℤ
  /-- reward index and amount of `CalcPCardLevelData`, if both are set -/
  calcPCardLevelData : ℤ → ℤ → Option (RewardIndex × ℤ)

/-- calls to code that is not under src/ -/
inductive OutsideCall where
  | sendMessageByAdmin (rewardIndex : RewardIndex) (rewardAmount : ℤ) (stringIdx : ℕ)
  | setEquipPilotCard (cardidx : ℤ)
  | addResultEquip
deriving DecidableEq, Repr

structure St where
  /-- `_PlayerData->_Inven` and the ITEM document -/
  inven : Inven
  item : Inven
  /-- `_PlayerData->_Gold` and the PLAYER document -/
  gold : ℤ
  player : PlayerField → Option ℤ
  /-- `_PlayerData->_EquipPCard` -/
  equipPCard : ℤ
  calls : List OutsideCall

/-! ## The chain loop of `GivePilotCard` -/

/-- `$res_set['card']` -/
structure CardSet where
  idx : ℤ
  enchant : ℤ
  exp : ℤ
  lupxpb : ℤ
  lupxpe : ℤ
  luplvb : ℤ
  luplve : ℤ
  enclvb : ℤ
  enclve : ℤ
deriving DecidableEq, Repr

/-- `$res_set`: it holds a card, or gold with the card that it stands for -/
inductive ResSet where
  | card (c : CardSet)
  | gold (amount : Option ℤ) (goldtidx : ℤ)
deriving DecidableEq, Repr

/-- what one round of the loop decides: `return false`, `break`, or on to the upgraded card -/
inductive Round where
  | error
  | stop (r : ResSet)
  | next (target : ℤ)
deriving DecidableEq, Repr

/-- a round for a card that is owned with enchant `before` -/
def ownedRound (M : Managers) (inven : Inven) (target before : ℤ) : Round :=
  let beforeExp := (inven (.pCardExp target)).getD 0
  let beforeLevel := M.calcPCardLevel target beforeExp
  match M.getItem target with
  | none => .error
  | some row =>
    match row.PcardUpgradeNum, row.PcardMaxLV, row.isPCard with
    | some maxUpgradeNum, some maxLevel, true =>
      if maxUpgradeNum ≤ 0 then
        if maxLevel ≤ beforeLevel then .stop (.gold row.AlterGold target)
        else
          let afterExp := beforeExp + row.PCardReturnExp.getD 0
          .stop (.card ⟨target, 0, afterExp, beforeExp, afterExp, beforeLevel, M.calcPCardLevel target afterExp, 0, 0⟩)
      else if before + 1 < maxUpgradeNum then
        .stop (.card ⟨target, before + 1, beforeExp, beforeExp, beforeExp, beforeLevel, beforeLevel, before, before + 1⟩)
      else
        match row.PCardUpgrade with
        | none => .error
        | some up => .next up
    | _, _, _ => .error

/-- one round of the loop -/
def chainRound (M : Managers) (inven : Inven) (target : ℤ) : Round :=
  match inven (.pCard target) with
  | none => .stop (.card ⟨target, 0, 0, 0, 0, 1, 1, 0, 0⟩)
  | some before => ownedRound M inven target before

/-- the loop, with fuel: `none` is out of fuel, `some none` is `return false` -/
def chainLoop (M : Managers) (inven : Inven) : ℕ → ℤ → List ℤ → Option (Option (List ℤ × ResSet))
  | 0, _, _ => none
  | fuel + 1, target, resUnset =>
    match chainRound M inven target with
    | .error => some none
    | .stop r => some (some (resUnset, r))
    | .next up => chainLoop M inven fuel up (resUnset ++ [target])

/-! ## Applying the result -/

/-- `$unset_datas` -/
def unsetDatas (resUnset : List ℤ) : Update InvenKey ℤ :=
  resUnset.foldl (fun u cardidx => (u.addUnset (.pCard cardidx)).addUnset (.pCardExp cardidx)) Update.empty

/-- `unset` of the two keys of every listed card in `_Inven` -/
def unsetInven (inven : Inven) (resUnset : List ℤ) : Inven :=
  resUnset.foldl
    (fun inv cardidx => Function.update (Function.update inv (.pCard cardidx) none) (.pCardExp cardidx) none) inven

/-- `$set_datas` -/
def setDatas (c : CardSet) : Update InvenKey ℤ :=
  Update.ofWrites [.set (.pCard c.idx) c.enchant, .set (.pCardExp c.idx) c.exp]

/-- the mail for the level that a card has reached -/
def levelReward (M : Managers) (c : CardSet) : List OutsideCall :=
  if c.luplvb = c.luplve then []
  else
    match M.calcPCardLevelData c.idx c.luplve with
    | none => []
    | some (.name s, amount) => [.sendMessageByAdmin (.name s) amount 26053]
    | some (.num n, amount) => if 0 < n then [.sendMessageByAdmin (.num n) amount 26053] else []

/-- `$out`; `DIDX` joins the removed cards with '#' -/
structure Out where
  DIDX : Option String
  TIDX : Option ℤ
  /-- `LUPXPB`, `LUPXPE`, `LUPLVB`, `LUPLVE`, `ENCLVB`, `ENCLVE` -/
  levels : Option (ℤ × ℤ × ℤ × ℤ × ℤ × ℤ)
  DUPG : Option ℤ
  IDX : ℤ
deriving DecidableEq, Repr

/-- the removal of the cards of `$res_unset` -/
def applyUnset (s : St) (resUnset : List ℤ) : St :=
  if resUnset = [] then s
  else { s with item := (unsetDatas resUnset).apply s.item, inven := unsetInven s.inven resUnset }

/-- the insertion or change of the card of `$res_set` -/
def applyCard (M : Managers) (s : St) (bChangeEquip : Bool) (c : CardSet) : St :=
  { s with
    item := (setDatas c).apply s.item
    inven := Function.update (Function.update s.inven (.pCard c.idx) (some c.enchant)) (.pCardExp c.idx) (some c.exp)
    equipPCard := if bChangeEquip then c.idx else s.equipPCard
    calls := s.calls ++ levelReward M c ++ if bChangeEquip then [.setEquipPilotCard c.idx, .addResultEquip] else [] }

/-- the gold of `$res_set` -/
def applyGold (s : St) (amount : ℤ) : St :=
  { s with player := (Update.ofWrites [.inc .Gold amount]).apply s.player, gold := s.gold + amount }

/-- what follows the loop. Gold that the item row does not set is not paid, and `TIDX` stays unset -/
def applyResult (M : Managers) (s : St) (pCardIndex : ℤ) (resUnset : List ℤ) (resSet : ResSet) : Out × St :=
  let bChangeEquip := decide (s.equipPCard ∈ resUnset)
  let didx := if resUnset = [] then none else some ("#".intercalate (resUnset.map toString))
  let s1 := applyUnset s resUnset
  match resSet with
  | .card c => (⟨didx, some c.idx, some (c.lupxpb, c.lupxpe, c.luplvb, c.luplve, c.enclvb, c.enclve), none, pCardIndex⟩,
      applyCard M s1 bChangeEquip c)
  | .gold none _ => (⟨didx, none, none, none, pCardIndex⟩, s1)
  | .gold (some amount) goldtidx => (⟨didx, some goldtidx, none, some amount, pCardIndex⟩, applyGold s1 amount)

/-- `GivePilotCard`, with fuel for the loop: `none` is out of fuel, `some none` is `return false` -/
def givePilotCard (M : Managers) (fuel : ℕ) (s : St) (pCardIndex : ℤ) : Option (Option (Out × St)) :=
  match chainLoop M s.inven fuel pCardIndex [] with
  | none => none
  | some none => some none
  | some (some (resUnset, resSet)) => some (some (applyResult M s pCardIndex resUnset resSet))

end GameServer.Pilot
