/-
What a failed `FinishGame` leaves behind (`PHP/PilotCard.php`).

The function takes the used items first, sends the level-up mail and adds the war result on its way, and has two exits
that return false: a missing level row, and the final update of the stored player. Neither of them takes anything back.
- `finishGame_cases`: the three ways through the function, each with the state it leaves;
- `finishGame_failure_iff`: a failed call leaves everything as it was exactly if nothing that was done before its exit
  changed anything;
- `finishGame_failure_keeps`: a failed update after two used items, a level-up and a war win.

`LevelupReward`, `AddWarResult` and `ChangeItemAmount` are not under src/. The first two change a state of their own by
any function of the call (`Services`), the third one changes the amount of the item that it is called for
(`ChangesOneItem`).
-/
import Mathlib.Tactic
import GameServer.Core.Effects
import GameServer.Pilot.FinishGame

namespace GameServer.Pilot

open GameServer.Core

/-- the state behind `LevelupReward` and `AddWarResult`, and what a call does to it -/
structure Services (M W : Type*) where
  mailsAtStart : M
  sendMail : M → ℤ → M
  warAtStart : W
  addWar : W → WarAdd → W

section

variable {M W : Type*} (P : Services M W) (cfg : Config) (E : Env) (amount : ℤ → ℤ → ℤ → ℤ → ℤ)

def Services.mailbox (w : World) : M := w.mails.foldl P.sendMail P.mailsAtStart

def Services.warScore (w : World) : W := w.war.foldl P.addWar P.warAtStart

/-- nothing that a battle can change differs -/
structure SameState (w w' : World) : Prop where
  items : w'.items = w.items
  mails : P.mailbox w' = P.mailbox w
  war : P.warScore w' = P.warScore w
  doc : w'.doc = w.doc
  mem : w'.mem = w.mem

/-! ## The parts of the call -/

/-- `ChangeItemAmount` changes one amount, by its maximum, the difference and the amount itself -/
def ChangesOneItem : Prop := ∀ items idx maxAmount delta,
  E.changeItemAmount items idx maxAmount delta = Function.update items idx (amount idx maxAmount delta (items idx))

/-- an item of the item table, other than the basic missile -/
def Counted (use : ℤ × ℤ) : Prop := E.itemMaxAmount use.1 ≠ none ∧ use.1 ≠ 5000000

instance (use : ℤ × ℤ) : Decidable (Counted E use) := by
  unfold Counted; infer_instance

def itemMax (idx : ℤ) : ℤ := ((E.itemMaxAmount idx).getD none).getD 1

/-- what one used item does to its amount -/
def useAmount (use : ℤ × ℤ) (a : ℤ) : ℤ := amount use.1 (itemMax E use.1) (-use.2) a

/-- the used items leave the amount of every item as it was -/
def ItemsKept (items : ℤ → ℤ) (uses : List (ℤ × ℤ)) : Prop :=
  ∀ idx, actAll Prod.fst (useAmount E amount) (uses.filter fun use => Counted E use) idx (items idx) = items idx

/-- the first exit: below the maximum level, and a level row is missing -/
def MissingRow (p : Player) : Prop :=
  p .Level < cfg.MAX_LEVEL ∧ (E.findGunManData (p .Level) = none ∨ E.findGunManData (p .Level + 1) = none)

/-- the experience suffices for the next level -/
def LevelsUp (b : Battle) (p : Player) : Prop :=
  p .Level < cfg.MAX_LEVEL ∧ ∃ current, E.findGunManData (p .Level) = some current ∧ current.XpRequired ≤ p .Exp + b.Exp

/-- the second exit: the final update fails -/
def UpdateFails (b : Battle) (p : Player) : Prop :=
  ∃ lv, docLevel cfg E b p = some lv ∧ E.updateData (Update.ofWrites (finishData cfg E b p lv)) = false

/-- after the used items -/
def consumed (w : World) (arg : Battle) : World := { w with items := arg.UseItemArray.foldl (useItem E) w.items }

/-- before the final update -/
def rewarded (w : World) (arg : Battle) (lv : LevelStep) : World :=
  { consumed E w arg with
    mails := match lv.levelUp with
      | none => w.mails
      | some (newLevel, _) => w.mails ++ [newLevel]
    war := if warWin E (applyEvent E arg) w.mem then w.war ++ [warAdd cfg E (applyEvent E arg) w.mem] else w.war }

/-- nothing that happens before an exit that is taken changes anything -/
structure HarmlessFailure (w : World) (arg : Battle) : Prop where
  missing : MissingRow cfg E w.mem → ItemsKept E amount w.items arg.UseItemArray
  update : UpdateFails cfg E (applyEvent E arg) w.mem → ItemsKept E amount w.items arg.UseItemArray ∧
    (LevelsUp cfg E (applyEvent E arg) w.mem → P.sendMail (P.mailbox w) (w.mem .Level + 1) = P.mailbox w) ∧
    (warWin E (applyEvent E arg) w.mem = true →
      P.addWar (P.warScore w) (warAdd cfg E (applyEvent E arg) w.mem) = P.warScore w)

variable {P cfg E amount} {w w' : World} {arg b : Battle} {p : Player}

/-! ## The ways through the function -/

theorem docLevel_eq_none : docLevel cfg E b p = none ↔ MissingRow cfg E p := by
  unfold MissingRow
  by_cases hlevel : p .Level < cfg.MAX_LEVEL
  · rw [docLevel, if_pos hlevel, and_iff_right hlevel]
    dsimp only
    cases E.findGunManData (p .Level) with
    | none => simp
    | some current =>
      cases E.findGunManData (p .Level + 1) with
      | none => simp
      | some future =>
        by_cases hxp : current.XpRequired ≤ p .Exp + b.Exp
        · simp [hxp]
        · simp [hxp]
  · simp [docLevel, hlevel]

/-- a mail is sent for a level-up, to the next level -/
theorem docLevel_levelUp {lv : LevelStep} (h : docLevel cfg E b p = some lv) :
    (LevelsUp cfg E b p ∧ ∃ remainEXP, lv.levelUp = some (p .Level + 1, remainEXP)) ∨
      (¬LevelsUp cfg E b p ∧ lv.levelUp = none) := by
  unfold LevelsUp
  by_cases hlevel : p .Level < cfg.MAX_LEVEL
  · rw [docLevel, if_pos hlevel] at h
    dsimp only at h
    cases hcurrent : E.findGunManData (p .Level) with
    | none => simp [hcurrent] at h
    | some current =>
      cases hfuture : E.findGunManData (p .Level + 1) with
      | none => simp [hfuture] at h
      | some future =>
        simp only [hcurrent, hfuture] at h
        by_cases hxp : current.XpRequired ≤ p .Exp + b.Exp
        · left
          rw [if_pos hxp] at h
          obtain rfl := Option.some.inj h
          exact ⟨⟨hlevel, current, rfl, hxp⟩, _, rfl⟩
        · right
          rw [if_neg hxp] at h
          obtain rfl := Option.some.inj h
          refine ⟨?_, rfl⟩
          rintro ⟨-, current', hcurrent', hxp'⟩
          exact hxp (Option.some.inj hcurrent' ▸ hxp')
  · right
    rw [docLevel, if_neg hlevel] at h
    obtain rfl := Option.some.inj h
    exact ⟨fun hup => hlevel hup.1, rfl⟩

/-- the successful end -/
def finished (cfg : Config) (E : Env) (w : World) (arg : Battle) (lv : LevelStep) : World :=
  { rewarded cfg E w arg lv with
    doc := (Update.ofWrites (finishData cfg E (applyEvent E arg) w.mem lv)).apply w.doc
    mem := finishMem cfg E (applyEvent E arg) w.mem lv }

theorem finishGame_eq (cfg : Config) (E : Env) (w : World) (arg : Battle) : finishGame cfg E w arg =
    match docLevel cfg E (applyEvent E arg) w.mem with
    | none => (⟨false, none, []⟩, consumed E w arg)
    | some lv =>
      if E.updateData (Update.ofWrites (finishData cfg E (applyEvent E arg) w.mem lv)) = false then
        (⟨false, none, lv.results⟩, rewarded cfg E w arg lv)
      else
        (⟨true, if (applyEvent E arg).VicType = "VIC" then some (streak (applyEvent E arg) w.mem) else none,
          finishResults cfg E (applyEvent E arg) w.mem lv⟩, finished cfg E w arg lv) := rfl

/-- the two exits that return false, and the successful end -/
theorem finishGame_cases (cfg : Config) (E : Env) (w : World) (arg : Battle) :
    (MissingRow cfg E w.mem ∧ (finishGame cfg E w arg).1.ok = false ∧ (finishGame cfg E w arg).2 = consumed E w arg) ∨
    (∃ lv, docLevel cfg E (applyEvent E arg) w.mem = some lv ∧
      E.updateData (Update.ofWrites (finishData cfg E (applyEvent E arg) w.mem lv)) = false ∧
      (finishGame cfg E w arg).1.ok = false ∧ (finishGame cfg E w arg).2 = rewarded cfg E w arg lv) ∨
    (∃ lv, docLevel cfg E (applyEvent E arg) w.mem = some lv ∧
      E.updateData (Update.ofWrites (finishData cfg E (applyEvent E arg) w.mem lv)) = true ∧
      (finishGame cfg E w arg).1.ok = true ∧ (finishGame cfg E w arg).2 = finished cfg E w arg lv) := by
  rw [finishGame_eq]
  cases hlevel : docLevel cfg E (applyEvent E arg) w.mem with
  | none =>
    left
    exact ⟨docLevel_eq_none.1 hlevel, rfl, rfl⟩
  | some lv =>
    right
    dsimp only
    by_cases hupdate : E.updateData (Update.ofWrites (finishData cfg E (applyEvent E arg) w.mem lv)) = false
    · left
      rw [if_pos hupdate]
      exact ⟨lv, rfl, hupdate, rfl, rfl⟩
    · right
      rw [if_neg hupdate]
      exact ⟨lv, rfl, Bool.eq_true_of_not_eq_false hupdate, rfl, rfl⟩

/-! ## What the parts change -/

theorem useItem_eq (hitems : ChangesOneItem E amount) (items : ℤ → ℤ) (use : ℤ × ℤ) :
    useItem E items use = if Counted E use then applyOne Prod.fst (useAmount E amount) items use else items := by
  by_cases hcounted : Counted E use
  · obtain ⟨hrow, hmissile⟩ := hcounted
    obtain ⟨maxAmount, hmax⟩ := Option.ne_none_iff_exists'.1 hrow
    have hitemMax : itemMax E use.1 = maxAmount.getD 1 := by rw [itemMax, hmax, Option.getD_some]
    rw [if_pos ⟨hrow, hmissile⟩, applyOne, useAmount, hitemMax, ← hitems]
    simp only [useItem, hmax, if_neg hmissile]
  · rw [if_neg hcounted]
    cases hrow : E.itemMaxAmount use.1 with
    | none => simp only [useItem, hrow]
    | some maxAmount =>
      have hmissile : use.1 = 5000000 := by
        by_contra hne
        exact hcounted ⟨by simp [hrow], hne⟩
      simp only [useItem, hrow, if_pos hmissile]

theorem foldl_useItem (hitems : ChangesOneItem E amount) (items : ℤ → ℤ) (uses : List (ℤ × ℤ)) :
    uses.foldl (useItem E) items =
      applyAll Prod.fst (useAmount E amount) items (uses.filter fun use => Counted E use) := by
  unfold applyAll
  rw [List.foldl_filter]
  congr 1
  funext items use
  rw [useItem_eq hitems]
  simp only [decide_eq_true_eq]

theorem consumed_items_iff (hitems : ChangesOneItem E amount) :
    (consumed E w arg).items = w.items ↔ ItemsKept E amount w.items arg.UseItemArray := by
  unfold consumed
  rw [foldl_useItem hitems]
  exact applyAll_eq_self_iff

/-- if no item is named twice, no amount is changed -/
theorem itemsKept_iff {items : ℤ → ℤ} {uses : List (ℤ × ℤ)} (hkeys : (uses.map Prod.fst).Nodup) :
    ItemsKept E amount items uses ↔ ∀ use ∈ uses, Counted E use → useAmount E amount use (items use.1) = items use.1 := by
  have hkeys' : ((uses.filter fun use => Counted E use).map Prod.fst).Nodup := hkeys.sublist (List.filter_sublist.map _)
  unfold ItemsKept
  rw [← applyAll_eq_self_iff, applyAll_eq_self_of_nodup hkeys']
  simp [List.mem_filter]

theorem sameState_consumed (hitems : ChangesOneItem E amount) :
    SameState P w (consumed E w arg) ↔ ItemsKept E amount w.items arg.UseItemArray := by
  rw [← consumed_items_iff hitems]
  exact ⟨SameState.items, fun h => ⟨h, rfl, rfl, rfl, rfl⟩⟩

theorem mailbox_rewarded {lv : LevelStep} (h : docLevel cfg E (applyEvent E arg) w.mem = some lv) :
    P.mailbox (rewarded cfg E w arg lv) = P.mailbox w ↔
      (LevelsUp cfg E (applyEvent E arg) w.mem → P.sendMail (P.mailbox w) (w.mem .Level + 1) = P.mailbox w) := by
  unfold Services.mailbox rewarded
  rcases docLevel_levelUp h with ⟨hup, remainEXP, hmail⟩ | ⟨hno, hmail⟩
  · simp [hmail, hup]
  · simp [hmail, hno]

theorem warScore_rewarded (lv : LevelStep) : P.warScore (rewarded cfg E w arg lv) = P.warScore w ↔
    (warWin E (applyEvent E arg) w.mem = true →
      P.addWar (P.warScore w) (warAdd cfg E (applyEvent E arg) w.mem) = P.warScore w) := by
  unfold Services.warScore rewarded
  by_cases hwin : warWin E (applyEvent E arg) w.mem = true
  · simp [hwin]
  · simp [hwin]

theorem sameState_rewarded (hitems : ChangesOneItem E amount) {lv : LevelStep}
    (h : docLevel cfg E (applyEvent E arg) w.mem = some lv) : SameState P w (rewarded cfg E w arg lv) ↔
      ItemsKept E amount w.items arg.UseItemArray ∧
      (LevelsUp cfg E (applyEvent E arg) w.mem → P.sendMail (P.mailbox w) (w.mem .Level + 1) = P.mailbox w) ∧
      (warWin E (applyEvent E arg) w.mem = true →
        P.addWar (P.warScore w) (warAdd cfg E (applyEvent E arg) w.mem) = P.warScore w) := by
  rw [← consumed_items_iff hitems, ← mailbox_rewarded h, ← warScore_rewarded lv]
  exact ⟨fun hsame => ⟨hsame.items, hsame.mails, hsame.war⟩, fun hsame => ⟨hsame.1, hsame.2.1, hsame.2.2, rfl, rfl⟩⟩

/-! ## A second report of the battle -/

theorem SameState.consumed (h : SameState P w w') : SameState P (consumed E w arg) (consumed E w' arg) := by
  refine ⟨?_, h.mails, h.war, h.doc, h.mem⟩
  unfold Pilot.consumed
  rw [h.items]

theorem SameState.rewarded (h : SameState P w w') (lv : LevelStep) :
    SameState P (rewarded cfg E w arg lv) (rewarded cfg E w' arg lv) := by
  have hmails := h.mails
  have hwar := h.war
  unfold Services.mailbox at hmails
  unfold Services.warScore at hwar
  refine ⟨h.consumed.items, ?_, ?_, h.doc, h.mem⟩
  · unfold Services.mailbox Pilot.rewarded
    cases lv.levelUp with
    | none => exact hmails
    | some up => simp only [List.foldl_append, hmails]
  · unfold Services.warScore Pilot.rewarded
    rw [h.mem]
    by_cases hwin : warWin E (applyEvent E arg) w.mem = true
    · simp only [hwin, if_true, List.foldl_append, hwar]
    · simp only [hwin]
      exact hwar

/-- a call acts on equal states equally -/
theorem SameState.finishGame (h : SameState P w w') (cfg : Config) (E : Env) (arg : Battle) :
    SameState P (finishGame cfg E w arg).2 (finishGame cfg E w' arg).2 := by
  rw [finishGame_eq, finishGame_eq, h.mem]
  cases hlevel : docLevel cfg E (applyEvent E arg) w.mem with
  | none => exact h.consumed
  | some lv =>
    have hrewarded : SameState P (Pilot.rewarded cfg E w arg lv) (Pilot.rewarded cfg E w' arg lv) := h.rewarded lv
    dsimp only
    by_cases hupdate : E.updateData (Update.ofWrites (finishData cfg E (applyEvent E arg) w.mem lv)) = false
    · rw [if_pos hupdate, if_pos hupdate]
      exact hrewarded
    · rw [if_neg hupdate, if_neg hupdate]
      refine ⟨hrewarded.items, hrewarded.mails, hrewarded.war, ?_, ?_⟩
      · unfold finished
        rw [h.mem, h.doc]
      · unfold finished
        rw [h.mem]

/-- **A failed call leaves everything as it was, and the battle can be reported again, exactly if nothing that it did
before its exit changed anything.** -/
theorem finishGame_failure_iff (hitems : ChangesOneItem E amount) :
    ((finishGame cfg E w arg).1.ok = false → SameState P w (finishGame cfg E w arg).2 ∧
      ∀ E', SameState P (finishGame cfg E' w arg).2 (finishGame cfg E' (finishGame cfg E w arg).2 arg).2) ↔
    HarmlessFailure P cfg E amount w arg := by
  have hretry : ((finishGame cfg E w arg).1.ok = false → SameState P w (finishGame cfg E w arg).2 ∧
      ∀ E', SameState P (finishGame cfg E' w arg).2 (finishGame cfg E' (finishGame cfg E w arg).2 arg).2) ↔
      ((finishGame cfg E w arg).1.ok = false → SameState P w (finishGame cfg E w arg).2) :=
    forall_congr' fun _ => ⟨And.left, fun hsame => ⟨hsame, fun E' => hsame.finishGame cfg E' arg⟩⟩
  rw [hretry]
  rcases finishGame_cases cfg E w arg with
    ⟨hmissing, hok, hw⟩ | ⟨lv, hlevel, hupdate, hok, hw⟩ | ⟨lv, hlevel, hupdate, hok, hw⟩
  · rw [hok, hw, forall_prop_of_true rfl, sameState_consumed hitems]
    refine ⟨fun hkept => ⟨fun _ => hkept, ?_⟩, fun h => h.missing hmissing⟩
    rintro ⟨lv, hlevel, -⟩
    rw [docLevel_eq_none.2 hmissing] at hlevel
    cases hlevel
  · rw [hok, hw, forall_prop_of_true rfl, sameState_rewarded hitems hlevel]
    refine ⟨fun hkept => ⟨fun _ => hkept.1, fun _ => hkept⟩, fun h => h.update ⟨lv, hlevel, hupdate⟩⟩
  · rw [hok]
    refine ⟨fun _ => ⟨fun hmissing => ?_, ?_⟩, fun _ hfalse => by cases hfalse⟩
    · rw [docLevel_eq_none.2 hmissing] at hlevel
      cases hlevel
    · rintro ⟨lv', hlevel', hupdate'⟩
      rw [hlevel] at hlevel'
      obtain rfl := Option.some.inj hlevel'
      rw [hupdate] at hupdate'
      cases hupdate'

end

/-- every item has an amount of at most 99, a level needs 100 experience, and no update of a player succeeds -/
def failingEnv : Env where
  currentTime := 1000
  nextResetTime := 605000
  eventFlag := 0
  eventRewardType := ""
  eventRewardAmount := 0
  percent _ _ := 0
  SC a b := decide (a = b)
  itemMaxAmount _ := some (some 99)
  changeItemAmount items idx maxAmount delta := Function.update items idx (min maxAmount (items idx + delta))
  findGunManData _ := some ⟨100, 0, 20⟩
  levelupReward _ := true
  vicAddContribution _ := some 5
  addWarResult _ := some ⟨1, 0, 0⟩
  updateData _ := false

/-- maximum level 50 -/
def failingConfig : Config := ⟨50, 5, 100, 10, 5, 10, 7, 8, 1⟩

/-- the mails that were sent and the sum of the war points -/
def sampleServices : Services (List ℤ) ℤ :=
  ⟨[], fun mails newLevel => mails ++ [newLevel], 0, fun score add => score + add.seasonPoint⟩

/-- a player of some level with 95 experience in a war, who has 5 of each item -/
def failingPlayer (level : ℤ) : Player
  | .Level => level
  | .Exp => 95
  | .RBattleWarKey => 1
  | _ => 0

def failingWorld (level : ℤ) : World := ⟨fun _ => 5, [], [], fun f => some (failingPlayer level f), failingPlayer level⟩

theorem failingEnv_changesOneItem : ChangesOneItem failingEnv fun _ maxAmount delta a => min maxAmount (a + delta) :=
  fun _ _ _ _ => rfl

/-- a lost battle at the maximum level, in which only basic missiles were used -/
theorem finishGame_failure_sample : SameState sampleServices (failingWorld 50)
    (finishGame failingConfig failingEnv (failingWorld 50) ⟨"DEF", [(5000000, 3)], 70, 10, 30, 60⟩).2 := by
  refine ((finishGame_failure_iff failingEnv_changesOneItem).2 ⟨?_, fun _ => ⟨?_, ?_, ?_⟩⟩ (by decide)).1
  · intro hmissing
    exact absurd hmissing.1 (by decide)
  · rw [itemsKept_iff (by decide)]
    decide
  · intro hup
    exact absurd hup.1 (by decide)
  · intro hwin
    exact absurd hwin (by decide)

/-- **A failed update keeps two used items, a level-up mail and 15 war points.** -/
theorem finishGame_failure_keeps :
    (finishGame failingConfig failingEnv (failingWorld 3) ⟨"VIC", [(7, 2)], 70, 10, 30, 60⟩).1.ok = false ∧
      (finishGame failingConfig failingEnv (failingWorld 3) ⟨"VIC", [(7, 2)], 70, 10, 30, 60⟩).2.items 7 = 3 ∧
      sampleServices.mailbox
        (finishGame failingConfig failingEnv (failingWorld 3) ⟨"VIC", [(7, 2)], 70, 10, 30, 60⟩).2 = [4] ∧
      sampleServices.warScore
        (finishGame failingConfig failingEnv (failingWorld 3) ⟨"VIC", [(7, 2)], 70, 10, 30, 60⟩).2 = 15 ∧
      ¬SameState sampleServices (failingWorld 3)
        (finishGame failingConfig failingEnv (failingWorld 3) ⟨"VIC", [(7, 2)], 70, 10, 30, 60⟩).2 := by
  refine ⟨by decide, by decide, by decide, by decide, fun hsame => ?_⟩
  exact absurd (congrFun hsame.items 7) (by decide)

end GameServer.Pilot
