/-
`FinishGame` keeps `_PlayerData` and the stored player in agreement, with two exceptions.

Every field belongs to one `Part` of the function, and each part of `$data` and of the memory update writes fields of its
own part only (`Sect`). So a field can be followed through one part at a time:
- `finishData_nodup`: `$data` has one operator a field, so the store accepts it and applies it like assignments;
- `finishData_effect`, `finishMem_apply`: what the two halves do to a field;
- `finishGame_agrees_iff`: after a successful call the compared fields agree iff the player was below MAX_LEVEL or got
  no experience, and no war win with negative points was added.
At MAX_LEVEL the memory update adds the experience and `$data` has no entry for it; the war points are added to the
document in any case, but to the memory only if they are positive.
-/
import Mathlib.Tactic
import GameServer.Pilot.FinishGame

namespace GameServer.Pilot

open GameServer.Core

/-! ## Parts -/

inductive Part where
  | gold | score | weekly | play | level | streak | medal | war | fixed
deriving DecidableEq, Repr

def PlayerField.part : PlayerField → Part
  | .Gold => .gold
  | .RecentScore | .RecentScoreDateTime | .TopScore | .TopScoreDateTime => .score
  | .WeeklyTopScore | .WeeklyTopScoreDateTime | .WeeklyAccumulateScore | .WeeklyAccumulateScoreDateTime => .weekly
  | .TotalPlayCount | .TotalPlayTime | .TotalPlayTimeDateTime | .WeeklyPlayCount | .WeeklyPlayCountDateTime
  | .WeeklyPlayTime | .WeeklyPlayTimeDateTime | .TotalVictoryCount | .TotalDefeatCount | .WeeklyVictoryCount
  | .WeeklyVictoryCountDateTime | .WeeklyDefeatCount | .WeeklyDefeatCountDateTime => .play
  | .Level | .Exp | .Life | .LifeUseDateTime | .TutorialStepCategory | .TutorialStepIndex => .level
  | .PVP_LastConsecutiveVictory | .PVP_ConsecutiveVictory | .PVP_TopConsecutiveVictory
  | .PVP_TopConsecutiveVictoryDateTime => .streak
  | .Medal => .medal
  | .RBattleSeasonPoint | .RBattleWarPoint => .war
  | .RBattleSeasonKey | .RBattleWarKey | .RBattleLegion => .fixed

/-- entries of one part, without repeated fields -/
structure Sect (x : Part) (ws : List PlayerWrite) : Prop where
  part : ∀ w ∈ ws, w.key.part = x
  nodup : (ws.map Write.key).Nodup

namespace Sect

variable {x : Part} {ws : List PlayerWrite}

theorem effect_ne (h : Sect x ws) {f : PlayerField} (hf : f.part ≠ x) (v : ℤ) : effect ws f v = v :=
  effect_of_not_mem (fun w hw hkey => hf (by rw [← hkey]; exact h.part w hw)) v

end Sect

section

variable (cfg : Config) (E : Env) (b : Battle) (p : Player)

theorem single_sect {x : Part} {w : PlayerWrite} (h : w.key.part = x) : Sect x [w] := ⟨by simpa using h, by simp⟩

theorem docScore_sect : Sect .score (docScore E b p) := by
  unfold docScore
  split_ifs <;> exact ⟨by simp [PlayerField.part], by simp⟩

theorem docWeekly_sect : Sect .weekly (docWeekly E b p) := by
  unfold docWeekly
  split_ifs <;> exact ⟨by simp [PlayerField.part], by simp⟩

theorem docPlay_sect : Sect .play (docPlay E b p) := by
  unfold docPlay
  split_ifs <;> exact ⟨by simp [PlayerField.part], by simp⟩

theorem docStreak_sect : Sect .streak (docStreak cfg E b p) := by
  unfold docStreak
  split_ifs <;> exact ⟨by simp [PlayerField.part], by simp⟩

theorem docWar_sect (gain : Option (ℤ × ℤ × WarResult)) : Sect .war (docWar gain) := by
  unfold docWar
  split <;> exact ⟨by simp [PlayerField.part], by simp⟩

theorem memLevel_sect (up : Option (ℤ × ℤ)) : Sect .level (memLevel cfg E b up p) := by
  unfold memLevel
  split
  · split_ifs <;> exact ⟨by simp [PlayerField.part], by simp⟩
  · exact ⟨by simp [PlayerField.part], by simp⟩

theorem memWar_sect (gain : Option (ℤ × ℤ × WarResult)) : Sect .war (memWar gain) := by
  unfold memWar
  split
  · exact ⟨by simp, by simp⟩
  · split_ifs <;> exact ⟨by simp [PlayerField.part], by simp⟩

/-! ## The level step -/

variable {cfg E b p}

/-- a new level, experience below the maximum level, or nothing at all -/
theorem docLevel_some {lv : LevelStep} (h : docLevel cfg E b p = some lv) :
    (∃ remain tutorial, lv.levelUp = some (p .Level + 1, remain) ∧ p .Level < cfg.MAX_LEVEL ∧
      lv.data = [.inc .Level 1, .set .Exp remain] ++
        (if p .Life < cfg.MAX_LIFE then [.set .Life cfg.MAX_LIFE, .set .LifeUseDateTime E.currentTime] else []) ++
        tutorial ∧
      (tutorial = [] ∨ ∃ c i, tutorial = [.set .TutorialStepCategory c, .set .TutorialStepIndex i])) ∨
    (lv.levelUp = none ∧ p .Level < cfg.MAX_LEVEL ∧ lv.data = [.inc .Exp b.Exp]) ∨
    (lv.levelUp = none ∧ cfg.MAX_LEVEL ≤ p .Level ∧ lv.data = []) := by
  unfold docLevel at h
  by_cases hmax : p .Level < cfg.MAX_LEVEL
  · simp only [hmax, if_true] at h
    split at h
    · rename_i current future _ _
      by_cases hup : current.XpRequired ≤ p .Exp + b.Exp
      · left
        rw [if_pos hup, Option.some.injEq] at h
        subst h
        refine ⟨_, _, rfl, hmax, rfl, ?_⟩
        split_ifs
        · exact Or.inr ⟨_, _, rfl⟩
        · exact Or.inr ⟨_, _, rfl⟩
        · exact Or.inl rfl
      · rw [if_neg hup, Option.some.injEq] at h
        subst h
        exact Or.inr (Or.inl ⟨rfl, hmax, rfl⟩)
    · cases h
  · simp only [hmax, if_false, Option.some.injEq] at h
    subst h
    exact Or.inr (Or.inr ⟨rfl, not_lt.1 hmax, rfl⟩)

theorem docLevel_sect {lv : LevelStep} (h : docLevel cfg E b p = some lv) : Sect .level lv.data := by
  rcases docLevel_some h with ⟨remain, tutorial, -, -, hdata, ht⟩ | ⟨-, -, hdata⟩ | ⟨-, -, hdata⟩
  · rw [hdata]
    rcases ht with rfl | ⟨c, i, rfl⟩ <;> split_ifs <;> exact ⟨by simp [PlayerField.part], by simp⟩
  · rw [hdata]; exact single_sect rfl
  · rw [hdata]; exact ⟨by simp, by simp⟩

/-! ## The two halves, field by field -/

/-- sections of different parts: no field is written twice -/
theorem flatten_nodup {l : List (Part × List PlayerWrite)} (h : ∀ e ∈ l, Sect e.1 e.2) (hd : (l.map Prod.fst).Nodup) :
    (((l.map Prod.snd).flatten).map Write.key).Nodup := by
  induction l with
  | nil => exact List.nodup_nil
  | cons e l ih =>
    rw [List.map_cons, List.nodup_cons] at hd
    rw [List.map_cons, List.flatten_cons, List.map_append, List.nodup_append]
    refine ⟨(h e List.mem_cons_self).nodup, ih (fun e' he' => h e' (List.mem_cons_of_mem _ he')) hd.2, ?_⟩
    intro f hf f' hf' heq
    obtain ⟨w, hw, rfl⟩ := List.mem_map.1 hf
    obtain ⟨w', hw', rfl⟩ := List.mem_map.1 hf'
    obtain ⟨ws, hws, hw'⟩ := List.mem_flatten.1 hw'
    obtain ⟨e', he', rfl⟩ := List.mem_map.1 hws
    have h1 := (h e List.mem_cons_self).part w hw
    have h2 := (h e' (List.mem_cons_of_mem _ he')).part w' hw'
    rw [heq, h2] at h1
    exact hd.1 (List.mem_map.2 ⟨e', he', h1⟩)

/-- and a field is changed by the section of its part only -/
theorem effect_flatten {l : List (Part × List PlayerWrite)} (h : ∀ e ∈ l, Sect e.1 e.2) (hd : (l.map Prod.fst).Nodup)
    {f : PlayerField} {ws : List PlayerWrite} (hf : (f.part, ws) ∈ l) (v : ℤ) :
    effect (l.map Prod.snd).flatten f v = effect ws f v := by
  induction l generalizing v with
  | nil => cases hf
  | cons e l ih =>
    rw [List.map_cons, List.nodup_cons] at hd
    rw [List.map_cons, List.flatten_cons, effect_append]
    have hl : ∀ e' ∈ l, Sect e'.1 e'.2 := fun e' he' => h e' (List.mem_cons_of_mem _ he')
    rcases List.mem_cons.1 hf with rfl | hf
    · refine effect_of_not_mem (fun w hw hkey => ?_) _
      obtain ⟨ws', hws', hw⟩ := List.mem_flatten.1 hw
      obtain ⟨e', he', rfl⟩ := List.mem_map.1 hws'
      have hpart := (hl e' he').part w hw
      rw [hkey] at hpart
      exact hd.1 (List.mem_map.2 ⟨e', he', hpart.symm⟩)
    · have hne : f.part ≠ e.1 := fun heq => hd.1 (List.mem_map.2 ⟨_, hf, heq⟩)
      rw [(h e List.mem_cons_self).effect_ne hne, ih hl hd.2 hf]

variable (cfg E b p) in
/-- the parts of `$data` -/
def dataParts (lv : LevelStep) : List (Part × List PlayerWrite) :=
  [(.score, docScore E b p), (.weekly, docWeekly E b p), (.play, docPlay E b p), (.level, lv.data),
    (.gold, [.inc .Gold (b.Gold + lv.gold)]), (.streak, docStreak cfg E b p), (.medal, [.inc .Medal lv.medal]),
    (.war, docWar (warGain cfg E b p))]

theorem finishData_eq (lv : LevelStep) : finishData cfg E b p lv = ((dataParts cfg E b p lv).map Prod.snd).flatten := by
  simp [finishData, dataParts]

theorem dataParts_sect {lv : LevelStep} (h : docLevel cfg E b p = some lv) :
    ∀ e ∈ dataParts cfg E b p lv, Sect e.1 e.2 := by
  intro e he
  simp only [dataParts, List.mem_cons, List.not_mem_nil, or_false] at he
  rcases he with rfl | rfl | rfl | rfl | rfl | rfl | rfl | rfl
  · exact docScore_sect E b p
  · exact docWeekly_sect E b p
  · exact docPlay_sect E b p
  · exact docLevel_sect h
  · exact single_sect rfl
  · exact docStreak_sect cfg E b p
  · exact single_sect rfl
  · exact docWar_sect _

theorem dataParts_nodup (lv : LevelStep) : ((dataParts cfg E b p lv).map Prod.fst).Nodup := by
  simp [dataParts]

/-- **`$data` writes no field twice**, so the store accepts it. -/
theorem finishData_nodup {lv : LevelStep} (h : docLevel cfg E b p = some lv) :
    ((finishData cfg E b p lv).map Write.key).Nodup := by
  rw [finishData_eq]
  exact flatten_nodup (dataParts_sect h) (dataParts_nodup lv)

/-- **No field is both set and incremented**, so `$data` is a well-formed update. -/
theorem finishData_noConflict {lv : LevelStep} (h : docLevel cfg E b p = some lv) :
    (Update.ofWrites (finishData cfg E b p lv)).NoConflict := Update.ofWrites_noConflict (finishData_nodup h)

/-- what the document does to a field of part `f.part` -/
theorem finishData_effect {lv : LevelStep} (h : docLevel cfg E b p = some lv) {f : PlayerField} {ws : List PlayerWrite}
    (hf : (f.part, ws) ∈ dataParts cfg E b p lv) (v : ℤ) : effect (finishData cfg E b p lv) f v = effect ws f v := by
  rw [finishData_eq]
  exact effect_flatten (dataParts_sect h) (dataParts_nodup lv) hf v

/-! ### The memory update reads what the document was built from -/

/-- the fields of a part are untouched -/
def SamePart (x : Part) (q p : Player) : Prop := ∀ f : PlayerField, f.part = x → q f = p f

theorem memScore_eq {q : Player} (h : SamePart .score q p) : memScore E b q = docScore E b p := by
  unfold memScore docScore
  rw [h .TopScore rfl]

theorem memWeekly_eq {q : Player} (h : SamePart .weekly q p) : memWeekly E b q = docWeekly E b p := by
  unfold memWeekly docWeekly
  rw [h .WeeklyAccumulateScoreDateTime rfl, h .WeeklyTopScore rfl]

theorem memPlay_eq {q : Player} (h : SamePart .play q p) : memPlay E b q = docPlay E b p := by
  unfold memPlay docPlay
  rw [h .WeeklyPlayCountDateTime rfl]

theorem memStreak_eq {q : Player} (h : SamePart .streak q p) :
    memStreak cfg E b (streak b p) q = docStreak cfg E b p := by
  unfold memStreak docStreak
  rw [h .PVP_ConsecutiveVictory rfl, h .PVP_TopConsecutiveVictory rfl]

theorem memLevel_eq {q : Player} (h : SamePart .level q p) (up : Option (ℤ × ℤ)) :
    memLevel cfg E b up q = memLevel cfg E b up p := by
  unfold memLevel
  rw [h .Life rfl]

/-- the parts of the memory update, in the order of the code -/
def memParts (cfg : Config) (E : Env) (b : Battle) (p : Player) (lv : LevelStep) : List (Part × List PlayerWrite) :=
  [(.gold, [.inc .Gold (b.Gold + lv.gold)]), (.score, docScore E b p), (.weekly, docWeekly E b p), (.play, docPlay E b p),
    (.level, memLevel cfg E b lv.levelUp p), (.streak, docStreak cfg E b p), (.medal, [.inc .Medal lv.medal]),
    (.war, memWar (warGain cfg E b p))]

theorem memParts_sect (lv : LevelStep) : ∀ e ∈ memParts cfg E b p lv, Sect e.1 e.2 := by
  intro e he
  simp only [memParts, List.mem_cons, List.not_mem_nil, or_false] at he
  rcases he with rfl | rfl | rfl | rfl | rfl | rfl | rfl | rfl
  · exact single_sect rfl
  · exact docScore_sect E b p
  · exact docWeekly_sect E b p
  · exact docPlay_sect E b p
  · exact memLevel_sect cfg E b p _
  · exact docStreak_sect cfg E b p
  · exact single_sect rfl
  · exact memWar_sect _

theorem memParts_nodup (lv : LevelStep) : ((memParts cfg E b p lv).map Prod.fst).Nodup := by
  simp [memParts]

/-- the memory after the parts before the one of a field, which has not been changed yet -/
theorem exec_flatten_same {l : List (Part × List PlayerWrite)} (h : ∀ e ∈ l, Sect e.1 e.2) {x : Part}
    (hx : x ∉ l.map Prod.fst) (p : Player) : SamePart x (exec p (l.map Prod.snd).flatten) p := by
  intro f hf
  rw [exec_apply]
  refine effect_of_not_mem (fun w hw hkey => ?_) _
  obtain ⟨ws, hws, hw⟩ := List.mem_flatten.1 hw
  obtain ⟨e, he, rfl⟩ := List.mem_map.1 hws
  have hpart := (h e he).part w hw
  rw [hkey, hf] at hpart
  exact hx (List.mem_map.2 ⟨e, he, hpart.symm⟩)

/-- **The second half of the function executes the parts in order.** -/
theorem finishMem_eq (lv : LevelStep) :
    finishMem cfg E b p lv = exec p ((memParts cfg E b p lv).map Prod.snd).flatten := by
  have same : ∀ n x, x ∉ ((memParts cfg E b p lv).take n).map Prod.fst →
      SamePart x (exec p (((memParts cfg E b p lv).take n).map Prod.snd).flatten) p := fun n x hx =>
    exec_flatten_same (fun e he => memParts_sect lv e (List.mem_of_mem_take he)) hx p
  have s1 : SamePart .score (exec p [.inc .Gold (b.Gold + lv.gold)]) p := by
    simpa [memParts] using same 1 .score (by simp [memParts])
  have s2 : SamePart .weekly (exec p ([.inc .Gold (b.Gold + lv.gold)] ++ docScore E b p)) p := by
    simpa [memParts] using same 2 .weekly (by simp [memParts])
  have s3 : SamePart .play (exec p ([.inc .Gold (b.Gold + lv.gold)] ++ docScore E b p ++ docWeekly E b p)) p := by
    simpa [memParts] using same 3 .play (by simp [memParts])
  have s4 : SamePart .level (exec p ([.inc .Gold (b.Gold + lv.gold)] ++ docScore E b p ++ docWeekly E b p ++
      docPlay E b p)) p := by
    simpa [memParts] using same 4 .level (by simp [memParts])
  have s5 : SamePart .streak (exec p ([.inc .Gold (b.Gold + lv.gold)] ++ docScore E b p ++ docWeekly E b p ++
      docPlay E b p ++ memLevel cfg E b lv.levelUp p)) p := by
    simpa [memParts] using same 5 .streak (by simp [memParts])
  unfold finishMem
  simp only [memScore_eq s1, memWeekly_eq s2, memPlay_eq s3, memLevel_eq s4, memStreak_eq s5, exec_append]
  simp [memParts]

/-- what the memory update does to a field of part `f.part` -/
theorem finishMem_apply (lv : LevelStep) {f : PlayerField} {ws : List PlayerWrite}
    (hf : (f.part, ws) ∈ memParts cfg E b p lv) : finishMem cfg E b p lv f = effect ws f (p f) := by
  rw [finishMem_eq, exec_apply]
  exact effect_flatten (memParts_sect lv) (memParts_nodup lv) hf _

/-! ## Agreement -/

/-- the compared fields -/
def compared : List PlayerField :=
  [.Level, .Exp, .Gold, .Medal, .Life, .RecentScore, .TopScore, .WeeklyTopScore, .WeeklyAccumulateScore,
    .TotalPlayCount, .TotalPlayTime, .WeeklyPlayCount, .WeeklyPlayTime, .TotalVictoryCount, .TotalDefeatCount,
    .WeeklyVictoryCount, .WeeklyDefeatCount, .PVP_LastConsecutiveVictory, .PVP_ConsecutiveVictory,
    .PVP_TopConsecutiveVictory, .RBattleSeasonPoint, .RBattleWarPoint]

/-- the document stores what is in memory -/
def Agrees (doc : PlayerField → Option ℤ) (mem : Player) : Prop := ∀ f ∈ compared, doc f = some (mem f)

theorem level_compared : ∀ f ∈ [PlayerField.Level, .Exp, .Life], f.part = .level ∧ f ∈ compared := by decide

theorem war_compared : ∀ f ∈ [PlayerField.RBattleSeasonPoint, .RBattleWarPoint], f.part = .war ∧ f ∈ compared := by decide

theorem compared_part : ∀ f ∈ compared, (f.part = .level → f ∈ [PlayerField.Level, .Exp, .Life]) ∧
    (f.part = .war → f ∈ [PlayerField.RBattleSeasonPoint, .RBattleWarPoint]) ∧ f.part ≠ .fixed := by decide

/-- all other parts are the same in both halves -/
theorem shared_part (lv : LevelStep) {x : Part} (h1 : x ≠ .level) (h2 : x ≠ .war) (h3 : x ≠ .fixed) :
    ∃ ws, (x, ws) ∈ dataParts cfg E b p lv ∧ (x, ws) ∈ memParts cfg E b p lv := by
  cases x with
  | gold => exact ⟨[.inc .Gold (b.Gold + lv.gold)], by simp [dataParts], by simp [memParts]⟩
  | score => exact ⟨docScore E b p, by simp [dataParts], by simp [memParts]⟩
  | weekly => exact ⟨docWeekly E b p, by simp [dataParts], by simp [memParts]⟩
  | play => exact ⟨docPlay E b p, by simp [dataParts], by simp [memParts]⟩
  | streak => exact ⟨docStreak cfg E b p, by simp [dataParts], by simp [memParts]⟩
  | medal => exact ⟨[.inc .Medal lv.medal], by simp [dataParts], by simp [memParts]⟩
  | level => exact absurd rfl h1
  | war => exact absurd rfl h2
  | fixed => exact absurd rfl h3

/-- agreement of one field after the call -/
theorem agrees_field {lv : LevelStep} {doc : PlayerField → Option ℤ} (h : docLevel cfg E b p = some lv) {f : PlayerField}
    {ws ws' : List PlayerWrite} (hd : (f.part, ws) ∈ dataParts cfg E b p lv) (hm : (f.part, ws') ∈ memParts cfg E b p lv)
    (hdoc : doc f = some (p f)) :
    (Update.ofWrites (finishData cfg E b p lv)).apply doc f = some (finishMem cfg E b p lv f) ↔
      effect ws f (p f) = effect ws' f (p f) := by
  rw [Update.ofWrites_apply (finishData_nodup h) hdoc, finishData_effect h hd, finishMem_apply lv hm, Option.some.injEq]

/-- the experience part agrees below the maximum level, or without experience -/
theorem level_agrees {lv : LevelStep} (h : docLevel cfg E b p = some lv) :
    (∀ f ∈ [PlayerField.Level, .Exp, .Life],
      effect lv.data f (p f) = effect (memLevel cfg E b lv.levelUp p) f (p f)) ↔
      p .Level < cfg.MAX_LEVEL ∨ b.Exp = 0 := by
  rcases docLevel_some h with ⟨remain, tutorial, hup, hlt, hdata, ht⟩ | ⟨hup, hlt, hdata⟩ | ⟨hup, hge, hdata⟩
  · simp only [hlt, true_or, iff_true]
    rw [hup, hdata]
    rcases ht with rfl | ⟨c, i, rfl⟩ <;> by_cases hlife : p .Life < cfg.MAX_LIFE <;> simp [memLevel, hlife]
  · simp only [hlt, true_or, iff_true]
    rw [hup, hdata]
    simp [memLevel]
  · rw [hup, hdata]
    simp [memLevel, not_lt.2 hge]

/-- the war part agrees unless negative points were added -/
theorem war_agrees (gain : Option (ℤ × ℤ × WarResult)) (hgain : ∀ s w r, gain = some (s, w, r) → w = s ∨ w = 0) :
    (∀ f ∈ [PlayerField.RBattleSeasonPoint, .RBattleWarPoint],
      effect (docWar gain) f (p f) = effect (memWar gain) f (p f)) ↔ ∀ s w r, gain = some (s, w, r) → 0 ≤ s := by
  cases gain with
  | none => simp [docWar, memWar]
  | some g =>
    obtain ⟨s, w, r⟩ := g
    have hw := hgain s w r rfl
    by_cases hs : 0 < s
    · simp [docWar, memWar, hs, hs.le]
    · simp only [docWar, memWar, hs, if_false, List.mem_cons, List.not_mem_nil, or_false, forall_eq_or_imp, forall_eq,
        effect_cons, effect_nil, Write.key_inc, if_true, reduceCtorEq, Write.act_inc, add_eq_left, Option.some.injEq,
        Prod.mk.injEq, and_imp]
      constructor
      · rintro ⟨hs0, -⟩ s' w' r' rfl - -
        exact hs0.ge
      · intro hall
        have := hall s w r rfl rfl rfl
        omega

/-- the battle adds points to a war, and they are negative -/
def NegativeWarPoints (cfg : Config) (E : Env) (b : Battle) (p : Player) : Prop :=
  warWin E b p = true ∧ E.addWarResult (warAdd cfg E b p) ≠ none ∧ warPoints cfg E b p < 0

theorem warGain_nonneg_iff :
    (∀ s w r, warGain cfg E b p = some (s, w, r) → 0 ≤ s) ↔ ¬ NegativeWarPoints cfg E b p := by
  unfold warGain NegativeWarPoints
  by_cases hwin : warWin E b p = true
  · cases hr : E.addWarResult (warAdd cfg E b p) with
    | none => simp [hwin]
    | some r =>
      simp only [hwin, if_true, Option.some.injEq, Prod.mk.injEq, and_imp, ne_eq, reduceCtorEq, not_false_eq_true,
        true_and, not_lt]
      constructor
      · intro hall
        exact hall _ _ _ rfl rfl rfl
      · rintro hge s w r rfl - -
        exact hge
  · simp [hwin]

theorem warGain_war (s w : ℤ) (r : WarResult) (h : warGain cfg E b p = some (s, w, r)) : w = s ∨ w = 0 := by
  unfold warGain at h
  split_ifs at h
  split at h
  · cases h
  · simp only [Option.some.injEq, Prod.mk.injEq] at h
    obtain ⟨rfl, rfl, -⟩ := h
    split_ifs
    · exact Or.inr rfl
    · exact Or.inl rfl

/-- a successful call applies `$data` and the memory update -/
theorem finishGame_ok {w : World} {arg : Battle} (hok : (finishGame cfg E w arg).1.ok = true) :
    ∃ lv, docLevel cfg E (applyEvent E arg) w.mem = some lv ∧
      (finishGame cfg E w arg).2.doc =
        (Update.ofWrites (finishData cfg E (applyEvent E arg) w.mem lv)).apply w.doc ∧
      (finishGame cfg E w arg).2.mem = finishMem cfg E (applyEvent E arg) w.mem lv := by
  unfold finishGame at hok ⊢
  simp only at hok ⊢
  cases hlv : docLevel cfg E (applyEvent E arg) w.mem with
  | none => simp [hlv] at hok
  | some lv =>
    simp only [hlv] at hok ⊢
    by_cases hupd : E.updateData (Update.ofWrites (finishData cfg E (applyEvent E arg) w.mem lv)) = false
    · simp [hupd] at hok
    · rw [if_neg hupd]
      exact ⟨lv, rfl, rfl, rfl⟩

end

/-- **The memory and the stored player agree after a successful `FinishGame`** iff the player was below MAX_LEVEL or got
no experience (after the event bonus), and no negative war points were added. -/
theorem finishGame_agrees_iff (cfg : Config) (E : Env) (w : World) (arg : Battle) (hag : Agrees w.doc w.mem)
    (hok : (finishGame cfg E w arg).1.ok = true) :
    Agrees (finishGame cfg E w arg).2.doc (finishGame cfg E w arg).2.mem ↔
      (w.mem .Level < cfg.MAX_LEVEL ∨ (applyEvent E arg).Exp = 0) ∧
        ¬ NegativeWarPoints cfg E (applyEvent E arg) w.mem := by
  set b := applyEvent E arg with hb
  obtain ⟨lv, hlv, hdoc, hmem⟩ := finishGame_ok hok
  rw [← hb] at hlv hdoc hmem
  rw [hdoc, hmem, ← warGain_nonneg_iff, ← level_agrees hlv, ← war_agrees _ warGain_war]
  have hlevelParts : (Part.level, lv.data) ∈ dataParts cfg E b w.mem lv ∧
      (Part.level, memLevel cfg E b lv.levelUp w.mem) ∈ memParts cfg E b w.mem lv :=
    ⟨by simp [dataParts], by simp [memParts]⟩
  have hwarParts : (Part.war, docWar (warGain cfg E b w.mem)) ∈ dataParts cfg E b w.mem lv ∧
      (Part.war, memWar (warGain cfg E b w.mem)) ∈ memParts cfg E b w.mem lv :=
    ⟨by simp [dataParts], by simp [memParts]⟩
  constructor
  · intro h
    refine ⟨?_, ?_⟩
    · intro f hf
      obtain ⟨hpart, hcmp⟩ := level_compared f hf
      rw [← hpart] at hlevelParts
      exact (agrees_field hlv hlevelParts.1 hlevelParts.2 (hag f hcmp)).1 (h f hcmp)
    · intro f hf
      obtain ⟨hpart, hcmp⟩ := war_compared f hf
      rw [← hpart] at hwarParts
      exact (agrees_field hlv hwarParts.1 hwarParts.2 (hag f hcmp)).1 (h f hcmp)
  · rintro ⟨hlevel, hwar⟩ f hf
    obtain ⟨h1, h2, h3⟩ := compared_part f hf
    by_cases hpl : f.part = .level
    · rw [← hpl] at hlevelParts
      exact (agrees_field hlv hlevelParts.1 hlevelParts.2 (hag f hf)).2 (hlevel f (h1 hpl))
    by_cases hpw : f.part = .war
    · rw [← hpw] at hwarParts
      exact (agrees_field hlv hwarParts.1 hwarParts.2 (hag f hf)).2 (hwar f (h2 hpw))
    obtain ⟨ws, hd, hm⟩ := shared_part lv hpl hpw h3
    exact (agrees_field hlv hd hm (hag f hf)).2 rfl

/-- maximum level 50, 100 experience a level -/
def sampleConfig : Config := ⟨50, 5, 100, 10, 5, 10, 7, 8, 1⟩

def sampleFinishEnv : Env where
  currentTime := 1000
  nextResetTime := 605000
  eventFlag := 0
  eventRewardType := ""
  eventRewardAmount := 0
  percent _ _ := 0
  SC a b := decide (a = b)
  itemMaxAmount _ := none
  changeItemAmount items _ _ _ := items
  findGunManData _ := some ⟨100, 0, 20⟩
  levelupReward _ := false
  vicAddContribution _ := some 5
  addWarResult _ := some ⟨1, 0, 0⟩
  updateData _ := true

/-- a player of some level with 95 experience, who is in a war -/
def samplePlayer (level : ℤ) : Player
  | .Level => level
  | .Exp => 95
  | .RBattleWarKey => 1
  | _ => 0

def sampleWorld (level : ℤ) : World := ⟨fun _ => 0, [], [], fun f => some (samplePlayer level f), samplePlayer level⟩

/-- a won battle: level up, streak and war points -/
theorem finishGame_agrees_level_up :
    Agrees (finishGame sampleConfig sampleFinishEnv (sampleWorld 3) ⟨"VIC", [], 70, 10, 30, 60⟩).2.doc
      (finishGame sampleConfig sampleFinishEnv (sampleWorld 3) ⟨"VIC", [], 70, 10, 30, 60⟩).2.mem := by
  refine (finishGame_agrees_iff sampleConfig sampleFinishEnv (sampleWorld 3) ⟨"VIC", [], 70, 10, 30, 60⟩
    (fun f _ => rfl) (by decide)).2 ⟨Or.inl (by decide), fun h => ?_⟩
  exact absurd h.2.2 (by decide)

/-- the same battle at the maximum level: 95 experience are stored, 105 are in memory -/
theorem finishGame_diverges_max_level :
    Agrees (sampleWorld 50).doc (sampleWorld 50).mem ∧
      (finishGame sampleConfig sampleFinishEnv (sampleWorld 50) ⟨"VIC", [], 70, 10, 30, 60⟩).1.ok = true ∧
      ¬ Agrees (finishGame sampleConfig sampleFinishEnv (sampleWorld 50) ⟨"VIC", [], 70, 10, 30, 60⟩).2.doc
        (finishGame sampleConfig sampleFinishEnv (sampleWorld 50) ⟨"VIC", [], 70, 10, 30, 60⟩).2.mem := by
  refine ⟨fun f _ => rfl, by decide, fun h => ?_⟩
  exact absurd (h .Exp (by decide)) (by decide)

end GameServer.Pilot
