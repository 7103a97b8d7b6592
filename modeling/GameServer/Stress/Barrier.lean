/-
When a scenario ends. A copy of a scenario tracks what the file says and the reports since (`Tracks`): its number is the
player number less the reports, and it is finished once nobody waits for it or the reports have hit the number exactly.

- `scenario_barrier`: the templates are never written, the loop of a scenario ends exactly when every content that is waited
  for has been hit, and no scenario has been left earlier. Reports that jump over the number leave the loop running for good.
-/
import Mathlib.Tactic
import GameServer.Core.Run
import GameServer.Core.Countdown
import GameServer.Stress.Scenarios

namespace GameServer.Stress

open GameServer.Core

/-! ## One content -/

section

variable {playerNum number : BitVec 32} {json : JsonContent} {ns : List (BitVec 32)} {content : Content}

/-- a content after the reports `ns` -/
structure Tracks (playerNum : BitVec 32) (json : JsonContent) (ns : List (BitVec 32)) (content : Content) : Prop where
  state : content.state = json.state
  wait : content.wait = json.wait
  number : content.number = playerNum - ns.sum
  only : content.finished = true → json.wait = false ∨ Hits playerNum ns
  hit : Hits playerNum ns → content.finished = true

theorem Tracks.new : Tracks playerNum json [] (newContent playerNum json) :=
  ⟨rfl, rfl, by simp [newContent], by simp [newContent], fun h => absurd h not_hits_nil⟩

theorem Tracks.mark (h : Tracks playerNum json ns content) : Tracks playerNum json ns (markContent content) := by
  unfold markContent
  split_ifs with hwait
  · exact h
  · have hjson : json.wait = false := by rw [← h.wait]; simpa using hwait
    exact ⟨h.state, h.wait, h.number, fun _ => Or.inl hjson, fun _ => rfl⟩

theorem Tracks.report (h : Tracks playerNum json ns content) :
    Tracks playerNum json (ns ++ [number]) (content.finishedBy number) := by
  have hleft : content.number - number = playerNum - (ns ++ [number]).sum := by
    rw [h.number, List.sum_append, List.sum_singleton, sub_sub]
  unfold Content.finishedBy
  rw [hleft]
  dsimp only
  split_ifs with hzero
  · exact ⟨h.state, h.wait, rfl, fun _ => Or.inr (hits_snoc.2 (Or.inr hzero)), fun _ => rfl⟩
  · refine ⟨h.state, h.wait, rfl, fun hfin => ?_, fun hhits => ?_⟩
    · exact (h.only hfin).imp_right hits_mono
    · exact h.hit ((hits_snoc.1 hhits).resolve_right hzero)

/-- what the loop of a scenario sees of a content that is marked if nobody waits for it -/
theorem Tracks.finished_iff (h : Tracks playerNum json ns content) (hmark : json.wait = false → content.finished = true) :
    content.finished = true ↔ json.wait = false ∨ Hits playerNum ns :=
  ⟨h.only, fun hor => hor.elim hmark h.hit⟩

end

/-! ## Copies on the heap -/

/-- the reports of a content -/
def reportsOf (reports : List (ℕ × BitVec 32)) (a : ℕ) : List (BitVec 32) :=
  (reports.filter fun r => r.1 = a).map Prod.snd

theorem reportsOf_snoc (reports : List (ℕ × BitVec 32)) (a b : ℕ) (number : BitVec 32) :
    reportsOf (reports ++ [(a, number)]) b = if a = b then reportsOf reports b ++ [number] else reportsOf reports b := by
  unfold reportsOf
  split_ifs with hab <;> simp [hab]

theorem reportsOf_eq_nil {reports : List (ℕ × BitVec 32)} {a : ℕ} (h : ∀ r ∈ reports, r.1 ≠ a) :
    reportsOf reports a = [] := by
  unfold reportsOf
  rw [List.filter_eq_nil_iff.2 fun r hr => by simpa using h r hr]
  rfl

section

variable {playerNum : BitVec 32} {base : ℕ} {objs objs' : List Content} {reports reports' : List (ℕ × BitVec 32)}
  {j : JsonScenario} {sc : Scenario}

/-- a copy of the scenario that the file calls `j`; the templates are below `base` -/
structure CopyOf (playerNum : BitVec 32) (base : ℕ) (objs : List Content) (reports : List (ℕ × BitVec 32)) (j : JsonScenario)
    (sc : Scenario) : Prop where
  id : sc.id = j.id
  length : sc.contents.length = j.contents.length
  own : ∀ a ∈ sc.contents, base ≤ a ∧ a < objs.length
  tracks : ∀ (i : ℕ) (json : JsonContent) (a : ℕ) (content : Content), j.contents[i]? = some json →
    sc.contents[i]? = some a → objs[a]? = some content → Tracks playerNum json (reportsOf reports a) content

/-- every object goes on tracking -/
def Kept (playerNum : BitVec 32) (objs objs' : List Content) (reports reports' : List (ℕ × BitVec 32)) : Prop :=
  objs.length ≤ objs'.length ∧ ∀ a content, objs[a]? = some content → ∃ content', objs'[a]? = some content' ∧
    ∀ json, Tracks playerNum json (reportsOf reports a) content → Tracks playerNum json (reportsOf reports' a) content'

theorem CopyOf.kept (h : CopyOf playerNum base objs reports j sc) (hk : Kept playerNum objs objs' reports reports') :
    CopyOf playerNum base objs' reports' j sc := by
  refine ⟨h.id, h.length, fun a ha => ⟨(h.own a ha).1, (h.own a ha).2.trans_le hk.1⟩, ?_⟩
  intro i json a content' hj ha hcontent'
  have hlt : a < objs.length := (h.own a (List.mem_of_getElem? ha)).2
  obtain ⟨content₁, hcontent₁, htracks⟩ := hk.2 a _ (List.getElem?_eq_getElem hlt)
  obtain rfl : content₁ = content' := Option.some.inj (hcontent₁.symm.trans hcontent')
  exact htracks json (h.tracks i json a _ hj ha (List.getElem?_eq_getElem hlt))

theorem Kept.append (copies : List Content) : Kept playerNum objs (objs ++ copies) reports reports := by
  refine ⟨by simp, fun a content hcontent => ⟨content, ?_, fun _ h => h⟩⟩
  exact (List.getElem?_append_left (List.getElem?_eq_some_iff.1 hcontent).1).trans hcontent

theorem Kept.trans {objs'' : List Content} {reports'' : List (ℕ × BitVec 32)}
    (h : Kept playerNum objs objs' reports reports') (h' : Kept playerNum objs' objs'' reports' reports'') :
    Kept playerNum objs objs'' reports reports'' := by
  refine ⟨h.1.trans h'.1, fun a content hcontent => ?_⟩
  obtain ⟨content', hcontent', htracks⟩ := h.2 a content hcontent
  obtain ⟨content'', hcontent'', htracks'⟩ := h'.2 a content' hcontent'
  exact ⟨content'', hcontent'', fun json hjson => htracks' json (htracks json hjson)⟩

theorem Kept.mark (addrs : List ℕ) :
    Kept playerNum objs (addrs.foldl (fun objs a => objs.modify a markContent) objs) reports reports := by
  induction addrs generalizing objs with
  | nil => exact ⟨le_rfl, fun a content hcontent => ⟨content, hcontent, fun _ h => h⟩⟩
  | cons b addrs ih =>
    suffices hone : Kept playerNum objs (objs.modify b markContent) reports reports from hone.trans ih
    refine ⟨by simp, fun a content hcontent => ?_⟩
    refine ⟨if b = a then markContent content else content, by rw [List.getElem?_modify, hcontent]; rfl, fun json h => ?_⟩
    split_ifs
    · exact h.mark
    · exact h

theorem Kept.report (a : ℕ) (number : BitVec 32) :
    Kept playerNum objs (objs.modify a (Content.finishedBy number)) reports (reports ++ [(a, number)]) := by
  refine ⟨by simp, fun b content hcontent => ?_⟩
  refine ⟨if a = b then content.finishedBy number else content, by rw [List.getElem?_modify, hcontent]; rfl, fun json h => ?_⟩
  rw [reportsOf_snoc]
  split_ifs
  · exact h.report
  · exact h

/-- new objects are read back -/
theorem read_new (objs copies : List Content) :
    (List.range' objs.length copies.length).filterMap (fun a => (objs ++ copies)[a]?) = copies := by
  induction copies generalizing objs with
  | nil => rfl
  | cons content copies ih =>
    have hrest := ih (objs ++ [content])
    rw [List.length_append, List.append_assoc] at hrest
    have hfirst : (objs ++ content :: copies)[objs.length]? = some content := by simp
    rw [List.length_cons, List.range'_succ, List.filterMap_cons_some hfirst]
    exact congrArg (content :: ·) hrest

/-- the copy of a template -/
theorem CopyOf.clone (hid : sc.id = j.id) (hread : readContents objs sc = j.contents.map (newContent playerNum))
    (hbase : base ≤ objs.length) (hreports : ∀ r ∈ reports, r.1 < objs.length) :
    CopyOf playerNum base (clone objs sc).1 reports j (clone objs sc).2 := by
  unfold Stress.clone
  rw [hread]
  refine ⟨hid, by simp, ?_, ?_⟩
  · intro a ha
    obtain ⟨i, hi, rfl⟩ := List.mem_range'.1 ha
    rw [List.length_append]
    exact ⟨by omega, by omega⟩
  · intro i json a content hj ha hcontent
    have hi : i < j.contents.length := (List.getElem?_eq_some_iff.1 hj).1
    obtain rfl : objs.length + i = a := by
      rw [List.getElem?_range' (by simpa using hi)] at ha
      simpa using ha
    rw [List.getElem?_append_right (Nat.le_add_right _ _), Nat.add_sub_cancel_left, List.getElem?_map, hj] at hcontent
    obtain rfl : newContent playerNum json = content := Option.some.inj hcontent
    have hnone : reportsOf reports (objs.length + i) = [] :=
      reportsOf_eq_nil fun r hr => by have := hreports r hr; omega
    rw [hnone]
    exact Tracks.new

end

/-! ## The manager -/

section

variable (playerNum : BitVec 32) (js : List JsonScenario)

/-- a scenario as `init` has loaded it -/
structure TemplateOf (objs : List Content) (j : JsonScenario) (sc : Scenario) : Prop where
  id : sc.id = j.id
  read : readContents objs sc = j.contents.map (newContent playerNum)
  own : ∀ a ∈ sc.contents, a < objs.length

/-- every content that is waited for has been hit -/
def Passed (reports : List (ℕ × BitVec 32)) (j : JsonScenario) (sc : Scenario) : Prop :=
  ∀ (i : ℕ) (json : JsonContent) (a : ℕ), j.contents[i]? = some json → sc.contents[i]? = some a →
    json.wait = false ∨ Hits playerNum (reportsOf reports a)

/-- the scenarios that are copies -/
def known (m : Manager) : List Scenario := m.currentScenario.toList ++ m.todo ++ m.handed ++ m.ended

structure Inv (m₀ m : Manager) : Prop where
  infos : m.scenariosInfo = m₀.scenariosInfo
  tests : m.stressTestsInfo = m₀.stressTestsInfo
  templates : ∀ a, a < m₀.objs.length → m.objs[a]? = m₀.objs[a]?
  grown : m₀.objs.length ≤ m.objs.length
  reports : ∀ r ∈ m.reports, r.1 < m.objs.length
  copies : ∀ sc ∈ known m, ∃ j ∈ js, CopyOf playerNum m₀.objs.length m.objs m.reports j sc
  marked : m.waiting = true → ∃ sc, m.currentScenario = some sc ∧
    ∀ a ∈ sc.contents, ∀ content, m.objs[a]? = some content → content.wait = false → content.finished = true
  passed : ∀ sc ∈ m.ended, ∃ j ∈ js, CopyOf playerNum m₀.objs.length m.objs m.reports j sc ∧ Passed playerNum m.reports j sc

/-- the templates of `init` -/
structure Loaded (m₀ : Manager) : Prop where
  infos : ∀ sc ∈ m₀.scenariosInfo, ∃ j ∈ js, TemplateOf playerNum m₀.objs j sc
  tests : ∀ test ∈ m₀.stressTestsInfo, ∀ sc ∈ test.scenarios, sc ∈ m₀.scenariosInfo

end

section

variable {playerNum : BitVec 32} {js : List JsonScenario} {m₀ m : Manager} {sc : Scenario} {j : JsonScenario}

theorem readContents_append {objs extra : List Content} (h : ∀ a ∈ sc.contents, a < objs.length) :
    readContents (objs ++ extra) sc = readContents objs sc := by
  unfold readContents
  exact List.filterMap_congr fun a ha => List.getElem?_append_left (h a ha)

theorem TemplateOf.append {objs : List Content} (h : TemplateOf playerNum objs j sc) (extra : List Content) :
    TemplateOf playerNum (objs ++ extra) j sc := by
  refine ⟨h.id, (readContents_append h.own).trans h.read, fun a ha => ?_⟩
  rw [List.length_append]
  exact Nat.lt_add_right _ (h.own a ha)

theorem loadScenarios_spec (objs : List Content) (js : List JsonScenario) :
    (∃ extra, (loadScenarios playerNum objs js).1 = objs ++ extra) ∧
      ∀ sc ∈ (loadScenarios playerNum objs js).2,
        ∃ j ∈ js, TemplateOf playerNum (loadScenarios playerNum objs js).1 j sc := by
  induction js generalizing objs with
  | nil => exact ⟨⟨[], by simp [loadScenarios]⟩, by simp [loadScenarios]⟩
  | cons j js ih =>
    obtain ⟨⟨extra, hextra⟩, hrest⟩ := ih (objs ++ j.contents.map (newContent playerNum))
    have hload : loadScenarios playerNum objs (j :: js) =
        ((loadScenarios playerNum (objs ++ j.contents.map (newContent playerNum)) js).1,
          ⟨j.id, j.name, playerNum, List.range' objs.length j.contents.length⟩ ::
            (loadScenarios playerNum (objs ++ j.contents.map (newContent playerNum)) js).2) := rfl
    rw [hload]
    refine ⟨⟨j.contents.map (newContent playerNum) ++ extra, by rw [hextra, List.append_assoc]⟩, ?_⟩
    intro sc hsc
    rcases List.mem_cons.1 hsc with rfl | hsc
    · refine ⟨j, List.mem_cons_self, ?_⟩
      dsimp only
      rw [hextra]
      refine TemplateOf.append ⟨rfl, ?_, ?_⟩ extra
      · have hread := read_new objs (j.contents.map (newContent playerNum))
        rw [List.length_map] at hread
        exact hread
      · intro a ha
        obtain ⟨i, hi, rfl⟩ := List.mem_range'.1 ha
        rw [List.length_append, List.length_map]
        omega
    · obtain ⟨j', hj', htemplate⟩ := hrest sc hsc
      exact ⟨j', List.mem_cons_of_mem j hj', htemplate⟩

theorem init_loaded (playerNum : BitVec 32) (js : List JsonScenario) (tests : List JsonStressTest) :
    Loaded playerNum js (init playerNum js tests) := by
  refine ⟨(loadScenarios_spec [] js).2, ?_⟩
  intro test htest sc hsc
  obtain ⟨json, -, rfl⟩ := List.mem_map.1 htest
  obtain ⟨scenarioId, -, hfind⟩ := List.mem_filterMap.1 hsc
  exact List.mem_of_find?_eq_some hfind

theorem Inv.init (playerNum : BitVec 32) (js : List JsonScenario) (tests : List JsonStressTest) :
    Inv playerNum js (init playerNum js tests) (init playerNum js tests) where
  infos := rfl
  tests := rfl
  templates _ _ := rfl
  grown := le_rfl
  reports := by simp [Stress.init]
  copies := by simp [known, Stress.init]
  marked h := by cases h
  passed := by simp [Stress.init]

theorem Passed.mono {reports more : List (ℕ × BitVec 32)} (h : Passed playerNum reports j sc) :
    Passed playerNum (reports ++ more) j sc := by
  intro i json a hj ha
  refine (h i json a hj ha).imp_right fun hhits => ?_
  unfold reportsOf
  rw [List.filter_append, List.map_append]
  exact hits_mono hhits

/-- a template is read as it was loaded -/
theorem Inv.readTemplate (h : Inv playerNum js m₀ m) (hload : Loaded playerNum js m₀) (hsc : sc ∈ m.scenariosInfo) :
    ∃ j ∈ js, TemplateOf playerNum m.objs j sc := by
  rw [h.infos] at hsc
  obtain ⟨j, hj, htemplate⟩ := hload.infos sc hsc
  refine ⟨j, hj, htemplate.id, ?_, fun a ha => (htemplate.own a ha).trans_le h.grown⟩
  refine Eq.trans ?_ htemplate.read
  exact List.filterMap_congr fun a ha => h.templates a (htemplate.own a ha)

/-- copies are made, nothing else changes -/
theorem Inv.append (h : Inv playerNum js m₀ m) (extra : List Content) :
    Inv playerNum js m₀ { m with objs := m.objs ++ extra } := by
  have hkept : Kept playerNum m.objs (m.objs ++ extra) m.reports m.reports := Kept.append extra
  refine ⟨h.infos, h.tests, ?_, ?_, ?_, ?_, ?_, ?_⟩
  · intro a ha
    rw [← h.templates a ha]
    exact List.getElem?_append_left (ha.trans_le h.grown)
  · exact h.grown.trans hkept.1
  · exact fun r hr => (h.reports r hr).trans_le hkept.1
  · intro sc hsc
    obtain ⟨j, hj, hcopy⟩ := h.copies sc hsc
    exact ⟨j, hj, hcopy.kept hkept⟩
  · intro hwait
    obtain ⟨sc, hcur, hmarked⟩ := h.marked hwait
    refine ⟨sc, hcur, fun a ha content hcontent => hmarked a ha content ?_⟩
    obtain ⟨j, -, hcopy⟩ := h.copies sc (by simp [known, hcur])
    rw [← hcontent]
    exact (List.getElem?_append_left (hcopy.own a ha).2).symm
  · intro sc hsc
    obtain ⟨j, hj, hcopy, hpassed⟩ := h.passed sc hsc
    exact ⟨j, hj, hcopy.kept hkept, hpassed⟩

theorem markContent_idem (content : Content) : markContent (markContent content) = markContent content := by
  unfold markContent
  split_ifs <;> simp_all

theorem getElem?_mark (addrs : List ℕ) (objs : List Content) (b : ℕ) :
    (addrs.foldl (fun objs a => objs.modify a markContent) objs)[b]? =
      objs[b]?.map fun content => if b ∈ addrs then markContent content else content := by
  induction addrs generalizing objs with
  | nil => simp
  | cons a addrs ih =>
    rw [List.foldl_cons, ih, List.getElem?_modify]
    cases objs[b]? with
    | none => rfl
    | some content =>
      by_cases hab : a = b
      · subst hab
        simp [markContent_idem]
      · simp [hab, Ne.symm hab]

theorem Inv.enter (h : Inv playerNum js m₀ m) (hidle : m.waiting = false)
    (hcopy : ∃ j ∈ js, CopyOf playerNum m₀.objs.length m.objs m.reports j sc) : Inv playerNum js m₀ (enter m sc) := by
  have hknown : ∀ t, t ∈ known { m with currentScenario := some sc } → t = sc ∨ t ∈ known m := by
    intro t ht
    simp only [known, List.mem_append, Option.toList_some, List.mem_singleton] at ht ⊢
    tauto
  unfold Stress.enter
  split_ifs with hrepeat
  · refine ⟨h.infos, h.tests, h.templates, h.grown, h.reports, ?_, ?_, h.passed⟩
    · intro t ht
      rcases hknown t ht with rfl | ht
      · exact hcopy
      · exact h.copies t ht
    · intro hwait
      exact absurd (hidle.symm.trans hwait) (by decide)
  · have hkept : Kept playerNum m.objs _ m.reports m.reports := Kept.mark sc.contents
    refine ⟨h.infos, h.tests, ?_, h.grown.trans hkept.1, fun r hr => (h.reports r hr).trans_le hkept.1, ?_, ?_, ?_⟩
    · intro a ha
      have hnot : a ∉ sc.contents := by
        intro hmem
        obtain ⟨j, -, hcopy⟩ := hcopy
        exact absurd ha (Nat.not_lt.2 (hcopy.own a hmem).1)
      rw [← h.templates a ha]
      refine (getElem?_mark sc.contents m.objs a).trans ?_
      simp [hnot]
    · intro t ht
      have hor : t = sc ∨ t ∈ known m := by
        simp only [known, List.mem_append, Option.toList_some, List.mem_singleton] at ht ⊢
        tauto
      obtain ⟨j, hj, htcopy⟩ := hor.elim (fun heq => heq ▸ hcopy) (h.copies t)
      exact ⟨j, hj, htcopy.kept hkept⟩
    · intro _
      refine ⟨sc, rfl, fun a ha content hcontent hwait => ?_⟩
      rw [getElem?_mark] at hcontent
      obtain ⟨old, -, rfl⟩ := Option.map_eq_some_iff.1 hcontent
      rw [if_pos ha] at hwait ⊢
      unfold markContent at hwait ⊢
      split_ifs at hwait ⊢ with hold
      · exact absurd (hold.symm.trans hwait) (by decide)
      · rfl
    · intro t ht
      obtain ⟨j, hj, htcopy, hpassed⟩ := h.passed t ht
      exact ⟨j, hj, htcopy.kept hkept, hpassed⟩

theorem Inv.report (h : Inv playerNum js m₀ m) {a : ℕ} (ha : m₀.objs.length ≤ a ∧ a < m.objs.length) (number : BitVec 32) :
    Inv playerNum js m₀ (report m a number) := by
  have hkept : Kept playerNum m.objs _ m.reports _ := Kept.report a number
  refine ⟨h.infos, h.tests, ?_, h.grown.trans hkept.1, ?_, ?_, ?_, ?_⟩
  · intro b hb
    rw [← h.templates b hb]
    refine (List.getElem?_modify _ _ _ _).trans ?_
    have hne : a ≠ b := by omega
    simp [hne]
  · intro r hr
    refine lt_of_lt_of_le ?_ hkept.1
    rcases List.mem_append.1 hr with hr | hr
    · exact h.reports r hr
    · obtain rfl := List.mem_singleton.1 hr
      exact ha.2
  · intro t ht
    obtain ⟨j, hj, htcopy⟩ := h.copies t ht
    exact ⟨j, hj, htcopy.kept hkept⟩
  · intro hwait
    obtain ⟨sc, hcur, hmarked⟩ := h.marked hwait
    refine ⟨sc, hcur, fun b hb content hcontent hnowait => ?_⟩
    have hobj : (m.objs.modify a (Content.finishedBy number))[b]? = some content := hcontent
    rw [List.getElem?_modify] at hobj
    obtain ⟨old, hold, rfl⟩ := Option.map_eq_some_iff.1 hobj
    have hmark := hmarked b hb old hold
    unfold Content.finishedBy at hnowait ⊢
    dsimp only at hnowait ⊢
    split_ifs at hnowait ⊢ with hab hzero
    · rfl
    · exact hmark hnowait
    · exact hmark hnowait
  · intro t ht
    obtain ⟨j, hj, htcopy, hpassed⟩ := h.passed t ht
    exact ⟨j, hj, htcopy.kept hkept, hpassed.mono⟩

theorem cloneScenarios_spec {base : ℕ} {reports : List (ℕ × BitVec 32)} {objs : List Content} {scs : List Scenario}
    (hscs : ∀ sc ∈ scs, ∃ j ∈ js, TemplateOf playerNum objs j sc) (hbase : base ≤ objs.length)
    (hreports : ∀ r ∈ reports, r.1 < objs.length) :
    (∃ extra, (cloneScenarios objs scs).1 = objs ++ extra) ∧
      ∀ copy ∈ (cloneScenarios objs scs).2, ∃ j ∈ js, CopyOf playerNum base (cloneScenarios objs scs).1 reports j copy := by
  induction scs generalizing objs with
  | nil => exact ⟨⟨[], by simp [cloneScenarios]⟩, by simp [cloneScenarios]⟩
  | cons sc scs ih =>
    obtain ⟨j, hj, htemplate⟩ := hscs sc List.mem_cons_self
    have hfirst : CopyOf playerNum base (clone objs sc).1 reports j (clone objs sc).2 :=
      CopyOf.clone htemplate.id htemplate.read hbase hreports
    have hgrow : objs.length ≤ (objs ++ readContents objs sc).length := by simp
    have hrest : ∀ sc' ∈ scs, ∃ j ∈ js, TemplateOf playerNum (objs ++ readContents objs sc) j sc' := by
      intro sc' hsc'
      obtain ⟨j', hj', htemplate'⟩ := hscs sc' (List.mem_cons_of_mem sc hsc')
      exact ⟨j', hj', htemplate'.append _⟩
    obtain ⟨⟨extra, hextra⟩, hcopies⟩ := ih hrest (hbase.trans hgrow) fun r hr => (hreports r hr).trans_le hgrow
    have hclone : cloneScenarios objs (sc :: scs) = ((cloneScenarios (clone objs sc).1 scs).1,
        (clone objs sc).2 :: (cloneScenarios (clone objs sc).1 scs).2) := rfl
    rw [hclone]
    refine ⟨⟨readContents objs sc ++ extra, by rw [← List.append_assoc]; exact hextra⟩, ?_⟩
    intro copy hcopy
    rcases List.mem_cons.1 hcopy with rfl | hcopy
    · refine ⟨j, hj, hfirst.kept ?_⟩
      have hkept : Kept playerNum (clone objs sc).1 ((clone objs sc).1 ++ extra) reports reports := Kept.append extra
      rw [show (clone objs sc).1 ++ extra = (cloneScenarios (clone objs sc).1 scs).1 from hextra.symm] at hkept
      exact hkept
    · exact hcopies copy hcopy

/-- the loop of a scenario ends when every content that is waited for has been hit -/
theorem Inv.check_iff (h : Inv playerNum js m₀ m) (hwait : m.waiting = true) : ∃ sc, m.currentScenario = some sc ∧
    ∃ j ∈ js, CopyOf playerNum m₀.objs.length m.objs m.reports j sc ∧
      (checkScenarioFinished m = true ↔ Passed playerNum m.reports j sc) := by
  obtain ⟨sc, hcur, hmarked⟩ := h.marked hwait
  obtain ⟨j, hj, hcopy⟩ := h.copies sc (by simp [known, hcur])
  refine ⟨sc, hcur, j, hj, hcopy, ?_⟩
  have hall : checkScenarioFinished m = true ↔
      ∀ a ∈ sc.contents, ∀ content, m.objs[a]? = some content → content.finished = true := by
    unfold checkScenarioFinished readContents
    rw [hcur]
    simp only [List.all_eq_true, List.mem_filterMap]
    exact ⟨fun hf a ha content hcontent => hf content ⟨a, ha, hcontent⟩,
      fun hf content ⟨a, ha, hcontent⟩ => hf a ha content hcontent⟩
  rw [hall]
  constructor
  · intro hf i json a hjson ha
    have hmem := List.mem_of_getElem? ha
    have hcontent := List.getElem?_eq_getElem (hcopy.own a hmem).2
    exact (hcopy.tracks i json a _ hjson ha hcontent).only (hf a hmem _ hcontent)
  · intro hpassed a ha content hcontent
    obtain ⟨i, hi⟩ := List.mem_iff_getElem?.1 ha
    have hlt : i < j.contents.length := hcopy.length ▸ (List.getElem?_eq_some_iff.1 hi).1
    have hjson := List.getElem?_eq_getElem hlt
    have htracks := hcopy.tracks i _ a content hjson hi hcontent
    refine (htracks.finished_iff fun hnowait => ?_).2 (hpassed i _ a hjson hi)
    exact hmarked a ha content hcontent (htracks.wait.trans hnowait)

/-- the address of a content that may be reported -/
theorem Inv.own (h : Inv playerNum js m₀ m) (hsc : sc ∈ known m) {a : ℕ} (ha : a ∈ sc.contents) :
    m₀.objs.length ≤ a ∧ a < m.objs.length := by
  obtain ⟨j, -, hcopy⟩ := h.copies sc hsc
  exact hcopy.own a ha

/-- step lemma -/
theorem Inv.step (hload : Loaded playerNum js m₀) (m : Manager) (op : Op) (h : Inv playerNum js m₀ m) :
    Inv playerNum js m₀ (step m op) := by
  cases op with
  | runScenario index =>
    rw [Stress.step]
    split_ifs with hidle
    · unfold runScenario
      cases hsc : m.scenariosInfo[index]? with
      | none => exact h
      | some sc =>
        obtain ⟨j, hj, htemplate⟩ := h.readTemplate hload (List.mem_of_getElem? hsc)
        exact (h.append _).enter hidle.1 ⟨j, hj, CopyOf.clone htemplate.id htemplate.read h.grown h.reports⟩
    · exact h
  | runStressTest index =>
    rw [Stress.step]
    split_ifs with hidle
    · unfold runStressTest
      cases htest : m.stressTestsInfo[index]? with
      | none => exact h
      | some test =>
        have hmem : test ∈ m₀.stressTestsInfo := h.tests ▸ List.mem_of_getElem? htest
        have hscs : ∀ sc ∈ test.scenarios, ∃ j ∈ js, TemplateOf playerNum m.objs j sc := fun sc hsc =>
          h.readTemplate hload (h.infos ▸ hload.tests test hmem sc hsc)
        obtain ⟨⟨extra, hextra⟩, hcopies⟩ := cloneScenarios_spec hscs h.grown h.reports
        have happend := h.append extra
        rw [← hextra] at happend
        refine { happend with copies := ?_ }
        intro sc hsc
        simp only [known, List.mem_append] at hsc
        rcases hsc with ((hsc | hsc) | hsc) | hsc
        · exact happend.copies sc (by simp [known, hsc])
        · exact hcopies sc hsc
        · exact happend.copies sc (by simp [known, hsc])
        · exact happend.copies sc (by simp [known, hsc])
    · exact h
  | runNext =>
    rw [Stress.step]
    split_ifs with hidle
    · unfold runNext
      cases htodo : m.todo with
      | nil => exact h
      | cons sc rest =>
        have hrest : Inv playerNum js m₀ { m with todo := rest } := by
          refine { h with copies := fun t ht => h.copies t ?_ }
          simp only [known, List.mem_append, htodo, List.mem_cons] at ht ⊢
          tauto
        exact hrest.enter hidle (h.copies sc (by simp [known, htodo]))
    · exact h
  | poll =>
    rw [Stress.step]
    split_ifs with hwait
    · obtain ⟨sc, hcur, j, hj, hcopy, hcheck⟩ := h.check_iff hwait
      unfold poll
      split_ifs with hfin
      · have hended : ∀ t, t ∈ m.ended ++ m.currentScenario.toList → t ∈ m.ended ∨ t = sc := by
          intro t ht
          simpa [hcur] using ht
        refine { h with copies := ?_, marked := ?_, passed := ?_ }
        · intro t ht
          refine h.copies t ?_
          simp only [known, List.mem_append, Option.toList_none, List.not_mem_nil] at ht ⊢
          tauto
        · intro hw
          cases hw
        · intro t ht
          rcases hended t ht with ht | rfl
          · exact h.passed t ht
          · exact ⟨j, hj, hcopy, hcheck.1 hfin⟩
      · exact h
    · exact h
  | finished n i number =>
    rw [Stress.step]
    cases ha : m.handed[n]?.bind fun scenario => scenario.contents[i]? with
    | none => exact h
    | some a =>
      obtain ⟨sc, hsc, hcontent⟩ := Option.bind_eq_some_iff.1 ha
      have hmem := List.mem_of_getElem? hsc
      exact h.report (h.own (by simp [known, hmem]) (List.mem_of_getElem? hcontent)) number
  | finishedState state number =>
    rw [Stress.step]
    cases ha : m.currentScenario.bind fun scenario => findNotFinishedContent m.objs scenario state with
    | none => exact h
    | some a =>
      obtain ⟨sc, hsc, hfind⟩ := Option.bind_eq_some_iff.1 ha
      exact h.report (h.own (by simp [known, hsc]) (List.mem_of_find?_eq_some hfind)) number
  | setRepeat repeats => exact { h with }

end

/-! ## Every run -/

/-- **A scenario ends exactly when everything that is waited for has been hit.** In every run, in whatever order the main
thread and the reports come: the templates are as loaded; the loop of the current scenario ends exactly if, for each of its
contents that is waited for, some of the first reports since it was copied add up to the player number (as words); and this
holds of every scenario left so far. With reports of one each, it is enough that `playerNum` of them have come. -/
theorem scenario_barrier (playerNum : BitVec 32) (js : List JsonScenario) (tests : List JsonStressTest) (ops : List Op) :
    let m₀ := init playerNum js tests
    let m := run step m₀ ops
    (m.scenariosInfo = m₀.scenariosInfo ∧ m.stressTestsInfo = m₀.stressTestsInfo ∧
      ∀ sc ∈ m.scenariosInfo, readContents m.objs sc = readContents m₀.objs sc) ∧
    (m.waiting = true → ∃ sc, m.currentScenario = some sc ∧ ∃ j ∈ js, sc.id = j.id ∧ sc.contents.length = j.contents.length ∧
      (checkScenarioFinished m = true ↔ Passed playerNum m.reports j sc)) ∧
    (∀ sc ∈ m.ended, ∃ j ∈ js, sc.id = j.id ∧ sc.contents.length = j.contents.length ∧ Passed playerNum m.reports j sc) ∧
    ∀ a, (∀ n ∈ reportsOf m.reports a, n = 1) → (reportsOf m.reports a).length < 2 ^ 32 →
      (Hits playerNum (reportsOf m.reports a) ↔
        0 < playerNum.toNat ∧ playerNum.toNat ≤ (reportsOf m.reports a).length) := by
  intro m₀ m
  have hload : Loaded playerNum js m₀ := init_loaded playerNum js tests
  have h : Inv playerNum js m₀ m := run_inv_all (Inv.step hload) (Inv.init playerNum js tests) ops
  refine ⟨⟨h.infos, h.tests, ?_⟩, ?_, ?_, fun a => hits_ones⟩
  · intro sc hsc
    obtain ⟨j, -, htemplate⟩ := hload.infos sc (h.infos ▸ hsc)
    exact List.filterMap_congr fun a ha => h.templates a (htemplate.own a ha)
  · intro hwait
    obtain ⟨sc, hcur, j, hj, hcopy, hcheck⟩ := h.check_iff hwait
    exact ⟨sc, hcur, j, hj, hcopy.id, hcopy.length, hcheck⟩
  · intro sc hsc
    obtain ⟨j, hj, hcopy, hpassed⟩ := h.passed sc hsc
    exact ⟨j, hj, hcopy.id, hcopy.length, hpassed⟩

/-- two sessions are through, and a third report of the same content comes too many at once -/
example : ((run step (init 2 [⟨7, "walk", [⟨1, true⟩, ⟨2, false⟩]⟩] []) [.runScenario 0, .finished 0 0 1, .finished 0 0 1,
      .poll]).waiting,
    (run step (init 2 [⟨7, "walk", [⟨1, true⟩, ⟨2, false⟩]⟩] []) [.runScenario 0, .finished 0 0 1, .finished 0 0 2,
      .poll]).waiting) = (false, true) := by decide

end GameServer.Stress
