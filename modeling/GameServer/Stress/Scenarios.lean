/-
The scenarios of the main stresser, `JAVA/SeanarioManager.java`.

`init` loads templates; a run works on a deep copy of one of them. The main thread marks the contents that nobody waits for,
hands the copy to the sessions and polls `checkScenarioFinished`. The sessions report how many of them are through with a
content, in any order and at any time: `finished` takes the number off, and the content is finished when exactly nothing is
left. An `int` is a word of 32 bits.

`Content` objects are shared, so they live on a heap, and a scenario holds their addresses. A step that the main thread
cannot take where it stands does nothing.

Not under src/: the callers of `finished` (here they name any content of a scenario handed out so far, or look it up by state
in the current one), and what the sessions read of a content: `repeat`, `percent` and the data.
-/
import Mathlib.Tactic
import GameServer.Core.Run
import GameServer.Core.Countdown

namespace GameServer.Stress

open GameServer.Core

/-! ## Model -/

structure Content where
  state : ℕ
  /-- the sessions still to come -/
  number : BitVec 32
  wait : Bool
  finished : Bool
deriving DecidableEq, Repr

/-- the method `finished` -/
def Content.finishedBy (number : BitVec 32) (content : Content) : Content :=
  let left := content.number - number
  if left = 0 then { content with number := left, finished := true } else { content with number := left }

structure Scenario where
  id : ℤ
  name : String
  number : BitVec 32
  /-- addresses -/
  contents : List ℕ
deriving DecidableEq, Repr

structure StressTest where
  name : String
  scenarios : List Scenario
deriving DecidableEq, Repr

structure Manager where
  objs : List Content
  scenariosInfo : List Scenario
  stressTestsInfo : List StressTest
  currentScenario : Option Scenario
  /-- what `runStressTest` has still to run -/
  todo : List Scenario
  /-- the main thread is in the loop of `runScenario` -/
  waiting : Bool
  /-- `repeat` of the `StresserManager` -/
  repeats : Bool
  /-- the scenarios given to `handleScenario`, and those whose loop has ended -/
  handed : List Scenario
  ended : List Scenario
  /-- every call of `finished`, with the address of its content -/
  reports : List (ℕ × BitVec 32)
deriving Repr

/-- a content in the file -/
structure JsonContent where
  state : ℕ
  wait : Bool
deriving DecidableEq, Repr

structure JsonScenario where
  id : ℤ
  name : String
  contents : List JsonContent
deriving DecidableEq, Repr

structure JsonStressTest where
  name : String
  scenarioIds : List ℤ
deriving DecidableEq, Repr

def newContent (playerNum : BitVec 32) (jsonContent : JsonContent) : Content :=
  ⟨jsonContent.state, playerNum, jsonContent.wait, false⟩

/-- the loop of `init` over the scenarios -/
def loadScenarios (playerNum : BitVec 32) (objs : List Content) : List JsonScenario → List Content × List Scenario
  | [] => (objs, [])
  | jsonScenario :: rest =>
    let scenario : Scenario :=
      ⟨jsonScenario.id, jsonScenario.name, playerNum, List.range' objs.length jsonScenario.contents.length⟩
    let (objs', scenarios) := loadScenarios playerNum (objs ++ jsonScenario.contents.map (newContent playerNum)) rest
    (objs', scenario :: scenarios)

/-- an id that no scenario has is passed over -/
def loadStressTest (scenariosInfo : List Scenario) (json : JsonStressTest) : StressTest :=
  ⟨json.name, json.scenarioIds.filterMap fun scenarioId => scenariosInfo.find? fun item => item.id = scenarioId⟩

def init (playerNum : BitVec 32) (jsonScenarios : List JsonScenario) (jsonStressTests : List JsonStressTest) : Manager :=
  let (objs, scenariosInfo) := loadScenarios playerNum [] jsonScenarios
  ⟨objs, scenariosInfo, jsonStressTests.map (loadStressTest scenariosInfo), none, [], false, false, [], [], []⟩

def readContents (objs : List Content) (scenario : Scenario) : List Content :=
  scenario.contents.filterMap fun a => objs[a]?

/-- `Scenario.clone`: the contents are copied as well -/
def clone (objs : List Content) (scenario : Scenario) : List Content × Scenario :=
  let copies := readContents objs scenario
  (objs ++ copies, { scenario with contents := List.range' objs.length copies.length })

/-- `StressTest.clone` -/
def cloneScenarios (objs : List Content) : List Scenario → List Content × List Scenario
  | [] => (objs, [])
  | scenario :: rest =>
    let (objs', copy) := clone objs scenario
    let (objs'', copies) := cloneScenarios objs' rest
    (objs'', copy :: copies)

def markContent (content : Content) : Content := if content.wait then content else { content with finished := true }

/-- `runScenario(Scenario)` up to its loop -/
def enter (m : Manager) (scenario : Scenario) : Manager :=
  if m.repeats ∧ (scenario.id = 1 ∨ scenario.id = 2) then { m with currentScenario := some scenario }
  else
    { m with
      currentScenario := some scenario
      objs := scenario.contents.foldl (fun objs a => objs.modify a markContent) m.objs
      waiting := true
      handed := m.handed ++ [scenario] }

def runScenario (m : Manager) (index : ℕ) : Manager :=
  match m.scenariosInfo[index]? with
  | none => m
  | some scenario => enter { m with objs := (clone m.objs scenario).1 } (clone m.objs scenario).2

def runStressTest (m : Manager) (index : ℕ) : Manager :=
  match m.stressTestsInfo[index]? with
  | none => m
  | some test =>
    { m with objs := (cloneScenarios m.objs test.scenarios).1, todo := (cloneScenarios m.objs test.scenarios).2 }

/-- the loop of `runStressTest` -/
def runNext (m : Manager) : Manager :=
  match m.todo with
  | [] => m
  | scenario :: rest => enter { m with todo := rest } scenario

def checkScenarioFinished (m : Manager) : Bool :=
  match m.currentScenario with
  | none => true
  | some scenario => (readContents m.objs scenario).all Content.finished

/-- one round of the loop of `runScenario` -/
def poll (m : Manager) : Manager :=
  if checkScenarioFinished m then
    { m with waiting := false, currentScenario := none, ended := m.ended ++ m.currentScenario.toList }
  else m

/-- a call of `finished` on a content -/
def report (m : Manager) (a : ℕ) (number : BitVec 32) : Manager :=
  { m with objs := m.objs.modify a (Content.finishedBy number), reports := m.reports ++ [(a, number)] }

/-- `findNotFinishedContent` -/
def findNotFinishedContent (objs : List Content) (scenario : Scenario) (state : ℕ) : Option ℕ :=
  scenario.contents.find? fun a => objs[a]?.any fun content => content.state = state ∧ content.finished = false

inductive Op where
  | runScenario (index : ℕ)
  | runStressTest (index : ℕ)
  | runNext
  | poll
  /-- on content number `i` of the scenario handed out as number `n` -/
  | finished (n i : ℕ) (number : BitVec 32)
  | finishedState (state : ℕ) (number : BitVec 32)
  | setRepeat (repeats : Bool)
deriving Repr

def step (m : Manager) : Op → Manager
  | .runScenario index => if m.waiting = false ∧ m.todo = [] then runScenario m index else m
  | .runStressTest index => if m.waiting = false ∧ m.todo = [] then runStressTest m index else m
  | .runNext => if m.waiting = false then runNext m else m
  | .poll => if m.waiting then poll m else m
  | .finished n i number =>
    match m.handed[n]?.bind fun scenario => scenario.contents[i]? with
    | none => m
    | some a => report m a number
  | .finishedState state number =>
    match m.currentScenario.bind fun scenario => findNotFinishedContent m.objs scenario state with
    | none => m
    | some a => report m a number
  | .setRepeat repeats => { m with repeats := repeats }

end GameServer.Stress
