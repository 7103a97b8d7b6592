/-
The start of the stresser, `JAVA/StressManager`: `init`, the thread of `startDummyStresser`, the connections and the wait of
`startMainStresser`, in any order of their steps.

For each dummy a task asks for `maxPlayer` sessions. The thread takes the tasks one after the other, starts the sessions, and
waits until enough channels are connected before it marks the dummy of the task. But every channel is counted on the dummy
that was put last, the count is never taken back, and a dummy replaces an earlier one with the same random id:

- `startup`: the main thread goes on exactly when every task is done and no id was drawn twice; the first task needs
  `maxPlayer` connections, and the later ones no connection of their own. The sessions are spread evenly over the hosts.

Not under src/: the sockets; of the hosts only their number matters. `RESET` and `reconnected` are left out.
-/
import Mathlib.Tactic
import Mathlib.Data.BitVec
import Mathlib.Data.Int.CardIntervalMod
import Mathlib.Data.List.AList
import GameServer.Core.Run
import GameServer.Core.Dictionary

namespace GameServer.Stress

open GameServer.Core

/-! ## Model -/

structure Dummy where
  id : ℕ
  connectedToServer : Bool
  /-- an `int` -/
  connectedChannelCount : BitVec 32
deriving DecidableEq, Repr

/-- `CONNECT_STRESSER_TO_SERVER` is the only type asked for -/
structure Task where
  id : ℕ
  number : BitVec 32
deriving DecidableEq, Repr

/-- a session started for a task -/
structure Job where
  /-- a position in the list of the hosts -/
  host : ℕ
  connected : Bool
deriving DecidableEq, Repr

structure Stresser where
  dummys : AList fun _ : ℕ => Dummy
  /-- the id of the dummy put last: the field `dummy` is the object stored under it -/
  dummy : Option ℕ
  dummyCount : ℕ
  tasks : List Task
  /-- the task whose channels the thread waits for; `died`: an exception has ended the thread -/
  current : Option Task
  died : Bool
  jobs : List Job
  /-- the main thread has left its wait -/
  started : Bool
  /-- the tasks whose wait has ended, and the number of connections so far -/
  done : List Task
  connects : ℕ

def putDummy (s : Stresser) (id : ℕ) : Stresser :=
  { s with dummys := s.dummys.insert id ⟨id, false, 0⟩, dummy := some id }

def requestTask (s : Stresser) (id : ℕ) (number : BitVec 32) : Stresser := { s with tasks := s.tasks ++ [⟨id, number⟩] }

/-- `init` with the random ids; `dummyCount` is their number -/
def start (maxPlayer : BitVec 32) (ids : List ℕ) : Stresser :=
  ids.foldl (fun s id => requestTask (putDummy s id) id maxPlayer)
    ⟨∅, none, ids.length, [], none, false, [], false, [], 0⟩

def countDummyConnectedToServer (s : Stresser) : ℕ := s.dummys.entries.countP fun e => e.2.connectedToServer

/-- change the object stored under an id -/
def setDummy (s : Stresser) (id : ℕ) (f : Dummy → Dummy) : Stresser :=
  match s.dummys.lookup id with
  | none => s
  | some dummy => { s with dummys := s.dummys.insert id (f dummy) }

/-- `getChannelNumConnectedToServer`; the thread asks only once a dummy has been put -/
def getChannelNumConnectedToServer (s : Stresser) : BitVec 32 :=
  match s.dummy.bind fun id => s.dummys.lookup id with
  | none => 0
  | some dummy => dummy.connectedChannelCount

/-- session `i` of a task goes to host `i % hosts.size()` -/
def startJobs (hosts : ℕ) (task : Task) : List Job :=
  (List.range task.number.toInt.toNat).map fun i => ⟨i % hosts, false⟩

/-- the thread takes a task; without a host the first remainder fails -/
def takeTask (hosts : ℕ) (s : Stresser) : Stresser :=
  match s.current, s.tasks with
  | none, task :: tasks =>
    if hosts = 0 ∧ 0 < task.number.toInt then { s with tasks := tasks, current := some task, died := true }
    else { s with tasks := tasks, current := some task, jobs := s.jobs ++ startJobs hosts task }
  | _, _ => s

/-- one round of the wait for the channels -/
def checkChannels (s : Stresser) : Stresser :=
  match s.current with
  | none => s
  | some task =>
    if (getChannelNumConnectedToServer s).toInt < task.number.toInt then s
    else { setDummy s task.id fun dummy => { dummy with connectedToServer := true } with
      current := none, done := s.done ++ [task] }

/-- `connected`, on the dummy put last -/
def connected (s : Stresser) : Stresser :=
  match s.dummy with
  | none => s
  | some id => setDummy s id fun dummy => { dummy with connectedChannelCount := dummy.connectedChannelCount + 1 }

inductive StartOp where
  | poll
  | checkChannels
  /-- the connect of job `i` succeeds, and later its channel is closed -/
  | connect (i : ℕ)
  | close (i : ℕ)
  /-- one round of the wait of the main thread -/
  | checkDummys
deriving Repr

def setJob (s : Stresser) (i : ℕ) (connected : Bool) : Stresser :=
  { s with jobs := s.jobs.modify i fun job => { job with connected := connected } }

def startStep (hosts : ℕ) (s : Stresser) : StartOp → Stresser
  | .poll => if s.died then s else takeTask hosts s
  | .checkChannels => if s.died then s else checkChannels s
  | .connect i =>
    if s.jobs[i]?.any fun job => !job.connected then { connected (setJob s i true) with connects := s.connects + 1 } else s
  | .close i => setJob s i false
  | .checkDummys => if countDummyConnectedToServer s < s.dummyCount then s else { s with started := true }

/-! ## One dummy -/

section

variable {s : Stresser} {id id' : ℕ} {f : Dummy → Dummy}

theorem lookup_setDummy (hid : id ∈ s.dummys) :
    ∃ dummy, s.dummys.lookup id = some dummy ∧ ∀ id', (setDummy s id f).dummys.lookup id' =
      if id' = id then some (f dummy) else s.dummys.lookup id' := by
  obtain ⟨dummy, hdummy⟩ := Option.isSome_iff_exists.1 (AList.lookup_isSome.2 hid)
  refine ⟨dummy, hdummy, fun id' => ?_⟩
  unfold setDummy
  rw [hdummy]
  exact Dictionary.lookup_insert s.dummys id id' (f dummy)

/-- the frame of `setDummy` -/
theorem setDummy_eq (s : Stresser) (id : ℕ) (f : Dummy → Dummy) :
    ∃ dummys, setDummy s id f = { s with dummys := dummys } := by
  unfold setDummy
  cases s.dummys.lookup id with
  | none => exact ⟨_, rfl⟩
  | some dummy => exact ⟨_, rfl⟩

theorem mem_setDummy (s : Stresser) (id : ℕ) (f : Dummy → Dummy) (id' : ℕ) :
    id' ∈ (setDummy s id f).dummys ↔ id' ∈ s.dummys := by
  unfold setDummy
  cases hdummy : s.dummys.lookup id with
  | none => exact Iff.rfl
  | some dummy =>
    have hid : id ∈ s.dummys := AList.lookup_isSome.1 (by rw [hdummy]; rfl)
    exact AList.mem_insert s.dummys |>.trans ⟨fun h => h.elim (fun heq => heq ▸ hid) fun h => h, Or.inr⟩

end

/-! ## The invariant -/

def taskIds (tasks : List Task) : List ℕ := tasks.map Task.id

structure StartInv (maxPlayer : BitVec 32) (ids : List ℕ) (hosts : ℕ) (s : Stresser) : Prop where
  keys : ∀ id, id ∈ s.dummys ↔ id ∈ ids
  dummy : s.dummy = ids.getLast?
  dummyCount : s.dummyCount = ids.length
  /-- the tasks are taken in order -/
  queue : s.done ++ s.current.toList ++ s.tasks = ids.map fun id => ⟨id, maxPlayer⟩
  marked : ∀ id, id ∈ taskIds s.done ↔ ∃ dummy, s.dummys.lookup id = some dummy ∧ dummy.connectedToServer = true
  /-- every connection counts for the last dummy -/
  count : ∀ id ∈ s.dummy, ∀ dummy ∈ s.dummys.lookup id, dummy.connectedChannelCount = BitVec.ofNat 32 s.connects
  enough : s.done ≠ [] → maxPlayer.toInt ≤ s.connects
  taken : s.jobs ≠ [] → ids ≠ []
  started : s.started = true → taskIds s.done = ids ∧ ids.Nodup
  shares : ∀ p q, p < hosts → q < hosts → s.jobs.countP (fun job => job.host = p) ≤
    s.jobs.countP (fun job => job.host = q) + (s.done ++ s.current.toList).length

section

variable {maxPlayer : BitVec 32} {ids : List ℕ} {hosts : ℕ} {s : Stresser}

theorem start_snoc (maxPlayer : BitVec 32) (ids : List ℕ) (id : ℕ) : start maxPlayer (ids ++ [id]) =
    requestTask (putDummy { start maxPlayer ids with dummyCount := ids.length + 1 } id) id maxPlayer := by
  have hfold : ∀ (ids : List ℕ) (n : ℕ) (t : Stresser),
      ids.foldl (fun s id => requestTask (putDummy s id) id maxPlayer) { t with dummyCount := n } =
        { ids.foldl (fun s id => requestTask (putDummy s id) id maxPlayer) t with dummyCount := n } := by
    intro ids n
    induction ids with
    | nil => exact fun t => rfl
    | cons id ids ih => exact fun t => ih (requestTask (putDummy t id) id maxPlayer)
  unfold start
  rw [List.foldl_append, List.foldl_cons, List.foldl_nil, List.length_append, List.length_singleton]
  refine congrArg (fun s => requestTask (putDummy s id) id maxPlayer) ?_
  exact hfold ids (ids.length + 1) ⟨∅, none, ids.length, [], none, false, [], false, [], 0⟩

/-- what `init` leaves -/
theorem start_inv (maxPlayer : BitVec 32) (ids : List ℕ) (hosts : ℕ) : StartInv maxPlayer ids hosts (start maxPlayer ids) ∧
    (start maxPlayer ids).started = false ∧ (start maxPlayer ids).done = [] ∧ (start maxPlayer ids).current = none ∧
    (start maxPlayer ids).connects = 0 ∧ (start maxPlayer ids).jobs = [] := by
  induction ids using List.reverseRecOn with
  | nil =>
    refine ⟨⟨?_, rfl, rfl, rfl, ?_, ?_, ?_, ?_, ?_, ?_⟩, rfl, rfl, rfl, rfl, rfl⟩
    · simp [start]
    · simp [start, taskIds]
    · simp [start]
    · simp [start]
    · simp [start]
    · simp [start]
    · simp [start]
  | append_singleton ids id ih =>
    obtain ⟨h, hstarted, hdone, hcurrent, hconnects, hjobs⟩ := ih
    rw [start_snoc]
    refine ⟨⟨?_, ?_, ?_, ?_, ?_, ?_, ?_, ?_, ?_, ?_⟩, hstarted, hdone, hcurrent, hconnects, hjobs⟩
    · intro id'
      rw [List.mem_append, List.mem_singleton, ← h.keys id', or_comm]
      exact AList.mem_insert _
    · simp [requestTask, putDummy]
    · simp [requestTask, putDummy]
    · have hqueue := h.queue
      rw [hdone, hcurrent] at hqueue
      simp only [requestTask, putDummy, hdone, hcurrent, List.map_append, List.map_singleton, ← hqueue]
      simp
    · intro id'
      have hnone := h.marked id'
      simp only [requestTask, putDummy, Dictionary.lookup_insert]
      split_ifs with heq
      · simp [hdone, taskIds]
      · exact hnone
    · intro id' hid' dummy hdummy
      obtain rfl : id = id' := Option.some.inj hid'
      simp only [requestTask, putDummy, Dictionary.lookup_insert, if_pos] at hdummy
      obtain rfl := Option.some.inj hdummy
      simp [requestTask, putDummy, hconnects]
    · intro hne
      exact absurd hdone hne
    · intro hne
      exact absurd hjobs hne
    · intro hst
      exact absurd (hstarted.symm.trans hst) (by decide)
    · intro p q _ _
      simp [requestTask, putDummy, hjobs]

namespace StartInv

/-- the task that the thread is at -/
theorem current_task (h : StartInv maxPlayer ids hosts s) {task : Task} (hcur : s.current = some task) :
    task.number = maxPlayer ∧ task.id ∈ ids := by
  have hmem : task ∈ ids.map fun id => (⟨id, maxPlayer⟩ : Task) := by
    rw [← h.queue, hcur]
    simp
  obtain ⟨id, hid, rfl⟩ := List.mem_map.1 hmem
  exact ⟨rfl, hid⟩

/-- the count that the thread waits on -/
theorem channels (h : StartInv maxPlayer ids hosts s) (hne : ids ≠ []) :
    getChannelNumConnectedToServer s = BitVec.ofNat 32 s.connects := by
  have hlast : s.dummy = some (ids.getLast hne) := h.dummy.trans (List.getLast?_eq_some_getLast hne)
  have hmem : ids.getLast hne ∈ s.dummys := (h.keys _).2 (List.getLast_mem hne)
  obtain ⟨dummy, hdummy⟩ := Option.isSome_iff_exists.1 (AList.lookup_isSome.2 hmem)
  unfold getChannelNumConnectedToServer
  rw [hlast, Option.bind_some, hdummy]
  exact h.count _ (by rw [hlast]; rfl) dummy hdummy

theorem count_eq (h : StartInv maxPlayer ids hosts s) : countDummyConnectedToServer s = (taskIds s.done).toFinset.card :=
  Dictionary.countP_eq_card s.dummys fun id => List.mem_toFinset.trans (h.marked id)

/-- the tasks done are the first ones -/
theorem done_first (h : StartInv maxPlayer ids hosts s) : taskIds s.done ++ taskIds (s.current.toList ++ s.tasks) = ids := by
  have hids : taskIds (ids.map fun id => (⟨id, maxPlayer⟩ : Task)) = ids := by simp [taskIds, Function.comp_def]
  have hqueue := congrArg taskIds h.queue
  rw [List.append_assoc, hids] at hqueue
  exact List.map_append.symm.trans hqueue

/-- the wait of the main thread -/
theorem goes_on_iff (h : StartInv maxPlayer ids hosts s) :
    s.dummyCount ≤ countDummyConnectedToServer s ↔ taskIds s.done = ids ∧ ids.Nodup := by
  have hfirst := h.done_first
  have hlen : (taskIds s.done).length + (taskIds (s.current.toList ++ s.tasks)).length = ids.length := by
    rw [← List.length_append, hfirst]
  have hcard := List.toFinset_card_le (taskIds s.done)
  rw [h.dummyCount, h.count_eq]
  constructor
  · intro hle
    have hnil : taskIds (s.current.toList ++ s.tasks) = [] := List.eq_nil_of_length_eq_zero (by omega)
    rw [hnil, List.append_nil] at hfirst
    refine ⟨hfirst, ?_⟩
    rw [hfirst] at hle hcard
    exact Multiset.toFinset_card_eq_card_iff_nodup.1 (le_antisymm hcard hle)
  · rintro ⟨heq, hnodup⟩
    rw [heq, List.toFinset_card_of_nodup hnodup]

end StartInv

/-! ## One step -/

theorem toInt_ofNat_le (n : ℕ) : (BitVec.ofNat 32 n).toInt ≤ n := by
  have hmod : n % 2 ^ 32 ≤ n := Nat.mod_le _ _
  rw [BitVec.toInt_eq_toNat_cond, BitVec.toNat_ofNat]
  split_ifs <;> omega

theorem share_startJobs (task : Task) {p q : ℕ} (hp : p < hosts) (hq : q < hosts) :
    (startJobs hosts task).countP (fun job => job.host = p) ≤
      (startJobs hosts task).countP (fun job => job.host = q) + 1 := by
  have hpos : 0 < hosts := Nat.zero_lt_of_lt hp
  have hcount : ∀ r, r < hosts → (startJobs hosts task).countP (fun job => job.host = r) =
      task.number.toInt.toNat / hosts + if r < task.number.toInt.toNat % hosts then 1 else 0 := by
    intro r hr
    have hmod : ∀ i, (i % hosts = r) = (i ≡ r [MOD hosts]) := fun i => by rw [Nat.ModEq, Nat.mod_eq_of_lt hr]
    have hformula := Nat.count_modEq_card task.number.toInt.toNat hpos r
    rw [Nat.mod_eq_of_lt hr] at hformula
    rw [← hformula, startJobs, List.countP_map, Nat.count]
    exact List.countP_congr fun i _ => by simp [hmod]
  rw [hcount p hp, hcount q hq]
  split_ifs <;> omega

theorem StartInv.takeTask (h : StartInv maxPlayer ids hosts s) : StartInv maxPlayer ids hosts (takeTask hosts s) := by
  unfold Stress.takeTask
  cases hcur : s.current with
  | some task => exact h
  | none =>
    cases htasks : s.tasks with
    | nil => exact h
    | cons task tasks =>
      have hqueue := h.queue
      rw [hcur, htasks] at hqueue
      have hshares := h.shares
      rw [hcur] at hshares
      have hne : ids ≠ [] := by
        rintro rfl
        simp at hqueue
      dsimp only
      split_ifs with hhosts
      · refine { h with queue := by simpa using hqueue, shares := fun p q hp hq => ?_ }
        refine (hshares p q hp hq).trans ?_
        simp
      · refine { h with queue := by simpa using hqueue, taken := fun _ => hne, shares := fun p q hp hq => ?_ }
        have hold := hshares p q hp hq
        have hnew := share_startJobs task hp hq
        simp only [List.countP_append, List.length_append, Option.toList_none, Option.toList_some, List.length_nil,
          List.length_singleton] at hold ⊢
        omega

theorem StartInv.checkChannels (h : StartInv maxPlayer ids hosts s) : StartInv maxPlayer ids hosts (checkChannels s) := by
  unfold Stress.checkChannels
  cases hcur : s.current with
  | none => exact h
  | some task =>
    dsimp only
    split_ifs with hlt
    · exact h
    · obtain ⟨hnumber, hid⟩ := h.current_task hcur
      obtain ⟨dummy, hdummy, hlookup⟩ := lookup_setDummy (s := s)
        (f := fun dummy => { dummy with connectedToServer := true }) ((h.keys task.id).2 hid)
      obtain ⟨dummys, hframe⟩ := setDummy_eq s task.id fun dummy => { dummy with connectedToServer := true }
      have hmem := mem_setDummy s task.id fun dummy => { dummy with connectedToServer := true }
      rw [hframe] at hlookup hmem ⊢
      have hdone : taskIds (s.done ++ [task]) = taskIds s.done ++ [task.id] := by simp [taskIds]
      have hne : ids ≠ [] := List.ne_nil_of_mem hid
      refine ⟨fun id => (hmem id).trans (h.keys id), h.dummy, h.dummyCount, ?_, ?_, ?_, ?_, h.taken, ?_, ?_⟩
      · have hqueue := h.queue
        rw [hcur] at hqueue
        simpa using hqueue
      · intro id
        dsimp only
        rw [hlookup, hdone, List.mem_append, List.mem_singleton]
        split_ifs with heq
        · simp [heq]
        · rw [h.marked id]
          exact or_iff_left heq
      · intro id hlast dummy' hdummy'
        dsimp only at hdummy'
        rw [hlookup] at hdummy'
        split_ifs at hdummy' with heq
        · obtain rfl := Option.some.inj hdummy'
          exact h.count id hlast dummy (heq ▸ hdummy)
        · exact h.count id hlast dummy' hdummy'
      · intro _
        rw [h.channels hne, hnumber] at hlt
        exact (not_lt.1 hlt).trans (toInt_ofNat_le s.connects)
      · intro hst
        obtain ⟨heq, hnodup⟩ := h.started hst
        have hfirst := h.done_first
        rw [heq, hcur] at hfirst
        simp [taskIds] at hfirst
      · intro p q hp hq
        have hold := h.shares p q hp hq
        rw [hcur] at hold
        simpa using hold

theorem StartInv.setJob (h : StartInv maxPlayer ids hosts s) (i : ℕ) (connected : Bool) :
    StartInv maxPlayer ids hosts (setJob s i connected) := by
  have hhost : ∀ p, (s.jobs.modify i fun job => { job with connected := connected }).countP (fun job => job.host = p) =
      s.jobs.countP fun job => job.host = p := by
    intro p
    have hmap : (s.jobs.modify i fun job => { job with connected := connected }).map Job.host = s.jobs.map Job.host := by
      apply List.ext_getElem?
      intro k
      rw [List.getElem?_map, List.getElem?_map, List.getElem?_modify]
      cases s.jobs[k]? with
      | none => rfl
      | some job => by_cases hik : i = k <;> simp [hik]
    have hcount := congrArg (List.countP fun host => decide (host = p)) hmap
    rwa [List.countP_map, List.countP_map] at hcount
  refine { h with taken := fun hne => h.taken fun hnil => hne ?_, shares := fun p q hp hq => ?_ }
  · show s.jobs.modify i _ = []
    rw [hnil]
    exact List.modify_nil _ i
  · have hold := h.shares p q hp hq
    rw [← hhost p, ← hhost q] at hold
    exact hold

theorem StartInv.connected (h : StartInv maxPlayer ids hosts s) (hne : ids ≠ []) :
    StartInv maxPlayer ids hosts { connected s with connects := s.connects + 1 } := by
  have hlast : s.dummy = some (ids.getLast hne) := h.dummy.trans (List.getLast?_eq_some_getLast hne)
  generalize hlid : ids.getLast hne = last at hlast
  have hlastmem : last ∈ s.dummys := (h.keys _).2 (hlid ▸ List.getLast_mem hne)
  unfold Stress.connected
  rw [hlast]
  dsimp only
  obtain ⟨dummy, hdummy, hlookup⟩ := lookup_setDummy (s := s)
    (f := fun dummy => { dummy with connectedChannelCount := dummy.connectedChannelCount + 1 }) hlastmem
  have hkeys := mem_setDummy s last fun dummy => { dummy with connectedChannelCount := dummy.connectedChannelCount + 1 }
  obtain ⟨dummys, hframe⟩ := setDummy_eq s last fun dummy =>
    { dummy with connectedChannelCount := dummy.connectedChannelCount + 1 }
  rw [hframe] at hlookup hkeys ⊢
  refine { h with keys := fun id => (hkeys id).trans (h.keys id), marked := ?_, count := ?_, enough := ?_ }
  · intro id
    dsimp only
    rw [hlookup, h.marked id]
    split_ifs with heq
    · rw [heq, hdummy]
      constructor
      · rintro ⟨d, hd, hmark⟩
        obtain rfl := Option.some.inj hd
        exact ⟨_, rfl, hmark⟩
      · rintro ⟨d, hd, hmark⟩
        obtain rfl := Option.some.inj hd
        exact ⟨dummy, rfl, hmark⟩
    · rfl
  · intro id hidlast dummy' hdummy'
    obtain rfl : last = id := Option.some.inj (hlast.symm.trans hidlast)
    dsimp only at hdummy' ⊢
    rw [hlookup, if_pos rfl] at hdummy'
    obtain rfl := Option.some.inj hdummy'
    rw [h.count last hidlast dummy hdummy, BitVec.ofNat_add]
    rfl
  · intro hdone
    have hle := h.enough hdone
    push_cast
    omega

/-- step lemma -/
theorem StartInv.step (s : Stresser) (op : StartOp) (h : StartInv maxPlayer ids hosts s) :
    StartInv maxPlayer ids hosts (startStep hosts s op) := by
  cases op with
  | poll =>
    rw [startStep]
    split_ifs
    · exact h
    · exact h.takeTask
  | checkChannels =>
    rw [startStep]
    split_ifs
    · exact h
    · exact h.checkChannels
  | connect i =>
    rw [startStep]
    split_ifs with hjob
    · refine (h.setJob i true).connected (h.taken fun hnil => ?_)
      simp [hnil] at hjob
    · exact h
  | close i => exact h.setJob i false
  | checkDummys =>
    rw [startStep]
    split_ifs with hlt
    · exact h
    · exact { h with started := fun _ => h.goes_on_iff.1 (not_lt.1 hlt) }

end

/-- **When the stresser starts.** In every order of the steps of the two threads and the connections: the tasks are done in
order, the dummies counted as connected are the different ids of the tasks done, and so the wait of the main thread ends
exactly when all tasks are done and no random id was drawn twice. The first task needs `maxPlayer` connections; once it is
done, each further one is done at the next look without any connection of its own (before the count overflows). No host has
more sessions than another one and one per task. -/
theorem startup (maxPlayer : BitVec 32) (ids : List ℕ) (hosts : ℕ) (ops : List StartOp) :
    let s := run (startStep hosts) (start maxPlayer ids) ops
    s.done ++ s.current.toList ++ s.tasks = ids.map (fun id => ⟨id, maxPlayer⟩) ∧
    countDummyConnectedToServer s = (taskIds s.done).toFinset.card ∧
    (s.dummyCount ≤ countDummyConnectedToServer s ↔ taskIds s.done = ids ∧ ids.Nodup) ∧
    (s.started = true → taskIds s.done = ids ∧ ids.Nodup) ∧
    (s.done ≠ [] → maxPlayer.toInt ≤ s.connects ∧
      (s.connects < 2 ^ 31 → s.died = false → ∀ task, s.current = some task →
        (startStep hosts s .checkChannels).done = s.done ++ [task])) ∧
    ∀ p q, p < hosts → q < hosts → s.jobs.countP (fun job => job.host = p) ≤
      s.jobs.countP (fun job => job.host = q) + (s.done ++ s.current.toList).length := by
  intro s
  have h : StartInv maxPlayer ids hosts s := run_inv_all StartInv.step (start_inv maxPlayer ids hosts).1 ops
  refine ⟨h.queue, h.count_eq, h.goes_on_iff, h.started, fun hdone => ⟨h.enough hdone, ?_⟩, h.shares⟩
  intro hsmall halive task hcur
  obtain ⟨hnumber, hid⟩ := h.current_task hcur
  have hcount : (BitVec.ofNat 32 s.connects).toInt = s.connects := by
    rw [BitVec.toInt_eq_toNat_cond, BitVec.toNat_ofNat, Nat.mod_eq_of_lt (by omega), if_pos (by omega)]
  have hle := h.enough hdone
  rw [startStep, halive, checkChannels, hcur]
  dsimp only
  rw [h.channels (List.ne_nil_of_mem hid), hnumber, hcount, if_neg (not_lt.2 hle)]
  rfl

end GameServer.Stress
