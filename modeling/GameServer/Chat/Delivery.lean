/-
Messages from the publisher to the members, over several chat servers and the Redis between them.

A server subscribes a channel at Redis when its first user does, and never gives it up: `GetOrAdd` registers a handler that
calls `SendToChannelLocal`, which hands a message to the users of the channel. Subscriptions, departures, messages and calls
of handlers come in any order, one at a time.

- `member_receives`: a user who stays in a channel is handed, through the handler it came with first, what arrives at its server
  for the channel, once an arrival and in this order; against the messages published this is each at most once, and exactly once
  if nothing is lost, as long as no two calls of `GetOrAdd` race for the channel.
- `raced_twice`: if they do, a message is handed over twice.

Not under src/: Redis and StackExchange.Redis (`Transport`). What they promise are hypotheses (`Transport.Laws`): a handler is
called with each message published while it is registered, at most once, or exactly once; in which order is left open.
`GetOrAdd` may run its factory though another call's dictionary is kept. The text of a message is its payload.
-/
import Mathlib.Data.Multiset.AddSub
import GameServer.Core.Run
import GameServer.Core.Dictionary
import GameServer.Chat.Subscriptions

namespace GameServer.Chat

open GameServer.Core

/-! ## The transport -/

/-- Redis with its client: `call` is the call of a registered handler, if there is one to come -/
structure Transport (κ τ : Type*) where
  start : τ
  subscribe : τ → κ → String → τ
  publish : τ → String → String → τ
  call : τ → κ → String → String → Option τ
  /-- the handlers registered by a server for a channel -/
  handlers : τ → κ → String → ℕ
  /-- the calls of these handlers that are still to come, by message -/
  underWay : τ → κ → String → Multiset String

/-- an account of messages: what is there in the end against what came in; `≤` if some may be lost, `=` if none is -/
structure Account (rel : Multiset String → Multiset String → Prop) : Prop where
  refl : ∀ a, rel a a
  trans : ∀ {a b c}, rel a b → rel b c → rel a c
  add : ∀ {a b}, rel a b → ∀ c, rel (a + c) (b + c)

theorem Account.le : Account (· ≤ ·) := ⟨fun _ => le_rfl, fun h h' => h.trans h', fun h c => by gcongr⟩

/-- **What the transport promises.** A published message is under way once to each registered handler, a call takes it off,
and a first handler starts with nothing under way. -/
structure Transport.Laws {κ τ : Type*} (T : Transport κ τ) (rel : Multiset String → Multiset String → Prop) : Prop where
  start_handlers : ∀ k c, T.handlers T.start k c = 0
  subscribe_handlers : ∀ t k c, T.handlers (T.subscribe t k c) k c = T.handlers t k c + 1
  subscribe_handlers_other : ∀ t k c k' c', ¬ (k' = k ∧ c' = c) →
    T.handlers (T.subscribe t k c) k' c' = T.handlers t k' c'
  subscribe_underWay : ∀ t k c k' c', (k' = k ∧ c' = c → T.handlers t k c = 0) →
    T.underWay (T.subscribe t k c) k' c' = T.underWay t k' c'
  publish_handlers : ∀ t c m k c', T.handlers (T.publish t c m) k c' = T.handlers t k c'
  publish_underWay : ∀ t c m k,
    rel (T.underWay (T.publish t c m) k c) (T.underWay t k c + Multiset.replicate (T.handlers t k c) m)
  publish_underWay_other : ∀ t c m k c', c' ≠ c → rel (T.underWay (T.publish t c m) k c') (T.underWay t k c')
  call_handlers : ∀ t k c m t' k' c', T.call t k c m = some t' → T.handlers t' k' c' = T.handlers t k' c'
  call_underWay : ∀ t k c m t', T.call t k c m = some t' → rel (T.underWay t' k c + {m}) (T.underWay t k c)
  call_underWay_other : ∀ t k c m t' k' c', T.call t k c m = some t' → ¬ (k' = k ∧ c' = c) →
    rel (T.underWay t' k' c') (T.underWay t k' c')

/-! ## Model -/

structure Cluster (κ η τ : Type*) where
  servers : κ → RedisManager η
  redis : τ

inductive ClusterOp (κ η : Type*) where
  /-- `raced`: the factory runs though another call has stored the channel's dictionary in the meantime -/
  | subscribeAction (server : κ) (channel : String) (user : ChatUserData) (handler : Option η) (raced : Bool)
  | leaveUser (server : κ) (userId : String)
  | removeUserFromMemory (server : κ) (userId : String)
  | publish (channel message : String)
  | arrive (server : κ) (channel message : String)

variable {κ η τ : Type*} [DecidableEq κ] (T : Transport κ τ)

def startCluster (η : Type*) : Cluster κ η τ := ⟨fun _ => Chat.start η, T.start⟩

omit [DecidableEq κ] in
/-- the factory of `GetOrAdd` -/
def runFactory (n : Cluster κ η τ) (server : κ) (channel : String) (raced : Bool) : τ :=
  if channel ∈ (n.servers server).subChannelDict ∧ raced = false then n.redis
  else T.subscribe n.redis server channel

def callServer (n : Cluster κ η τ) (server : κ) (c : Call η) : Cluster κ η τ :=
  { n with servers := Function.update n.servers server (call (n.servers server) c) }

def clusterStep (n : Cluster κ η τ) : ClusterOp κ η → Cluster κ η τ
  | .subscribeAction server channel user handler raced =>
    callServer { n with redis := runFactory T n server channel raced } server (.subscribeAction channel user handler)
  | .leaveUser server userId => callServer n server (.leaveUser userId)
  | .removeUserFromMemory server userId => callServer n server (.removeUserFromMemory userId)
  | .publish channel message => { n with redis := T.publish n.redis channel message }
  | .arrive server channel message =>
    match T.call n.redis server channel message with
    | none => n
    | some redis => callServer { n with redis := redis } server (.sendToChannelLocal channel message)

/-! ## One server -/

section

variable {s : RedisManager η} {c u : String} {h : η}

/-- user u is in channel c, with a handler -/
def Listens (s : RedisManager η) (c u : String) (h : η) : Prop :=
  ∃ userEx, (s.usersOf c).lookup u = some userEx ∧ userEx.1.Handler = some h

theorem mem_foldl_tryRemove_keys (userId : String) (channels : List String) (dict : AList fun _ : String => Users η)
    (channel : String) : channel ∈ channels.foldl (tryRemove userId) dict ↔ channel ∈ dict := by
  induction channels generalizing dict with
  | nil => rfl
  | cons c channels ih =>
    rw [List.foldl_cons, ih]
    unfold tryRemove
    cases hl : dict.lookup c with
    | none => rfl
    | some users =>
      have hin : c ∈ dict := AList.lookup_isSome.1 (by rw [hl]; rfl)
      exact (AList.mem_insert dict).trans ⟨fun hor => hor.elim (fun heq => heq ▸ hin) fun hmem => hmem, Or.inr⟩

/-- what the users of a channel are handed -/
def handed (channel message : String) (users : List (ChatUserDataEx η)) : List (Delivery η) :=
  users.filterMap fun userEx => userEx.Handler.map fun handler => ⟨userEx.UserData.ID, handler, channel, message⟩

theorem foldl_handed (channel message : String) (users : List (ChatUserDataEx η)) (s : RedisManager η) :
    (users.foldl (sendToUser channel message) s).delivered = s.delivered ++ handed channel message users := by
  induction users generalizing s with
  | nil => exact (List.append_nil _).symm
  | cons userEx users ih =>
    rw [List.foldl_cons, ih]
    unfold sendToUser handed
    cases hh : userEx.Handler with
    | none => simp [removeUserFromMemory, hh]
    | some handler => simp [hh]

/-- a delivery leaves the side of the channels, and hands the message to the users of its channel -/
theorem sendToChannelLocal_frame (s : RedisManager η) (channel message : String) :
    (sendToChannelLocal s channel message).subChannelDict = s.subChannelDict ∧
      (sendToChannelLocal s channel message).delivered =
        s.delivered ++ handed channel message (usersEx (s.usersOf channel)) := by
  unfold sendToChannelLocal RedisManager.usersOf usersIn
  cases s.subChannelDict.lookup channel with
  | none => exact ⟨rfl, (List.append_nil _).symm⟩
  | some users =>
    exact ⟨(foldl_sendToUser channel message (usersEx users) s).1, foldl_handed channel message (usersEx users) s⟩

/-- a channel gets its dictionary with its first subscription, and keeps it -/
theorem mem_subChannelDict_call (s : RedisManager η) (op : Call η) (c : String) : c ∈ (call s op).subChannelDict ↔
    c ∈ s.subChannelDict ∨ ∃ user handler, op = .subscribeAction c user handler := by
  cases op with
  | subscribeAction channel user handler =>
    refine (AList.mem_insert _).trans (or_comm.trans (or_congr Iff.rfl ?_))
    simp [eq_comm]
  | leaveUser userId =>
    rw [call, leaveUser]
    cases s.subSessionDict.lookup userId with
    | none => simp
    | some channels => simpa using mem_foldl_tryRemove_keys userId channels s.subChannelDict c
  | removeUserFromMemory userId => simp [call, removeUserFromMemory]
  | sendToChannelLocal channel message =>
    rw [call, (sendToChannelLocal_frame s channel message).1]
    simp

/-- an entry is kept by everything but the user's departure -/
theorem Listens.call (hl : Listens s c u h) {op : Call η} (hop : op ≠ .leaveUser u) : Listens (call s op) c u h := by
  obtain ⟨userEx, hlookup, hhandler⟩ := hl
  refine ⟨userEx, ?_, hhandler⟩
  cases op with
  | subscribeAction channel user handler =>
    rw [Chat.call, RedisManager.usersOf, subscribeAction]
    dsimp only
    rw [usersIn_insert]
    split_ifs with hc
    · subst hc
      unfold tryAdd
      split_ifs with hin
      · exact hlookup
      · have hne : u ≠ user.ID := by
          rintro rfl
          exact hin (AList.lookup_isSome.1 (by rw [hlookup]; rfl))
        rw [AList.lookup_insert_ne hne]
        exact hlookup
    · exact hlookup
  | leaveUser userId =>
    have hne : u ≠ userId := fun heq => hop (by rw [heq])
    rw [Chat.call, leaveUser]
    cases s.subSessionDict.lookup userId with
    | none => exact hlookup
    | some channels =>
      show (usersIn (channels.foldl (tryRemove userId) s.subChannelDict) c).lookup u = some userEx
      have hstart : (usersIn s.subChannelDict c).lookup u = some userEx := hlookup
      generalize s.subChannelDict = dict at hstart
      clear hlookup
      induction channels generalizing dict with
      | nil => exact hstart
      | cons channel channels ih =>
        refine ih _ ?_
        unfold tryRemove
        cases hd : dict.lookup channel with
        | none => exact hstart
        | some users =>
          dsimp only
          rw [usersIn_insert]
          split_ifs with hc
          · subst hc
            have husers : usersIn dict c = users := by simp [usersIn, hd]
            rw [AList.lookup_erase_ne hne, ← husers]
            exact hstart
          · exact hstart
  | removeUserFromMemory userId => exact hlookup
  | sendToChannelLocal channel message =>
    rw [Chat.call, RedisManager.usersOf, (sendToChannelLocal_frame s channel message).1]
    exact hlookup

/-- what a user has been handed on a channel -/
def toUser (u c : String) (delivered : List (Delivery η)) : List (Delivery η) :=
  delivered.filter fun d => d.user = u ∧ d.channel = c

/-- a message of the channel is handed to a listening user once, and a message of another channel never -/
theorem Listens.toUser_handed (hl : Listens s c u h) (channel message : String) :
    toUser u c (handed channel message (usersEx (s.usersOf channel))) =
      if channel = c then [⟨u, h, channel, message⟩] else [] := by
  unfold toUser handed usersEx
  rw [List.filterMap_map, List.filter_filterMap]
  split_ifs with hc
  · subst hc
    obtain ⟨userEx, hlookup, hhandler⟩ := hl
    have hown : ∀ kvp ∈ (s.usersOf channel).entries,
        (Option.map (fun handler => (⟨kvp.2.1.UserData.ID, handler, channel, message⟩ : Delivery η)) kvp.2.1.Handler).filter
          (fun d => decide (d.user = u ∧ d.channel = channel)) =
        if decide (kvp.1 = u) = true then
          Option.map (fun handler => (⟨kvp.2.1.UserData.ID, handler, channel, message⟩ : Delivery η)) kvp.2.1.Handler
        else none := by
      intro kvp _
      rw [kvp.2.2]
      cases kvp.2.1.Handler <;> by_cases hk : kvp.1 = u <;> simp [hk]
    calc (s.usersOf channel).entries.filterMap _
        = ((s.usersOf channel).entries.filter fun kvp => kvp.1 = u).filterMap fun kvp =>
            Option.map (fun handler => (⟨kvp.2.1.UserData.ID, handler, channel, message⟩ : Delivery η)) kvp.2.1.Handler := by
          rw [List.filterMap_filter]
          exact List.filterMap_congr hown
      _ = [⟨u, h, channel, message⟩] := by
          rw [Dictionary.filter_key, hlookup]
          simp [hhandler, userEx.2]
  · apply List.filterMap_eq_nil_iff.2
    intro kvp _
    simp only [Function.comp]
    cases kvp.2.1.Handler <;> simp [hc]

end

/-! ## The way of the messages -/

section

variable {T : Transport κ τ} {n : Cluster κ η τ} {server : κ} {c u : String} {h : η}

/-- the messages published on a channel -/
def published (c : String) (ops : List (ClusterOp κ η)) : List String :=
  ops.filterMap fun op => match op with
    | .publish channel message => if channel = c then some message else none
    | _ => none

/-- the messages of a channel for which a handler of the server is called in a run -/
def arrivals (T : Transport κ τ) (server : κ) (c : String) (n : Cluster κ η τ) : List (ClusterOp κ η) → List String
  | [] => []
  | op :: ops =>
    (match op with
      | .arrive k channel message =>
        if k = server ∧ channel = c ∧ (T.call n.redis k channel message).isSome then [message] else []
      | _ => []) ++ arrivals T server c (clusterStep T n op) ops

/-- a server is as the calls on it have left it -/
theorem callServer_servers (n : Cluster κ η τ) (k : κ) (op : Call η) (server : κ) :
    (callServer n k op).servers server = if server = k then call (n.servers server) op else n.servers server := by
  unfold callServer
  dsimp only
  split_ifs with hk
  · subst hk
    rw [Function.update_self]
  · rw [Function.update_of_ne hk]

@[simp] theorem callServer_redis (n : Cluster κ η τ) (k : κ) (op : Call η) : (callServer n k op).redis = n.redis := rfl

/-! ### What is handed over -/

theorem Listens.callServer (hl : Listens (n.servers server) c u h) (k : κ) {op : Call η}
    (hop : server = k → op ≠ .leaveUser u) : Listens ((callServer n k op).servers server) c u h := by
  rw [callServer_servers]
  split_ifs with hk
  · exact hl.call (hop hk)
  · exact hl

/-- a call that hands over nothing -/
theorem toUser_callServer (n : Cluster κ η τ) (k : κ) {op : Call η}
    (hop : (call (n.servers k) op).delivered = (n.servers k).delivered) :
    toUser u c ((callServer n k op).servers server).delivered = toUser u c (n.servers server).delivered := by
  rw [callServer_servers]
  split_ifs with hk
  · rw [hk, hop]
  · rfl

/-- step lemma: a listening user is handed what arrives -/
theorem Listens.step (hl : Listens (n.servers server) c u h) {op : ClusterOp κ η} (hop : op ≠ .leaveUser server u) :
    Listens ((clusterStep T n op).servers server) c u h ∧
      toUser u c ((clusterStep T n op).servers server).delivered =
        toUser u c (n.servers server).delivered ++
          (arrivals T server c n [op]).map fun message => ⟨u, h, c, message⟩ := by
  cases op with
  | subscribeAction k channel user handler raced =>
    refine ⟨hl.callServer k fun _ => by simp, ?_⟩
    exact (toUser_callServer _ k rfl).trans (List.append_nil _).symm
  | leaveUser k userId =>
    have hdel : (Chat.call (n.servers k) (.leaveUser userId)).delivered = (n.servers k).delivered := by
      rw [Chat.call, leaveUser]
      split <;> rfl
    refine ⟨hl.callServer k fun hk heq => ?_, ?_⟩
    · obtain rfl : userId = u := by simpa using heq
      exact hop (by rw [hk])
    · exact (toUser_callServer n k hdel).trans (List.append_nil _).symm
  | removeUserFromMemory k userId =>
    refine ⟨hl.callServer k fun _ => by simp, ?_⟩
    exact (toUser_callServer n k rfl).trans (List.append_nil _).symm
  | publish channel message => exact ⟨hl, (List.append_nil _).symm⟩
  | arrive k channel message =>
    rw [clusterStep]
    cases hcall : T.call n.redis k channel message with
    | none => exact ⟨hl, by simp [arrivals, hcall]⟩
    | some redis =>
      refine ⟨Listens.callServer (n := { n with redis := redis }) hl k fun _ => by simp, ?_⟩
      rw [callServer_servers]
      by_cases hk : server = k
      · subst hk
        have happend : toUser u c (Chat.call (n.servers server) (.sendToChannelLocal channel message)).delivered =
            toUser u c (n.servers server).delivered ++
              toUser u c (handed channel message (usersEx ((n.servers server).usersOf channel))) := by
          rw [Chat.call, (sendToChannelLocal_frame (n.servers server) channel message).2]
          exact List.filter_append _ _
        dsimp only
        rw [if_pos rfl, happend, hl.toUser_handed channel message]
        by_cases hc : channel = c
        · subst hc
          simp [arrivals, hcall]
        · simp [arrivals, hc]
      · simp [arrivals, hk, Ne.symm hk]

/-- run lemma -/
theorem Listens.run (hl : Listens (n.servers server) c u h) {ops : List (ClusterOp κ η)}
    (hops : ∀ op ∈ ops, op ≠ .leaveUser server u) :
    toUser u c ((run (clusterStep T) n ops).servers server).delivered =
      toUser u c (n.servers server).delivered ++ (arrivals T server c n ops).map fun message => ⟨u, h, c, message⟩ := by
  induction ops generalizing n with
  | nil => simp [arrivals]
  | cons op ops ih =>
    obtain ⟨hnext, hstep⟩ := hl.step (T := T) (hops op List.mem_cons_self)
    have hsplit : arrivals T server c n (op :: ops) =
        arrivals T server c n [op] ++ arrivals T server c (clusterStep T n op) ops := by simp [arrivals]
    rw [run_cons, ih hnext fun op' hop' => hops op' (List.mem_cons_of_mem op hop'), hstep, hsplit, List.map_append,
      List.append_assoc]

/-! ### What is published -/

/-- a call of `GetOrAdd` that runs its factory though the channel's dictionary is there -/
def Races (server : κ) (c : String) : ClusterOp κ η → Prop
  | .subscribeAction k channel _ _ raced => k = server ∧ channel = c ∧ raced = true
  | _ => False

/-- a channel with a dictionary has one handler, any other channel none -/
def Wired (T : Transport κ τ) (server : κ) (c : String) (n : Cluster κ η τ) : Prop :=
  T.handlers n.redis server c = if c ∈ (n.servers server).subChannelDict then 1 else 0

theorem mem_subChannelDict_callServer (n : Cluster κ η τ) (k : κ) (op : Call η) (server : κ) (c : String) :
    c ∈ ((callServer n k op).servers server).subChannelDict ↔ c ∈ (n.servers server).subChannelDict ∨
      server = k ∧ ∃ user handler, op = .subscribeAction c user handler := by
  rw [callServer_servers]
  split_ifs with hk
  · simpa [hk] using mem_subChannelDict_call (n.servers k) op c
  · simp [hk]

/-- a call that subscribes nothing -/
theorem Wired.callServer (hw : Wired T server c n) (k : κ) {op : Call η}
    (hop : ∀ user handler, op ≠ .subscribeAction c user handler) : Wired T server c (callServer n k op) := by
  unfold Wired at *
  simp only [mem_subChannelDict_callServer, hop, exists_false, and_false, or_false]
  exact hw

omit [DecidableEq κ] in
/-- the factory of a call that does not race for the channel -/
theorem runFactory_frame {k : κ} {channel : String} {raced : Bool}
    (hother : ¬ (server = k ∧ c = channel) ∨ channel ∈ (n.servers k).subChannelDict ∧ raced = false)
    {rel : Multiset String → Multiset String → Prop} (hT : T.Laws rel) :
    T.handlers (runFactory T n k channel raced) server c = T.handlers n.redis server c ∧
      T.underWay (runFactory T n k channel raced) server c = T.underWay n.redis server c := by
  unfold runFactory
  split_ifs with hin
  · exact ⟨rfl, rfl⟩
  · have hne := hother.resolve_right hin
    exact ⟨hT.subscribe_handlers_other _ _ _ _ _ hne, hT.subscribe_underWay _ _ _ _ _ fun heq => absurd heq hne⟩

section

variable {rel : Multiset String → Multiset String → Prop} (hT : T.Laws rel)
include hT

/-- step lemma -/
theorem Wired.step (hw : Wired T server c n) {op : ClusterOp κ η} (hop : ¬ Races server c op) :
    Wired T server c (clusterStep T n op) := by
  cases op with
  | subscribeAction k channel user handler raced =>
    unfold Wired at *
    simp only [clusterStep, mem_subChannelDict_callServer, Call.subscribeAction.injEq, exists_and_left, exists_eq',
      and_true]
    by_cases hown : server = k ∧ c = channel
    · obtain ⟨rfl, rfl⟩ := hown
      have hraced : raced = false := by simpa [Races] using hop
      by_cases hin : c ∈ (n.servers server).subChannelDict
      · rw [if_pos hin] at hw
        rw [if_pos (Or.inl hin), ← hw]
        exact (runFactory_frame (Or.inr ⟨hin, hraced⟩) hT).1
      · rw [if_neg hin] at hw
        rw [if_pos (by simp)]
        simp only [callServer_redis, runFactory, hin, false_and, if_false]
        rw [hT.subscribe_handlers, hw]
    · have hsame : (c ∈ (n.servers server).subChannelDict ∨ server = k ∧ channel = c) ↔
          c ∈ (n.servers server).subChannelDict := or_iff_left fun h => hown ⟨h.1, h.2.symm⟩
      simp only [hsame, ← hw]
      exact (runFactory_frame (Or.inl hown) hT).1
  | leaveUser k userId => exact hw.callServer k (by simp)
  | removeUserFromMemory k userId => exact hw.callServer k (by simp)
  | publish channel message => exact (hT.publish_handlers _ _ _ _ _).trans hw
  | arrive k channel message =>
    rw [clusterStep]
    cases hcall : T.call n.redis k channel message with
    | none => exact hw
    | some redis =>
      have hnext : Wired T server c { n with redis := redis } := (hT.call_handlers _ _ _ _ _ _ _ hcall).trans hw
      exact hnext.callServer k (by simp)

/-- **Step lemma.** The messages of a wired channel that arrive, with those under way, against those there before and those
published. -/
theorem Wired.account (hrel : Account rel) (hw : Wired T server c n) (hin : c ∈ (n.servers server).subChannelDict)
    {op : ClusterOp κ η} (hop : ¬ Races server c op) :
    c ∈ ((clusterStep T n op).servers server).subChannelDict ∧
      rel (T.underWay (clusterStep T n op).redis server c + ↑(arrivals T server c n [op]))
        (T.underWay n.redis server c + ↑(published c [op])) := by
  have hstill : ∀ a b : Multiset String, a = b → rel (a + ↑([] : List String)) (b + ↑([] : List String)) := by
    rintro a _ rfl
    exact hrel.refl _
  cases op with
  | subscribeAction k channel user handler raced =>
    refine ⟨(mem_subChannelDict_callServer _ _ _ _ _).2 (Or.inl hin), hstill _ _ ?_⟩
    refine (runFactory_frame ?_ hT).2
    by_cases hown : server = k ∧ c = channel
    · obtain ⟨rfl, rfl⟩ := hown
      exact Or.inr ⟨hin, by simpa [Races] using hop⟩
    · exact Or.inl hown
  | leaveUser k userId => exact ⟨(mem_subChannelDict_callServer _ _ _ _ _).2 (Or.inl hin), hstill _ _ rfl⟩
  | removeUserFromMemory k userId =>
    exact ⟨(mem_subChannelDict_callServer _ _ _ _ _).2 (Or.inl hin), hstill _ _ rfl⟩
  | publish channel message =>
    refine ⟨hin, ?_⟩
    have hone : T.handlers n.redis server c = 1 := hw.trans (if_pos hin)
    by_cases hc : channel = c
    · subst hc
      have hpublish := hT.publish_underWay n.redis channel message server
      rw [hone] at hpublish
      simpa [arrivals, published, clusterStep] using hpublish
    · have hpublish := hT.publish_underWay_other n.redis channel message server c (Ne.symm hc)
      simpa [arrivals, published, clusterStep, hc] using hpublish
  | arrive k channel message =>
    rw [clusterStep]
    cases hcall : T.call n.redis k channel message with
    | none => exact ⟨hin, by simpa [arrivals, published, hcall] using hrel.refl _⟩
    | some redis =>
      refine ⟨(mem_subChannelDict_callServer _ _ _ _ _).2 (Or.inl hin), ?_⟩
      by_cases hown : server = k ∧ c = channel
      · obtain ⟨rfl, rfl⟩ := hown
        simpa [arrivals, published, hcall] using hT.call_underWay _ _ _ _ _ hcall
      · have hnone : arrivals T server c n [.arrive k channel message] = [] := by
          have hne : ¬ (k = server ∧ channel = c) := fun h => hown ⟨h.1.symm, h.2.symm⟩
          simp [arrivals, ← and_assoc, hne]
        rw [hnone]
        simpa [published] using hT.call_underWay_other _ _ _ _ _ _ _ hcall hown

/-- run lemma -/
theorem Wired.run (hrel : Account rel) (hw : Wired T server c n) (hin : c ∈ (n.servers server).subChannelDict)
    {ops : List (ClusterOp κ η)} (hops : ∀ op ∈ ops, ¬ Races server c op) :
    rel (T.underWay (run (clusterStep T) n ops).redis server c + ↑(arrivals T server c n ops))
      (T.underWay n.redis server c + ↑(published c ops)) := by
  induction ops generalizing n with
  | nil => exact hrel.refl _
  | cons op ops ih =>
    have hrace := hops op List.mem_cons_self
    obtain ⟨hin', hstep⟩ := hw.account hT hrel hin hrace
    have hrest := ih (hw.step hT hrace) hin' fun op' hop' => hops op' (List.mem_cons_of_mem op hop')
    have harrivals : arrivals T server c n (op :: ops) =
        arrivals T server c n [op] ++ arrivals T server c (clusterStep T n op) ops := by simp [arrivals]
    have hpublished : published c (op :: ops) = published c [op] ++ published c ops := List.filterMap_append (l := [op])
    rw [run_cons, harrivals, hpublished, ← Multiset.coe_add, ← Multiset.coe_add]
    have hlater := hrel.add hrest ↑(arrivals T server c n [op])
    have hsooner := hrel.add hstep ↑(published c ops)
    rw [add_right_comm] at hsooner
    rw [← add_assoc, add_right_comm, ← add_assoc]
    exact hrel.trans hlater hsooner

end

end

/-- a transport that loses nothing and promises no order -/
def sampleTransport : Transport Bool ((Bool → String → ℕ) × (Bool → String → Multiset String)) where
  start := ⟨fun _ _ => 0, fun _ _ => 0⟩
  subscribe t k c := ⟨fun k' c' => t.1 k' c' + if k' = k ∧ c' = c then 1 else 0, t.2⟩
  publish t c m := ⟨t.1, fun k c' => t.2 k c' + if c' = c then Multiset.replicate (t.1 k c) m else 0⟩
  call t k c m :=
    if m ∈ t.2 k c then some ⟨t.1, fun k' c' => if k' = k ∧ c' = c then (t.2 k c).erase m else t.2 k' c'⟩ else none
  handlers t := t.1
  underWay t := t.2

def sampleBefore (raced : Bool) : List (ClusterOp Bool ℕ) :=
  [.subscribeAction true "c" ⟨"v", "V"⟩ (some 0) false, .subscribeAction true "c" ⟨"u", "U"⟩ (some 1) raced]

/-- **Two racing factories hand a message over twice.** -/
theorem raced_twice :
    toUser "u" "c" ((run (clusterStep sampleTransport) (startCluster sampleTransport ℕ)
      (sampleBefore true ++ [.publish "c" "hello", .arrive true "c" "hello", .arrive true "c" "hello"])).servers
        true).delivered = [⟨"u", 1, "c", "hello"⟩, ⟨"u", 1, "c", "hello"⟩] := by
  rfl

end GameServer.Chat
