/-
The subscriptions of the chat server: `subChannelDict` lists the users of a channel, `subSessionDict` the channels of a
user. Both are dictionaries; a user entry carries its own key.

Subscribing writes both sides and leaving reads the one to clean the other, so the two agree (`Agree`) as long as nothing
drops one side alone. `removeUserFromMemory` does: it is also the clean-up for users without a handler inside
`sendToChannelLocal`. A run is consistent exactly if these two never hit a subscribed user (`consistent_iff`).
-/
import Mathlib.Data.List.AList
import GameServer.Core.Run
import GameServer.Core.Mirror
import GameServer.Core.Dictionary

namespace GameServer.Chat

open GameServer.Core

/-! ## Model -/

structure ChatUserData where
  ID : String
  UserName : String
deriving DecidableEq

/-- the handler may be null -/
structure ChatUserDataEx (η : Type*) where
  UserData : ChatUserData
  Handler : Option η

/-- the users of a channel, by id -/
abbrev Users (η : Type*) := AList fun id : String => {userEx : ChatUserDataEx η // userEx.UserData.ID = id}

/-- a message handed to the handler of a user -/
structure Delivery (η : Type*) where
  user : String
  handler : η
  channel : String
  message : String

structure RedisManager (η : Type*) where
  subChannelDict : AList fun _ : String => Users η
  subSessionDict : AList fun _ : String => List String
  /-- the channels subscribed at Redis -/
  subscribed : List String
  delivered : List (Delivery η)

def start (η : Type*) : RedisManager η := ⟨∅, ∅, [], []⟩

variable {η : Type*}

def usersIn (dict : AList fun _ : String => Users η) (channel : String) : Users η := (dict.lookup channel).getD ∅

def RedisManager.usersOf (s : RedisManager η) (channel : String) : Users η := usersIn s.subChannelDict channel

def RedisManager.channelsOf (s : RedisManager η) (userId : String) : List String :=
  (s.subSessionDict.lookup userId).getD []

/-- an entry that exists is kept -/
def tryAdd (users : Users η) (user : ChatUserData) (handler : Option η) : Users η :=
  if user.ID ∈ users then users else users.insert user.ID ⟨⟨user, handler⟩, rfl⟩

def subscribeAction (s : RedisManager η) (channel : String) (user : ChatUserData) (handler : Option η) :
    RedisManager η :=
  { s with
    subscribed := if channel ∈ s.subChannelDict then s.subscribed else s.subscribed ++ [channel]
    subChannelDict := s.subChannelDict.insert channel (tryAdd (s.usersOf channel) user handler)
    subSessionDict := s.subSessionDict.insert user.ID (channel :: s.channelsOf user.ID) }

def tryRemove (userId : String) (dict : AList fun _ : String => Users η) (channel : String) :
    AList fun _ : String => Users η :=
  match dict.lookup channel with
  | none => dict
  | some users => dict.insert channel (users.erase userId)

def leaveUser (s : RedisManager η) (userId : String) : RedisManager η :=
  match s.subSessionDict.lookup userId with
  | none => s
  | some channels =>
    { s with
      subSessionDict := s.subSessionDict.erase userId
      subChannelDict := channels.foldl (tryRemove userId) s.subChannelDict }

def removeUserFromMemory (s : RedisManager η) (userId : String) : RedisManager η :=
  { s with subSessionDict := s.subSessionDict.erase userId }

/-- one user of the channel; one without a handler is cleaned up -/
def sendToUser (channel message : String) (s : RedisManager η) (userEx : ChatUserDataEx η) : RedisManager η :=
  match userEx.Handler with
  | some handler => { s with delivered := s.delivered ++ [⟨userEx.UserData.ID, handler, channel, message⟩] }
  | none => removeUserFromMemory s userEx.UserData.ID

/-- the entries of a channel, in the order of the dictionary -/
def usersEx (users : Users η) : List (ChatUserDataEx η) := users.entries.map fun kvp => kvp.2.1

def sendToChannelLocal (s : RedisManager η) (channel message : String) : RedisManager η :=
  match s.subChannelDict.lookup channel with
  | none => s
  | some users => (usersEx users).foldl (sendToUser channel message) s

def getUsersByChannel (s : RedisManager η) (channel : String) : List ChatUserData :=
  match s.subChannelDict.lookup channel with
  | none => []
  | some users => (usersEx users).map ChatUserDataEx.UserData

inductive Call (η : Type*) where
  | subscribeAction (channel : String) (user : ChatUserData) (handler : Option η)
  | leaveUser (userId : String)
  | removeUserFromMemory (userId : String)
  | sendToChannelLocal (channel message : String)

def call (s : RedisManager η) : Call η → RedisManager η
  | .subscribeAction channel user handler => subscribeAction s channel user handler
  | .leaveUser userId => leaveUser s userId
  | .removeUserFromMemory userId => removeUserFromMemory s userId
  | .sendToChannelLocal channel message => sendToChannelLocal s channel message

/-! ## The two indexes -/

/-- a user is listed in a channel exactly if the channel is in the user's bag -/
def Agree (s : RedisManager η) : Prop :=
  Mirror (fun channel userId => userId ∈ s.usersOf channel) fun userId channel => channel ∈ s.channelsOf userId

theorem agree_start : Agree (start η) := by
  intro channel userId
  simp [start, RedisManager.usersOf, RedisManager.channelsOf, usersIn]

theorem mem_tryAdd (users : Users η) (user : ChatUserData) (handler : Option η) (u : String) :
    u ∈ tryAdd users user handler ↔ u = user.ID ∨ u ∈ users := by
  unfold tryAdd
  split_ifs with hmem
  · constructor
    · exact Or.inr
    · intro h
      exact h.elim (fun heq => heq ▸ hmem) id
  · exact AList.mem_insert users

theorem usersIn_insert (dict : AList fun _ : String => Users η) (channel : String) (users : Users η) (c : String) :
    usersIn (dict.insert channel users) c = if c = channel then users else usersIn dict c := by
  unfold usersIn
  rw [Dictionary.lookup_insert]
  split_ifs <;> rfl

theorem channelsOf_erase (dict : AList fun _ : String => List String) (userId u : String) :
    ((dict.erase userId).lookup u).getD [] = if u = userId then [] else (dict.lookup u).getD [] := by
  rw [Dictionary.lookup_erase]
  split_ifs <;> rfl

theorem mem_tryRemove (userId : String) (dict : AList fun _ : String => Users η) (channel c u : String) :
    u ∈ usersIn (tryRemove userId dict channel) c ↔ u ∈ usersIn dict c ∧ ¬ (u = userId ∧ c = channel) := by
  unfold tryRemove
  cases hl : dict.lookup channel with
  | none =>
    by_cases hc : c = channel
    · subst hc
      simp [usersIn, hl]
    · simp [hc]
  | some users =>
    rw [usersIn_insert]
    by_cases hc : c = channel
    · subst hc
      simp [usersIn, hl, AList.mem_erase, and_comm]
    · simp [hc]

theorem mem_foldl_tryRemove (userId : String) (channels : List String) (dict : AList fun _ : String => Users η)
    (c u : String) : u ∈ usersIn (channels.foldl (tryRemove userId) dict) c ↔
      u ∈ usersIn dict c ∧ ¬ (u = userId ∧ c ∈ channels) := by
  induction channels generalizing dict with
  | nil => simp
  | cons channel channels ih =>
    rw [List.foldl_cons, ih, mem_tryRemove, List.mem_cons]
    tauto

/-! ## What a call does to the two sides -/

theorem mem_usersOf_subscribe (s : RedisManager η) (channel : String) (user : ChatUserData) (handler : Option η)
    (c u : String) : u ∈ (subscribeAction s channel user handler).usersOf c ↔
      c = channel ∧ u = user.ID ∨ u ∈ s.usersOf c := by
  simp only [subscribeAction, RedisManager.usersOf, usersIn_insert]
  split_ifs with hc
  · subst hc
    rw [mem_tryAdd]
    simp
  · simp [hc]

theorem mem_channelsOf_subscribe (s : RedisManager η) (channel : String) (user : ChatUserData) (handler : Option η)
    (u c : String) : c ∈ (subscribeAction s channel user handler).channelsOf u ↔
      c = channel ∧ u = user.ID ∨ c ∈ s.channelsOf u := by
  simp only [subscribeAction, RedisManager.channelsOf, Dictionary.lookup_insert]
  split_ifs with hu
  · subst hu
    simp
  · simp [hu]

theorem mem_usersOf_leave (s : RedisManager η) (userId c u : String) :
    u ∈ (leaveUser s userId).usersOf c ↔ u ∈ s.usersOf c ∧ ¬ (u = userId ∧ c ∈ s.channelsOf userId) := by
  unfold leaveUser RedisManager.channelsOf
  cases s.subSessionDict.lookup userId with
  | none => simp
  | some channels => exact mem_foldl_tryRemove userId channels s.subChannelDict c u

theorem channelsOf_leave (s : RedisManager η) (userId u : String) :
    (leaveUser s userId).channelsOf u = if u = userId then [] else s.channelsOf u := by
  unfold leaveUser RedisManager.channelsOf
  cases hl : s.subSessionDict.lookup userId with
  | none =>
    split_ifs with hu
    · rw [hu]
      simp [hl]
    · rfl
  | some channels => exact channelsOf_erase s.subSessionDict userId u

theorem channelsOf_remove (s : RedisManager η) (userId u : String) :
    (removeUserFromMemory s userId).channelsOf u = if u = userId then [] else s.channelsOf u :=
  channelsOf_erase s.subSessionDict userId u

/-- delivering removes the sessions of the users without a handler, and touches nothing else of the two sides -/
theorem foldl_sendToUser (channel message : String) (users : List (ChatUserDataEx η)) (s : RedisManager η) :
    (users.foldl (sendToUser channel message) s).subChannelDict = s.subChannelDict ∧
      ∀ u c, c ∈ (users.foldl (sendToUser channel message) s).channelsOf u ↔
        ¬ (∃ userEx ∈ users, userEx.Handler = none ∧ userEx.UserData.ID = u) ∧ c ∈ s.channelsOf u := by
  induction users generalizing s with
  | nil => simp
  | cons userEx users ih =>
    obtain ⟨ih1, ih2⟩ := ih (sendToUser channel message s userEx)
    rw [List.foldl_cons]
    simp only [List.exists_mem_cons_iff, not_or]
    cases hh : userEx.Handler with
    | some handler =>
      refine ⟨ih1.trans (by simp [sendToUser, hh]), ?_⟩
      intro u c
      rw [ih2 u c]
      simp [sendToUser, hh, RedisManager.channelsOf]
    | none =>
      refine ⟨ih1.trans (by simp [sendToUser, hh, removeUserFromMemory]), ?_⟩
      intro u c
      rw [ih2 u c]
      simp only [sendToUser, hh, channelsOf_remove, true_and]
      by_cases hu : u = userEx.UserData.ID
      · simp [hu]
      · simp [hu, Ne.symm hu]

theorem mem_of_usersEx {users : Users η} {userEx : ChatUserDataEx η} (h : userEx ∈ usersEx users) :
    userEx.UserData.ID ∈ users := by
  obtain ⟨kvp, hmem, rfl⟩ := List.mem_map.1 h
  rw [kvp.2.2]
  exact List.mem_keys_of_mem hmem

/-! ## Consistent runs -/

/-- only users without a subscription are removed from memory -/
def Sound (s : RedisManager η) : Call η → Prop
  | .removeUserFromMemory userId => s.channelsOf userId = []
  | .sendToChannelLocal channel _ => ∀ userEx ∈ usersEx (s.usersOf channel), userEx.Handler.isSome = true
  | _ => True

instance (s : RedisManager η) (c : Call η) : Decidable (Sound s c) := by
  cases c <;> unfold Sound <;> infer_instance

/-- a removal on the user's side alone -/
theorem remove_agree_iff {s : RedisManager η} (h : Agree s) (userId : String) :
    Agree (removeUserFromMemory s userId) ↔ s.channelsOf userId = [] := by
  have hside : Agree (removeUserFromMemory s userId) ↔ ∀ u, u = userId → ∀ c, ¬ c ∈ s.channelsOf u := by
    apply Mirror.drop_side_iff h
    · intro c u
      exact Iff.rfl
    · intro u c
      rw [channelsOf_remove]
      split_ifs with hu <;> simp [hu]
  rw [hside, List.eq_nil_iff_forall_not_mem]
  exact forall_eq

theorem send_agree_iff {s : RedisManager η} (h : Agree s) (channel message : String) :
    Agree (sendToChannelLocal s channel message) ↔ Sound s (.sendToChannelLocal channel message) := by
  simp only [sendToChannelLocal, Sound]
  cases hl : s.subChannelDict.lookup channel with
  | none =>
    have hnone : usersEx (s.usersOf channel) = [] := by simp [RedisManager.usersOf, usersIn, hl, usersEx]
    simp [hnone, h]
  | some users =>
    have husers : s.usersOf channel = users := by simp [RedisManager.usersOf, usersIn, hl]
    rw [husers]
    obtain ⟨hdict, hsess⟩ := foldl_sendToUser channel message (usersEx users) s
    have hside : Agree ((usersEx users).foldl (sendToUser channel message) s) ↔
        ∀ u, (∃ userEx ∈ usersEx users, userEx.Handler = none ∧ userEx.UserData.ID = u) →
          ∀ c, ¬ c ∈ s.channelsOf u := by
      apply Mirror.drop_side_iff h
      · intro c u
        simp only [RedisManager.usersOf, hdict]
      · exact hsess
    rw [hside]
    constructor
    · intro hnone userEx hmem
      by_contra hhandler
      have hkey : userEx.UserData.ID ∈ s.usersOf channel := by
        rw [husers]
        exact mem_of_usersEx hmem
      have hlisted : channel ∈ s.channelsOf userEx.UserData.ID := (h channel userEx.UserData.ID).1 hkey
      exact hnone _ ⟨userEx, hmem, by simpa using hhandler, rfl⟩ channel hlisted
    · intro hsome u hu
      obtain ⟨userEx, hmem, hnull, -⟩ := hu
      have := hsome userEx hmem
      simp [hnull] at this

/-- step lemma -/
theorem call_agree_iff (s : RedisManager η) (c : Call η) (h : Agree s) : Agree (call s c) ↔ Sound s c := by
  cases c with
  | subscribeAction channel user handler =>
    have hnext : Agree (subscribeAction s channel user handler) :=
      h.link (mem_usersOf_subscribe s channel user handler) (mem_channelsOf_subscribe s channel user handler)
    exact iff_of_true hnext trivial
  | leaveUser userId =>
    have hnext : Agree (leaveUser s userId) := by
      apply Mirror.drop h
      · intro c u
        exact mem_usersOf_leave s userId c u
      · intro u c
        rw [channelsOf_leave]
        split_ifs with hu <;> simp [hu]
    exact iff_of_true hnext trivial
  | removeUserFromMemory userId => exact remove_agree_iff h userId
  | sendToChannelLocal channel message => exact send_agree_iff h channel message

/-! ## Users that are gone -/

/-- the messages a user has received -/
def received (s : RedisManager η) (u : String) : List (Delivery η) := s.delivered.filter fun d => d.user = u

/-- user u is in no channel, is reported for none, and has received nothing since `s₀` -/
structure Gone (s₀ : RedisManager η) (u : String) (s : RedisManager η) : Prop where
  unlisted : ∀ channel, u ∉ s.usersOf channel
  unreported : ∀ channel, ∀ user ∈ getUsersByChannel s channel, user.ID ≠ u
  silent : received s u = received s₀ u

def removes (u : String) : Call η → Prop
  | .leaveUser userId => userId = u
  | .removeUserFromMemory userId => userId = u
  | _ => False

def subscribes (u : String) : Call η → Prop
  | .subscribeAction _ user _ => user.ID = u
  | _ => False

theorem received_foldl (channel message u : String) (users : List (ChatUserDataEx η)) (s : RedisManager η)
    (hnot : ∀ userEx ∈ users, userEx.UserData.ID ≠ u) :
    received (users.foldl (sendToUser channel message) s) u = received s u := by
  induction users generalizing s with
  | nil => rfl
  | cons userEx users ih =>
    rw [List.foldl_cons, ih _ fun e he => hnot e (List.mem_cons_of_mem _ he)]
    have hne := hnot userEx List.mem_cons_self
    cases hh : userEx.Handler with
    | some handler => simp [sendToUser, hh, received, hne]
    | none => simp [sendToUser, hh, received, removeUserFromMemory]

/-- a user that is in no channel is not reported -/
theorem Gone.of_unlisted {s₀ s : RedisManager η} {u : String} (hun : ∀ channel, u ∉ s.usersOf channel)
    (hrec : received s u = received s₀ u) : Gone s₀ u s := by
  refine ⟨hun, ?_, hrec⟩
  intro channel user huser heq
  unfold getUsersByChannel at huser
  cases hl : s.subChannelDict.lookup channel with
  | none => simp [hl] at huser
  | some users =>
    rw [hl] at huser
    obtain ⟨userEx, hmem, rfl⟩ := List.mem_map.1 huser
    apply hun channel
    have husers : s.usersOf channel = users := by simp [RedisManager.usersOf, usersIn, hl]
    rw [husers, ← heq]
    exact mem_of_usersEx hmem

/-- until it subscribes again, a user that is gone stays gone -/
theorem Gone.call {s₀ s : RedisManager η} {u : String} (h : Gone s₀ u s) {c : Call η} (hc : ¬ subscribes u c) :
    Gone s₀ u (call s c) := by
  cases c with
  | subscribeAction channel user handler =>
    refine Gone.of_unlisted ?_ h.silent
    intro c' hmem
    rcases (mem_usersOf_subscribe s channel user handler c' u).1 hmem with ⟨-, hu⟩ | hold
    · exact hc hu.symm
    · exact h.unlisted c' hold
  | leaveUser userId =>
    refine Gone.of_unlisted ?_ ?_
    · intro c' hmem
      exact h.unlisted c' ((mem_usersOf_leave s userId c' u).1 hmem).1
    · rw [← h.silent]
      simp only [GameServer.Chat.call, leaveUser]
      split <;> rfl
  | removeUserFromMemory userId => exact Gone.of_unlisted h.unlisted h.silent
  | sendToChannelLocal channel message =>
    simp only [GameServer.Chat.call, sendToChannelLocal]
    cases hl : s.subChannelDict.lookup channel with
    | none => exact h
    | some users =>
      refine Gone.of_unlisted ?_ ?_
      · intro c' hmem
        rw [RedisManager.usersOf, (foldl_sendToUser channel message (usersEx users) s).1] at hmem
        exact h.unlisted c' hmem
      · rw [received_foldl, h.silent]
        intro userEx hmem heq
        apply h.unlisted channel
        have husers : s.usersOf channel = users := by simp [RedisManager.usersOf, usersIn, hl]
        rw [husers, ← heq]
        exact mem_of_usersEx hmem

theorem channelsOf_removes {u : String} {c : Call η} (hc : removes u c) (s : RedisManager η) :
    (call s c).channelsOf u = [] := by
  cases c with
  | leaveUser userId =>
    obtain rfl : userId = u := hc
    exact (channelsOf_leave s userId userId).trans (if_pos rfl)
  | removeUserFromMemory userId =>
    obtain rfl : userId = u := hc
    exact (channelsOf_remove s userId userId).trans (if_pos rfl)
  | subscribeAction _ _ _ => exact hc.elim
  | sendToChannelLocal _ _ => exact hc.elim

/-- run lemma -/
theorem Gone.run {s₀ s : RedisManager η} {u : String} (h : Gone s₀ u s) {calls : List (Call η)}
    (hc : ∀ c ∈ calls, ¬ subscribes u c) : Gone s₀ u (run GameServer.Chat.call s calls) := by
  induction calls generalizing s with
  | nil => exact h
  | cons c calls ih =>
    exact ih (h.call (hc c List.mem_cons_self)) fun c' hc' => hc c' (List.mem_cons_of_mem c hc')

/-- in every state the indexes agree, and from a removal to the next subscription the user is gone -/
structure Consistent (calls : List (Call η)) : Prop where
  agree : ∀ n, Agree (run call (start η) (calls.take n))
  gone : ∀ u before c after rest, calls = before ++ c :: (after ++ rest) → removes u c →
    (∀ c' ∈ after, ¬ subscribes u c') →
    Gone (run call (start η) (before ++ [c])) u (run call (start η) (before ++ c :: after))

/-- **The indexes agree exactly in the runs that remove no subscribed user from memory.** -/
theorem consistent_iff (calls : List (Call η)) : Consistent calls ↔ LegalRun call Sound (start η) calls := by
  rw [← run_inv_iff (fun s c hs => call_agree_iff s c hs) agree_start calls]
  constructor
  · intro h
    exact h.agree
  · intro hagree
    refine ⟨hagree, ?_⟩
    intro u before c after rest hcalls hrem hafter
    have htake : calls.take (before.length + 1) = before ++ [c] := by
      rw [hcalls, List.take_append]
      simp
    have hnext := hagree (before.length + 1)
    rw [htake] at hnext
    have hgone : Gone (run call (start η) (before ++ [c])) u (run call (start η) (before ++ [c])) := by
      refine Gone.of_unlisted ?_ rfl
      intro channel hmem
      have hbag := (hnext channel u).1 hmem
      rw [run_append, run_cons, run_nil, channelsOf_removes hrem] at hbag
      cases hbag
    have hsplit : run call (start η) (before ++ c :: after) = run call (run call (start η) (before ++ [c])) after := by
      rw [← run_append, List.append_assoc, List.singleton_append]
    rw [hsplit]
    exact hgone.run hafter

/-- a user without a handler, cleaned up while a message is delivered -/
def nullHandler : List (Call Unit) :=
  [.subscribeAction "guild" ⟨"u", "U"⟩ none, .sendToChannelLocal "guild" "hello", .leaveUser "u"]

/-- **The clean-up keeps the user in the channel**, and leaving does not find the channel any more -/
theorem user_left_behind :
    "u" ∈ (run call (start Unit) nullHandler).usersOf "guild" ∧
      (run call (start Unit) nullHandler).channelsOf "u" = [] ∧
      getUsersByChannel (run call (start Unit) nullHandler) "guild" = [⟨"u", "U"⟩] ∧
      ¬ Consistent nullHandler := by
  refine ⟨by decide, by decide, by decide, ?_⟩
  intro h
  have hbag : "guild" ∈ (run call (start Unit) nullHandler).channelsOf "u" := (h.agree 3 "guild" "u").1 (by decide)
  revert hbag
  decide

end GameServer.Chat
