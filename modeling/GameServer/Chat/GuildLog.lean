/-
The log of the guild chat, as `PublishAsync` writes it and `GetGuildLogData` reads it.

A guild message is stored in a hash of its channel under the second in which it was published, nine hours on, and the hash is
given another seven days. So two messages of one second leave the later one, and a hash that nothing has been written to for
more than a week is gone with all its messages. The reader scans the fields of a day; one text that cannot be parsed fails
the whole read.

- `guild_log`: what is read for a day, after every run of messages on any channels.

Not under src/: Redis (`Redis`), with what its commands promise as hypotheses (`Redis.Documented`). A scan names every field
of the day, in any order and possibly more than once. A point of time is a number of milliseconds and the same on all
machines; `yyyyMMddHHmmss` is a number of seconds, and its first eight digits the day. `JsonSerializer.Deserialize` may throw
or return null. The publication itself is in `Delivery`.
-/
import Mathlib.Data.List.AList
import Mathlib.Tactic
import GameServer.Core.Run
import GameServer.Core.Dictionary

namespace GameServer.Chat

open GameServer.Core

/-! ## Redis -/

/-- the commands on the chat database; each is sent at a time -/
structure Redis (ρ : Type*) where
  empty : ρ
  hashSet : ρ → ℕ → String → ℕ → String → ρ
  keyExpire : ρ → ℕ → String → ℕ → ρ
  /-- the fields that match a day -/
  hashScan : ρ → ℕ → String → ℕ → List (ℕ × String)
  /-- the value of a field at a time -/
  field : ρ → ℕ → String → ℕ → Option String

/-- the seconds of a day -/
def day (time : ℕ) : ℕ := time / 86400

/-- **What Redis promises.** A field that is set has its value, a key with an expiry is gone after it, other keys are left
alone, and a scan names exactly the fields that match. -/
structure Redis.Documented {ρ : Type*} (R : Redis ρ) : Prop where
  empty_field : ∀ t key f, R.field R.empty t key f = none
  hashSet_field : ∀ db now key f v f', R.field (R.hashSet db now key f v) now key f' =
    if f' = f then some v else R.field db now key f'
  hashSet_other : ∀ db now key f v t key' f', key' ≠ key →
    R.field (R.hashSet db now key f v) t key' f' = R.field db t key' f'
  keyExpire_field : ∀ db now key span t f, now ≤ t → R.field (R.keyExpire db now key span) t key f =
    if t ≤ now + span then R.field db now key f else none
  keyExpire_other : ∀ db now key span t key' f, key' ≠ key →
    R.field (R.keyExpire db now key span) t key' f = R.field db t key' f
  hashScan_mem : ∀ db now key d f v, (f, v) ∈ R.hashScan db now key d ↔ day f = d ∧ R.field db now key f = some v

/-! ## Model -/

inductive ChatType where
  | CT_GUILD
  | other (type : ℕ)
deriving DecidableEq, Repr

/-- `req_ChatMessage`, with the payload that is made of it -/
structure ChatMessage where
  ChatType : ChatType
  payload : String
deriving DecidableEq, Repr

/-- `TimeSpan.FromDays(7)` -/
def week : ℕ := 7 * 86400 * 1000

/-- `DateTime.Now.AddHours(9)` by the second -/
def timeKey (now : ℕ) : ℕ := now / 1000 + 9 * 3600

/-- `Constance.LOG` in front of the channel -/
def logKey (LOG channel : String) : String := LOG ++ channel

section

variable {ρ δ ε : Type*} (R : Redis ρ) (LOG : String) (Deserialize : String → Except ε (Option δ))
  (ToUniversalTime : ℕ → ℕ)

/-- `HashSetAsync` and `KeyExpireAsync` of `PublishAsync` -/
def logMessage (db : ρ) (channel : String) (message : ChatMessage) (now : ℕ) : ρ :=
  match message.ChatType with
  | .CT_GUILD =>
    R.keyExpire (R.hashSet db now (logKey LOG channel) (timeKey now) message.payload) now (logKey LOG channel) week
  | .other _ => db

/-- the loop over the entries; an entry that is null is left out -/
def readLogs : List (ℕ × String) → Except ε (List (ℕ × δ))
  | [] => .ok []
  | (name, value) :: entries =>
    match Deserialize value with
    | .error e => .error e
    | .ok log =>
      match readLogs entries with
      | .error e => .error e
      | .ok logs => .ok ((log.map fun data => (ToUniversalTime name, data)).toList ++ logs)

/-- a log with its `Time`; the exception of an entry is nowhere caught -/
def getGuildLogData (db : ρ) (channel : String) (loginTime now : ℕ) : Except ε (List (ℕ × δ)) :=
  readLogs Deserialize ToUniversalTime (R.hashScan db now (logKey LOG channel) (day (loginTime / 1000)))

end

/-- a published message -/
structure Publish where
  channel : String
  message : ChatMessage
  now : ℕ
deriving DecidableEq, Repr

def publishStep {ρ : Type*} (R : Redis ρ) (LOG : String) (db : ρ) (p : Publish) : ρ :=
  logMessage R LOG db p.channel p.message p.now

/-- the clock does not go back -/
def InTime (ops : List Publish) (now : ℕ) : Prop := ops.Pairwise (fun p q => p.now ≤ q.now) ∧ ∀ p ∈ ops, p.now ≤ now

/-! ## What is kept -/

/-- the guild messages of a channel with their times, the last one first -/
def guildMessages (channel : String) : List Publish → List (ℕ × String)
  | [] => []
  | p :: ops => guildMessages channel ops ++
      if p.channel = channel ∧ p.message.ChatType = .CT_GUILD then [(p.now, p.message.payload)] else []

/-- the messages that are still there at a time: the last one first, up to the first gap of more than a week -/
def kept (now : ℕ) : List (ℕ × String) → List (ℕ × String)
  | [] => []
  | (time, payload) :: older => if time + week < now then [] else (time, payload) :: kept time older

/-- the last message under a key -/
def lastAt (key : ℕ) (messages : List (ℕ × String)) : Option String :=
  (messages.find? fun m => timeKey m.1 = key).map Prod.snd

/-- from the last message on, the hash of a channel holds the last messages of the seconds, as far as they are kept -/
def Logs {ρ : Type*} (R : Redis ρ) (LOG : String) (db : ρ) (channel : String) (messages : List (ℕ × String)) : Prop :=
  ∀ t, (∀ m ∈ messages, m.1 ≤ t) → ∀ key, R.field db t (logKey LOG channel) key = lastAt key (kept t messages)

section

variable {ρ : Type*} {R : Redis ρ} (hR : R.Documented) {LOG : String} {db : ρ} {channel : String}
  {messages : List (ℕ × String)}
include hR

/-- a guild message on the channel -/
theorem Logs.write (h : Logs R LOG db channel messages) {now : ℕ} (hnow : ∀ m ∈ messages, m.1 ≤ now) (payload : String) :
    Logs R LOG (logMessage R LOG db channel ⟨.CT_GUILD, payload⟩ now) channel ((now, payload) :: messages) := by
  intro t ht key
  have hlater : now ≤ t := ht _ List.mem_cons_self
  have hold := h now hnow key
  simp only [logMessage]
  rw [hR.keyExpire_field _ _ _ _ _ _ hlater, hR.hashSet_field, hold, kept]
  by_cases hgone : now + week < t
  · rw [if_neg (not_le.2 hgone), if_pos hgone]
    rfl
  · rw [if_pos (not_lt.1 hgone), if_neg hgone]
    unfold lastAt
    rw [List.find?_cons]
    by_cases hkey : timeKey now = key
    · simp [hkey]
    · rw [if_neg (Ne.symm hkey)]
      simp [hkey]

/-- a guild message on another channel -/
theorem Logs.other (h : Logs R LOG db channel messages) {channel' : String} (hne : channel ≠ channel') (now : ℕ)
    (payload : String) : Logs R LOG (logMessage R LOG db channel' ⟨.CT_GUILD, payload⟩ now) channel messages := by
  have hkey : logKey LOG channel ≠ logKey LOG channel' := fun heq => hne (String.append_right_inj LOG |>.1 heq)
  intro t ht key
  simp only [logMessage]
  rw [hR.keyExpire_other _ _ _ _ _ _ _ hkey, hR.hashSet_other _ _ _ _ _ _ _ _ hkey, h t ht key]

/-- step lemma -/
theorem Logs.step (h : Logs R LOG db channel messages) (p : Publish) (hnow : ∀ m ∈ messages, m.1 ≤ p.now) :
    Logs R LOG (publishStep R LOG db p) channel
      ((if p.channel = channel ∧ p.message.ChatType = .CT_GUILD then [(p.now, p.message.payload)] else []) ++ messages) := by
  obtain ⟨channel', ⟨type, payload⟩, now⟩ := p
  unfold publishStep
  cases type with
  | other type => simpa [logMessage] using h
  | CT_GUILD =>
    by_cases hc : channel' = channel
    · subst hc
      simpa using h.write hR hnow payload
    · simpa [hc] using h.other hR (Ne.symm hc) now payload

/-- run lemma -/
theorem Logs.run (h : Logs R LOG db channel messages) {ops : List Publish}
    (hops : ops.Pairwise fun p q => p.now ≤ q.now) (hnow : ∀ m ∈ messages, ∀ p ∈ ops, m.1 ≤ p.now) :
    Logs R LOG (run (publishStep R LOG) db ops) channel (guildMessages channel ops ++ messages) := by
  induction ops generalizing db messages with
  | nil => exact h
  | cons p ops ih =>
    obtain ⟨hfirst, hrest⟩ := List.pairwise_cons.1 hops
    have hnext := h.step hR p fun m hm => hnow m hm p List.mem_cons_self
    have hlater := ih hnext hrest fun m hm q hq => ?_
    · rw [← List.append_assoc] at hlater
      exact hlater
    · rcases List.mem_append.1 hm with hm | hm
      · split_ifs at hm with hguild
        · rw [List.mem_singleton.1 hm]
          exact hfirst q hq
        · cases hm
      · exact hnow m hm q (List.mem_cons_of_mem p hq)

end

/-- a guild message is one of the published ones -/
theorem guildMessages_time {channel : String} {ops : List Publish} {m : ℕ × String} (hm : m ∈ guildMessages channel ops) :
    ∃ p ∈ ops, m.1 = p.now := by
  induction ops with
  | nil => cases hm
  | cons p ops ih =>
    rcases List.mem_append.1 hm with hm | hm
    · obtain ⟨q, hq, htime⟩ := ih hm
      exact ⟨q, List.mem_cons_of_mem p hq, htime⟩
    · split_ifs at hm with hguild
      · rw [List.mem_singleton.1 hm]
        exact ⟨p, List.mem_cons_self, rfl⟩
      · cases hm

/-! ## What is read -/

section

variable {δ ε : Type*} {Deserialize : String → Except ε (Option δ)} {ToUniversalTime : ℕ → ℕ}

/-- a read that fails does so at an entry -/
theorem readLogs_error {entries : List (ℕ × String)} {e : ε} (h : readLogs Deserialize ToUniversalTime entries = .error e) :
    ∃ entry ∈ entries, Deserialize entry.2 = .error e := by
  induction entries with
  | nil => cases h
  | cons entry entries ih =>
    obtain ⟨name, value⟩ := entry
    rw [readLogs] at h
    cases hvalue : Deserialize value with
    | error e' =>
      simp only [hvalue] at h
      exact ⟨(name, value), List.mem_cons_self, by rw [← Except.error.inj h]; exact hvalue⟩
    | ok log =>
      simp only [hvalue] at h
      cases hrest : readLogs Deserialize ToUniversalTime entries with
      | error e' =>
        simp only [hrest] at h
        obtain ⟨entry, hmem, hentry⟩ := ih (by rw [hrest, Except.error.inj h])
        exact ⟨entry, List.mem_cons_of_mem _ hmem, hentry⟩
      | ok logs => simp [hrest] at h

/-- a read that succeeds has parsed every entry, and returns those that are not null -/
theorem readLogs_ok {entries : List (ℕ × String)} {logs : List (ℕ × δ)}
    (h : readLogs Deserialize ToUniversalTime entries = .ok logs) :
    (∀ entry ∈ entries, ∃ log, Deserialize entry.2 = .ok log) ∧
      ∀ read, read ∈ logs ↔
        ∃ entry ∈ entries, ∃ data, Deserialize entry.2 = .ok (some data) ∧ read = (ToUniversalTime entry.1, data) := by
  induction entries generalizing logs with
  | nil =>
    obtain rfl := Except.ok.inj h
    simp
  | cons entry entries ih =>
    obtain ⟨name, value⟩ := entry
    rw [readLogs] at h
    cases hvalue : Deserialize value with
    | error e' => simp [hvalue] at h
    | ok log =>
      simp only [hvalue] at h
      cases hrest : readLogs Deserialize ToUniversalTime entries with
      | error e' => simp [hrest] at h
      | ok rest =>
        simp only [hrest, Except.ok.injEq] at h
        obtain ⟨hparsed, hreads⟩ := ih hrest
        refine ⟨?_, fun read => ?_⟩
        · intro entry hentry
          rcases List.mem_cons.1 hentry with rfl | hentry
          · exact ⟨log, hvalue⟩
          · exact hparsed entry hentry
        · rw [← h, List.mem_append, hreads, List.exists_mem_cons_iff]
          refine or_congr ?_ Iff.rfl
          cases log <;> simp [hvalue]

end

/-- **The guild log.** After every run of messages in time, what is read for a day are the last guild messages of the channel
in each second of that day (nine hours on), if there was no gap of more than a week between two guild messages of the channel,
or up to now, since: the read fails with the exception of one of them, or all of them are parsed, and those that are not null
are returned with their times, and nothing else is. -/
theorem guild_log {ρ δ ε : Type*} {R : Redis ρ} (hR : R.Documented) (LOG : String)
    (Deserialize : String → Except ε (Option δ)) (ToUniversalTime : ℕ → ℕ) {ops : List Publish} {now : ℕ}
    (htime : InTime ops now) (channel : String) (loginTime : ℕ) :
    let stored (key : ℕ) (payload : String) : Prop :=
      day key = day (loginTime / 1000) ∧ lastAt key (kept now (guildMessages channel ops)) = some payload
    match getGuildLogData R LOG Deserialize ToUniversalTime (run (publishStep R LOG) R.empty ops) channel loginTime now with
    | .error e => ∃ key payload, stored key payload ∧ Deserialize payload = .error e
    | .ok logs => (∀ key payload, stored key payload → ∃ log, Deserialize payload = .ok log) ∧
        ∀ read, read ∈ logs ↔ ∃ key payload, stored key payload ∧ ∃ data, Deserialize payload = .ok (some data) ∧
          read = (ToUniversalTime key, data) := by
  intro stored
  have hstart : Logs R LOG R.empty channel [] := fun t _ key => hR.empty_field t _ key
  have hlogs := hstart.run hR htime.1 (by simp)
  rw [List.append_nil] at hlogs
  have hnow : ∀ m ∈ guildMessages channel ops, m.1 ≤ now := fun m hm => by
    obtain ⟨p, hp, hpublished⟩ := guildMessages_time hm
    exact hpublished ▸ htime.2 p hp
  -- what the scan names is what is stored
  have hscan (key : ℕ) (payload : String) : (key, payload) ∈ R.hashScan (run (publishStep R LOG) R.empty ops) now
      (logKey LOG channel) (day (loginTime / 1000)) ↔ stored key payload := by
    rw [hR.hashScan_mem, hlogs now hnow key]
  unfold getGuildLogData
  cases hread : readLogs Deserialize ToUniversalTime (R.hashScan (run (publishStep R LOG) R.empty ops) now
      (logKey LOG channel) (day (loginTime / 1000))) with
  | error e =>
    obtain ⟨⟨key, payload⟩, hentry, herror⟩ := readLogs_error hread
    exact ⟨key, payload, (hscan key payload).1 hentry, herror⟩
  | ok logs =>
    obtain ⟨hparsed, hreads⟩ := readLogs_ok hread
    refine ⟨fun key payload hstored => hparsed (key, payload) ((hscan key payload).2 hstored), fun read => ?_⟩
    rw [hreads read]
    refine ⟨?_, ?_⟩
    · rintro ⟨⟨key, payload⟩, hentry, hdata⟩
      exact ⟨key, payload, (hscan key payload).1 hentry, hdata⟩
    · rintro ⟨key, payload, hstored, hdata⟩
      exact ⟨(key, payload), (hscan key payload).2 hstored, hdata⟩

/-- a hash with its expiry -/
structure Hash where
  fields : AList fun _ : ℕ => String
  expiry : Option ℕ

def Hash.live (h : Hash) (t : ℕ) : AList fun _ : ℕ => String :=
  match h.expiry with
  | none => h.fields
  | some e => if t ≤ e then h.fields else ∅

theorem Hash.live_set (fields : AList fun _ : ℕ => String) (expiry : Option ℕ) (now : ℕ) :
    Hash.live ⟨fields, expiry.filter fun e => now ≤ e⟩ now = fields := by
  cases expiry with
  | none => rfl
  | some e => by_cases he : now ≤ e <;> simp [Hash.live, Option.filter, he]

/-- a Redis whose scan names every field twice -/
def sampleRedis : Redis (String → Hash) where
  empty _ := ⟨∅, none⟩
  hashSet db now key f v :=
    Function.update db key ⟨((db key).live now).insert f v, (db key).expiry.filter fun e => now ≤ e⟩
  keyExpire db now key span := Function.update db key ⟨(db key).live now, some (now + span)⟩
  hashScan db now key d :=
    let found := (((db key).live now).entries.filter fun e => day e.1 = d).map fun e => (e.1, e.2)
    found ++ found.reverse
  field db t key f := ((db key).live t).lookup f

theorem sampleRedis_documented : sampleRedis.Documented where
  empty_field _ _ _ := rfl
  hashSet_field db now key f v f' := by
    simp only [sampleRedis, Function.update_self, Hash.live_set, Dictionary.lookup_insert]
  hashSet_other db now key f v t key' f' hne := by simp [sampleRedis, hne]
  keyExpire_field db now key span t f _ := by
    simp only [sampleRedis, Function.update_self]
    by_cases hlive : t ≤ now + span <;> simp [Hash.live, hlive]
  keyExpire_other db now key span t key' f hne := by simp [sampleRedis, hne]
  hashScan_mem db now key d f v := by
    have hentry : ((db key).live now).lookup f = some v ↔ (⟨f, v⟩ : (_ : ℕ) × String) ∈ ((db key).live now).entries :=
      AList.mem_lookup_iff
    simp only [sampleRedis, hentry, List.mem_append, List.mem_reverse, or_self, List.mem_map, List.mem_filter,
      decide_eq_true_eq]
    refine ⟨?_, fun ⟨hday, hmem⟩ => ⟨⟨f, v⟩, ⟨hmem, hday⟩, rfl⟩⟩
    rintro ⟨⟨f', v'⟩, ⟨hmem, hday⟩, heq⟩
    obtain ⟨rfl, rfl⟩ := Prod.mk.inj heq
    exact ⟨hday, hmem⟩

/-- two messages in one second, one that is null, one that is not of the guild, and one on another channel -/
def samplePublishes : List Publish :=
  [⟨"c", ⟨.CT_GUILD, "hello"⟩, 1000⟩, ⟨"c", ⟨.CT_GUILD, "bye"⟩, 1500⟩, ⟨"c", ⟨.CT_GUILD, "null"⟩, 2000⟩,
    ⟨"c", ⟨.other 1, "aside"⟩, 3000⟩, ⟨"d", ⟨.CT_GUILD, "else"⟩, 4000⟩]

def sampleDeserialize (text : String) : Except String (Option String) :=
  if text = "" then .error "no JSON" else if text = "null" then .ok none else .ok (some text)

theorem guild_log_sample :
    getGuildLogData sampleRedis "LOG" sampleDeserialize (· - 32400)
      (run (publishStep sampleRedis "LOG") sampleRedis.empty samplePublishes) "c" 0 5000 = .ok [(1, "bye"), (1, "bye")] ∧
      ∀ read, read ∈ [(1, "bye"), (1, "bye")] ↔ ∃ key payload, (day key = day 0 ∧
        lastAt key (kept 5000 (guildMessages "c" samplePublishes)) = some payload) ∧
          ∃ data, sampleDeserialize payload = .ok (some data) ∧ read = (key - 32400, data) := by
  have hread : getGuildLogData sampleRedis "LOG" sampleDeserialize (· - 32400)
      (run (publishStep sampleRedis "LOG") sampleRedis.empty samplePublishes) "c" 0 5000 =
        .ok [(1, "bye"), (1, "bye")] := by rfl
  have hlog := guild_log sampleRedis_documented "LOG" sampleDeserialize (· - 32400)
    (show InTime samplePublishes 5000 by unfold InTime; decide) "c" 0
  rw [hread] at hlog
  exact ⟨hread, hlog.2⟩

end GameServer.Chat
