/-
The gateway's boxes and the bot's lists under the same acknowledgments. What calls a box is not under src/: here it is given
the mails and the deletions that the acknowledgments report.

A box shows the bot's list without repetitions (`Shows`): of several mails with one id it keeps the first.

- `boxes_follow_bot`: the assertion of `DeleteMail` never fails in a run exactly if every read acknowledgment names mails
  that are there, each once; and as long as it has not failed, every box shows the bot's list;
- `readRequest_deletes`: the mails that the bot asks to read can be deleted exactly if its list does not repeat an id
  among the first ones.
-/
import Mathlib.Tactic
import GameServer.Core.Run
import GameServer.Core.Effects
import GameServer.Core.FirstOf
import GameServer.Mail.Model

namespace GameServer.Mail

open GameServer.Core

variable {π : Type} {box box' : MailBox π} {list : List (MailData π)}

/-- the ids of a list of mails -/
def mailIds (list : List (MailData π)) : List ℕ := list.map MailData.mMailDBId

/-- the box holds the first mail of each id, and its set the ids -/
structure Shows (box : MailBox π) (list : List (MailData π)) : Prop where
  mails : box.mMailDataList = firstOf MailData.mMailDBId [] list
  ids : ∀ id, id ∈ box.mMailDBIdSet ↔ id ∈ mailIds list

/-! ## One box -/

theorem Shows.new (boxType : ℕ) : Shows (MailBox.new boxType : MailBox π) [] := ⟨rfl, by simp [MailBox.new, mailIds]⟩

theorem Shows.addMail (h : Shows box list) (mail : MailData π) : Shows (addMail mail box) (list ++ [mail]) := by
  have hmem := h.ids mail.mMailDBId
  unfold Mail.addMail
  by_cases hin : mail.mMailDBId ∈ box.mMailDBIdSet
  · rw [if_pos hin]
    refine ⟨?_, ?_⟩
    · have hold : mail.mMailDBId ∈ ([] : List ℕ) ∨ mail.mMailDBId ∈ list.map MailData.mMailDBId := Or.inr (hmem.1 hin)
      rw [firstOf_snoc, if_pos hold, List.append_nil]
      exact h.mails
    · intro id
      rw [h.ids, mailIds, mailIds, List.map_append, List.mem_append, List.map_singleton, List.mem_singleton]
      exact ⟨Or.inl, fun hor => hor.elim (fun hid => hid) fun heq => heq ▸ hmem.1 hin⟩
  · rw [if_neg hin]
    refine ⟨?_, ?_⟩
    · have hnew : ¬ (mail.mMailDBId ∈ ([] : List ℕ) ∨ mail.mMailDBId ∈ list.map MailData.mMailDBId) := by
        rintro (hor | hor)
        · cases hor
        · exact hin (hmem.2 hor)
      rw [firstOf_snoc, if_neg hnew]
      exact congrArg (· ++ [mail]) h.mails
    · intro id
      rw [Finset.mem_insert, h.ids, mailIds, mailIds, List.map_append, List.mem_append, List.map_singleton,
        List.mem_singleton]
      exact or_comm

theorem Shows.cacheMailList (h : Shows box list) (mails : List (MailData π)) :
    Shows (cacheMailList mails box) (list ++ mails) := by
  have hstart : Shows { box with mCached := true } list := ⟨h.mails, h.ids⟩
  unfold Mail.cacheMailList
  generalize { box with mCached := true } = cached at hstart
  clear h
  induction mails generalizing cached list with
  | nil => simpa using hstart
  | cons mail mails ih =>
    have hrest := ih _ (hstart.addMail mail)
    rw [List.append_assoc] at hrest
    exact hrest

/-- the list without the mails of an id -/
def eraseMail (list : List (MailData π)) (mailDBId : ℕ) : List (MailData π) :=
  list.filter fun it => it.mMailDBId ≠ mailDBId

theorem mem_mailIds_eraseMail {mailDBId id : ℕ} :
    id ∈ mailIds (eraseMail list mailDBId) ↔ id ≠ mailDBId ∧ id ∈ mailIds list := by
  unfold mailIds eraseMail
  constructor
  · intro hid
    obtain ⟨it, hit, rfl⟩ := List.mem_map.1 hid
    obtain ⟨hmem, hne⟩ := List.mem_filter.1 hit
    exact ⟨by simpa using hne, List.mem_map_of_mem hmem⟩
  · rintro ⟨hne, hid⟩
    obtain ⟨it, hit, rfl⟩ := List.mem_map.1 hid
    exact List.mem_map_of_mem (List.mem_filter.2 ⟨hit, by simpa using hne⟩)

/-- a deletion succeeds for the ids that are there -/
theorem Shows.deleteMail (h : Shows box list) (mailDBId : ℕ) :
    if mailDBId ∈ mailIds list then ∃ box', deleteMail mailDBId box = some box' ∧ Shows box' (eraseMail list mailDBId)
    else deleteMail mailDBId box = none := by
  unfold Mail.deleteMail
  split_ifs with hid hin hin
  · refine ⟨_, rfl, ?_, ?_⟩
    · dsimp only
      rw [h.mails]
      exact (firstOf_filter mailDBId).symm
    · intro id
      rw [mem_mailIds_eraseMail, Finset.mem_erase, h.ids]
  · exact absurd ((h.ids mailDBId).2 hid) hin
  · exact absurd ((h.ids mailDBId).1 hin) hid
  · rfl

/-- several deletions succeed for ids that are there, each named once -/
theorem Shows.deleteMails (h : Shows box list) (ids : List ℕ) :
    ((∃ box', deleteMails ids box = some box') ↔ ids.Nodup ∧ ∀ id ∈ ids, id ∈ mailIds list) ∧
      ∀ box', deleteMails ids box = some box' → Shows box' (ids.foldl eraseMail list) := by
  induction ids generalizing box list with
  | nil =>
    refine ⟨by simp [Mail.deleteMails], ?_⟩
    intro box' hbox'
    obtain rfl : box = box' := Option.some.inj hbox'
    exact h
  | cons mailDBId ids ih =>
    have hfirst := h.deleteMail mailDBId
    have hcons : Mail.deleteMails (mailDBId :: ids) box = (Mail.deleteMail mailDBId box).bind (Mail.deleteMails ids) := rfl
    rw [hcons]
    split_ifs at hfirst with hid
    · obtain ⟨box₁, hbox₁, hshows⟩ := hfirst
      rw [hbox₁, Option.bind_some]
      obtain ⟨hiff, hrest⟩ := ih hshows
      refine ⟨?_, hrest⟩
      rw [hiff, List.nodup_cons, List.forall_mem_cons]
      constructor
      · rintro ⟨hnd, hall⟩
        refine ⟨⟨fun hmem => ?_, hnd⟩, hid, fun id hmem => ?_⟩
        · exact (mem_mailIds_eraseMail.1 (hall mailDBId hmem)).1 rfl
        · exact (mem_mailIds_eraseMail.1 (hall id hmem)).2
      · rintro ⟨⟨hnot, hnd⟩, -, hall⟩
        refine ⟨hnd, fun id hmem => mem_mailIds_eraseMail.2 ⟨?_, hall id hmem⟩⟩
        exact fun heq => hnot (heq ▸ hmem)
    · rw [hfirst]
      refine ⟨⟨?_, ?_⟩, ?_⟩
      · rintro ⟨box', hbox'⟩
        cases hbox'
      · rintro ⟨-, hall⟩
        exact absurd (hall mailDBId List.mem_cons_self) hid
      · intro box' hbox'
        cases hbox'

/-! ## One acknowledgment -/

theorem ackMailList_eq (boxType : ℕ) (mails : List (MailData π)) (lists : MailBoxLists π) :
    ackMailList true boxType mails lists = Function.update lists boxType (lists boxType ++ mails) := by
  have hloop : ∀ list : List (MailData π), mails.foldl (fun list mail => list ++ [mail]) list = list ++ mails := by
    induction mails with
    | nil => simp
    | cons mail mails ih =>
      intro list
      rw [List.foldl_cons, ih, List.append_assoc]
      rfl
  rw [← hloop]
  exact foldl_update boxType (fun list mail => list ++ [mail]) lists mails

theorem ackMailRead_eq (boxType : ℕ) (mailDBIds : List ℕ) (lists : MailBoxLists π) :
    ackMailRead true boxType mailDBIds lists =
      Function.update lists boxType (mailDBIds.foldl eraseMail (lists boxType)) :=
  foldl_update boxType eraseMail lists mailDBIds

/-- every box shows the bot's list of its type -/
def InStep (boxes : ℕ → MailBox π) (lists : MailBoxLists π) : Prop := ∀ boxType, Shows (boxes boxType) (lists boxType)

theorem InStep.update {boxes : ℕ → MailBox π} {lists : MailBoxLists π} (h : InStep boxes lists) {boxType : ℕ}
    (hshows : Shows box list) : InStep (Function.update boxes boxType box) (Function.update lists boxType list) := by
  intro boxType'
  by_cases heq : boxType' = boxType
  · subst heq
    rw [Function.update_self, Function.update_self]
    exact hshows
  · rw [Function.update_of_ne heq, Function.update_of_ne heq]
    exact h boxType'

/-- a successful read names mails that are there, each once -/
def legalAck (lists : MailBoxLists π) : MailAck π → Prop
  | .read true boxType mailDBIds => mailDBIds.Nodup ∧ ∀ id ∈ mailDBIds, id ∈ mailIds (lists boxType)
  | _ => True

/-- step lemma -/
theorem InStep.step {boxes : ℕ → MailBox π} {lists : MailBoxLists π} (h : InStep boxes lists) (ack : MailAck π) :
    (legalAck lists ack ↔ ∃ boxes', boxesStep (some boxes) ack = some boxes') ∧
      ∀ boxes', boxesStep (some boxes) ack = some boxes' → InStep boxes' (botStep lists ack) := by
  cases ack with
  | list success boxType mails =>
    refine ⟨⟨fun _ => ⟨_, rfl⟩, fun _ => trivial⟩, ?_⟩
    intro boxes' hboxes'
    obtain rfl := Option.some.inj hboxes'
    cases success with
    | false => exact h
    | true =>
      rw [botStep, ackMailList_eq, if_pos rfl]
      exact h.update ((h boxType).cacheMailList mails)
  | send success mail =>
    refine ⟨⟨fun _ => ⟨_, rfl⟩, fun _ => trivial⟩, ?_⟩
    intro boxes' hboxes'
    obtain rfl := Option.some.inj hboxes'
    cases success with
    | false => exact h
    | true =>
      rw [botStep, ackMailSend, if_pos rfl, if_pos rfl]
      exact h.update ((h mail.mMailBoxType).addMail mail)
  | read success boxType mailDBIds =>
    cases success with
    | false =>
      refine ⟨⟨fun _ => ⟨_, rfl⟩, fun _ => trivial⟩, ?_⟩
      intro boxes' hboxes'
      obtain rfl := Option.some.inj hboxes'
      exact h
    | true =>
      obtain ⟨hiff, hshows⟩ := (h boxType).deleteMails mailDBIds
      have hstep : boxesStep (some boxes) (.read true boxType mailDBIds) =
          (deleteMails mailDBIds (boxes boxType)).map (Function.update boxes boxType) := rfl
      rw [hstep, botStep, ackMailRead_eq]
      refine ⟨?_, ?_⟩
      · rw [legalAck, ← hiff]
        constructor
        · rintro ⟨box', hbox'⟩
          rw [hbox']
          exact ⟨_, rfl⟩
        · rintro ⟨boxes', hboxes'⟩
          obtain ⟨box', hbox', -⟩ := Option.map_eq_some_iff.1 hboxes'
          exact ⟨box', hbox'⟩
      · intro boxes' hboxes'
        obtain ⟨box', hbox', rfl⟩ := Option.map_eq_some_iff.1 hboxes'
        exact h.update (hshows box' hbox')

/-! ## Every run -/

theorem run_boxes_none (acks : List (MailAck π)) : run boxesStep (none : Boxes π) acks = none := by
  induction acks with
  | nil => rfl
  | cons ack acks ih => exact ih

/-- run lemma -/
theorem InStep.run {boxes : ℕ → MailBox π} {lists : MailBoxLists π} (h : InStep boxes lists) (acks : List (MailAck π)) :
    (LegalRun botStep legalAck lists acks ↔ ∃ boxes', run boxesStep (some boxes) acks = some boxes') ∧
      ∀ boxes', run boxesStep (some boxes) acks = some boxes' → InStep boxes' (run botStep lists acks) := by
  induction acks generalizing boxes lists with
  | nil =>
    refine ⟨⟨fun _ => ⟨boxes, rfl⟩, fun _ => trivial⟩, ?_⟩
    intro boxes' hboxes'
    obtain rfl := Option.some.inj hboxes'
    exact h
  | cons ack acks ih =>
    obtain ⟨hlegal, hkeep⟩ := h.step ack
    rw [run_cons, run_cons, LegalRun, hlegal]
    cases hack : boxesStep (some boxes) ack with
    | none =>
      rw [run_boxes_none]
      simp
    | some boxes₁ =>
      obtain ⟨hiff, hrest⟩ := ih (hkeep boxes₁ hack)
      refine ⟨?_, hrest⟩
      rw [hiff]
      exact and_iff_right ⟨boxes₁, rfl⟩

def newBoxes : ℕ → MailBox π := MailBox.new

theorem newBoxes_inStep : InStep (newBoxes : ℕ → MailBox π) fun _ => [] := Shows.new

/-- **The gateway's boxes are the bot's lists without repetitions.** In every run of acknowledgments the assertion of
`DeleteMail` holds throughout exactly if every successful read names mails that the bot has, each once; and then every box
holds the first mail of each id that the bot has, and the set of the ids. -/
theorem boxes_follow_bot (acks : List (MailAck π)) :
    (LegalRun botStep legalAck (fun _ => []) acks ↔ ∃ boxes, run boxesStep (some newBoxes) acks = some boxes) ∧
      ∀ boxes, run boxesStep (some newBoxes) acks = some boxes → InStep boxes (run botStep (fun _ => []) acks) :=
  newBoxes_inStep.run acks

/-! ## The read request -/

theorem collectMailDBIds_eq (E : MailEnv) (count : ℕ) (list : List (MailData π)) :
    collectMailDBIds E count list = (mailIds list).take (max 1 (E.MAX_MAIL_READ_COUNT - count)) := by
  induction list generalizing count with
  | nil => simp [collectMailDBIds, mailIds]
  | cons it rest ih =>
    have hids : mailIds (it :: rest) = it.mMailDBId :: mailIds rest := rfl
    rw [collectMailDBIds, hids]
    split_ifs with hstop
    · have hone : max 1 (E.MAX_MAIL_READ_COUNT - count) = 1 := by omega
      rw [hone]
      rfl
    · have hmore : max 1 (E.MAX_MAIL_READ_COUNT - count) = max 1 (E.MAX_MAIL_READ_COUNT - (count + 1)) + 1 := by omega
      rw [ih, hmore, List.take_succ_cons]

/-- **What the bot asks to read is there to be deleted**, at most `MAX_MAIL_READ_COUNT` mails (and one, if that is 0), and
it can be deleted exactly if the first mails of the bot's list repeat no id. -/
theorem readRequest_deletes (E : MailEnv) (acks : List (MailAck π)) (boxes : ℕ → MailBox π)
    (hrun : run boxesStep (some newBoxes) acks = some boxes) :
    reqMailRead E (run botStep (fun _ => []) acks) =
        (mailIds (run botStep (fun _ => []) acks E.ACCOUNT)).take (max 1 E.MAX_MAIL_READ_COUNT) ∧
      (∀ id ∈ reqMailRead E (run botStep (fun _ => []) acks), id ∈ (boxes E.ACCOUNT).mMailDBIdSet) ∧
      ((∃ box', deleteMails (reqMailRead E (run botStep (fun _ => []) acks)) (boxes E.ACCOUNT) = some box') ↔
        (reqMailRead E (run botStep (fun _ => []) acks)).Nodup) := by
  have hshows := (newBoxes_inStep.run acks).2 boxes hrun E.ACCOUNT
  generalize run botStep (fun _ => []) acks = lists at hshows
  have hreq : reqMailRead E lists = (mailIds (lists E.ACCOUNT)).take (max 1 E.MAX_MAIL_READ_COUNT) :=
    collectMailDBIds_eq E 0 _
  have hmem : ∀ id ∈ reqMailRead E lists, id ∈ mailIds (lists E.ACCOUNT) := by
    intro id hid
    rw [hreq] at hid
    exact List.mem_of_mem_take hid
  refine ⟨hreq, fun id hid => (hshows.ids id).2 (hmem id hid), ?_⟩
  rw [(hshows.deleteMails _).1]
  exact and_iff_left hmem

/-- three mails, of which the second is read -/
def sampleAcks : List (MailAck Unit) :=
  [.list true 0 [⟨5, 0, ()⟩, ⟨7, 0, ()⟩], .send true ⟨9, 0, ()⟩, .list true 0 [⟨5, 0, ()⟩], .read true 0 [7]]

theorem readRequest_deletes_sample :
    ∃ boxes, run boxesStep (some newBoxes) sampleAcks = some boxes ∧
      reqMailRead ⟨0, 2⟩ (run botStep (fun _ => []) sampleAcks) = [5, 9] ∧
      (∃ box', deleteMails (reqMailRead ⟨0, 2⟩ (run botStep (fun _ => []) sampleAcks)) (boxes 0) = some box') ∧
      ¬ ∃ box', deleteMails (reqMailRead ⟨0, 3⟩ (run botStep (fun _ => []) sampleAcks)) (boxes 0) = some box' := by
  obtain ⟨boxes, hrun⟩ : ∃ boxes, run boxesStep (some newBoxes) sampleAcks = some boxes := ⟨_, rfl⟩
  have hreq : reqMailRead ⟨0, 2⟩ (run botStep (fun _ => []) sampleAcks) = [5, 9] := by decide
  refine ⟨boxes, hrun, hreq, (readRequest_deletes ⟨0, 2⟩ sampleAcks boxes hrun).2.2.2 ?_, fun hall => ?_⟩
  · rw [hreq]
    decide
  · exact absurd ((readRequest_deletes ⟨0, 3⟩ sampleAcks boxes hrun).2.2.1 hall) (by decide)

end GameServer.Mail
