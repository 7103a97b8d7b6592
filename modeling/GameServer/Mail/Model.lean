/-
Mails of one user on both sides of the wire: the gateway's boxes, `C++/MailBox.cpp`, and the lists that the stress bot
keeps, `C++/Senario/ScenarioMail.cpp`.

A `MailBox` caches mails in a list, with the set of their ids beside it: a mail whose id is in the set is not added again,
and deleting an id that is not there stops the server (`_ASSERT_CRASH`). The bot appends whatever an acknowledgment brings
and erases by id. Its read request names its first account mails.

Not under src/: `MailData` beyond its id and its box type, `MAX_MAIL_READ_COUNT`, the packets' texts, the task helper and
the items that a read mail brings.
-/
import Mathlib.Tactic
import GameServer.Core.FirstOf

namespace GameServer.Mail

/-- `MailData`; the rest of it is carried along -/
structure MailData (π : Type) where
  mMailDBId : ℕ
  mMailBoxType : ℕ
  rest : π
deriving DecidableEq, Repr

section

variable {π : Type}

/-! ## `MailBox` -/

structure MailBox (π : Type) where
  mMailBoxType : ℕ
  mMailDBIdSet : Finset ℕ
  mMailDataList : List (MailData π)
  mCached : Bool

/-- the constructor -/
def MailBox.new (boxType : ℕ) : MailBox π := ⟨boxType, ∅, [], false⟩

def addMail (mail : MailData π) (box : MailBox π) : MailBox π :=
  if mail.mMailDBId ∈ box.mMailDBIdSet then box
  else
    { box with
      mMailDBIdSet := insert mail.mMailDBId box.mMailDBIdSet
      mMailDataList := box.mMailDataList ++ [mail] }

/-- `none`: the assertion fails -/
def deleteMail (mailDBId : ℕ) (box : MailBox π) : Option (MailBox π) :=
  if mailDBId ∈ box.mMailDBIdSet then
    some { box with
      mMailDBIdSet := box.mMailDBIdSet.erase mailDBId
      mMailDataList := box.mMailDataList.filter fun it => it.mMailDBId ≠ mailDBId }
  else none

def cacheMailList (mailDataList : List (MailData π)) (box : MailBox π) : MailBox π :=
  mailDataList.foldl (fun box mailData => addMail mailData box) { box with mCached := true }

/-! ## `ScenarioMail` -/

/-- `MailBoxType::ACCOUNT` and `MAX_MAIL_READ_COUNT` -/
structure MailEnv where
  ACCOUNT : ℕ
  MAX_MAIL_READ_COUNT : ℕ

/-- `mMailBoxLists` of the session context -/
abbrev MailBoxLists (π : Type) := ℕ → List (MailData π)

/-- `PacketHandler_SC_ACK_MAIL_LIST`; `success` is `result == PACKET_RESULT_SUCCESS` -/
def ackMailList (success : Bool) (boxType : ℕ) (mailDataList : List (MailData π)) (lists : MailBoxLists π) :
    MailBoxLists π :=
  if success then
    mailDataList.foldl (fun lists mailData => Function.update lists boxType (lists boxType ++ [mailData])) lists
  else lists

/-- `PacketHandler_SC_ACK_MAIL_SEND` -/
def ackMailSend (success : Bool) (mail : MailData π) (lists : MailBoxLists π) : MailBoxLists π :=
  if success then Function.update lists mail.mMailBoxType (lists mail.mMailBoxType ++ [mail]) else lists

/-- `PacketHandler_SC_ACK_MAIL_READ`, as far as the mails go -/
def ackMailRead (success : Bool) (boxType : ℕ) (mailDBIds : List ℕ) (lists : MailBoxLists π) : MailBoxLists π :=
  if success then
    mailDBIds.foldl
      (fun lists mailDBId => Function.update lists boxType ((lists boxType).filter fun it => it.mMailDBId ≠ mailDBId)) lists
  else lists

/-- the loop of `TaskHandler_CS_REQ_MAIL_READ`, with the count of the mails named so far -/
def collectMailDBIds (E : MailEnv) (count : ℕ) : List (MailData π) → List ℕ
  | [] => []
  | it :: rest => it.mMailDBId :: if E.MAX_MAIL_READ_COUNT ≤ count + 1 then [] else collectMailDBIds E (count + 1) rest

/-- the ids that the bot asks to read -/
def reqMailRead (E : MailEnv) (lists : MailBoxLists π) : List ℕ := collectMailDBIds E 0 (lists E.ACCOUNT)

/-! ## The same events on both sides -/

/-- an acknowledgment of the server -/
inductive MailAck (π : Type) where
  | list (success : Bool) (boxType : ℕ) (mailDataList : List (MailData π))
  | send (success : Bool) (mail : MailData π)
  | read (success : Bool) (boxType : ℕ) (mailDBIds : List ℕ)

def botStep (lists : MailBoxLists π) : MailAck π → MailBoxLists π
  | .list success boxType mailDataList => ackMailList success boxType mailDataList lists
  | .send success mail => ackMailSend success mail lists
  | .read success boxType mailDBIds => ackMailRead success boxType mailDBIds lists

/-- the boxes of the gateway, by type; `none` once an assertion has failed -/
abbrev Boxes (π : Type) := Option (ℕ → MailBox π)

/-- the mails of a read acknowledgment leave the box one by one -/
def deleteMails (mailDBIds : List ℕ) (box : MailBox π) : Option (MailBox π) :=
  mailDBIds.foldlM (fun box mailDBId => deleteMail mailDBId box) box

/-- what the acknowledgment reports, on the boxes -/
def boxesStep (boxes : Boxes π) (ack : MailAck π) : Boxes π :=
  boxes.bind fun boxes =>
    match ack with
    | .list success boxType mailDataList =>
      some (if success then Function.update boxes boxType (cacheMailList mailDataList (boxes boxType)) else boxes)
    | .send success mail =>
      some (if success then Function.update boxes mail.mMailBoxType (addMail mail (boxes mail.mMailBoxType)) else boxes)
    | .read success boxType mailDBIds =>
      if success then (deleteMails mailDBIds (boxes boxType)).map (Function.update boxes boxType) else some boxes

end

end GameServer.Mail
