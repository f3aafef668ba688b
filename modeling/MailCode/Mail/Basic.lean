import MailCode.Cache.Basic
import MailCode.Failure
import MailCode.Outcome
/-!
# Mails and who takes them
-/

namespace MailCode

/-!
## Sending a code by mail

The mail that carries a code has a fixed subject and a body in two languages (`ofCode_eq`), and it
tells its address and its code (`ofCode_inj`). A `MailProvider` takes mails.
-/

/-- A mail as it is handed to a provider. -/
structure Mail where
  address : String
  subject : String
  body : String
  deriving DecidableEq, Repr

namespace Mail

/-- The subject of every mail with a code. -/
def codeSubject : String := "Verification code / 校验码"

/-- The body of the mail with a code. -/
def codeBody (code : String) : String :=
  let minutes := Text.Decimal.text codeLifetimeMinutes
  "Your verification code is " ++ code ++ ". Please complete your registration within " ++
    minutes ++ " minutes.\n校验码为 " ++ code ++ "，请在 " ++ minutes ++ " 分钟内完成注册。"

/-- The mail with a code. -/
def ofCode (address code : String) : Mail :=
  ⟨address, codeSubject, codeBody code⟩

/-- A text that holds another one twice, with its fixed parts put together. -/
theorem append_twice {a b c d e m x middle last : String} (hmiddle : b ++ m ++ c = middle)
    (hlast : d ++ m ++ e = last) :
    a ++ x ++ b ++ m ++ c ++ x ++ d ++ m ++ e = a ++ x ++ middle ++ x ++ last := by
  subst hmiddle hlast
  simp only [String.append_assoc]

theorem eq_of_append_twice {a b c x y : String}
    (h : a ++ x ++ b ++ x ++ c = a ++ y ++ b ++ y ++ c) : x = y := by
  simp only [← String.toList_inj, String.toList_append, List.append_assoc,
    List.append_cancel_left_eq] at h
  have hlength := congrArg List.length h
  simp only [List.length_append] at hlength
  exact String.toList_inj.1 (List.append_inj_left h (by omega))

theorem codeBody_eq (code : String) :
    codeBody code =
      "Your verification code is " ++ code ++
        ". Please complete your registration within 10 minutes.\n校验码为 " ++ code ++
        "，请在 10 分钟内完成注册。" :=
  append_twice (by decide +kernel) (by decide +kernel)

/-- The body tells its code. -/
theorem codeBody_inj {code code' : String} : codeBody code = codeBody code' ↔ code = code' := by
  refine ⟨fun h => ?_, congrArg codeBody⟩
  rw [codeBody_eq, codeBody_eq] at h
  exact eq_of_append_twice h

theorem ofCode_eq (address code : String) :
    ofCode address code =
      { address
        subject := "Verification code / 校验码"
        body :=
          "Your verification code is " ++ code ++
            ". Please complete your registration within 10 minutes.\n校验码为 " ++ code ++
            "，请在 10 分钟内完成注册。" } :=
  congrArg (Mail.mk address codeSubject) (codeBody_eq code)

theorem ofCode_inj {address address' code code' : String} :
    ofCode address code = ofCode address' code' ↔ address = address' ∧ code = code' := by
  simp only [ofCode, mk.injEq, codeBody_inj, true_and]

end Mail

/-- Whoever takes mails, with the state `μ`. A mail that was taken has a message id. -/
structure MailProvider (μ : Type) where
  name : String
  send (mail : Mail) (state : μ) : Reply μ BackendError String

/-- The target of the events about mails that were taken or refused. -/
def mailTarget : String := "mail_service"

/-!
## The mailbox that keeps every mail

Where no relay is configured mails are kept and counted, and it is logged that they would have
been sent. For rehearsals it can be told to refuse every mail.
-/

/-- The mails taken so far, oldest first. -/
structure Mailbox where
  /-- The number of mails taken since the last reset. -/
  count : Nat
  failing : Bool
  outbox : List Mail
  /-- The number of message ids given out so far. -/
  named : Nat
  /-- The identifiers that message ids are made of. -/
  ids : Nat → String

namespace Mailbox

/-- An empty mailbox that takes its identifiers from `ids`. -/
def empty (ids : Nat → String) : Mailbox :=
  ⟨0, false, [], 0, ids⟩

/-- Makes the mailbox refuse mails, or take them again. -/
def setFailing (b : Mailbox) (failing : Bool) : Mailbox :=
  { b with failing }

/-- Forgets all mails and starts counting anew. -/
def reset (b : Mailbox) : Mailbox :=
  { b with count := 0, outbox := [] }

/-- A mail is refused. -/
def refusing (mail : Mail) : Event where
  level := .warn
  target := "vs_infra::mail::mock_mail"
  message := "Mock mail service simulating failure"
  fields := [("provider", .text "mock"), ("email", .text (Address.mask mail.address))]

/-- A mail was taken. -/
def taken (mail : Mail) (id : String) (number : Nat) : Event where
  level := .info
  target := mailTarget
  message := "Mail sent successfully (mock)"
  fields := [("provider", .text "mock"), ("email", .text (Address.mask mail.address)),
    ("message_id", .text id), ("message_number", .number number),
    ("body_length", .number mail.body.utf8ByteSize)]

/-- Takes a mail, or refuses it. -/
def send (mail : Mail) (b : Mailbox) : Reply Mailbox BackendError String :=
  if b.failing then ⟨.error (.mail "Simulated mail sending failure"), b, [refusing mail]⟩
  else
    let id := "mock_" ++ b.ids b.named
    ⟨.ok id,
      { b with count := b.count + 1, outbox := b.outbox ++ [mail], named := b.named + 1 },
      [taken mail id (b.count + 1)]⟩

/-- The mailbox as a provider. -/
def provider : MailProvider Mailbox :=
  ⟨"Mock", send⟩

end Mailbox

end MailCode
