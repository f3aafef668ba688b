import MailCode.Mail.Basic
import MailCode.Mail.Client
import MailCode.Settings.Mail
/-!
# Mails through a relay

A relay service is made once from the settings: it needs a host, a sender address that can be read
and whatever protection asks for. From then on whatever goes wrong with a mail is an error of the
mail. The settings name who delivers; a relay that is not fully named, or cannot be set up, is
replaced by the mailbox that keeps every mail, and the log says so.
-/

namespace MailCode

/-- The protection that is asked of a client. -/
def SmtpSecurity.protection : SmtpSecurity → Smtp.Protection
  | .tls => .wrapped
  | .startTls => .upgraded
  | .plain => .absent

/-- A mail service that uses a relay. -/
structure RelayService (client : Smtp.Client) where
  transport : Smtp.Transport
  sender : client.Address
  security : SmtpSecurity

namespace RelayService

/-! ## Making a service -/

/-- Who logs the events of the service itself. -/
def target : String := "vs_infra::mail::smtp"

/-- Credentials will travel in the clear. -/
def exposing (host : String) : Event where
  level := .warn
  target := target
  message := "SMTP credentials will be sent without encryption"
  fields := [("provider", .text "smtp"), ("host", .text host)]

/-- The service is ready. -/
def configured (s : MailSettings) : Event where
  level := .info
  target := target
  message := "SMTP mail service configured"
  fields := [("provider", .text "smtp"), ("host", .text s.smtpHost),
    ("port", .number s.smtpPort.toNat), ("security", .text s.smtpSecurity.caseName)]

/-- The user name and password, if both are set. -/
def credentialsOf (s : MailSettings) : Option (String × String) :=
  match s.smtpUsername, s.smtpPassword with
  | some username, some password => some (username, password)
  | _, _ => none

/-- How the relay of the settings is reached. -/
def transportOf (s : MailSettings) : Smtp.Transport :=
  ⟨s.smtpHost, s.smtpSecurity.protection, s.smtpPort, s.timeout, credentialsOf s⟩

/-- Makes the client ready; a connection without protection needs nothing. -/
def prepare (client : Smtp.Client) (s : MailSettings) : Except String Unit :=
  match s.smtpSecurity with
  | .plain => .ok ()
  | .tls | .startTls => client.prepare s.smtpSecurity.protection s.smtpHost

/-- The service that the settings describe, and what is logged of making it. -/
def ofSettings (client : Smtp.Client) (s : MailSettings) :
    Except BackendError (RelayService client) × List Event :=
  if (Text.trim s.smtpHost.toList).isEmpty then
    (.error (.config "SMTP host is not set"), [])
  else
    match client.parse s.fromAddress with
    | .error e =>
      (.error (.config ("Invalid sender address '" ++ s.fromAddress ++ "': " ++ e)), [])
    | .ok sender =>
      match prepare client s with
      | .error e =>
        (.error (.config ("Invalid TLS setup for '" ++ s.smtpHost ++ "': " ++ e)), [])
      | .ok () =>
        let exposed := s.smtpSecurity = .plain ∧ (credentialsOf s).isSome
        (.ok ⟨transportOf s, sender, s.smtpSecurity⟩,
          (if exposed then [exposing s.smtpHost] else []) ++ [configured s])

/-! ## Sending -/

/-- A mail is about to leave. -/
def sending (mail : Mail) : Event where
  level := .debug
  target := target
  message := "Sending mail"
  fields := [("provider", .text "smtp"), ("email", .text (Address.mask mail.address))]

/-- A mail was taken. -/
def sent (mail : Mail) (id : String) : Event where
  level := .info
  target := mailTarget
  message := "Mail sent successfully"
  fields := [("provider", .text "smtp"), ("email", .text (Address.mask mail.address)),
    ("message_id", .text id)]

/-- A mail was refused. -/
def refused (mail : Mail) (e : Smtp.Failure) : Event where
  level := .error
  target := mailTarget
  message := "SMTP relay did not accept the mail"
  fields := [("provider", .text "smtp"), ("email", .text (Address.mask mail.address)),
    ("error", .text e.text), ("permanent", .flag e.isPermanent)]

variable {client : Smtp.Client} {ρ : Type}

/-- A mail put together, or the error of one that cannot be. -/
def message (service : RelayService client) (mail : Mail) :
    Except BackendError client.Message :=
  match client.parse mail.address with
  | .error e => .error (.mail ("Invalid recipient address: " ++ e))
  | .ok recipient =>
    match client.compose service.sender recipient mail.subject mail.body with
    | .error e => .error (.mail ("Failed to build message: " ++ e))
    | .ok message => .ok message

/-- Sends a mail; the id of one that the relay takes without a word is made of `spareId`. -/
def send (service : RelayService client) (relay : Smtp.Relay ρ) (spareId : String) (mail : Mail)
    (state : ρ) : Reply ρ BackendError String :=
  match service.message mail with
  | .error e => ⟨.error e, state, []⟩
  | .ok message =>
    let run := (client.session service.transport message).run relay state
    match run.result with
    | .ok lines =>
      let id := lines.headD ("smtp_" ++ spareId)
      ⟨.ok id, run.relay, [sending mail, sent mail id]⟩
    | .error e =>
      ⟨.error (.mail ("SMTP send failed: " ++ e.text)), run.relay, [sending mail, refused mail e]⟩

/-- The service as a provider. -/
def provider (service : RelayService client) (relay : Smtp.Relay ρ) (spareId : String) :
    MailProvider ρ :=
  ⟨"SMTP", service.send relay spareId⟩

end RelayService

/-! ## Choosing who delivers -/

/-- Who delivers the mails. -/
inductive MailService (client : Smtp.Client) where
  | mailbox
  | relay (service : RelayService client)

namespace MailService

variable {client : Smtp.Client}

/-- The name of whoever delivers. -/
def name : MailService client → String
  | .mailbox => "Mock"
  | .relay _ => "SMTP"

/-- An event of the choice; it only has a message. -/
def said (level : Level) (message : String) : Event where
  level := level
  target := "vs_infra::mail"
  message := message

/-- Who delivers under the given settings, and what is logged of the choice. -/
def ofSettings (client : Smtp.Client) (s : MailSettings) : MailService client × List Event :=
  match s.provider with
  | .mock => (.mailbox, [])
  | .smtp =>
    if s.hasSmtpRelay then
      match RelayService.ofSettings client s with
      | (.ok service, events) => (.relay service, events)
      | (.error e, events) =>
        (.mailbox, events ++
          [said .error ("Failed to initialize SMTP mail service: " ++ e.text),
            said .warn "Falling back to mock mail service"])
    else
      (.mailbox,
        [said .warn
          "SMTP provider selected but SMTP_HOST is not set, using mock implementation"])

end MailService

end MailCode
