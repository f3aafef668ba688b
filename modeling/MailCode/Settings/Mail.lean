import MailCode.Json.Basic
import MailCode.Json.Record
import MailCode.Settings.Variables
import MailCode.Text.Basic
/-!
# How mails leave
-/

namespace MailCode

/-- Who delivers the mails: a relay, or a mailbox that only keeps them. -/
inductive MailProviderKind where
  | smtp
  | mock
  deriving DecidableEq, Repr

namespace MailProviderKind

/-- The name of a provider. -/
def name : MailProviderKind → String
  | .smtp => "smtp"
  | .mock => "mock"

/-- Every provider by its name. -/
def byName : List (String × MailProviderKind) :=
  [("smtp", .smtp), ("mock", .mock)]

/-- Reads a provider in any case. -/
def parse (text : String) : Except String MailProviderKind :=
  match String.ofList (Text.lowerForAscii text.toList) with
  | "smtp" => .ok .smtp
  | "mock" => .ok .mock
  | _ => .error ("Invalid mail provider: " ++ text)

/-- The provider as JSON. -/
def toJson (p : MailProviderKind) : Json :=
  .text p.name

/-- The provider that a received value stands for. -/
def ofTree? : Json.Tree → Option MailProviderKind :=
  Json.Tree.variant? byName

end MailProviderKind

/-- How the session with a relay is protected: from the first byte, after a command that must
succeed, or not at all. -/
inductive SmtpSecurity where
  | tls
  | startTls
  | plain
  deriving DecidableEq, Repr

namespace SmtpSecurity

/-- The name of a protection. -/
def name : SmtpSecurity → String
  | .tls => "tls"
  | .startTls => "starttls"
  | .plain => "plain"

/-- The name of the case, as logs show it. -/
def caseName : SmtpSecurity → String
  | .tls => "Tls"
  | .startTls => "StartTls"
  | .plain => "Plain"

/-- Every protection by its name. -/
def byName : List (String × SmtpSecurity) :=
  [("tls", .tls), ("starttls", .startTls), ("plain", .plain)]

/-- The port that relays offer a protection on. -/
def defaultPort : SmtpSecurity → UInt16
  | .tls => 465
  | .startTls => 587
  | .plain => 25

/-- Reads a protection in any case; two have a second spelling. -/
def parse (text : String) : Except String SmtpSecurity :=
  match String.ofList (Text.lowerForAscii text.toList) with
  | "tls" | "smtps" => .ok .tls
  | "starttls" => .ok .startTls
  | "plain" | "none" => .ok .plain
  | _ => .error ("Invalid SMTP security mode: " ++ text)

/-- The protection as JSON. -/
def toJson (s : SmtpSecurity) : Json :=
  .text s.name

/-- The protection that a received value stands for. -/
def ofTree? : Json.Tree → Option SmtpSecurity :=
  Json.Tree.variant? byName

end SmtpSecurity

/-- The settings of the mails. -/
structure MailSettings where
  provider : MailProviderKind
  smtpHost : String
  smtpSecurity : SmtpSecurity
  smtpPort : UInt16
  smtpUsername : Option String
  smtpPassword : Option String
  fromAddress : String
  /-- How long a relay may take to answer, in seconds. -/
  timeout : UInt64
  deriving DecidableEq, Repr

namespace MailSettings

/-- The mails as they are by default. -/
def default : MailSettings where
  provider := .mock
  smtpHost := ""
  smtpSecurity := .startTls
  smtpPort := SmtpSecurity.startTls.defaultPort
  smtpUsername := none
  smtpPassword := none
  fromAddress := "no-reply@localhost"
  timeout := 30

/-- Whether a relay and a sender are named. -/
def hasSmtpRelay (s : MailSettings) : Bool :=
  !s.smtpHost.isEmpty && !s.fromAddress.isEmpty

/-- The mails that the variables describe; the port follows the protection unless it is set. -/
def ofVariables (vars : Variables) : Except InvalidSetting MailSettings := do
  let smtpSecurity ← vars.valueOr "SMTP_SECURITY" default.smtpSecurity SmtpSecurity.parse
  let provider ← vars.valueOr "MAIL_PROVIDER" default.provider MailProviderKind.parse
  let smtpPort ← vars.valueOr "SMTP_PORT" smtpSecurity.defaultPort Variables.word16
  let timeout ← vars.valueOr "SMTP_TIMEOUT_SECS" default.timeout Variables.word64
  return {
    provider, smtpSecurity, smtpPort, timeout
    smtpHost := vars.textOr "SMTP_HOST" ""
    smtpUsername := vars.text? "SMTP_USERNAME"
    smtpPassword := vars.text? "SMTP_PASSWORD"
    fromAddress := vars.textOr "MAIL_FROM" default.fromAddress }

/-- The settings as JSON. -/
def toJson (s : MailSettings) : Json :=
  .object [("provider", s.provider.toJson), ("smtp_host", .text s.smtpHost),
    ("smtp_security", s.smtpSecurity.toJson), ("smtp_port", .number s.smtpPort.toNat),
    ("smtp_username", .ofText? s.smtpUsername), ("smtp_password", .ofText? s.smtpPassword),
    ("from_address", .text s.fromAddress), ("timeout_secs", .number s.timeout.toNat)]

/-- The settings that a received value stands for. -/
def ofTree? (t : Json.Tree) : Option MailSettings := do
  let r ← Json.Record.ofTree?
    ["provider", "smtp_host", "smtp_security", "smtp_port", "smtp_username", "smtp_password",
      "from_address", "timeout_secs"] t
  let provider ← r.required "provider" MailProviderKind.ofTree?
  let smtpHost ← r.withDefault "smtp_host" default.smtpHost Json.Tree.text?
  let smtpSecurity ← r.withDefault "smtp_security" default.smtpSecurity SmtpSecurity.ofTree?
  let smtpPort ← r.withDefault "smtp_port" default.smtpPort Json.Tree.word16?
  let smtpUsername ←
    r.withDefault "smtp_username" default.smtpUsername (Json.Tree.nullable? Json.Tree.text?)
  let smtpPassword ←
    r.withDefault "smtp_password" default.smtpPassword (Json.Tree.nullable? Json.Tree.text?)
  let fromAddress ← r.required "from_address" Json.Tree.text?
  let timeout ← r.withDefault "timeout_secs" default.timeout Json.Tree.word64?
  return ⟨provider, smtpHost, smtpSecurity, smtpPort, smtpUsername, smtpPassword, fromAddress,
    timeout⟩

end MailSettings

end MailCode
