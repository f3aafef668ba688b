import MailCode.Json.Basic
import MailCode.Json.Record
import MailCode.Settings.Cache
import MailCode.Settings.Issuing
import MailCode.Settings.Logging
import MailCode.Settings.Mail
import MailCode.Settings.Variables
/-!
# The settings of the server and of the whole service
-/

namespace MailCode

/-!
## Where and how the server listens
-/

/-- The settings of the server; times are in seconds, sizes in bytes. -/
structure ServerSettings where
  host : String
  port : UInt16
  workers : UInt64
  keepAlive : UInt64
  shutdownTimeout : UInt64
  maxPayloadSize : UInt64
  deriving DecidableEq, Repr

namespace ServerSettings

/-- The largest body that is read unless another limit is set. -/
def defaultMaxPayloadSize : UInt64 := 65536

/-- The server on a given host and port, everything else by default. -/
def on (host : String) (port : UInt16) : ServerSettings :=
  ⟨host, port, 0, 75, 30, defaultMaxPayloadSize⟩

/-- The server as it is by default. -/
def default : ServerSettings :=
  on "127.0.0.1" 50051

/-- The address that the server listens on. -/
def bindAddress (s : ServerSettings) : String :=
  s.host ++ ":" ++ Text.Decimal.text s.port.toNat

/-- The server that the variables describe. -/
def ofVariables (vars : Variables) : Except InvalidSetting ServerSettings := do
  let host := vars.textOr "SERVER_HOST" default.host
  let port ← vars.valueOr "SERVER_PORT" default.port Variables.word16
  let workers ← vars.valueOr "SERVER_WORKERS" default.workers Variables.word64
  let maxPayloadSize ←
    vars.valueOr "SERVER_MAX_PAYLOAD_SIZE" default.maxPayloadSize Variables.word64
  return { default with host, port, workers, maxPayloadSize }

/-- The settings as JSON. -/
def toJson (s : ServerSettings) : Json :=
  .object [("host", .text s.host), ("port", .number s.port.toNat),
    ("workers", .number s.workers.toNat), ("keep_alive", .number s.keepAlive.toNat),
    ("shutdown_timeout", .number s.shutdownTimeout.toNat),
    ("max_payload_size", .number s.maxPayloadSize.toNat)]

/-- The settings that a received value stands for. -/
def ofTree? (t : Json.Tree) : Option ServerSettings := do
  let r ← Json.Record.ofTree?
    ["host", "port", "workers", "keep_alive", "shutdown_timeout", "max_payload_size"] t
  let host ← r.required "host" Json.Tree.text?
  let port ← r.required "port" Json.Tree.word16?
  let workers ← r.withDefault "workers" default.workers Json.Tree.word64?
  let keepAlive ← r.withDefault "keep_alive" default.keepAlive Json.Tree.word64?
  let shutdownTimeout ←
    r.withDefault "shutdown_timeout" default.shutdownTimeout Json.Tree.word64?
  let maxPayloadSize ← r.withDefault "max_payload_size" default.maxPayloadSize Json.Tree.word64?
  return ⟨host, port, workers, keepAlive, shutdownTimeout, maxPayloadSize⟩

end ServerSettings

/-!
## The settings of the whole service

They are read from the variables part by part; the first variable that cannot be read ends the
reading.
-/

/-- The settings of the service. -/
structure Settings where
  deployment : Deployment
  server : ServerSettings
  cache : CacheSettings
  mail : MailSettings
  issuing : IssuingSettings
  logging : LoggingSettings
  deriving DecidableEq, Repr

namespace Settings

/-- The service as it is by default. -/
def default : Settings where
  deployment := .default
  server := .default
  cache := .default
  mail := .default
  issuing := .default
  logging := .forDeployment .default

/-- The service for development: the default with the cache in memory. -/
def development : Settings :=
  { default with deployment := .development, cache := .inMemory }

/-- The service that the variables describe. -/
def ofVariables (vars : Variables) : Except InvalidSetting Settings := do
  let deployment ← Deployment.ofVariables vars
  let server ← ServerSettings.ofVariables vars
  let cache ← CacheSettings.ofVariables vars
  let mail ← MailSettings.ofVariables vars
  let issuing ← IssuingSettings.ofVariables vars
  let logging ← LoggingSettings.ofVariables vars deployment
  return ⟨deployment, server, cache, mail, issuing, logging⟩

/-- The settings as JSON. -/
def toJson (s : Settings) : Json :=
  .object [("environment", s.deployment.toJson), ("server", s.server.toJson),
    ("cache", s.cache.toJson), ("mail", s.mail.toJson), ("verification", s.issuing.toJson),
    ("logging", s.logging.toJson)]

/-- The settings that a received value stands for. -/
def ofTree? (t : Json.Tree) : Option Settings := do
  let r ← Json.Record.ofTree?
    ["environment", "server", "cache", "mail", "verification", "logging"] t
  let deployment ← r.required "environment" Deployment.ofTree?
  let server ← r.required "server" ServerSettings.ofTree?
  let cache ← r.required "cache" CacheSettings.ofTree?
  let mail ← r.required "mail" MailSettings.ofTree?
  let issuing ← r.withDefault "verification" IssuingSettings.default IssuingSettings.ofTree?
  let logging ← r.withDefault "logging" LoggingSettings.default LoggingSettings.ofTree?
  return ⟨deployment, server, cache, mail, issuing, logging⟩

end Settings

end MailCode
