import MailCode.Json.Basic
import MailCode.Json.Record
import MailCode.Settings.Variables
import MailCode.Text.Basic
/-!
# Where codes are kept
-/

namespace MailCode

/-- The kind of cache. -/
inductive CacheBackend where
  | redis
  | memory
  deriving DecidableEq, Repr

namespace CacheBackend

/-- The name of a kind. -/
def name : CacheBackend → String
  | .redis => "redis"
  | .memory => "memory"

/-- Every kind by its name. -/
def byName : List (String × CacheBackend) :=
  [("redis", .redis), ("memory", .memory)]

/-- Reads a kind in any case; memory has two spellings. -/
def parse (text : String) : Except String CacheBackend :=
  match String.ofList (Text.lowerForAscii text.toList) with
  | "redis" => .ok .redis
  | "memory" | "in-memory" => .ok .memory
  | _ => .error ("Invalid cache backend: " ++ text)

/-- The kind as JSON. -/
def toJson (b : CacheBackend) : Json :=
  .text b.name

/-- The kind that a received value stands for. -/
def ofTree? : Json.Tree → Option CacheBackend :=
  Json.Tree.variant? byName

end CacheBackend

/-- The settings of the cache. -/
structure CacheSettings where
  backend : CacheBackend
  url : String
  connectRetries : UInt32
  /-- The first wait between two attempts to connect, in milliseconds. -/
  connectRetryDelay : UInt64
  deriving DecidableEq, Repr

namespace CacheSettings

/-- The cache behind a server of the given URL, everything else by default. -/
def ofUrl (url : String) : CacheSettings :=
  ⟨.redis, url, 3, 100⟩

/-- The cache as it is by default. -/
def default : CacheSettings :=
  ofUrl "redis://localhost:6379"

/-- The default with the cache in memory. -/
def inMemory : CacheSettings :=
  { default with backend := .memory }

/-- The cache that the variables describe. -/
def ofVariables (vars : Variables) : Except InvalidSetting CacheSettings := do
  let backend ← vars.valueOr "CACHE_BACKEND" default.backend CacheBackend.parse
  let url := vars.textOr "REDIS_URL" default.url
  let connectRetries ←
    vars.valueOr "REDIS_CONNECT_RETRIES" default.connectRetries Variables.word32
  return { default with backend, url, connectRetries }

/-- The settings as JSON. -/
def toJson (s : CacheSettings) : Json :=
  .object [("backend", s.backend.toJson), ("url", .text s.url),
    ("connect_retries", .number s.connectRetries.toNat),
    ("connect_retry_delay_ms", .number s.connectRetryDelay.toNat)]

/-- The settings that a received value stands for. -/
def ofTree? (t : Json.Tree) : Option CacheSettings := do
  let r ← Json.Record.ofTree? ["backend", "url", "connect_retries", "connect_retry_delay_ms"] t
  let backend ← r.withDefault "backend" default.backend CacheBackend.ofTree?
  let url ← r.required "url" Json.Tree.text?
  let connectRetries ← r.withDefault "connect_retries" default.connectRetries Json.Tree.word32?
  let connectRetryDelay ←
    r.withDefault "connect_retry_delay_ms" default.connectRetryDelay Json.Tree.word64?
  return ⟨backend, url, connectRetries, connectRetryDelay⟩

end CacheSettings

end MailCode
