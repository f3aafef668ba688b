import MailCode.Cache.Basic
import MailCode.Failure
import MailCode.Outcome
/-!
# A Redis server as a cache
-/

namespace MailCode.Redis

/-!
## One command per operation

Each operation on a Redis server is a `Query`: one command, the event that announces it, how the
reply is read and what is logged of the result. Nothing is ever sent twice; `Query.run` is the
only place where a command leaves for the server.
-/

/-- A command to a server. -/
inductive Command where
  | get (key : String)
  | setExpiring (key : String) (lifetime : Nat) (value : String)
  | setIfAbsent (key value : String) (lifetime : Nat)
  | delete (key : String)
  | contains (key : String)
  | timeLeft (key : String)
  | ping
  deriving DecidableEq, Repr

/-- A command as the words that are sent. -/
def Command.words : Command → List String
  | .get key => ["GET", key]
  | .setExpiring key lifetime value => ["SETEX", key, Text.Decimal.text lifetime, value]
  | .setIfAbsent key value lifetime =>
    ["SET", key, value, "NX", "GET", "EX", Text.Decimal.text lifetime]
  | .delete key => ["DEL", key]
  | .contains key => ["EXISTS", key]
  | .timeLeft key => ["TTL", key]
  | .ping => ["PING"]

/-- The server at the other end: at a moment, a command gets a response, or the connection
breaks and tells why. -/
abbrev Server (σ : Type) := (now : Nat) → Command → σ → Except String Response × σ

/-- Who logs the events of the client. -/
def clientTarget : String := "vs_infra::cache::redis_client"

/-- An event of the client; it only has a message. -/
def said (level : Level) (message : String) : Event where
  level := level
  target := clientTarget
  message := message

/-- One command and what becomes of its reply: a reply that can be read gives a value and what is
logged of it, a failure is logged behind the words of `failed`. -/
structure Query (α : Type) where
  command : Command
  announcement : Event
  failed : String
  read : Response → Except Failure (α × List Event)

namespace Query

/-- What the query makes of what came back. -/
def receive {α : Type} (q : Query α) : Except String Response → Except Failure (α × List Event)
  | .ok response => q.read response
  | .error reason => .error (.network reason)

/-- Sends the command, once, and reads the reply. -/
def run {σ α : Type} (q : Query α) (server : Server σ) (now : Nat) (s : σ) :
    Reply σ BackendError α :=
  let (answer, s) := server now q.command s
  match q.receive answer with
  | .ok (a, events) => ⟨.ok a, s, q.announcement :: events⟩
  | .error e =>
    ⟨.error (.cache e), s, [q.announcement, said .error (q.failed ++ ": " ++ e.text)]⟩

end Query

namespace Client

/-- A key between single quotes, masked. -/
def shown (key : String) : String :=
  "'" ++ CodeKey.mask key ++ "'"

/-- A number of seconds as messages show it. -/
def seconds (n : Nat) : String :=
  Text.Decimal.text n ++ "s"

/-- The text under a key. -/
def get (key : String) : Query (Option String) where
  command := .get key
  announcement := said .debug ("Getting key " ++ shown key)
  failed := "Failed to get key " ++ shown key
  read r := r.toText?.map fun value =>
    (value, [said .debug <|
      if value.isSome then "Successfully retrieved key " ++ shown key
      else "Key " ++ shown key ++ " not found"])

/-- Puts a text under a key for a time. -/
def set (key value : String) (lifetime : Nat) : Query Unit where
  command := .setExpiring key lifetime value
  announcement := said .debug ("Setting key " ++ shown key ++ " with expiry " ++ seconds lifetime)
  failed := "Failed to set key " ++ shown key
  read r := r.toUnit.map (·, [])

/-- Puts a text under a free key for a time; of a key that is taken, tells its text. -/
def setIfAbsent (key value : String) (lifetime : Nat) : Query (Option String) where
  command := .setIfAbsent key value lifetime
  announcement :=
    said .debug ("Setting key " ++ shown key ++ " if absent with expiry " ++ seconds lifetime)
  failed := "Failed to set key " ++ shown key ++ " if absent"
  read r := r.toText?.map fun previous =>
    (previous,
      if previous.isSome then
        [said .debug ("Key " ++ shown key ++ " already present, left unchanged")]
      else [])

/-- Removes a key; tells whether it was there. -/
def delete (key : String) : Query Bool where
  command := .delete key
  announcement := said .debug ("Deleting key " ++ shown key)
  failed := "Failed to delete key " ++ shown key
  read r := r.toCount.map fun count => (0 < count, [])

/-- Whether a key is there. -/
def contains (key : String) : Query Bool where
  command := .contains key
  announcement := said .debug ("Checking if key " ++ shown key ++ " exists")
  failed := "Failed to check key " ++ shown key ++ " existence"
  read r := r.toBool.map fun there =>
    (there, [said .debug
      ("Key " ++ shown key ++ " exists: " ++ if there then "true" else "false")])

/-- The seconds that a key has left; a negative number tells of no expiry, or of no key. -/
def timeLeft (key : String) : Query (Option Nat) where
  command := .timeLeft key
  announcement := said .debug ("Getting TTL for key " ++ shown key)
  failed := "Failed to get TTL for key " ++ shown key
  read r := r.toSeconds.map fun
    | .ofNat n => (some n, [said .debug ("Key " ++ shown key ++ " has TTL: " ++ seconds n)])
    | -1 => (none, [said .debug ("Key " ++ shown key ++ " exists but has no expiry")])
    | .negSucc _ => (none, [said .debug ("Key " ++ shown key ++ " does not exist")])

/-- Whether the server answers as it should. -/
def ping : Query Bool where
  command := .ping
  announcement := said .debug "Performing Redis health check"
  failed := "Redis health check failed"
  read r := r.toText.map fun
    | "PONG" => (true, [said .debug "Redis health check passed"])
    | other =>
      (false, [said .warn ("Redis health check returned unexpected response: " ++ other)])

end Client

end MailCode.Redis

namespace MailCode.Redis.Gateway

/-!
## The cache behind a Redis server

Every operation is one query. A query that fails is logged once more with the operation's name
and becomes a `CacheError`; nothing is tried again and nothing is ever deleted, the server drops
entries by itself when their time has come.
-/

/-- Who logs the events of the gateway. -/
def target : String := "vs_infra::cache::verification_cache"

/-- A query failed. -/
def failed (operation key : String) (e : BackendError) : Event where
  level := .error
  target := target
  message := "Redis cache operation failed"
  fields := [("key", .text (CodeKey.mask key)), ("operation", .text operation),
    ("error", .text e.text), ("event", .text "cache_operation_failed")]

/-- A write found its key taken. -/
def keptRecord (key : String) : Event where
  level := .debug
  target := target
  message := "Record already present, keeping it"
  fields := [("key", .text (CodeKey.mask key))]

/-- Runs a query for an operation; a failure is logged with the operation's name. -/
def perform {σ α : Type} (server : Server σ) (operation key : String) (q : Query α) (now : Nat)
    (s : σ) : Reply σ CacheError α :=
  let reply := q.run server now s
  match reply.outcome with
  | .ok a => ⟨.ok a, reply.state, reply.events⟩
  | .error e => ⟨.error e.toCacheError, reply.state, reply.events ++ [failed operation key e]⟩
  | .panic p => ⟨.panic p, reply.state, reply.events⟩

/-- Stores where there is nothing; the text that was there wins. -/
def storeIfAbsent {σ : Type} (server : Server σ) (now : Nat) (key value : String) (lifetime : Nat)
    (s : σ) : Reply σ CacheError StoreOutcome :=
  let reply := perform server "set_nx" key (Client.setIfAbsent key value lifetime) now s
  match reply.outcome with
  | .ok (some existing) =>
    ⟨.ok (.existing existing), reply.state, reply.events ++ [keptRecord key]⟩
  | .ok none => ⟨.ok .inserted, reply.state, reply.events⟩
  | .error e => ⟨.error e, reply.state, reply.events⟩
  | .panic p => ⟨.panic p, reply.state, reply.events⟩

end MailCode.Redis.Gateway

namespace MailCode.Redis

/-- The cache behind a server as an issuance sees it. -/
def gateway {σ : Type} (server : Server σ) : CacheGateway σ where
  lookup now key := Gateway.perform server "get" key (Client.get key) now
  store now key value lifetime :=
    Gateway.perform server "set_ex" key (Client.set key value lifetime) now
  storeIfAbsent := Gateway.storeIfAbsent server
  contains now key := Gateway.perform server "exists" key (Client.contains key) now
  timeLeft now key := Gateway.perform server "ttl" key (Client.timeLeft key) now
  healthy := Gateway.perform server "ping" "" Client.ping

end MailCode.Redis
