import MailCode.Cache.Basic
/-!
# A cache in memory and its operations
-/

namespace MailCode

/-!
## The cache in memory

Entries sit in a list under distinct keys. An entry whose time has come is not live any more; it
is dropped when its key is next asked for, and every 64 writes all such entries are swept out.

A lifetime that no clock can count, 2^63 seconds or more, makes a write panic. The panic happens
while the cache is locked, and from then on the lock is poisoned: every operation that needs it
is refused.
-/

/-- A text and the moment, in milliseconds, from which it is no longer live. -/
structure Entry where
  value : String
  expiresAt : Nat
  deriving DecidableEq, Repr

/-- Whether an entry is still live. -/
def Entry.isLive (now : Nat) (e : Entry) : Bool :=
  now < e.expiresAt

/-- Entries under distinct keys, the latest written first. -/
structure Entries where
  toList : List (String × Entry)
  distinct : (toList.map (·.1)).Nodup

namespace Entries

/-- No entry. -/
def empty : Entries :=
  ⟨[], List.nodup_nil⟩

/-- The entry under a key. -/
def get? (es : Entries) (key : String) : Option Entry :=
  es.toList.lookup key

/-- The number of entries. -/
def size (es : Entries) : Nat :=
  es.toList.length

/-- The entries that pass a test. -/
def filter (keep : String × Entry → Bool) (es : Entries) : Entries :=
  ⟨es.toList.filter keep, es.distinct.sublist (List.filter_sublist.map _)⟩

/-- The entries without the one under a key. -/
def erase (es : Entries) (key : String) : Entries :=
  es.filter fun (k, _) => k != key

/-- The entries with a key's entry replaced. -/
def insert (es : Entries) (key : String) (e : Entry) : Entries where
  toList := (key, e) :: (es.erase key).toList
  distinct := by
    refine List.nodup_cons.2 ⟨?_, (es.erase key).distinct⟩
    simp [erase, filter]

/-- The number of live entries. -/
def liveCount (es : Entries) (now : Nat) : Nat :=
  es.toList.countP fun (_, e) => e.isLive now

end Entries

/-- The cache in memory: its entries, the number of writes so far, and whether a panic has
poisoned its lock. -/
structure Memory where
  entries : Entries
  writes : Nat
  poisoned : Bool

namespace Memory

/-- A fresh cache. -/
def empty : Memory :=
  ⟨.empty, 0, false⟩

/-- The number of writes between two sweeps. -/
def sweepInterval : Nat := 64

/-- The first lifetime, in seconds, that no clock can count. A clock that stands close to its own
end gives out at a shorter one; the clocks here have all of their range ahead. -/
def lifetimeLimit : Nat := 0x8000000000000000

/-- Who logs the events of this cache. -/
def target : String := "vs_infra::cache::memory_cache"

/-- An entry was found dead under the key that was asked for. -/
def evicted (key : String) : Event where
  level := .debug
  target := target
  message := "Evicting expired entry"
  fields := [("key", .text (CodeKey.mask key))]

/-- A sweep dropped entries. -/
def swept (removed remaining : Nat) : Event where
  level := .debug
  target := target
  message := "Swept expired entries"
  fields := [("removed", .number removed), ("remaining", .number remaining)]

/-- The error of every operation on a poisoned cache. -/
def poisonedError : CacheError :=
  ⟨"memory cache lock poisoned"⟩

/-- The panic of a write whose lifetime cannot be counted. -/
def lifetimePanic : Panic :=
  .text "overflow when adding duration to instant"

/-- What a key holds that is live, and the entries without what it holds that is dead. -/
def liveEntry (now : Nat) (key : String) (m : Memory) : Option Entry × Memory × List Event :=
  match m.entries.get? key with
  | none => (none, m, [])
  | some e =>
    if e.isLive now then (some e, m, [])
    else (none, { m with entries := m.entries.erase key }, [evicted key])

/-- Drops every dead entry. -/
def sweep (now : Nat) (m : Memory) : Memory × List Event :=
  let kept := m.entries.filter fun (_, e) => e.isLive now
  let removed := m.entries.size - kept.size
  ({ m with entries := kept }, if removed = 0 then [] else [swept removed kept.size])

/-- Writes an entry; every `sweepInterval` writes the cache is swept. -/
def insert (now : Nat) (key value : String) (lifetime : Nat) (m : Memory) :
    Reply Memory CacheError Unit :=
  if lifetimeLimit ≤ lifetime then
    ⟨.panic lifetimePanic, { m with poisoned := true }, []⟩
  else
    let written : Memory :=
      { m with
        entries := m.entries.insert key ⟨value, now + lifetime * 1000⟩
        writes := m.writes + 1 }
    if written.writes % sweepInterval = 0 then
      let (swept, events) := written.sweep now
      ⟨.ok (), swept, events⟩
    else ⟨.ok (), written, []⟩

/-- Runs an operation that needs the lock. -/
def locked {α : Type} (m : Memory) (operation : Memory → Reply Memory CacheError α) :
    Reply Memory CacheError α :=
  if m.poisoned then ⟨.error poisonedError, m, []⟩ else operation m

/-- Runs an operation on the live entry of a key. -/
def withLiveEntry {α : Type} (now : Nat) (key : String) (m : Memory) (read : Option Entry → α) :
    Reply Memory CacheError α :=
  m.locked fun m =>
    let (entry, m, events) := m.liveEntry now key
    ⟨.ok (read entry), m, events⟩

/-- The live text under a key. -/
def lookup (now : Nat) (key : String) (m : Memory) : Reply Memory CacheError (Option String) :=
  m.withLiveEntry now key fun entry => entry.map Entry.value

/-- Whether a key holds a live text. -/
def contains (now : Nat) (key : String) (m : Memory) : Reply Memory CacheError Bool :=
  m.withLiveEntry now key Option.isSome

/-- The whole seconds that the text under a key has left. -/
def timeLeft (now : Nat) (key : String) (m : Memory) : Reply Memory CacheError (Option Nat) :=
  m.withLiveEntry now key fun entry => entry.map fun e => (e.expiresAt - now) / 1000

/-- Puts a text under a key, whatever was there. -/
def store (now : Nat) (key value : String) (lifetime : Nat) (m : Memory) :
    Reply Memory CacheError Unit :=
  m.locked (insert now key value lifetime)

/-- Puts a text under a key that holds nothing live. -/
def storeIfAbsent (now : Nat) (key value : String) (lifetime : Nat) (m : Memory) :
    Reply Memory CacheError StoreOutcome :=
  m.locked fun m =>
    let (entry, m, events) := m.liveEntry now key
    match entry with
    | some e => ⟨.ok (.existing e.value), m, events⟩
    | none =>
      let reply := m.insert now key value lifetime
      ⟨reply.outcome.map fun _ => .inserted, reply.state, events ++ reply.events⟩

/-- The number of live entries. -/
def size (now : Nat) (m : Memory) : Reply Memory CacheError Nat :=
  m.locked fun m => ⟨.ok (m.entries.liveCount now), m, []⟩

/-- Whether nothing is live. -/
def isEmpty (now : Nat) (m : Memory) : Reply Memory CacheError Bool :=
  (m.size now).map (· == 0)

/-- The number of entries, dead ones included. -/
def held (m : Memory) : Reply Memory CacheError Nat :=
  m.locked fun m => ⟨.ok m.entries.size, m, []⟩

/-- Drops every dead entry and tells how many there were. -/
def purge (now : Nat) (m : Memory) : Reply Memory CacheError Nat :=
  m.locked fun m =>
    let (swept, events) := m.sweep now
    ⟨.ok (m.entries.size - swept.entries.size), swept, events⟩

/-- The cache in memory as an issuance sees it; it answers even when its lock is poisoned. -/
def gateway : CacheGateway Memory where
  lookup := lookup
  store := store
  storeIfAbsent := storeIfAbsent
  contains := contains
  timeLeft := timeLeft
  healthy _ m := ⟨.ok true, m, []⟩

end Memory

end MailCode

namespace MailCode.Memory

/-!
## The operations of the cache in memory, as data

Runs of operations are lists of `Memory.Action`; `Memory.perform` carries one out.
-/

/-- One operation. -/
inductive Action where
  | lookup (key : String)
  | store (key value : String) (lifetime : Nat)
  | storeIfAbsent (key value : String) (lifetime : Nat)
  | contains (key : String)
  | timeLeft (key : String)
  | size
  | isEmpty
  | held
  | purge
  | healthy
  deriving DecidableEq, Repr

/-- What an operation tells. -/
inductive Result where
  | nothing
  | text (found : Option String)
  | stored (outcome : StoreOutcome)
  | flag (b : Bool)
  | seconds (left : Option Nat)
  | count (n : Nat)
  deriving DecidableEq, Repr

/-- Carries an operation out. -/
def perform (now : Nat) (action : Action) (m : Memory) : Reply Memory CacheError Result :=
  match action with
  | .lookup key => (lookup now key m).map .text
  | .store key value lifetime => (store now key value lifetime m).map fun () => .nothing
  | .storeIfAbsent key value lifetime => (storeIfAbsent now key value lifetime m).map .stored
  | .contains key => (contains now key m).map .flag
  | .timeLeft key => (timeLeft now key m).map .seconds
  | .size => (size now m).map .count
  | .isEmpty => (isEmpty now m).map .flag
  | .held => m.held.map .count
  | .purge => (purge now m).map .count
  | .healthy => (gateway.healthy now m).map .flag

end MailCode.Memory
