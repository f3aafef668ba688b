import MailCode.Failure
import MailCode.Json.Basic
import MailCode.Json.Record
import MailCode.Outcome
/-!
# Codes in a cache

Addresses and the keys that codes are kept under, as they are and as logs show them, and what the
service asks of a cache.
-/

namespace MailCode.Address

/-!
## Masked addresses

Logs never show an address in full. What stands before the first `@` is cut down to its first
character; what follows stays, so that an operator can still tell the domain. A text without an
`@` shows nothing at all.
-/

/-- What stands before and after the first `@`, if there is one. -/
def split? : List Char → Option (List Char × List Char)
  | [] => none
  | c :: cs =>
    if c = '@' then some ([], cs)
    else (split? cs).map fun (before, after) => (c :: before, after)

/-- The masked form of an address. -/
def maskChars (cs : List Char) : List Char :=
  match split? cs with
  | some (first :: _, domain) => first :: '*' :: '*' :: '*' :: '@' :: domain
  | some ([], domain) => '*' :: '*' :: '*' :: '@' :: domain
  | none => if cs.isEmpty then ['<', 'e', 'm', 'p', 't', 'y', '>'] else ['*', '*', '*']

/-- The masked form of an address. -/
def mask (address : String) : String :=
  String.ofList (maskChars address.toList)

end MailCode.Address

namespace MailCode

/-!
## Codes and the keys they are kept under

A code is kept in the cache under a key made of its address, for ten minutes. Keys appear in logs
with the address in them masked.
-/

/-- How long a code lives, in seconds. -/
def codeLifetime : Nat := 600

/-- How long a code lives, in minutes. -/
def codeLifetimeMinutes : Nat := codeLifetime / 60

namespace CodeKey

/-- What every key of a code starts with. -/
def lead : String := "code_"

/-- The key for an address. -/
def ofAddress (address : String) : String :=
  lead ++ address

/-- What follows `lead` in a text that starts with it. -/
def afterLead? : List Char → List Char → Option (List Char)
  | [], cs => some cs
  | _ :: _, [] => none
  | l :: ls, c :: cs => if l = c then afterLead? ls cs else none

/-- A key as logs show it: the address behind `lead` is masked, and any other key whole. -/
def maskChars (cs : List Char) : List Char :=
  match afterLead? lead.toList cs with
  | some address => lead.toList ++ Address.maskChars address
  | none => Address.maskChars cs

/-- A key as logs show it. -/
def mask (key : String) : String :=
  String.ofList (maskChars key.toList)

end CodeKey

/-- A code as it is kept. -/
structure CodeRecord where
  key : String
  code : String
  lifetime : UInt64
  deriving DecidableEq, Repr

namespace CodeRecord

/-- The record of a fresh code for an address. -/
def fresh (address code : String) : CodeRecord :=
  ⟨CodeKey.ofAddress address, code, codeLifetime.toUInt64⟩

/-- The record as JSON. -/
def toJson (r : CodeRecord) : Json :=
  .object [("key", .text r.key), ("code", .text r.code), ("ttl_seconds", .number r.lifetime.toNat)]

/-- The record that a received value stands for. -/
def ofTree? (t : Json.Tree) : Option CodeRecord := do
  let r ← Json.Record.ofTree? ["key", "code", "ttl_seconds"] t
  let key ← r.required "key" Json.Tree.text?
  let code ← r.required "code" Json.Tree.text?
  let lifetime ← r.required "ttl_seconds" Json.Tree.word64?
  return ⟨key, code, lifetime⟩

end CodeRecord

/-!
## What an issuance needs of a cache

A cache keeps texts under keys for a limited time. Every operation is told the present moment in
milliseconds, works on the cache's state `κ` and answers with a `Reply`.
-/

/-- The outcome of storing a text only where there is none. -/
inductive StoreOutcome where
  | inserted
  | existing (value : String)
  deriving DecidableEq, Repr

/-- A cache with the state `κ`; `now` is the present in milliseconds, lifetimes are in seconds. -/
structure CacheGateway (κ : Type) where
  /-- The live text under a key. -/
  lookup (now : Nat) (key : String) (cache : κ) : Reply κ CacheError (Option String)
  /-- Puts a text under a key, whatever was there. -/
  store (now : Nat) (key value : String) (lifetime : Nat) (cache : κ) : Reply κ CacheError Unit
  /-- Puts a text under a key that holds nothing live. -/
  storeIfAbsent (now : Nat) (key value : String) (lifetime : Nat) (cache : κ) :
    Reply κ CacheError StoreOutcome
  /-- Whether a key holds a live text. -/
  contains (now : Nat) (key : String) (cache : κ) : Reply κ CacheError Bool
  /-- The whole seconds that the text under a key has left. -/
  timeLeft (now : Nat) (key : String) (cache : κ) : Reply κ CacheError (Option Nat)
  /-- Whether the cache answers. -/
  healthy (now : Nat) (cache : κ) : Reply κ CacheError Bool

end MailCode
