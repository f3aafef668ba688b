import MailCode.Json.Basic
import MailCode.Json.Record
/-!
# Requests and answers

A request names an address; the answer repeats the address and tells the outcome by a number.
-/

namespace MailCode

/-- The outcome of a request. -/
inductive ErrorCode where
  | success
  | cacheError
  | exception
  | deliveryError
  deriving DecidableEq, Repr

namespace ErrorCode

/-- The number on the wire. -/
def number : ErrorCode → Nat
  | .success => 0
  | .cacheError => 1
  | .exception => 2
  | .deliveryError => 3

/-- The code that a number stands for. -/
def ofNumber? : Int → Option ErrorCode
  | 0 => some .success
  | 1 => some .cacheError
  | 2 => some .exception
  | 3 => some .deliveryError
  | _ => none

/-- What is said of a number that stands for no code. -/
def unknownMessage (n : Int) : String :=
  "Unknown error code: " ++ Text.Decimal.signedText n

/-- The symbolic name, as logs show it. -/
def symbol : ErrorCode → String
  | .success => "SUCCESS"
  | .cacheError => "CACHE_ERROR"
  | .exception => "EXCEPTION"
  | .deliveryError => "DELIVERY_ERROR"

/-- The name of the case. -/
def caseName : ErrorCode → String
  | .success => "Success"
  | .cacheError => "CacheError"
  | .exception => "Exception"
  | .deliveryError => "DeliveryError"

/-- Whether the request was served. -/
def isSuccess : ErrorCode → Bool
  | .success => true
  | _ => false

/-- The code as JSON. -/
def toJson (c : ErrorCode) : Json :=
  .number c.number

/-- The code that a received value stands for. -/
def ofTree? (t : Json.Tree) : Option ErrorCode := do
  ofNumber? (← t.nat? 4)

end ErrorCode

/-- A request for a code. -/
structure CodeRequest where
  email : String
  deriving DecidableEq, Repr

namespace CodeRequest

/-- The request as JSON. -/
def toJson (r : CodeRequest) : Json :=
  .object [("email", .text r.email)]

/-- The request that a received value stands for. -/
def ofTree? (t : Json.Tree) : Option CodeRequest := do
  let r ← Json.Record.ofTree? ["email"] t
  let email ← r.required "email" Json.Tree.text?
  return ⟨email⟩

end CodeRequest

/-- The answer to a request. -/
structure Answer where
  email : String
  error : ErrorCode
  deriving DecidableEq, Repr

namespace Answer

/-- Whether the request was served. -/
def isSuccess (a : Answer) : Bool :=
  a.error.isSuccess

/-- The answer as JSON. -/
def toJson (a : Answer) : Json :=
  .object [("email", .text a.email), ("error", a.error.toJson)]

/-- The answer that a received value stands for. -/
def ofTree? (t : Json.Tree) : Option Answer := do
  let r ← Json.Record.ofTree? ["email", "error"] t
  let email ← r.required "email" Json.Tree.text?
  let error ← r.required "error" ErrorCode.ofTree?
  return ⟨email, error⟩

end Answer

/-- What the service says of its health. -/
structure Health where
  status : String
  service : String
  version : String
  cache : Bool
  timestamp : String
  deriving DecidableEq, Repr

namespace Health

/-- The health of a service whose cache answers or does not, at the given time. -/
def ofCache (answers : Bool) (timestamp : String) : Health where
  status := if answers then "healthy" else "degraded"
  service := "verify-server"
  version := "0.1.0"
  cache := answers
  timestamp := timestamp

/-- The members of the JSON object that stay the same from call to call. -/
def steadyMembers (h : Health) : List (String × Json) :=
  [("status", .text h.status), ("service", .text h.service), ("version", .text h.version),
    ("cache", .bool h.cache)]

/-- The health as JSON. -/
def toJson (h : Health) : Json :=
  .object (h.steadyMembers ++ [("timestamp", .text h.timestamp)])

/-- The health that a received value stands for. -/
def ofTree? (t : Json.Tree) : Option Health := do
  let r ← Json.Record.ofTree? ["status", "service", "version", "cache", "timestamp"] t
  let status ← r.required "status" Json.Tree.text?
  let service ← r.required "service" Json.Tree.text?
  let version ← r.required "version" Json.Tree.text?
  let cache ← r.required "cache" Json.Tree.bool?
  let timestamp ← r.required "timestamp" Json.Tree.text?
  return ⟨status, service, version, cache, timestamp⟩

end Health

end MailCode
