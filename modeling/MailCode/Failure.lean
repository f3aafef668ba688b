import MailCode.Answer
import MailCode.Redis.Response
/-!
# Errors of the service and of its backends
-/

namespace MailCode

/-!
## What can go wrong

Each collaborator of an issuance has its own kind of error, and an issuance that fails says which
one it met. `IssuanceError.code` decides what the answer says: a cache's error and a refused
delivery have codes of their own, everything else is an exception.
-/

/-- The cache did not do what it was asked. -/
structure CacheError where
  message : String
  deriving DecidableEq, Repr

/-- The wording of a cache error. -/
def CacheError.text (e : CacheError) : String :=
  "Cache error: " ++ e.message

/-- The generator gave no code. -/
structure GeneratorError where
  message : String
  deriving DecidableEq, Repr

/-- The wording of a generator error. -/
def GeneratorError.text (e : GeneratorError) : String :=
  "Code generation failed: " ++ e.message

/-- A mail was not delivered: refused, or lost to something else. -/
inductive DeliveryError where
  | rejected (message : String)
  | unexpected (message : String)
  deriving DecidableEq, Repr

namespace DeliveryError

/-- The wording of a delivery error. -/
def text : DeliveryError → String
  | .rejected message => "Delivery rejected: " ++ message
  | .unexpected message => "Unexpected delivery fault: " ++ message

/-- Whether the mail was refused. -/
def isRejection : DeliveryError → Bool
  | .rejected _ => true
  | .unexpected _ => false

end DeliveryError

/-- Why an issuance failed. -/
inductive IssuanceError where
  | cache (e : CacheError)
  | generator (e : GeneratorError)
  | delivery (e : DeliveryError)
  | invalidRequest (message : String)
  | panicked (message : String)
  deriving DecidableEq, Repr

namespace IssuanceError

/-- The wording of a failure. -/
def text : IssuanceError → String
  | .cache e => e.text
  | .generator e => e.text
  | .delivery e => e.text
  | .invalidRequest message => "Invalid request: " ++ message
  | .panicked message => "Issuance panicked: " ++ message

/-- What the answer says of a failure. -/
def code : IssuanceError → ErrorCode
  | .cache _ => .cacheError
  | .delivery (.rejected _) => .deliveryError
  | .delivery (.unexpected _) | .generator _ | .invalidRequest _ | .panicked _ => .exception

end IssuanceError

/-!
## What can go wrong behind the gateways

A backend fails in its own words. A cache's user hears of it as a `CacheError`, a mail's sender
as a `DeliveryError`: only what the mail provider itself said of the mail is a rejection.
-/

/-- Why a backend did not do what it was asked. -/
inductive BackendError where
  | cache (e : Redis.Failure)
  | config (message : String)
  | mail (message : String)
  | unexpectedReply (message : String)

namespace BackendError

/-- The wording of a backend's error. -/
def text : BackendError → String
  | .cache e => "Cache error: " ++ e.text
  | .config message => "Configuration error: " ++ message
  | .mail message => "Mail service error: " ++ message
  | .unexpectedReply message => "Unexpected cache reply: " ++ message

/-- The error as the user of a cache hears of it. -/
def toCacheError (e : BackendError) : CacheError :=
  ⟨e.text⟩

/-- The error as the sender of a mail hears of it. -/
def toDeliveryError : BackendError → DeliveryError
  | .mail message => .rejected message
  | e => .unexpected e.text

end BackendError

end MailCode
