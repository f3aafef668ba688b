import MailCode.Json.Basic
/-!
# What a call logs and how it ends
-/

namespace MailCode

/-!
## Log events

Every part of the service tells what it does as data: an `Event` has a level, the target that
emitted it, a message and named fields. Whoever runs the service decides which events to show;
see `Startup.Filter`.
-/

/-- How much an event matters, the gravest first. -/
inductive Level where
  | error
  | warn
  | info
  | debug
  deriving DecidableEq, Repr

/-- A level's name in a log line. -/
def Level.label : Level → String
  | .error => "ERROR"
  | .warn => "WARN"
  | .info => "INFO"
  | .debug => "DEBUG"

/-- A field's value. -/
inductive Field where
  | text (s : String)
  | number (n : Nat)
  | flag (b : Bool)
  deriving DecidableEq, Repr

/-- A field's value as JSON. -/
def Field.toJson : Field → Json
  | .text s => .text s
  | .number n => .number n
  | .flag b => .bool b

/-- One log event. -/
structure Event where
  level : Level
  target : String
  message : String
  fields : List (String × Field) := []
  deriving DecidableEq, Repr

/-- The event as one JSON object: message, fields and level. -/
def Event.toJson (e : Event) : Json :=
  .object (("message", .text e.message) :: e.fields.map (fun (name, f) => (name, f.toJson)) ++
    [("level", .text e.level.label)])

/-- The name that an event carries in its field `event`, if it has one. -/
def Event.name? (e : Event) : Option String :=
  match e.fields.lookup "event" with
  | some (.text s) => some s
  | _ => none

/-!
## How a collaborator's call ends

A call returns a value, returns an error of its own kind, or panics. A `Reply` is such an outcome
together with the state the call leaves behind and the events it logged on the way.
-/

/-- What a panic carries: a text, or something that nobody can read. -/
inductive Panic where
  | text (message : String)
  | unreadable
  deriving DecidableEq, Repr

/-- The text of a panic. -/
def Panic.message : Panic → String
  | .text message => message
  | .unreadable => "unknown panic"

/-- Results are compared by what they hold. -/
instance decidableEqExcept {ε α : Type} [DecidableEq ε] [DecidableEq α] :
    DecidableEq (Except ε α)
  | .ok a, .ok b => decidable_of_iff (a = b) (by simp)
  | .error d, .error e => decidable_of_iff (d = e) (by simp)
  | .ok _, .error _ | .error _, .ok _ => .isFalse (by simp)

/-- How a call ends. -/
inductive Outcome (ε α : Type) where
  | ok (a : α)
  | error (e : ε)
  | panic (p : Panic)
  deriving DecidableEq, Repr

namespace Outcome

variable {ε ε' α β : Type}

/-- The outcome with its value changed. -/
def map (f : α → β) : Outcome ε α → Outcome ε β
  | .ok a => .ok (f a)
  | .error e => .error e
  | .panic p => .panic p

/-- The outcome with its error changed. -/
def mapError (f : ε → ε') : Outcome ε α → Outcome ε' α
  | .ok a => .ok a
  | .error e => .error (f e)
  | .panic p => .panic p

end Outcome

/-- What a call on a state `σ` leaves behind. -/
structure Reply (σ ε α : Type) where
  outcome : Outcome ε α
  state : σ
  events : List Event := []

namespace Reply

variable {σ σ' ε ε' α β : Type}

/-- The reply with its value changed. -/
def map (f : α → β) (r : Reply σ ε α) : Reply σ ε β :=
  ⟨r.outcome.map f, r.state, r.events⟩

/-- The reply with its error changed. -/
def mapError (f : ε → ε') (r : Reply σ ε α) : Reply σ ε' α :=
  ⟨r.outcome.mapError f, r.state, r.events⟩

/-- The reply with its state put into a larger one. -/
def mapState (f : σ → σ') (r : Reply σ ε α) : Reply σ' ε α :=
  ⟨r.outcome, f r.state, r.events⟩

end Reply

end MailCode
