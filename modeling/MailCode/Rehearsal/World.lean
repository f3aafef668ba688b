import MailCode.Issuance.Stage
import MailCode.Mail.Basic
/-!
# A world to rehearse in

The service can be rehearsed without a relay and without waiting: a `World` holds a cache, a clock
that moves only when told to, the mailbox that keeps every mail, and a supply of codes. Each
collaborator can be made to fail: a fault that is set answers in place of the collaborator, which
is then not reached at all.
-/

namespace MailCode.Rehearsal

/-- A failure that stands in for a collaborator. -/
inductive Fault (ε : Type) where
  | error (e : ε)
  | panic (p : Panic)
  deriving DecidableEq, Repr

/-- How a call ends that meets the fault. -/
def Fault.outcome {ε α : Type} : Fault ε → Outcome ε α
  | .error e => .error e
  | .panic p => .panic p

/-- The faults that are set. The generator and the cache's health can also be given an answer. -/
structure Faults where
  lookup : Option (Fault CacheError) := none
  store : Option (Fault CacheError) := none
  storeIfAbsent : Option (Fault CacheError) := none
  contains : Option (Fault CacheError) := none
  timeLeft : Option (Fault CacheError) := none
  health : Option (Outcome CacheError Bool) := none
  generate : Option (Outcome GeneratorError String) := none
  send : Option (Fault BackendError) := none

/-- All that an issuance can touch, with a cache in the state `κ`. -/
structure World (κ : Type) where
  cache : κ
  /-- The present, in milliseconds. -/
  now : Nat
  mailbox : Mailbox
  faults : Faults
  /-- The codes that the generator gives out, in order. -/
  codes : Nat → String
  /-- The number of codes given out so far. -/
  drawn : Nat

namespace World

variable {κ α ε : Type}

/-- A world at the beginning: nothing sent, no fault set, no code drawn. -/
def fresh (cache : κ) (codes ids : Nat → String) : World κ :=
  ⟨cache, 0, .empty ids, {}, codes, 0⟩

/-- Asks the cache, unless a fault is set. -/
def askCache (fault : Option (Fault CacheError)) (w : World κ)
    (ask : κ → Reply κ CacheError α) : Reply (World κ) CacheError α :=
  match fault with
  | some f => ⟨f.outcome, w, []⟩
  | none => (ask w.cache).mapState fun cache => { w with cache }

/-- Asks the cache how it is, unless an answer is set. -/
def askHealth (gateway : CacheGateway κ) (w : World κ) : Reply (World κ) CacheError Bool :=
  match w.faults.health with
  | some outcome => ⟨outcome, w, []⟩
  | none => (gateway.healthy w.now w.cache).mapState fun cache => { w with cache }

/-- Draws the next code, unless an answer is set. -/
def drawCode (w : World κ) : Reply (World κ) GeneratorError String :=
  match w.faults.generate with
  | some outcome => ⟨outcome, w, []⟩
  | none => ⟨.ok (w.codes w.drawn), { w with drawn := w.drawn + 1 }, []⟩

/-- Puts a mail into the mailbox, unless a fault is set. -/
def sendMail (mail : Mail) (w : World κ) : Reply (World κ) BackendError String :=
  match w.faults.send with
  | some f => ⟨f.outcome, w, []⟩
  | none => (Mailbox.send mail w.mailbox).mapState fun mailbox => { w with mailbox }

/-- The collaborators that the world provides. -/
def collaborators (gateway : CacheGateway κ) : Collaborators (World κ) where
  lookup key w := w.askCache w.faults.lookup (gateway.lookup w.now key)
  store key value lifetime w :=
    w.askCache w.faults.store (gateway.store w.now key value lifetime)
  storeIfAbsent key value lifetime w :=
    w.askCache w.faults.storeIfAbsent (gateway.storeIfAbsent w.now key value lifetime)
  contains key w := w.askCache w.faults.contains (gateway.contains w.now key)
  timeLeft key w := w.askCache w.faults.timeLeft (gateway.timeLeft w.now key)
  healthy w := w.askHealth gateway
  generate := drawCode
  send := sendMail

end World

end MailCode.Rehearsal
