import MailCode.Cache.Memory
import MailCode.Issuance.Crowd
import MailCode.Issuance.Stage
import MailCode.Rehearsal.World
/-!
# What can be done in a rehearsal

Over the cache in memory a rehearsal is a list of actions: requests for codes, alone or several at
once, questions about codes, faults that come and go, time that passes, and operations on the
cache behind the service's back. `perform` carries one out and tells its result, the calls that
the service made and what was logged.
-/

namespace MailCode.Rehearsal

/-- A point at which issuances can be made to give way to one another: once the cache has answered
a lookup, once it has answered a write, and once a mail has been handed over. -/
inductive Point where
  | lookup
  | write
  | send
  deriving DecidableEq, Repr

/-- One action. -/
inductive Action where
  /-- A request for a code. -/
  | issue (email : String)
  /-- Requests served together, giving way to one another at the given points. -/
  | issueTogether (emails : List String) (points : List Point)
  | hasLiveCode (email : String)
  | codeTimeLeft (email : String)
  | cacheHealthy
  /-- Faults are set or removed. -/
  | rig (change : Faults → Faults)
  /-- The mailbox starts or stops refusing mails. -/
  | setMailboxFailing (failing : Bool)
  | resetMailbox
  /-- Time passes, in milliseconds. -/
  | wait (duration : Nat)
  /-- The cache is used directly. -/
  | direct (action : Memory.Action)

/-- What an action tells. -/
inductive Result where
  | nothing
  | answer (a : Answer)
  | answers (as : List Answer)
  | memory (r : Memory.Result)
  | refused (e : CacheError)
  | panicked (p : Panic)
  deriving DecidableEq, Repr

/-- What an action leaves behind. -/
structure Performance where
  result : Result
  world : World Memory
  calls : List Call
  events : List Event

/-- The collaborators of a rehearsal. -/
def cast : Collaborators (World Memory) :=
  World.collaborators Memory.gateway

/-- The result of a call to the cache. -/
def Result.ofOutcome {α : Type} (f : α → Memory.Result) : Outcome CacheError α → Result
  | .ok a => .memory (f a)
  | .error e => .refused e
  | .panic p => .panicked p

/-- What a call to the cache leaves behind. -/
def Performance.ofReply {α : Type} (f : α → Memory.Result) (calls : List Call)
    (r : Reply (World Memory) CacheError α) : Performance :=
  ⟨.ofOutcome f r.outcome, r.state, calls, r.events⟩

/-- The result of an issuance. -/
def Result.ofStage : Issuance.Stage → Result
  | .done a => .answer a
  | _ => .nothing

/-- The fault that a write with a strategy would meet. -/
def Faults.write (faults : Faults) : Strategy → Option (Fault CacheError)
  | .checkThenSet => faults.store
  | .setIfAbsent => faults.storeIfAbsent

/-- Whether an issuance gives way at a stage: a fault answers at once, so that there is nothing to
wait for. -/
def givesWay (points : List Point) (strategy : Strategy) (faults : Faults) :
    Issuance.Stage → Bool
  | .lookedUp _ => points.contains .lookup && faults.lookup.isNone
  | .written _ _ => points.contains .write && (faults.write strategy).isNone
  | .handedOver _ => points.contains .send
  | .start | .done _ => false

/-- Carries an action out. -/
def perform (settings : IssuingSettings) (action : Action) (w : World Memory) : Performance :=
  match action with
  | .issue email =>
    let p := Issuance.issue cast settings email w
    ⟨.ofStage p.stage, p.state, p.calls, p.events⟩
  | .issueTogether emails points =>
    let waits := givesWay points settings.strategy w.faults
    let crowd := Issuance.Crowd.together cast settings waits emails w
    ⟨.answers crowd.answers, crowd.state, crowd.calls, crowd.events⟩
  | .hasLiveCode email =>
    .ofReply .flag [.contains (CodeKey.ofAddress email)] (Issuance.hasLiveCode cast email w)
  | .codeTimeLeft email =>
    .ofReply .seconds [.timeLeft (CodeKey.ofAddress email)] (Issuance.codeTimeLeft cast email w)
  | .cacheHealthy => .ofReply .flag [] (Issuance.cacheHealthy cast w)
  | .rig change => ⟨.nothing, { w with faults := change w.faults }, [], []⟩
  | .setMailboxFailing failing =>
    ⟨.nothing, { w with mailbox := w.mailbox.setFailing failing }, [], []⟩
  | .resetMailbox => ⟨.nothing, { w with mailbox := w.mailbox.reset }, [], []⟩
  | .wait duration => ⟨.nothing, { w with now := w.now + duration }, [], []⟩
  | .direct action =>
    let r := Memory.perform w.now action w.cache
    .ofReply id [] (r.mapState fun cache => { w with cache })

end MailCode.Rehearsal
