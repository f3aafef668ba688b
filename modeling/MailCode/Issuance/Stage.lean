import MailCode.Cache.Basic
import MailCode.Mail.Basic
import MailCode.Settings.Issuing
/-!
# Issuing a code
-/

namespace MailCode

/-!
## Whom an issuance works with

An issuance looks codes up and stores them in a cache, has fresh ones made by a generator and
hands mails to a provider. All of them work on one shared state `σ`; nothing is assumed of what
they answer.
-/

/-- The cache, the generator and the mail provider over a shared state. -/
structure Collaborators (σ : Type) where
  lookup (key : String) (s : σ) : Reply σ CacheError (Option String)
  store (key value : String) (lifetime : Nat) (s : σ) : Reply σ CacheError Unit
  storeIfAbsent (key value : String) (lifetime : Nat) (s : σ) : Reply σ CacheError StoreOutcome
  contains (key : String) (s : σ) : Reply σ CacheError Bool
  timeLeft (key : String) (s : σ) : Reply σ CacheError (Option Nat)
  healthy (s : σ) : Reply σ CacheError Bool
  generate (s : σ) : Reply σ GeneratorError String
  send (mail : Mail) (s : σ) : Reply σ BackendError String

/-- The same collaborators with another mail provider, which works on a part of the state. -/
def Collaborators.mailing {σ μ : Type} (c : Collaborators σ) (provider : σ → MailProvider μ)
    (get : σ → μ) (put : μ → σ → σ) : Collaborators σ :=
  { c with
    send := fun mail s => ((provider s).send mail (get s)).mapState fun part => put part s }

/-- A call to a collaborator. -/
inductive Call where
  | lookup (key : String)
  | generate
  | store (key value : String) (lifetime : Nat)
  | storeIfAbsent (key value : String) (lifetime : Nat)
  | send (mail : Mail)
  | contains (key : String)
  | timeLeft (key : String)
  deriving DecidableEq, Repr

end MailCode

namespace MailCode.Issuance

/-!
## One issuance, step by step

A request for a code is served in at most four steps. An issuance may be put aside between two
steps, never within one, so `step` is also what the interleavings of several issuances are made
of. A stage says what has just happened; what comes of it is for the next step:

1. from `start` an empty address is refused, and any other is looked up in the cache;
2. from `lookedUp` a code that was found is handed to the mail provider; if there is none, a code
   is generated and written with the settings' strategy;
3. from `written` the code that counts is handed to the mail provider;
4. from `handedOver` the provider takes the mail or refuses it.

Every step tells which calls it made and what was logged. `done` holds the answer; the step that
reaches it logs how the issuance ended. Nothing is tried twice: an error or a panic of a
collaborator ends the issuance, except that a refused mail is overlooked under the best-effort
policy. A panic leaves nothing to come back to, so it ends the issuance within its step.
-/

/-- Who logs the events of an issuance. -/
def target : String := "vs_core::services::verification::service"

/-- An event about an address. -/
def about (level : Level) (email name message : String) (more : List (String × Field)) : Event where
  level := level
  target := target
  message := message
  fields := [("email", .text (Address.mask email)), ("event", .text name)] ++ more

/-- A live code was found. -/
def codeReused (email : String) : Event :=
  about .debug email "code_reused" "Reusing live verification code" []

/-- A fresh code was written. -/
def codeStored (email : String) : Event :=
  about .debug email "code_stored" "Stored new verification code"
    [("ttl_seconds", .number codeLifetime)]

/-- Another issuance had written a code first. -/
def codeStoreLostRace (email : String) : Event :=
  about .debug email "code_store_lost_race" "Concurrent issuance stored first, reusing its code" []

/-- The mail was taken. -/
def codeDelivered (email messageId : String) : Event :=
  about .debug email "code_delivered" "Verification mail sent" [("message_id", .text messageId)]

/-- The mail was refused, and that is overlooked. -/
def codeDeliveryFailed (email : String) (e : DeliveryError) : Event :=
  about .warn email "code_delivery_failed"
    "Verification mail was not delivered; reporting success" [("error", .text e.text)]

/-- The issuance succeeded. -/
def codeIssued (email : String) : Event :=
  about .info email "code_issued" "Verification code issued" []

/-- The issuance failed. -/
def codeIssueFailed (email : String) (e : IssuanceError) : Event :=
  about .error email "code_issue_failed" "Verification code issuance failed"
    [("error", .text e.text), ("error_code", .text e.code.symbol)]

/-- How far an issuance has come. -/
inductive Stage where
  | start
  /-- The cache has answered whether there is a live code. -/
  | lookedUp (found : Except CacheError (Option String))
  /-- The cache has answered whether it took the fresh code. -/
  | written (code : String) (outcome : Except CacheError StoreOutcome)
  /-- The provider has the mail with the code, and has not answered yet. -/
  | handedOver (code : String)
  | done (answer : Answer)
  deriving DecidableEq, Repr

/-- The answer, once there is one. -/
def Stage.answer? : Stage → Option Answer
  | .done answer => some answer
  | _ => none

/-- What a step leaves behind, or several steps: the calls and the events are in the order in
which they happened. -/
structure Progress (σ : Type) where
  stage : Stage
  state : σ
  calls : List Call
  events : List Event

variable {σ : Type}

/-- The issuance ends without a code having reached anyone. -/
def fail (email : String) (e : IssuanceError) (s : σ) (calls : List Call) (events : List Event) :
    Progress σ :=
  ⟨.done ⟨email, e.code⟩, s, calls, events ++ [codeIssueFailed email e]⟩

/-- The issuance ends well. -/
def succeed (email : String) (s : σ) (events : List Event) : Progress σ :=
  ⟨.done ⟨email, .success⟩, s, [], events ++ [codeIssued email]⟩

/-- The error of an issuance that met a panic. -/
def panicked (p : Panic) : IssuanceError :=
  .panicked p.message

/-- Looks a live code up. -/
def lookUp (c : Collaborators σ) (email : String) (s : σ) : Progress σ :=
  if email.isEmpty then fail email (.invalidRequest "email is empty") s [] []
  else
    let key := CodeKey.ofAddress email
    let reply := c.lookup key s
    match reply.outcome with
    | .ok found => ⟨.lookedUp (.ok found), reply.state, [.lookup key], reply.events⟩
    | .error e => ⟨.lookedUp (.error e), reply.state, [.lookup key], reply.events⟩
    | .panic p => fail email (panicked p) reply.state [.lookup key] reply.events

/-- Writes a fresh code with the settings' strategy; the code that counts is the one that the key
holds afterwards. -/
def write (c : Collaborators σ) (strategy : Strategy) (email code : String) (s : σ) :
    Reply σ CacheError StoreOutcome :=
  let key := CodeKey.ofAddress email
  match strategy with
  | .checkThenSet => (c.store key code codeLifetime s).map fun () => .inserted
  | .setIfAbsent => c.storeIfAbsent key code codeLifetime s

/-- The call that `write` makes. -/
def writeCall (strategy : Strategy) (email code : String) : Call :=
  let key := CodeKey.ofAddress email
  match strategy with
  | .checkThenSet => .store key code codeLifetime
  | .setIfAbsent => .storeIfAbsent key code codeLifetime

/-- Generates a code and writes it. -/
def create (c : Collaborators σ) (strategy : Strategy) (email : String) (s : σ) : Progress σ :=
  let made := c.generate s
  match made.outcome with
  | .error e => fail email (.generator e) made.state [.generate] made.events
  | .panic p => fail email (panicked p) made.state [.generate] made.events
  | .ok code =>
    let calls := [.generate, writeCall strategy email code]
    let reply := write c strategy email code made.state
    let events := made.events ++ reply.events
    match reply.outcome with
    | .ok outcome => ⟨.written code (.ok outcome), reply.state, calls, events⟩
    | .error e => ⟨.written code (.error e), reply.state, calls, events⟩
    | .panic p => fail email (panicked p) reply.state calls events

/-- Hands the mail with a code to the provider, after an event that says whose code it is. -/
def handOver (email code : String) (resolved : Event) (s : σ) : Progress σ :=
  ⟨.handedOver code, s, [.send (Mail.ofCode email code)], [resolved]⟩

/-- Goes on from a lookup. -/
def afterLookup (c : Collaborators σ) (strategy : Strategy) (email : String)
    (found : Except CacheError (Option String)) (s : σ) : Progress σ :=
  match found with
  | .ok (some code) => handOver email code (codeReused email) s
  | .ok none => create c strategy email s
  | .error e => fail email (.cache e) s [] []

/-- Goes on from a write of `code`: if it lost to another one, that one's code counts. -/
def afterWrite (email code : String) (outcome : Except CacheError StoreOutcome) (s : σ) :
    Progress σ :=
  match outcome with
  | .ok .inserted => handOver email code (codeStored email) s
  | .ok (.existing winner) => handOver email winner (codeStoreLostRace email) s
  | .error e => fail email (.cache e) s [] []

/-- The provider takes the mail or refuses it. -/
def deliver (c : Collaborators σ) (policy : DeliveryPolicy) (email code : String) (s : σ) :
    Progress σ :=
  let sent := (c.send (Mail.ofCode email code) s).mapError BackendError.toDeliveryError
  match sent.outcome with
  | .ok messageId => succeed email sent.state (sent.events ++ [codeDelivered email messageId])
  | .error e =>
    if e.isRejection && policy == .bestEffort then
      succeed email sent.state (sent.events ++ [codeDeliveryFailed email e])
    else fail email (.delivery e) sent.state [] sent.events
  | .panic p => fail email (panicked p) sent.state [] sent.events

/-- One step of an issuance. -/
def step (c : Collaborators σ) (settings : IssuingSettings) (email : String) :
    Stage → σ → Progress σ
  | .start, s => lookUp c email s
  | .lookedUp found, s => afterLookup c settings.strategy email found s
  | .written code outcome, s => afterWrite email code outcome s
  | .handedOver code, s => deliver c settings.policy email code s
  | .done answer, s => ⟨.done answer, s, [], []⟩

/-- The steps so far and one more. -/
def Progress.next (c : Collaborators σ) (settings : IssuingSettings) (email : String)
    (p : Progress σ) : Progress σ :=
  let q := step c settings email p.stage p.state
  ⟨q.stage, q.state, p.calls ++ q.calls, p.events ++ q.events⟩

/-- Nothing done yet. -/
def Progress.begin (s : σ) : Progress σ :=
  ⟨.start, s, [], []⟩

/-- An issuance from start to end: four steps always reach the answer, see `issue_answer?`. -/
def issue (c : Collaborators σ) (settings : IssuingSettings) (email : String) (s : σ) :
    Progress σ :=
  ((((Progress.begin s).next c settings email).next c settings email).next c settings email).next
    c settings email

/-- How many steps may still follow. -/
def Stage.left : Stage → Nat
  | .start => 4
  | .lookedUp _ => 3
  | .written _ _ => 2
  | .handedOver _ => 1
  | .done _ => 0

/-- Every step brings the issuance closer to its answer. -/
theorem step_left_le (c : Collaborators σ) (settings : IssuingSettings) (email : String)
    (stage : Stage) (s : σ) :
    (step c settings email stage s).stage.left ≤ stage.left - 1 := by
  cases stage with
  | start =>
    simp only [step, lookUp, fail]
    split
    · simp [Stage.left]
    · split <;> simp [Stage.left]
  | lookedUp found =>
    simp only [step, afterLookup, create, handOver, fail]
    split
    · simp [Stage.left]
    · split
      · simp [Stage.left]
      · simp [Stage.left]
      · split <;> simp [Stage.left]
    · simp [Stage.left]
  | written code outcome =>
    simp only [step, afterWrite, handOver, fail]
    split <;> simp [Stage.left]
  | handedOver code =>
    simp only [step, deliver, fail, succeed]
    split
    · simp [Stage.left]
    · split <;> simp [Stage.left]
    · simp [Stage.left]
  | done answer => simp [step, Stage.left]

/-- A stage without steps left holds the answer. -/
theorem Stage.answer?_of_left {stage : Stage} (h : stage.left = 0) :
    ∃ answer, stage = .done answer := by
  cases stage <;> simp_all [Stage.left]

/-- An issuance that ran on its own has an answer. -/
theorem issue_answer? (c : Collaborators σ) (settings : IssuingSettings) (email : String)
    (s : σ) : ∃ answer, (issue c settings email s).stage = .done answer := by
  apply Stage.answer?_of_left
  have step_le (p : Progress σ) : (p.next c settings email).stage.left ≤ p.stage.left - 1 :=
    step_left_le c settings email p.stage p.state
  have h1 := step_le (Progress.begin s)
  have h2 := step_le ((Progress.begin s).next c settings email)
  have h3 := step_le (((Progress.begin s).next c settings email).next c settings email)
  have h4 := step_le ((((Progress.begin s).next c settings email).next c settings email).next
    c settings email)
  have h0 : (Progress.begin s).stage.left = 4 := rfl
  unfold issue
  omega

/-!
## Asking about codes without issuing any

Whether an address has a live code, how long that code lives, and whether the cache answers at
all. The first two pass on whatever the cache replies; a cache that fails to say how it is counts
as unwell, and the log says why.
-/

variable {σ : Type}

/-- Whether an address has a live code. -/
def hasLiveCode (c : Collaborators σ) (email : String) (s : σ) : Reply σ CacheError Bool :=
  c.contains (CodeKey.ofAddress email) s

/-- The seconds that an address's code has left. -/
def codeTimeLeft (c : Collaborators σ) (email : String) (s : σ) :
    Reply σ CacheError (Option Nat) :=
  c.timeLeft (CodeKey.ofAddress email) s

/-- The cache failed to say how it is. -/
def cacheHealthFailed (e : CacheError) : Event where
  level := .warn
  target := target
  message := "Cache health check failed"
  fields := [("error", .text e.text), ("event", .text "cache_health_failed")]

/-- Whether the cache answers and is well. -/
def cacheHealthy (c : Collaborators σ) (s : σ) : Reply σ CacheError Bool :=
  let r := c.healthy s
  match r.outcome with
  | .error e => ⟨.ok false, r.state, r.events ++ [cacheHealthFailed e]⟩
  | _ => r

end MailCode.Issuance
