import MailCode.Issuance.Stage
/-!
# What an issuance and its collaborators say to each other

`Collaborators.recorded` writes every exchange down, the call and the reply to it. A `dialogue` is
what has been written down by the end of an issuance.
-/

namespace MailCode

namespace Outcome

variable {ε α β : Type} {o : Outcome ε α}

/-- Whether a call gave a value, and neither an error nor a panic. -/
def isOk : Outcome ε α → Bool
  | .ok _ => true
  | _ => false

/-- What an issuance makes of a call that gave no value. -/
def failure? (describe : ε → IssuanceError) : Outcome ε α → Option IssuanceError
  | .ok _ => none
  | .error e => some (describe e)
  | .panic p => some (Issuance.panicked p)

theorem isOk_map (f : α → β) (o : Outcome ε α) : (o.map f).isOk = o.isOk := by
  cases o <;> rfl

theorem isOk_of_failure? {describe : ε → IssuanceError} {e : IssuanceError}
    (h : o.failure? describe = some e) : o.isOk = false := by
  cases o with
  | ok a => cases h
  | error e => rfl
  | panic p => rfl

theorem exists_failure? (describe : ε → IssuanceError) (h : o.isOk = false) :
    ∃ e, o.failure? describe = some e := by
  cases o with
  | ok a => cases h
  | error e => exact ⟨_, rfl⟩
  | panic p => exact ⟨_, rfl⟩

end Outcome

/-- A call to a collaborator together with its reply. -/
inductive Exchange where
  | lookup (key : String) (reply : Outcome CacheError (Option String))
  | store (key value : String) (lifetime : Nat) (reply : Outcome CacheError Unit)
  | storeIfAbsent (key value : String) (lifetime : Nat) (reply : Outcome CacheError StoreOutcome)
  | contains (key : String) (reply : Outcome CacheError Bool)
  | timeLeft (key : String) (reply : Outcome CacheError (Option Nat))
  | healthy (reply : Outcome CacheError Bool)
  | generate (reply : Outcome GeneratorError String)
  | send (mail : Mail) (reply : Outcome BackendError String)

namespace Exchange

/-- The call of an exchange. Asking a cache how it is does not count as one. -/
def call? : Exchange → Option Call
  | .lookup key _ => some (.lookup key)
  | .store key value lifetime _ => some (.store key value lifetime)
  | .storeIfAbsent key value lifetime _ => some (.storeIfAbsent key value lifetime)
  | .contains key _ => some (.contains key)
  | .timeLeft key _ => some (.timeLeft key)
  | .healthy _ => none
  | .generate _ => some .generate
  | .send mail _ => some (.send mail)

/-- Whether the reply was a value. -/
def answered : Exchange → Bool
  | .lookup _ reply => reply.isOk
  | .store _ _ _ reply => reply.isOk
  | .storeIfAbsent _ _ _ reply => reply.isOk
  | .contains _ reply => reply.isOk
  | .timeLeft _ reply => reply.isOk
  | .healthy reply => reply.isOk
  | .generate reply => reply.isOk
  | .send _ reply => reply.isOk

/-- Whether something was to be written to the cache. -/
def isWrite : Exchange → Bool
  | .store .. | .storeIfAbsent .. => true
  | _ => false

/-- Whether a mail was to be sent. -/
def isSend : Exchange → Bool
  | .send .. => true
  | _ => false

/-- What was written to the cache, if it was. -/
def written? : Exchange → Option String
  | .store _ value _ (.ok ()) | .storeIfAbsent _ value _ (.ok .inserted) => some value
  | _ => none

@[simp] theorem written?_lookup (key : String) (reply : Outcome CacheError (Option String)) :
    (lookup key reply).written? = none := rfl

@[simp] theorem written?_generate (reply : Outcome GeneratorError String) :
    (generate reply).written? = none := rfl

@[simp] theorem written?_send (mail : Mail) (reply : Outcome BackendError String) :
    (send mail reply).written? = none := rfl

end Exchange

/-- The reply of a call that is written down. -/
def Reply.noted {σ ε α : Type} (r : Reply σ ε α) (log : List Exchange)
    (note : Outcome ε α → Exchange) : Reply (List Exchange × σ) ε α :=
  ⟨r.outcome, (log ++ [note r.outcome], r.state), r.events⟩

/-- The same collaborators, with every exchange written down. -/
def Collaborators.recorded {σ : Type} (c : Collaborators σ) : Collaborators (List Exchange × σ) where
  lookup key s := (c.lookup key s.2).noted s.1 (.lookup key)
  store key value lifetime s :=
    (c.store key value lifetime s.2).noted s.1 (.store key value lifetime)
  storeIfAbsent key value lifetime s :=
    (c.storeIfAbsent key value lifetime s.2).noted s.1 (.storeIfAbsent key value lifetime)
  contains key s := (c.contains key s.2).noted s.1 (.contains key)
  timeLeft key s := (c.timeLeft key s.2).noted s.1 (.timeLeft key)
  healthy s := (c.healthy s.2).noted s.1 .healthy
  generate s := (c.generate s.2).noted s.1 .generate
  send mail s := (c.send mail s.2).noted s.1 (.send mail)

namespace Issuance

variable {σ : Type}

/-- What is written down during one issuance. -/
def dialogue (c : Collaborators σ) (settings : IssuingSettings) (email : String) (s : σ) :
    List Exchange :=
  (issue c.recorded settings email ([], s)).state.1

/-- The exchange that writes a code. -/
def writeExchange (strategy : Strategy) (email code : String)
    (reply : Outcome CacheError StoreOutcome) : Exchange :=
  match strategy with
  | .checkThenSet => .store (CodeKey.ofAddress email) code codeLifetime (reply.map fun _ => ())
  | .setIfAbsent => .storeIfAbsent (CodeKey.ofAddress email) code codeLifetime reply

theorem call?_writeExchange (strategy : Strategy) (email code : String)
    (reply : Outcome CacheError StoreOutcome) :
    (writeExchange strategy email code reply).call? = some (writeCall strategy email code) := by
  cases strategy <;> rfl

@[simp] theorem written?_writeExchange_inserted (strategy : Strategy) (email code : String) :
    (writeExchange strategy email code (.ok .inserted)).written? = some code := by
  cases strategy <;> rfl

theorem written?_writeExchange_failed {o : Outcome CacheError StoreOutcome} (h : o.isOk = false)
    (strategy : Strategy) (email code : String) :
    (writeExchange strategy email code o).written? = none := by
  cases o with
  | ok outcome => cases h
  | error e => cases strategy <;> rfl
  | panic p => cases strategy <;> rfl

/-- Only a write that leaves live codes alone can find one. -/
theorem strategy_of_existing {c : Collaborators σ} {strategy : Strategy} {code winner : String} {s s' : σ}
    {events : List Event}
    (hw : write c strategy email code s = ⟨.ok (.existing winner), s', events⟩) :
    strategy = .setIfAbsent := by
  cases strategy with
  | checkThenSet =>
    have ho := congrArg Reply.outcome hw
    simp only [write, Reply.map] at ho
    cases hs : (c.store (CodeKey.ofAddress email) code codeLifetime s).outcome <;>
      simp [hs, Outcome.map] at ho
  | setIfAbsent => rfl

theorem write_recorded (c : Collaborators σ) (strategy : Strategy) (email code : String)
    (log : List Exchange) (s : σ) :
    write c.recorded strategy email code (log, s) =
      (write c strategy email code s).noted log (writeExchange strategy email code) := by
  cases strategy with
  | checkThenSet =>
    have hmap (o : Outcome CacheError Unit) :
        (o.map fun _ => StoreOutcome.inserted).map (fun _ => ()) = o := by cases o <;> rfl
    simp only [write, Collaborators.recorded, Reply.noted, Reply.map, writeExchange, hmap]
  | setIfAbsent => rfl

end Issuance

end MailCode
