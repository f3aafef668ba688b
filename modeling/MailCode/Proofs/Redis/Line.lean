import MailCode.Cache.Memory
import MailCode.Proofs.Issuance.Dialogue
import MailCode.Redis.Client
/-!
# What goes over the line to a server

A `Line` leads to a server. It may be cut at any moment, and whoever is at its other end replies
what they like. `Line.noted` writes down each command that goes out, with what comes back for it.

An operation of the cache hands one command to the line and gives what the reply to it means: a
value, or the one error that its user hears of (`perform_outcome`). Writing down what is sent
changes nothing of that (`perform_noted`).
-/

namespace MailCode.Redis

open Memory (Result)

/-! ## The line -/

/-- What becomes of a command. -/
inductive Transmission where
  /-- It is sent and replied to. -/
  | answered (response : Response)
  /-- It is sent, and then the line is cut. -/
  | cut (reason : String)
  /-- It cannot be sent. -/
  | refused (reason : String)

namespace Transmission

/-- What the client gets to see of it. -/
def received : Transmission → Except String Response
  | .answered response => .ok response
  | .cut reason | .refused reason => .error reason

/-- Whether the command goes out. -/
def isSent : Transmission → Bool
  | .answered _ | .cut _ => true
  | .refused _ => false

theorem isSent_of_received {t : Transmission} {response : Response}
    (h : t.received = .ok response) : t.isSent = true := by
  cases t with
  | answered response => rfl
  | cut reason | refused reason => cases h

end Transmission

/-- A line to a server. While it is open every command goes out. -/
structure Line (σ : Type) where
  isOpen (now : Nat) (s : σ) : Bool
  transmit (now : Nat) (command : Command) (s : σ) : Transmission × σ
  isSent_of_isOpen : ∀ {now s}, isOpen now s = true →
    ∀ command, (transmit now command s).1.isSent = true

/-- A command that was sent, with what came back for it. -/
structure Sent where
  command : Command
  received : Except String Response

namespace Line

variable {σ : Type} (line : Line σ)

/-- The other end of the line, as the client knows it. -/
def server : Server σ := fun now command s =>
  ((line.transmit now command s).1.received, (line.transmit now command s).2)

/-- What goes out when a command is handed to the line. -/
def sent (now : Nat) (command : Command) (s : σ) : List Sent :=
  if (line.transmit now command s).1.isSent then
    [⟨command, (line.transmit now command s).1.received⟩]
  else []

/-- The same line, with all that goes out written down. -/
def noted : Server (List Sent × σ) := fun now command s =>
  ((line.server now command s.2).1,
    (s.1 ++ line.sent now command s.2, (line.server now command s.2).2))

/-- The line to a server that is never closed. -/
def ofServer (server : Server σ) : Line σ where
  isOpen _ _ := true
  transmit now command s :=
    match server now command s with
    | (.ok response, s) => (.answered response, s)
    | (.error reason, s) => (.cut reason, s)
  isSent_of_isOpen := by
    intro now s _ command
    rcases server now command s with ⟨_ | _, _⟩ <;> rfl

theorem server_ofServer (server : Server σ) : (ofServer server).server = server := by
  funext now command s
  simp only [Line.server, ofServer]
  rcases server now command s with ⟨_ | _, _⟩ <;> rfl

variable {line} {now : Nat} {s : σ} {command : Command}

theorem sent_length_le : (line.sent now command s).length ≤ 1 := by
  unfold sent
  split <;> simp

theorem sent_length_of_isOpen (h : line.isOpen now s = true) :
    (line.sent now command s).length = 1 := by
  rw [sent, if_pos (line.isSent_of_isOpen h command)]
  rfl

theorem eq_of_mem_sent {x : Sent} (h : x ∈ line.sent now command s) :
    x = ⟨command, (line.server now command s).1⟩ := by
  unfold sent at h
  split at h
  · exact List.mem_singleton.1 h
  · cases h

/-- What is replied to has been sent. -/
theorem sent_of_server {response : Response} (h : (line.server now command s).1 = .ok response) :
    line.sent now command s = [⟨command, .ok response⟩] := by
  have hreceived : (line.transmit now command s).1.received = .ok response := h
  rw [sent, if_pos (Transmission.isSent_of_received hreceived), hreceived]

end Line

/-! ## The operations -/

/-- An operation of the cache. -/
inductive Operation where
  | lookup (key : String)
  | store (key value : String) (lifetime : Nat)
  | storeIfAbsent (key value : String) (lifetime : Nat)
  | contains (key : String)
  | timeLeft (key : String)
  | healthy
  deriving DecidableEq, Repr

namespace Operation

/-- The command for an operation. -/
def command : Operation → Command
  | .lookup key => .get key
  | .store key value lifetime => .setExpiring key lifetime value
  | .storeIfAbsent key value lifetime => .setIfAbsent key value lifetime
  | .contains key => .contains key
  | .timeLeft key => .timeLeft key
  | .healthy => .ping

/-- The words to send for an operation. -/
def words : Operation → List String
  | .lookup key => ["GET", key]
  | .store key value lifetime => ["SETEX", key, Text.Decimal.text lifetime, value]
  | .storeIfAbsent key value lifetime =>
    ["SET", key, value, "NX", "GET", "EX", Text.Decimal.text lifetime]
  | .contains key => ["EXISTS", key]
  | .timeLeft key => ["TTL", key]
  | .healthy => ["PING"]

theorem words_command (operation : Operation) : operation.command.words = operation.words := by
  cases operation <;> rfl

/-- Carries an operation out. -/
def perform {σ : Type} (server : Server σ) (now : Nat) (s : σ) :
    Operation → Reply σ CacheError Result
  | .lookup key => ((gateway server).lookup now key s).map .text
  | .store key value lifetime =>
    ((gateway server).store now key value lifetime s).map fun () => .nothing
  | .storeIfAbsent key value lifetime =>
    ((gateway server).storeIfAbsent now key value lifetime s).map .stored
  | .contains key => ((gateway server).contains now key s).map .flag
  | .timeLeft key => ((gateway server).timeLeft now key s).map .seconds
  | .healthy => ((gateway server).healthy now s).map .flag

/-- What a reply to an operation's command means. -/
def meaning (r : Response) : Operation → Except Failure Result
  | .lookup _ => r.toText?.map .text
  | .store _ _ _ => r.toUnit.map fun () => .nothing
  | .storeIfAbsent _ _ _ => r.toText?.map fun previous =>
    .stored (previous.elim .inserted .existing)
  | .contains _ => r.toBool.map .flag
  | .timeLeft _ => r.toSeconds.map fun n => .seconds (if 0 ≤ n then some n.toNat else none)
  | .healthy => r.toText.map fun text => .flag (text == "PONG")

/-- What comes of an operation for which something was received: a value, or an error in the words
of the cache. -/
def outcome (received : Except String Response) (operation : Operation) :
    Outcome CacheError Result :=
  match received with
  | .error reason => .error (BackendError.cache (.network reason)).toCacheError
  | .ok response =>
    match operation.meaning response with
    | .ok value => .ok value
    | .error e => .error (BackendError.cache e).toCacheError

/-- A reply that signals an error has no other meaning, to whatever command it is. -/
theorem meaning_of_signalled {r : Response} {line : String} (h : r.signalled? = some line)
    (operation : Operation) : operation.meaning r = .error (.signalled line) := by
  have hchecked {α : Type} (read : Response → Except Failure α) :
      r.checked read = .error (.signalled line) := by
    rw [Response.checked, h]
  have htext? : r.toText? = .error (.signalled line) := by
    have htext : r.toText = .error (.signalled line) := hchecked _
    cases r with
    | nil => cases h
    | int | bulk | status | array | error => rw [Response.toText?, htext]; rfl; simp
  cases operation with
  | lookup key | storeIfAbsent key value lifetime => rw [meaning, htext?]; rfl
  | store key value lifetime => rw [meaning, Response.toUnit, hchecked]; rfl
  | contains key => rw [meaning, Response.toBool, hchecked]; rfl
  | timeLeft key => rw [meaning, Response.toSeconds, Response.toNumber, hchecked]; rfl
  | healthy => rw [meaning, Response.toText, hchecked]; rfl

end Operation

/-! ## What comes of an operation -/

section
variable {σ α : Type} (server : Server σ) (line : Line σ) (q : Query α) (operation key : String)
  (now : Nat) (log : List Sent) (s : σ)

theorem Gateway.perform_outcome :
    (perform server operation key q now s).outcome =
      match q.receive (server now q.command s).1 with
      | .ok (a, _) => .ok a
      | .error e => .error (BackendError.cache e).toCacheError := by
  simp only [perform, Query.run]
  cases q.receive (server now q.command s).1 <;> rfl

theorem Gateway.perform_noted :
    perform line.noted operation key q now (log, s) =
      (perform line.server operation key q now s).mapState
        (log ++ line.sent now q.command s, ·) := by
  simp only [perform, Query.run, Line.noted]
  cases q.receive (line.server now q.command s).1 <;> rfl

theorem Gateway.storeIfAbsent_noted (value : String) (lifetime : Nat) :
    storeIfAbsent line.noted now key value lifetime (log, s) =
      (storeIfAbsent line.server now key value lifetime s).mapState
        (log ++ line.sent now (.setIfAbsent key value lifetime) s, ·) := by
  simp only [storeIfAbsent, perform_noted]
  rcases perform line.server "set_nx" key (Client.setIfAbsent key value lifetime) now s
    with ⟨(_ | existing) | e | p, s', events⟩ <;> rfl

end

namespace Operation

variable {σ α : Type} (line : Line σ) (server : Server σ) (now : Nat) (log : List Sent) (s : σ)
  (operation : Operation)

/-- A query gives what is received for its command, if its reading of a reply is the meaning. -/
theorem outcome_of_read {operation : Operation} {q : Query α} {value : α → Result}
    (hread : ∀ r, (q.read r).map (fun a => value a.1) = operation.meaning r)
    (hcommand : q.command = operation.command) (name key : String) :
    (Gateway.perform server name key q now s).outcome.map value =
      operation.outcome (server now operation.command s).1 := by
  rw [Gateway.perform_outcome, hcommand]
  cases (server now operation.command s).1 with
  | error reason => rfl
  | ok r =>
    simp only [Query.receive, outcome, ← hread r]
    cases q.read r <;> rfl

/-- An operation gives what is received for its command, and nothing else. -/
theorem perform_outcome :
    (operation.perform server now s).outcome =
      operation.outcome (server now operation.command s).1 := by
  cases operation with
  | lookup key =>
    refine outcome_of_read server now s (fun r => ?_) rfl "get" key
    simp only [Client.get, meaning]
    cases r.toText? <;> rfl
  | store key text lifetime =>
    refine outcome_of_read server now s (fun r => ?_) rfl "set_ex" key
    simp only [Client.set, meaning]
    cases r.toUnit <;> rfl
  | storeIfAbsent key text lifetime =>
    let told (previous : Option String) : Result := .stored (previous.elim .inserted .existing)
    have hread (r : Response) : ((Client.setIfAbsent key text lifetime).read r).map (told ·.1) =
        (storeIfAbsent key text lifetime).meaning r := by
      simp only [Client.setIfAbsent, meaning]
      cases r.toText? <;> rfl
    rw [← outcome_of_read server now s hread rfl "set_nx" key]
    simp only [perform, gateway, Gateway.storeIfAbsent, Reply.map]
    cases (Gateway.perform server "set_nx" key (Client.setIfAbsent key text lifetime) now s).outcome
      with
    | ok previous => cases previous <;> rfl
    | error e | panic p => rfl
  | contains key =>
    refine outcome_of_read server now s (fun r => ?_) rfl "exists" key
    simp only [Client.contains, meaning]
    cases r.toBool <;> rfl
  | timeLeft key =>
    refine outcome_of_read server now s (fun r => ?_) rfl "ttl" key
    simp only [Client.timeLeft, meaning]
    cases r.toSeconds with
    | error e => rfl
    | ok n =>
      -- Of the negative numbers the client tells one from the others, but only in its log.
      rcases n with n | _ | n <;> rfl
  | healthy =>
    refine outcome_of_read server now s (fun r => ?_) rfl "ping" ""
    simp only [Client.ping, meaning]
    cases r.toText with
    | error e => rfl
    | ok text =>
      by_cases hpong : text = "PONG"
      · subst hpong; rfl
      · simp [Except.map, hpong]

/-- Writing down what goes out changes nothing else. -/
theorem perform_noted :
    operation.perform line.noted now (log, s) =
      (operation.perform line.server now s).mapState
        (log ++ line.sent now operation.command s, ·) := by
  cases operation with
  | storeIfAbsent key text lifetime =>
    exact congrArg (Reply.map Result.stored)
      (Gateway.storeIfAbsent_noted line key now log s text lifetime)
  | lookup | store | contains | timeLeft | healthy =>
    simp only [perform, gateway, Gateway.perform_noted]
    rfl

/-- What goes out for an operation, and what comes of it. -/
structure OneCommand : Prop where
  /-- Writing down what goes out changes nothing else. -/
  noted : ∀ log, operation.perform line.noted now (log, s) =
    (operation.perform line.server now s).mapState (log ++ line.sent now operation.command s, ·)
  /-- The words are those of the operation, with its key and its value as they are. -/
  words : ∀ x ∈ line.sent now operation.command s, x.command.words = operation.words ∧
    x.received = (line.server now operation.command s).1
  atMostOne : (line.sent now operation.command s).length ≤ 1
  one : line.isOpen now s = true → (line.sent now operation.command s).length = 1
  /-- A value or an error is given, according to what was received. -/
  outcome : (operation.perform line.server now s).outcome =
    operation.outcome (line.server now operation.command s).1
  settled : (∃ value, (operation.perform line.server now s).outcome = .ok value) ∨
    ∃ e, (operation.perform line.server now s).outcome = .error e
  /-- A line that is cut gives an error, whatever the operation. -/
  cut : ∀ reason, (line.server now operation.command s).1 = .error reason →
    (operation.perform line.server now s).outcome =
      .error (BackendError.cache (.network reason)).toCacheError
  /-- So does a reply that signals one. -/
  signalled : ∀ response text, (line.server now operation.command s).1 = .ok response →
    response.signalled? = some text →
    (operation.perform line.server now s).outcome =
      .error (BackendError.cache (.signalled text)).toCacheError

theorem oneCommand : OneCommand line now s operation where
  noted log := perform_noted line now log s operation
  words x hx := by
    rw [Line.eq_of_mem_sent hx]
    exact ⟨words_command operation, rfl⟩
  atMostOne := Line.sent_length_le
  one := Line.sent_length_of_isOpen
  outcome := perform_outcome line.server now s operation
  settled := by
    rw [perform_outcome]
    cases (line.server now operation.command s).1 with
    | error reason => exact .inr ⟨_, rfl⟩
    | ok response =>
      simp only [Operation.outcome]
      cases operation.meaning response with
      | ok value => exact .inl ⟨_, rfl⟩
      | error e => exact .inr ⟨_, rfl⟩
  cut reason h := by
    rw [perform_outcome, h]
    rfl
  signalled response text h hsignalled := by
    rw [perform_outcome, h]
    simp only [Operation.outcome, meaning_of_signalled hsignalled]

end Operation

end MailCode.Redis
