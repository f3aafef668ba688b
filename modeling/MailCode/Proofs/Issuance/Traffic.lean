import MailCode.Proofs.Issuance.Backends
import MailCode.Proofs.Issuance.Course
import MailCode.Proofs.Redis.Line
/-!
# What an issuance sends to its server

Over the cache behind a server an issuance asks for at most one lookup and one write, and each of
them hands one command to the line. `Operation.Goes` sums up what can become of such a command; that
a code is mailed only after replies that were understood (`traffic_of_course`) is a case analysis
over the courses of an issuance.
-/

namespace MailCode

open Issuance

namespace Redis

open Memory (Result)

/-- A reply came back, and it means something for the command. -/
def Sent.IsUnderstood (x : Sent) : Prop :=
  ∃ (operation : Operation) (response : Response) (value : Result),
    x = ⟨operation.command, .ok response⟩ ∧ operation.meaning response = .ok value

/-- What goes out for an operation that succeeds or fails. -/
inductive Operation.Goes (operation : Operation) : (succeeds : Bool) → List Sent → Prop
  | refused : Goes operation false []
  | failed (received : Except String Response) :
      Goes operation false [⟨operation.command, received⟩]
  | understood {response : Response} {value : Result} :
      operation.meaning response = .ok value →
      Goes operation true [⟨operation.command, .ok response⟩]

theorem Operation.goes {σ : Type} (line : Line σ) (now : Nat) (s : σ) (operation : Operation) :
    operation.Goes (operation.perform line.server now s).outcome.isOk
      (line.sent now operation.command s) := by
  rw [perform_outcome]
  cases hreceived : (line.server now operation.command s).1 with
  | ok response =>
    rw [Line.sent_of_server hreceived]
    cases hmeaning : operation.meaning response with
    | ok value =>
      simp only [outcome, hmeaning]
      exact .understood hmeaning
    | error e =>
      simp only [outcome, hmeaning]
      exact .failed _
  | error reason =>
    rw [Line.sent]
    split
    · exact .failed _
    · exact .refused

section
variable {operation : Operation} {succeeds : Bool} {sent : List Sent}

theorem Operation.Goes.words (h : operation.Goes succeeds sent) :
    sent.map (·.command.words) <+: [operation.words] := by
  cases h with
  | refused => exact List.nil_prefix
  | failed received => rw [List.map_singleton, words_command]
  | understood hmeaning => rw [List.map_singleton, words_command]

/-- Where an operation succeeds, its command went out and the reply was understood. -/
theorem Operation.Goes.understood_of_succeeds (h : operation.Goes true sent) :
    ∃ x, sent = [x] ∧ x.command.words = operation.words ∧ x.IsUnderstood := by
  cases h with
  | understood hmeaning => exact ⟨_, rfl, words_command operation, _, _, _, rfl, hmeaning⟩

end

/-- The operation that writes a code. -/
def writeOperation (strategy : Strategy) (email code : String) : Operation :=
  match strategy with
  | .checkThenSet => .store (CodeKey.ofAddress email) code codeLifetime
  | .setIfAbsent => .storeIfAbsent (CodeKey.ofAddress email) code codeLifetime

/-- What one issuance sends, next to the calls that it makes. -/
structure Traffic (strategy : Strategy) (email : String) (calls : List Call)
    (sent : List Sent) : Prop where
  /-- At most two commands go out, the lookup first and then the write. -/
  order : ∃ code, sent.map (·.command.words) <+:
    [(Operation.lookup (CodeKey.ofAddress email)).words,
      (writeOperation strategy email code).words]
  /-- Before a mail something was sent, and every reply to it was understood. -/
  mailed : ∀ mail, .send mail ∈ calls → sent ≠ [] ∧ ∀ x ∈ sent, x.IsUnderstood

section
variable {σ τ : Type} {line : Line σ} {env : Surroundings τ} {log : List Sent} {s : σ} {t : τ}
  {x : (List Sent × σ) × τ} {es : List Event} {settings : IssuingSettings} {email : String}

theorem lookup_goes {key : String} {o : Outcome CacheError (Option String)}
    (h : (env.collaborators (gateway line.noted)).lookup key ((log, s), t) = ⟨o, x, es⟩) :
    ∃ sent s', x = ((log ++ sent, s'), t) ∧ (Operation.lookup key).Goes o.isOk sent := by
  have hgoes := Operation.goes line (env.now t) s (.lookup key)
  rw [Operation.perform, Reply.map, Outcome.isOk_map] at hgoes
  simp only [Surroundings.collaborators, gateway, Gateway.perform_noted] at h
  cases h
  exact ⟨_, _, rfl, hgoes⟩

theorem write_goes {strategy : Strategy} {code : String} {o : Outcome CacheError StoreOutcome}
    (h : write (env.collaborators (gateway line.noted)) strategy email code ((log, s), t) =
      ⟨o, x, es⟩) :
    ∃ sent s', x = ((log ++ sent, s'), t) ∧
      (writeOperation strategy email code).Goes o.isOk sent := by
  have hgoes := Operation.goes line (env.now t) s (writeOperation strategy email code)
  cases strategy with
  | checkThenSet =>
    rw [writeOperation, Operation.perform, Reply.map, Outcome.isOk_map] at hgoes
    simp only [write, Surroundings.collaborators, gateway, Gateway.perform_noted] at h
    cases h
    rw [Outcome.isOk_map]
    exact ⟨_, _, rfl, hgoes⟩
  | setIfAbsent =>
    rw [writeOperation, Operation.perform, Reply.map, Outcome.isOk_map] at hgoes
    simp only [write, Surroundings.collaborators, gateway, Gateway.storeIfAbsent_noted] at h
    cases h
    exact ⟨_, _, rfl, hgoes⟩

theorem generate_goes {cache : List Sent × σ} {o : Outcome GeneratorError String}
    (h : (env.collaborators (gateway line.noted)).generate (cache, t) = ⟨o, x, es⟩) :
    ∃ t', x = (cache, t') := by
  cases h
  exact ⟨_, rfl⟩

/-! ## By the end of an issuance -/

variable {strategy : Strategy} {succeeds : Bool} {sent₁ sent₂ : List Sent} {calls : List Call}

theorem traffic_of_nothing : Traffic strategy email [] [] where
  order := ⟨"", List.nil_prefix⟩
  mailed mail h := by cases h

/-- An issuance that has looked a code up, and mails one only if the lookup succeeded. -/
theorem traffic_of_lookup
    (hlookup : (Operation.lookup (CodeKey.ofAddress email)).Goes succeeds sent₁)
    (hmailed : ∀ mail, .send mail ∈ calls → succeeds = true) :
    Traffic strategy email calls sent₁ where
  order := ⟨"", hlookup.words.trans (List.prefix_append _ [_])⟩
  mailed mail h := by
    rw [hmailed mail h] at hlookup
    obtain ⟨x, rfl, -, hx⟩ := hlookup.understood_of_succeeds
    exact ⟨List.cons_ne_nil _ _, List.forall_mem_singleton.2 hx⟩

/-- An issuance that has looked a code up in vain and written one, and mails one only if the write
succeeded. -/
theorem traffic_of_write {code : String}
    (hlookup : (Operation.lookup (CodeKey.ofAddress email)).Goes true sent₁)
    (hwrite : (writeOperation strategy email code).Goes succeeds sent₂)
    (hmailed : ∀ mail, .send mail ∈ calls → succeeds = true) :
    Traffic strategy email calls (sent₁ ++ sent₂) := by
  obtain ⟨x, rfl, hwords, hx⟩ := hlookup.understood_of_succeeds
  constructor
  · refine ⟨code, ?_⟩
    rw [List.singleton_append, List.map_cons, hwords]
    exact (List.cons_prefix_cons).2 ⟨rfl, hwrite.words⟩
  · intro mail h
    rw [hmailed mail h] at hwrite
    obtain ⟨y, rfl, -, hy⟩ := hwrite.understood_of_succeeds
    exact ⟨List.cons_ne_nil _ _, List.forall_mem_cons.2 ⟨hx, List.forall_mem_singleton.2 hy⟩⟩

theorem traffic_of_course {said : List Exchange} {p : Progress ((List Sent × σ) × τ)}
    (h : Course (env.collaborators (gateway line.noted)) settings email ((log, s), t) said p) :
    ∃ sent, p.state.1.1 = log ++ sent ∧ Traffic settings.strategy email p.calls sent := by
  cases h with
  | refused he => exact ⟨[], (List.append_nil log).symm, traffic_of_nothing⟩
  | lookupFailed hne hl ho =>
    obtain ⟨sent, s', rfl, hgoes⟩ := lookup_goes hl
    exact ⟨sent, rfl, traffic_of_lookup hgoes (by simp [fail])⟩
  | hit hne hl =>
    obtain ⟨sent, s', rfl, hgoes⟩ := lookup_goes hl
    refine ⟨sent, ?_, traffic_of_lookup hgoes fun _ _ => rfl⟩
    rw [finish_state]
    rfl
  | generatorFailed hne hl hg ho =>
    obtain ⟨sent, s', rfl, hgoes⟩ := lookup_goes hl
    obtain ⟨t', rfl⟩ := generate_goes hg
    exact ⟨sent, rfl, traffic_of_lookup hgoes (by simp [fail])⟩
  | writeFailed hne hl hg hw ho =>
    obtain ⟨sent, s', rfl, hgoes⟩ := lookup_goes hl
    obtain ⟨t', rfl⟩ := generate_goes hg
    obtain ⟨sent', s'', rfl, hgoes'⟩ := write_goes hw
    refine ⟨sent ++ sent', List.append_assoc log sent sent', traffic_of_write hgoes hgoes' ?_⟩
    cases settings.strategy <;> simp [fail, writeCall]
  | stored hne hl hg hw =>
    obtain ⟨sent, s', rfl, hgoes⟩ := lookup_goes hl
    obtain ⟨t', rfl⟩ := generate_goes hg
    obtain ⟨sent', s'', rfl, hgoes'⟩ := write_goes hw
    refine ⟨sent ++ sent', ?_, traffic_of_write hgoes hgoes' fun _ _ => rfl⟩
    rw [finish_state, ← List.append_assoc]
    rfl
  | lost hne hl hg hw =>
    obtain ⟨sent, s', rfl, hgoes⟩ := lookup_goes hl
    obtain ⟨t', rfl⟩ := generate_goes hg
    obtain ⟨sent', s'', rfl, hgoes'⟩ := write_goes hw
    refine ⟨sent ++ sent', ?_, traffic_of_write hgoes hgoes' fun _ _ => rfl⟩
    rw [finish_state, ← List.append_assoc]
    rfl

/-! ## Writing down what is sent -/

/-- States belong together that are the same but for what has been written down. -/
def unnoted (σ τ : Type) : Likeness (σ × τ) ((List Sent × σ) × τ) where
  states s s' := (s'.1.2, s'.2) = s
  codes := Eq
  compares _ := true

theorem collaborators_noted (line : Line σ) (env : Surroundings τ) :
    (env.collaborators (gateway line.server)).Akin (unnoted σ τ)
      (env.collaborators (gateway line.noted)) where
  lookup key := by
    rintro _ ⟨⟨log, s⟩, t⟩ rfl
    simp only [Surroundings.collaborators, gateway, Gateway.perform_noted]
    refine ⟨.refl (fun found => ?_) _, rfl, rfl⟩
    cases found with
    | none => exact .none
    | some code => exact .some rfl
  store key code code' := by
    rintro _ ⟨⟨log, s⟩, t⟩ rfl rfl
    simp only [Surroundings.collaborators, gateway, Gateway.perform_noted]
    exact ⟨.refl (fun _ => rfl) _, rfl, rfl⟩
  storeIfAbsent key code code' := by
    rintro _ ⟨⟨log, s⟩, t⟩ rfl rfl
    simp only [Surroundings.collaborators, gateway, Gateway.storeIfAbsent_noted]
    refine ⟨.refl (fun outcome => ?_) _, rfl, rfl⟩
    cases outcome with
    | inserted => exact .inserted
    | existing winner => exact .existing rfl
  generate := by
    rintro _ ⟨⟨log, s⟩, t⟩ rfl
    exact ⟨.refl (fun _ => rfl) _, rfl, rfl⟩
  send email code code' := by
    rintro _ ⟨⟨log, s⟩, t⟩ rfl rfl
    exact ⟨.refl (fun _ => rfl) _, rfl, rfl⟩

end

/-- Whatever a server does, every operation of the cache behind it sends one command while the line
is open, and one at most otherwise, with its key and its value word for word; what comes back for it
is made a value, or one error. So an issuance sends no more than a lookup and then a write, and a
mail only if it understood every reply; writing down what is sent changes nothing of it. Every
server can be at the other end of a line, also of one that is always open. -/
theorem one_command_each {σ : Type} :
    (∀ (line : Line σ) (now : Nat) (s : σ) (operation : Operation),
      operation.OneCommand line now s) ∧
    (∀ (line : Line σ) (τ : Type) (env : Surroundings τ) (settings : IssuingSettings)
      (email : String) (log : List Sent) (s : σ) (t : τ),
      let p := issue (env.collaborators (gateway line.server)) settings email (s, t)
      let noted := issue (env.collaborators (gateway line.noted)) settings email ((log, s), t)
      noted.stage = p.stage ∧ noted.calls = p.calls ∧ (noted.state.1.2, noted.state.2) = p.state ∧
        ∃ sent, noted.state.1.1 = log ++ sent ∧
          Traffic settings.strategy email p.calls sent) ∧
    ∀ server : Server σ, ∃ line : Line σ, line.server = server ∧
      ∀ now s, line.isOpen now s = true := by
  refine ⟨fun line now s operation => operation.oneCommand line now s, ?_,
    fun server => ⟨.ofServer server, Line.server_ofServer server, fun _ _ => rfl⟩⟩
  intro line τ env settings email log s t p noted
  have hstates : (unnoted σ τ).states (s, t) ((log, s), t) := rfl
  have hakin : p.Akin (unnoted σ τ) noted :=
    akin_issue (collaborators_noted line env) hstates settings email
  obtain ⟨hstage, hcalls⟩ := hakin.eq rfl
  have hcourse := issue_course (env.collaborators (gateway line.noted)) settings email ((log, s), t)
  obtain ⟨sent, hsent, htraffic⟩ := traffic_of_course hcourse
  exact ⟨hstage, hcalls, hakin.state, sent, hsent, hcalls ▸ htraffic⟩

end Redis

end MailCode
