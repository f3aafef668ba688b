import MailCode.Proofs.Issuance.Replay
/-!
# What the answer to a request tells

An answer repeats the address and names one of four outcomes. `Tells` says which replies of the
collaborators lead to which of them; `answer_tells` says that this is so of every request, after
whatever requests came before it. Nothing is ever undone: what a request leaves behind is what its
calls leave behind, made again in the same order (`replay`), and a panic is no exception to that.
-/

namespace MailCode

variable {σ : Type}

namespace Outcome

variable {ε α : Type} {o : Outcome ε α}

/-- Whether a call gave an error of its own kind. -/
def isError : Outcome ε α → Bool
  | .error _ => true
  | _ => false

/-- Whether a call panicked. -/
def isPanic : Outcome ε α → Bool
  | .panic _ => true
  | _ => false

theorem isError_of_isOk (h : o.isOk = true) : o.isError = false := by
  cases o with
  | ok a => rfl
  | error e => cases h
  | panic p => cases h

theorem isPanic_of_isOk (h : o.isOk = true) : o.isPanic = false := by
  cases o with
  | ok a => rfl
  | error e => cases h
  | panic p => cases h

theorem isPanic_of_isError (h : o.isError = true) : o.isPanic = false := by
  cases o with
  | ok a => cases h
  | error e => rfl
  | panic p => cases h

theorem isError_map {β : Type} (f : α → β) (o : Outcome ε α) : (o.map f).isError = o.isError := by
  cases o <;> rfl

theorem isPanic_map {β : Type} (f : α → β) (o : Outcome ε α) : (o.map f).isPanic = o.isPanic := by
  cases o <;> rfl

end Outcome

namespace Exchange

/-- Whether the cache answered a call of an issuance with an error. -/
def isCacheError : Exchange → Bool
  | .lookup _ reply => reply.isError
  | .store _ _ _ reply => reply.isError
  | .storeIfAbsent _ _ _ reply => reply.isError
  | _ => false

/-- Whether the call panicked. -/
def isPanic : Exchange → Bool
  | .lookup _ reply => reply.isPanic
  | .store _ _ _ reply => reply.isPanic
  | .storeIfAbsent _ _ _ reply => reply.isPanic
  | .contains _ reply => reply.isPanic
  | .timeLeft _ reply => reply.isPanic
  | .healthy reply => reply.isPanic
  | .generate reply => reply.isPanic
  | .send _ reply => reply.isPanic

/-- The code that the cache is now known to hold, if there is one. -/
def settled? : Exchange → Option String
  | .lookup _ (.ok found) => found
  | .store _ value _ (.ok ()) | .storeIfAbsent _ value _ (.ok .inserted) => some value
  | .storeIfAbsent _ _ _ (.ok (.existing winner)) => some winner
  | _ => none

@[simp] theorem settled?_lookup (key : String) (found : Option String) :
    (lookup key (.ok found)).settled? = found := rfl

@[simp] theorem settled?_generate (reply : Outcome GeneratorError String) :
    (generate reply).settled? = none := rfl

end Exchange

namespace Issuance

variable {c : Collaborators σ} {settings : IssuingSettings} {email : String} {s : σ}

/-! ## The outcome of a request -/

/-- What an answer tells of what was said before it. -/
structure Tells (policy : DeliveryPolicy) (email : String) (said : List Exchange)
    (answer : Answer) : Prop where
  echoes : answer.email = email
  cacheError : answer.error = .cacheError ↔ email ≠ "" ∧ ∃ x ∈ said, x.isCacheError
  deliveryError : answer.error = .deliveryError ↔
    policy = .strict ∧ ∃ mail message, .send mail (.error (.mail message)) ∈ said
  success : answer.error = .success ↔ ∃ code sent, said.findSome? Exchange.settled? = some code ∧
    .send (Mail.ofCode email code) sent ∈ said ∧
    (sent.isOk ∨ policy = .bestEffort ∧ ∃ message, sent = .error (.mail message))
  exception : answer.error = .exception ↔ email = "" ∨ (∃ e, .generate (.error e) ∈ said) ∨
    (∃ mail e, .send mail (.error e) ∈ said ∧ ∀ message, e ≠ .mail message) ∨
    ∃ x ∈ said, x.isPanic

/-- What an answer says of a mail that was handed over. -/
def sentCode (policy : DeliveryPolicy) : Outcome BackendError String → ErrorCode
  | .ok _ => .success
  | .error (.mail _) => if policy = .bestEffort then .success else .deliveryError
  | .error _ | .panic _ => .exception

section
variable (policy : DeliveryPolicy) (sent : Outcome BackendError String)

theorem sentCode_ne_cacheError : sentCode policy sent ≠ .cacheError := by
  rcases sent with id | (e | m | m | m) | p <;> cases policy <;> simp [sentCode]

theorem sentCode_eq_deliveryError : sentCode policy sent = .deliveryError ↔
    policy = .strict ∧ ∃ message, sent = .error (.mail message) := by
  rcases sent with id | (e | m | m | m) | p <;> cases policy <;> simp [sentCode]

theorem sentCode_eq_success : sentCode policy sent = .success ↔
    sent.isOk ∨ policy = .bestEffort ∧ ∃ message, sent = .error (.mail message) := by
  rcases sent with id | (e | m | m | m) | p <;> cases policy <;> simp [sentCode, Outcome.isOk]

theorem sentCode_eq_exception : sentCode policy sent = .exception ↔
    (∃ e, sent = .error e ∧ ∀ message, e ≠ .mail message) ∨ sent.isPanic := by
  rcases sent with id | (e | m | m | m) | p <;> cases policy <;> simp [sentCode, Outcome.isPanic]

end

theorem deliver_answer (c : Collaborators σ) (policy : DeliveryPolicy) (email code : String)
    (s : σ) :
    (deliver c policy email code s).stage =
      .done ⟨email, sentCode policy (c.send (Mail.ofCode email code) s).outcome⟩ := by
  unfold deliver
  dsimp only [Reply.mapError]
  cases (c.send (Mail.ofCode email code) s).outcome with
  | ok id => rfl
  | panic p => rfl
  | error e => cases e <;> cases policy <;> rfl

/-- An exchange that came before the mail and gave a value. -/
def Preliminary (x : Exchange) : Prop :=
  x.answered = true ∧ x.isSend = false

theorem Preliminary.not_isCacheError {x : Exchange} (h : Preliminary x) :
    x.isCacheError = false := by
  obtain ⟨hanswered, -⟩ := h
  cases x with
  | lookup | store | storeIfAbsent => exact Outcome.isError_of_isOk hanswered
  | contains | timeLeft | healthy | generate | send => rfl

theorem Preliminary.not_isPanic {x : Exchange} (h : Preliminary x) : x.isPanic = false := by
  obtain ⟨hanswered, -⟩ := h
  cases x <;> exact Outcome.isPanic_of_isOk hanswered

theorem not_isPanic_of_isCacheError {x : Exchange} (h : x.isCacheError = true) :
    x.isPanic = false ∧ ∀ e, x ≠ .generate (.error e) := by
  cases x with
  | lookup | store | storeIfAbsent => exact ⟨Outcome.isPanic_of_isError h, nofun⟩
  | contains | timeLeft | healthy | generate | send => cases h

section
variable {policy : DeliveryPolicy} (earlier : List Exchange)

theorem exists_mem_append_singleton {α : Type} {holds : α → Prop} {l : List α}
    (h : ∀ x ∈ l, ¬holds x) (last : α) : (∃ x ∈ l ++ [last], holds x) ↔ holds last := by
  constructor
  · rintro ⟨x, hx, hholds⟩
    rcases List.mem_append.1 hx with hx | hx
    · exact absurd hholds (h x hx)
    · rwa [List.mem_singleton.1 hx] at hholds
  · exact fun hlast => ⟨last, List.mem_append_right l List.mem_cons_self, hlast⟩

/-- A request that came to its mail is answered by what became of the mail. -/
theorem tells_of_mailed {code : String} (hne : email ≠ "") (hearlier : ∀ x ∈ earlier, Preliminary x)
    (hcode : earlier.findSome? Exchange.settled? = some code)
    (sent : Outcome BackendError String) :
    Tells policy email (earlier ++ [.send (Mail.ofCode email code) sent])
      ⟨email, sentCode policy sent⟩ := by
  have hsend (mail : Mail) (reply : Outcome BackendError String) :
      .send mail reply ∈ earlier ++ [.send (Mail.ofCode email code) sent] ↔
        mail = Mail.ofCode email code ∧ sent = reply := by
    have hnone : .send mail reply ∉ earlier := fun hmem => by cases (hearlier _ hmem).2
    simp [hnone, eq_comm (a := reply)]
  have hgenerate (e : GeneratorError) :
      .generate (.error e) ∉ earlier ++ [.send (Mail.ofCode email code) sent] := by
    have hnone : .generate (.error e) ∉ earlier := fun hmem => by cases (hearlier _ hmem).1
    simp [hnone]
  constructor
  case echoes => rfl
  case cacheError =>
    rw [exists_mem_append_singleton fun x hx => by simp [(hearlier x hx).not_isCacheError]]
    simp [sentCode_ne_cacheError, Exchange.isCacheError]
  case deliveryError => simp [sentCode_eq_deliveryError, hsend]
  case success =>
    simp only [sentCode_eq_success, List.findSome?_append, hcode, Option.some_or, hsend]
    constructor
    · exact fun h => ⟨code, sent, rfl, ⟨rfl, rfl⟩, h⟩
    · rintro ⟨_, _, -, ⟨-, rfl⟩, h⟩
      exact h
  case exception =>
    rw [exists_mem_append_singleton fun x hx => by simp [(hearlier x hx).not_isPanic]]
    simp [sentCode_eq_exception, hsend, hgenerate, hne, Exchange.isPanic, and_assoc]

/-- A request that did not come to its mail is answered by what stopped it. -/
theorem tells_of_stopped {x : Exchange} (hne : email ≠ "")
    (hearlier : ∀ x ∈ earlier, Preliminary x) (hsend : x.isSend = false)
    (hstopped : x.isCacheError ∨ (∃ e, x = .generate (.error e)) ∨ x.isPanic) :
    Tells policy email (earlier ++ [x])
      ⟨email, if x.isCacheError then .cacheError else .exception⟩ := by
  have hsends (mail : Mail) (reply : Outcome BackendError String) :
      .send mail reply ∉ earlier ++ [x] := by
    intro hmem
    rcases List.mem_append.1 hmem with hmem | hmem
    · cases (hearlier _ hmem).2
    · rw [← List.mem_singleton.1 hmem] at hsend
      cases hsend
  have hgenerate (e : GeneratorError) :
      .generate (.error e) ∈ earlier ++ [x] ↔ x = .generate (.error e) := by
    have hnone : .generate (.error e) ∉ earlier := fun hmem => by cases (hearlier _ hmem).1
    simp [hnone, eq_comm (a := x)]
  constructor
  case echoes => rfl
  case cacheError =>
    rw [exists_mem_append_singleton fun x hx => by simp [(hearlier x hx).not_isCacheError]]
    cases x.isCacheError <;> simp [hne]
  case deliveryError => cases x.isCacheError <;> simp [hsends]
  case success => cases x.isCacheError <;> simp [hsends]
  case exception =>
    rw [exists_mem_append_singleton fun x hx => by simp [(hearlier x hx).not_isPanic]]
    cases hx : x.isCacheError with
    | true =>
      obtain ⟨hpanic, hmade⟩ := not_isPanic_of_isCacheError hx
      simp [hne, hsends, hgenerate, hpanic, hmade]
    | false => simpa [hx, hne, hsends, hgenerate] using hstopped

end

/-- What is answered when a call to the cache gave no value. -/
theorem code_of_cacheFailure {α : Type} {o : Outcome CacheError α} {e : IssuanceError}
    (h : o.failure? .cache = some e) :
    (o.isError ∨ o.isPanic) ∧ e.code = if o.isError then .cacheError else .exception := by
  cases o with
  | ok a => cases h
  | error d =>
    cases h
    exact ⟨.inl rfl, rfl⟩
  | panic p =>
    cases h
    exact ⟨.inr rfl, rfl⟩

theorem isCacheError_writeExchange (strategy : Strategy) (email code : String)
    (reply : Outcome CacheError StoreOutcome) :
    (writeExchange strategy email code reply).isCacheError = reply.isError := by
  cases strategy with
  | checkThenSet => exact Outcome.isError_map _ reply
  | setIfAbsent => rfl

theorem isPanic_writeExchange (strategy : Strategy) (email code : String)
    (reply : Outcome CacheError StoreOutcome) :
    (writeExchange strategy email code reply).isPanic = reply.isPanic := by
  cases strategy with
  | checkThenSet => exact Outcome.isPanic_map _ reply
  | setIfAbsent => rfl

theorem isSend_writeExchange (strategy : Strategy) (email code : String)
    (reply : Outcome CacheError StoreOutcome) :
    (writeExchange strategy email code reply).isSend = false := by
  cases strategy <;> rfl

/-- A write that gave a value is over before the mail, and tells which code is live. -/
theorem preliminary_writeExchange (strategy : Strategy) (email code : String)
    (outcome : StoreOutcome) : Preliminary (writeExchange strategy email code (.ok outcome)) := by
  cases strategy <;> exact ⟨rfl, rfl⟩

@[simp] theorem settled?_writeExchange_inserted (strategy : Strategy) (email code : String) :
    (writeExchange strategy email code (.ok .inserted)).settled? = some code := by
  cases strategy <;> rfl

theorem settled?_writeExchange_failed {o : Outcome CacheError StoreOutcome} (h : o.isOk = false)
    (strategy : Strategy) (email code : String) :
    (writeExchange strategy email code o).settled? = none := by
  cases o with
  | ok outcome => cases h
  | error e => cases strategy <;> rfl
  | panic p => cases strategy <;> rfl

/-- Whichever course an issuance takes, its answer tells what was said. -/
theorem Course.tells {said : List Exchange} {p : Progress σ}
    (h : Course c settings email s said p) :
    ∃ answer, p.stage = .done answer ∧ Tells settings.policy email said answer := by
  have hfound (code : String) :
      Preliminary (.lookup (CodeKey.ofAddress email) (.ok (some code))) := ⟨rfl, rfl⟩
  have hmissed : Preliminary (.lookup (CodeKey.ofAddress email) (.ok none)) := ⟨rfl, rfl⟩
  have hmade (code : String) : Preliminary (.generate (.ok code)) := ⟨rfl, rfl⟩
  cases h with
  | refused he =>
    refine ⟨_, rfl, ?_⟩
    constructor <;> simp [he, IssuanceError.code]
  | lookupFailed hne hl ho =>
    obtain ⟨hstopped, hcode⟩ := code_of_cacheFailure ho
    refine ⟨_, rfl, ?_⟩
    rw [hcode]
    exact tells_of_stopped [] hne (by simp) rfl (hstopped.imp_right .inr)
  | @hit code s₁ es₁ hne hl =>
    refine ⟨_, deliver_answer .., ?_⟩
    exact tells_of_mailed [_] hne (by simp [hfound]) rfl _
  | @generatorFailed s₁ es₁ o s₂ es₂ e hne hl hg ho =>
    refine ⟨_, rfl, ?_⟩
    cases o with
    | ok code => cases ho
    | error d =>
      cases ho
      exact tells_of_stopped [_] hne (by simp [hmissed]) rfl (.inr (.inl ⟨d, rfl⟩))
    | panic p =>
      cases ho
      exact tells_of_stopped [_] hne (by simp [hmissed]) rfl (.inr (.inr rfl))
  | writeFailed hne hl hg hw ho =>
    obtain ⟨hstopped, hcode⟩ := code_of_cacheFailure ho
    refine ⟨_, rfl, ?_⟩
    rw [hcode, ← isCacheError_writeExchange settings.strategy email]
    refine tells_of_stopped [_, _] hne (by simp [hmissed, hmade])
      (isSend_writeExchange ..) ?_
    rw [isCacheError_writeExchange, isPanic_writeExchange]
    exact hstopped.imp_right .inr
  | @stored w₁ es₁ code w₂ es₂ w₃ es₃ hne hl hg hw =>
    refine ⟨_, deliver_answer .., ?_⟩
    refine tells_of_mailed [_, _, _] hne
      (by simp [hmissed, hmade, preliminary_writeExchange]) ?_ _
    cases settings.strategy <;> rfl
  | @lost w₁ es₁ code w₂ es₂ winner w₃ es₃ hne hl hg hw =>
    refine ⟨_, deliver_answer .., ?_⟩
    refine tells_of_mailed [_, _, _] hne
      (by simp [hmissed, hmade, preliminary_writeExchange]) ?_ _
    rw [strategy_of_existing hw]
    rfl

/-- An issuance that has settled on a code comes to its mail, and is answered by what becomes of
that. -/
theorem Course.sent {said : List Exchange} {p : Progress σ}
    (h : Course c settings email s said p) {code : String}
    (hcode : said.findSome? Exchange.settled? = some code) :
    ∃ earlier s₁, replay c earlier s = (earlier, s₁) ∧
      said = earlier ++
        [.send (Mail.ofCode email code) (c.send (Mail.ofCode email code) s₁).outcome] ∧
      p.stage =
        .done ⟨email, sentCode settings.policy (c.send (Mail.ofCode email code) s₁).outcome⟩ := by
  cases h with
  | refused => cases hcode
  | @lookupFailed o _ _ _ hne hl ho =>
    cases o with
    | ok found => cases ho
    | error | panic => cases hcode
  | generatorFailed => cases hcode
  | @writeFailed _ _ code' _ _ o _ _ _ hne hl hg hw ho =>
    have hnone := settled?_writeExchange_failed (Outcome.isOk_of_failure? ho) settings.strategy
      email code'
    simp [List.findSome?_cons, hnone] at hcode
  | @hit code' s₁ es₁ hne hl =>
    obtain rfl : code' = code := Option.some.inj hcode
    exact ⟨[_], s₁, by simp only [replay, Exchange.again_lookup, hl], rfl, deliver_answer ..⟩
  | @stored s₁ es₁ code' s₂ es₂ s₃ es₃ hne hl hg hw =>
    obtain rfl : code' = code := by
      simpa [List.findSome?_cons] using hcode
    refine ⟨[_, _, _], s₃, ?_, rfl, deliver_answer ..⟩
    simp only [replay, Exchange.again_lookup, hl, Exchange.again_generate, hg,
      again_writeExchange hw]
  | @lost s₁ es₁ code' s₂ es₂ winner s₃ es₃ hne hl hg hw =>
    obtain rfl : winner = code := by
      rw [strategy_of_existing hw] at hcode
      exact Option.some.inj hcode
    refine ⟨[_, _, _], s₃, ?_, rfl, deliver_answer ..⟩
    simp only [replay, Exchange.again_lookup, hl, Exchange.again_generate, hg,
      again_writeExchange hw]

/-! ## Every request is answered -/

/-- A request is always answered, with its own address and with the outcome that `Tells` names,
whatever the collaborators do and whatever was asked before. What the calls did stays done: after
a panic the state is the one that the panicking call left, coming from what all the calls before
it had left, and whatever is asked later starts from there. -/
theorem answer_tells (c : Collaborators σ) (settings : IssuingSettings) (before : List Request)
    (email : String) (s : σ) :
    let heard := conversation c settings before s
    let present := serveAll c settings before s
    let p := issue c settings email present
    let said := dialogue c settings email present
    (∃ answer, p.stage = .done answer ∧ Tells settings.policy email said answer) ∧
      replay c (heard ++ said) s = (heard ++ said, p.state) ∧
      (∀ earlier x, said = earlier ++ [x] → x.isPanic →
        ∃ s₁, replay c (heard ++ earlier) s = (heard ++ earlier, s₁) ∧
          x.again c s₁ = (x, p.state)) ∧
      ∀ after,
        serveAll c settings (before ++ .issue email :: after) s =
          serveAll c settings after p.state ∧
        conversation c settings (before ++ .issue email :: after) s =
          heard ++ said ++ conversation c settings after p.state := by
  intro heard present p said
  have hcourse := issue_course c settings email present
  have hreplay : replay c (heard ++ said) s = (heard ++ said, p.state) := by
    rw [replay_append, (serveAll_recorded c settings before s).2, hcourse.replay_eq]
  refine ⟨hcourse.tells, hreplay, ?_, fun after => ⟨serveAll_append .., ?_⟩⟩
  · intro earlier x hsaid _
    rw [hsaid, ← List.append_assoc] at hreplay
    exact replay_concat hreplay
  · have hissue : conversation c settings [.issue email] present = said := rfl
    rw [List.append_cons, conversation_append, conversation_append, hissue, serveAll_append]
    rfl

end Issuance

end MailCode
