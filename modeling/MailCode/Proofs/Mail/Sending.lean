import MailCode.Mail.Relay
import MailCode.Proofs.Mail.Sessions
/-!
# What sending a mail comes to

A mail that cannot be put together is not sent at all. Any other leads to a session of the client,
and how that ends is how the call ends (`RelayService.send_course`). None of this asks anything of
the client.
-/

namespace MailCode.RelayService

variable {client : Smtp.Client} {ρ : Type}

/-- What is said when a mail is sent; nothing at all if there is no message. -/
def dialogue (service : RelayService client) (relay : Smtp.Relay ρ) (mail : Mail) (state : ρ) :
    List Smtp.Exchange :=
  match service.message mail with
  | .error _ => []
  | .ok message => ((client.session service.transport message).run relay state).said

/-- The ways that sending a mail can go, each with what is said and how the call ends. -/
inductive Course (service : RelayService client) (spareId : String) (mail : Mail) :
    List Smtp.Exchange → Outcome BackendError String → Prop
  | unsent {reason : String} : service.message mail = .error (.mail reason) →
      Course service spareId mail [] (.error (.mail reason))
  | lost {message : client.Message} {said : List Smtp.Exchange} {e : Smtp.Failure} :
      service.message mail = .ok message →
      (client.session service.transport message).Plays said (.error e) →
      Course service spareId mail said (.error (.mail ("SMTP send failed: " ++ e.text)))
  | taken {message : client.Message} {said : List Smtp.Exchange} {lines : List String} :
      service.message mail = .ok message →
      (client.session service.transport message).Plays said (.ok lines) →
      Course service spareId mail said (.ok (lines.headD ("smtp_" ++ spareId)))

/-- Whatever keeps a mail from being put together is an error of the mail. -/
theorem message_eq_error {service : RelayService client} {mail : Mail} {e : BackendError}
    (h : service.message mail = .error e) : ∃ reason, e = .mail reason := by
  unfold message at h
  split at h
  · exact ⟨_, (Except.error.inj h).symm⟩
  · split at h
    · exact ⟨_, (Except.error.inj h).symm⟩
    · cases h

variable (service : RelayService client) (relay : Smtp.Relay ρ) (spareId : String) (mail : Mail)
  (state : ρ)

theorem send_course :
    Course service spareId mail (service.dialogue relay mail state)
      (service.send relay spareId mail state).outcome := by
  unfold dialogue send
  cases hmessage : service.message mail with
  | error e =>
    obtain ⟨reason, rfl⟩ := message_eq_error hmessage
    exact .unsent hmessage
  | ok message =>
    have hplays := (client.session service.transport message).run_plays relay state
    dsimp only
    cases hresult : ((client.session service.transport message).run relay state).result with
    | error e => exact .lost hmessage (hresult ▸ hplays)
    | ok lines => exact .taken hmessage (hresult ▸ hplays)

/-- What was said is all that the relay was confronted with. -/
theorem send_replay :
    Smtp.replay relay ((service.dialogue relay mail state).map Smtp.Exchange.prompt) state =
      (service.dialogue relay mail state, (service.send relay spareId mail state).state) := by
  unfold dialogue send
  cases service.message mail with
  | error e => rfl
  | ok message =>
    dsimp only
    rw [Smtp.Session.replay_said]
    split <;> rfl

end MailCode.RelayService
