import MailCode.Proofs.Issuance.Verdict
import MailCode.Proofs.Mail.ModestClient
import MailCode.Proofs.Mail.Sending
import MailCode.Rehearsal.Action
/-!
# Mails that a relay does not take

Whatever goes wrong with a mail on its way through a relay, with its address, in putting it together
or at any point of the session, is a rejection and nothing else (`Course.outcome_eq`). An issuance
that hands its mails to a relay therefore never ends with an exception once it has settled on a
code.
-/

namespace MailCode

namespace RelayService

/-- A mail is sent exactly if the relay takes the content. Its id is then the first line of the
relay's reply, or made up if there is none; in any other case the error is one of the mail. -/
theorem Course.outcome_eq {client : Smtp.Client} {service : RelayService client}
    {spareId : String} {mail : Mail} {said : List Smtp.Exchange}
    {outcome : Outcome BackendError String} (h : Course service spareId mail said outcome)
    (hclient : client.IsDocumented) :
    match Smtp.acceptance? said with
    | some lines => outcome = .ok (lines.headD ("smtp_" ++ spareId))
    | none => ∃ reason, outcome = .error (.mail reason) := by
  cases h with
  | unsent => exact ⟨_, rfl⟩
  | lost _ hplays =>
    rw [← (hclient _ _ _ _ hplays).answered]
    exact ⟨_, rfl⟩
  | taken _ hplays => rw [← (hclient _ _ _ _ hplays).answered]; rfl

end RelayService

/-! ## Issuances that hand their mails to a relay -/

namespace Issuance

/-- What is answered of a mail that was handed to a relay. -/
theorem sentCode_of_course {client : Smtp.Client} {service : RelayService client}
    {spareId : String} {mail : Mail} {said : List Smtp.Exchange}
    {outcome : Outcome BackendError String} (h : service.Course spareId mail said outcome)
    (hclient : client.IsDocumented) (policy : DeliveryPolicy) :
    sentCode policy outcome =
      match policy with
      | .bestEffort => .success
      | .strict => if (Smtp.acceptance? said).isSome then .success else .deliveryError := by
  have houtcome := h.outcome_eq hclient
  cases hlines : Smtp.acceptance? said with
  | some lines =>
    rw [hlines] at houtcome
    rw [houtcome]
    cases policy <;> rfl
  | none =>
    rw [hlines] at houtcome
    obtain ⟨reason, rfl⟩ := houtcome
    cases policy <;> rfl

end Issuance

/-- Whatever the address of a mail and whatever a relay does, sending it gives an id exactly if the
relay takes the content, and an error of the mail in any other case, which counts as a rejection. So
once an issuance has settled on a code, its answer depends on the relay under the strict policy
only, and is no exception. -/
theorem RelayService.failures_rejected {client : Smtp.Client} {ρ σ : Type}
    (hclient : client.IsDocumented) (service : RelayService client) (relay : Smtp.Relay ρ) :
    (∀ spareId mail state,
      let said := service.dialogue relay mail state
      let reply := service.send relay spareId mail state
      Smtp.replay relay (said.map Smtp.Exchange.prompt) state = (said, reply.state) ∧
        match Smtp.acceptance? said with
        | some lines => reply.outcome = .ok (lines.headD ("smtp_" ++ spareId))
        | none => ∃ reason, reply.outcome = .error (.mail reason) ∧
            (reply.mapError BackendError.toDeliveryError).outcome = .error (.rejected reason)) ∧
    ∀ (base : Collaborators σ) (spareId : σ → String) (get : σ → ρ) (put : ρ → σ → σ)
      (settings : IssuingSettings) (email code : String) (s : σ),
      let c := base.mailing (fun s => service.provider relay (spareId s)) get put
      let said := Issuance.dialogue c settings email s
      said.findSome? Exchange.settled? = some code →
        ∃ earlier reply s₁, Issuance.replay c earlier s = (earlier, s₁) ∧
          said = earlier ++ [.send (Mail.ofCode email code) reply] ∧
          (Issuance.issue c settings email s).stage = .done ⟨email,
            match settings.policy with
            | .bestEffort => .success
            | .strict =>
              if (Smtp.acceptance?
                (service.dialogue relay (Mail.ofCode email code) (get s₁))).isSome then .success
              else .deliveryError⟩ := by
  constructor
  · intro spareId mail state said reply
    have houtcome := (service.send_course relay spareId mail state).outcome_eq hclient
    refine ⟨service.send_replay relay spareId mail state, ?_⟩
    cases hlines : Smtp.acceptance? said with
    | some lines =>
      rw [hlines] at houtcome
      exact houtcome
    | none =>
      rw [hlines] at houtcome
      obtain ⟨reason, hreason⟩ := houtcome
      exact ⟨reason, hreason, by rw [Reply.mapError, hreason]; rfl⟩
  · intro base spareId get put settings email code s c said hcode
    obtain ⟨earlier, s₁, hreplay, hsaid, hstage⟩ :=
      (Issuance.issue_course c settings email s).sent hcode
    refine ⟨earlier, _, s₁, hreplay, hsaid, ?_⟩
    rw [hstage]
    congr 2
    exact Issuance.sentCode_of_course (service.send_course relay _ _ (get s₁)) hclient
      settings.policy

/-- A relay that knows no recipient: the answer tells so, or overlooks it, as the policy has it. -/
theorem RelayService.failures_rejected_of_unknown :
    let service : RelayService Smtp.Client.modest :=
      ⟨⟨"mail.example.com", .wrapped, 465, 30, none⟩, "no-reply@example.com", .tls⟩
    let relay : Smtp.Relay Unit := fun p _ =>
      (match p with
        | .greeting => .reply 220 ["mail.example.com ESMTP"]
        | .command ⟨"EHLO", _⟩ => .reply 250 ["mail.example.com", "8BITMIME", "PIPELINING"]
        | .command ⟨"MAIL", _⟩ => .reply 250 ["2.1.0 Ok"]
        | .command ⟨"RCPT", _⟩ => .reply 550 ["5.1.1 User unknown"]
        | .command ⟨"QUIT", _⟩ => .reply 221 ["2.0.0 Bye"]
        | _ => .agreed, ())
    let c := (Rehearsal.World.collaborators Memory.gateway).mailing
      (fun _ => service.provider relay "1") (fun _ => ()) fun () world => world
    let world := Rehearsal.World.fresh Memory.empty (fun _ => "123456") fun _ => ""
    let said := service.dialogue relay (Mail.ofCode "user@example.org" "123456") ()
    let answer policy :=
      (Issuance.issue c ⟨.setIfAbsent, policy⟩ "user@example.org" world).stage.answer?
    said.map Smtp.Exchange.prompt =
        [.connection, .handshake, .greeting, .hello,
          .command ⟨"MAIL", "FROM:<no-reply@example.com>"⟩,
          .command ⟨"RCPT", "TO:<user@example.org>"⟩, .quit] ∧
      answer .strict = some ⟨"user@example.org", .deliveryError⟩ ∧
      answer .bestEffort = some ⟨"user@example.org", .success⟩ := by
  intro service relay c world said answer
  have hsettled (policy : DeliveryPolicy) :
      (Issuance.dialogue c ⟨.setIfAbsent, policy⟩ "user@example.org" world).findSome?
        Exchange.settled? = some "123456" := by
    cases policy <;> decide +kernel
  have hprompts : said.map Smtp.Exchange.prompt =
      [.connection, .handshake, .greeting, .hello,
        .command ⟨"MAIL", "FROM:<no-reply@example.com>"⟩,
        .command ⟨"RCPT", "TO:<user@example.org>"⟩, .quit] := by
    decide +kernel
  have hrefused : Smtp.acceptance? said = none := by
    decide +kernel
  have hanswer (policy : DeliveryPolicy) : answer policy = some ⟨"user@example.org",
      match policy with
      | .bestEffort => .success
      | .strict => .deliveryError⟩ := by
    obtain ⟨-, -, -, -, -, hstage⟩ :=
      (service.failures_rejected Smtp.Client.modest_isDocumented relay).2
        (Rehearsal.World.collaborators Memory.gateway) (fun _ => "1") (fun _ => ())
        (fun () world => world) ⟨.setIfAbsent, policy⟩ "user@example.org" "123456" world
        (hsettled policy)
    rw [hrefused] at hstage
    exact congrArg Issuance.Stage.answer? hstage
  exact ⟨hprompts, hanswer .strict, hanswer .bestEffort⟩

end MailCode
