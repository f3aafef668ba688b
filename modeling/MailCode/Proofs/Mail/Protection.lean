import MailCode.Proofs.Mail.ModestClient
import MailCode.Proofs.Mail.Sending
/-!
# What is said in the clear

A service whose settings ask for `STARTTLS` has a client that keeps its sessions to what is
documented upgrade the connection before anything else. Then neither credentials nor anything of a
mail is said in the clear, and there is no way around it: a relay that does not offer the upgrade,
does not grant it or does not go through with it gets no mail. Credentials are only ever the ones of
the settings.
-/

namespace MailCode.RelayService

variable {client : Smtp.Client} {ρ : Type}

/-- A service has its connections protected as the settings say, and no other credentials. -/
theorem transport_of_ofSettings {settings : MailSettings} {service : RelayService client}
    {events : List Event} (h : ofSettings client settings = (.ok service, events)) :
    service.transport = transportOf settings := by
  unfold ofSettings at h
  split at h
  · cases h
  · split at h
    · cases h
    · split at h
      · cases h
      · cases h
        rfl

theorem credentialsOf_isSome_iff {settings : MailSettings} :
    (credentialsOf settings).isSome ↔ ∃ username password,
      settings.smtpUsername = some username ∧ settings.smtpPassword = some password ∧
        credentialsOf settings = some (username, password) := by
  unfold credentialsOf
  split <;> simp_all

namespace Course

variable {service : RelayService client} {spareId : String} {mail : Mail}
  {said : List Smtp.Exchange} {outcome : Outcome BackendError String}

theorem isHarmless_of_inTheClear (h : Course service spareId mail said outcome)
    (hclient : client.IsDocumented) (hprotection : service.transport.protection = .upgraded) :
    ∀ x ∈ Smtp.inTheClear said, x.prompt.isHarmless := by
  cases h with
  | unsent => exact nofun
  | lost _ hplays | taken _ hplays =>
    exact fun _ => (hclient _ _ _ _ hplays).isHarmless_of_inTheClear hprotection

theorem error_or_upgraded (h : Course service spareId mail said outcome)
    (hclient : client.IsDocumented) (hprotection : service.transport.protection = .upgraded) :
    (∃ reason, outcome = .error (.mail reason)) ∨ Smtp.Upgraded said := by
  cases h with
  | unsent | lost => exact .inl ⟨_, rfl⟩
  | taken _ hplays => exact .inr ((hclient _ _ _ _ hplays).upgraded_of_ok hprotection)

theorem credentials_of_login (h : Course service spareId mail said outcome)
    (hclient : client.IsDocumented) {x : Smtp.Exchange} (hx : x ∈ said)
    (hlogin : x.prompt.phase = .login) : service.transport.credentials.isSome := by
  cases h with
  | unsent => cases hx
  | lost _ hplays | taken _ hplays =>
    exact (hclient _ _ _ _ hplays).authorised ⟨x, hx, hlogin⟩

end Course

/-- However the relay behaves, a service that is told to upgrade its connections by `STARTTLS` has
it hear nothing but harmless things in the clear, and a mail gets through only if the relay offers
the upgrade, grants it and goes through with it. Under any settings the service logs in only if both
a user name and a password are set, and with these. -/
theorem startTls_required (hclient : client.IsDocumented) {settings : MailSettings}
    {service : RelayService client} {events : List Event}
    (hservice : ofSettings client settings = (.ok service, events)) (relay : Smtp.Relay ρ)
    (spareId : String) (mail : Mail) (state : ρ) :
    let said := service.dialogue relay mail state
    let clear := Smtp.inTheClear said
    let reply := service.send relay spareId mail state
    Smtp.replay relay (said.map Smtp.Exchange.prompt) state = (said, reply.state) ∧
      (settings.smtpSecurity = .startTls →
        (∀ x ∈ clear, x.prompt.isHarmless) ∧
        ((¬ ∃ x ∈ clear, x.offersUpgrade) ∨ (¬ ∃ x ∈ clear, x.grantsUpgrade) ∨
            (¬ ∃ x ∈ said, x.protects) →
          ∃ reason, reply.outcome = .error (.mail reason))) ∧
      ∀ x ∈ said, x.prompt.phase = .login → ∃ username password,
        settings.smtpUsername = some username ∧ settings.smtpPassword = some password ∧
          service.transport.credentials = some (username, password) := by
  intro said clear reply
  have htransport := transport_of_ofSettings hservice
  have hcourse : Course service spareId mail said reply.outcome :=
    service.send_course relay spareId mail state
  refine ⟨service.send_replay relay spareId mail state, fun hstart => ?_, fun x hx hlogin => ?_⟩
  · have hprotection : service.transport.protection = .upgraded := by
      rw [htransport, transportOf, hstart]
      rfl
    refine ⟨hcourse.isHarmless_of_inTheClear hclient hprotection, fun hmissing => ?_⟩
    rcases hcourse.error_or_upgraded hclient hprotection with herror | hupgraded
    · exact herror
    · rcases hmissing with hno | hno | hno
      · exact absurd hupgraded.offered hno
      · exact absurd hupgraded.granted hno
      · exact absurd hupgraded.completed hno
  · have hcredentials : service.transport.credentials = credentialsOf settings := by
      rw [htransport]
      rfl
    rw [hcredentials]
    exact credentialsOf_isSome_iff.1 (hcredentials ▸ hcourse.credentials_of_login hclient hx hlogin)

/-- A relay that offers nothing of the kind hears a hello and no more, although there are
credentials. -/
theorem startTls_required_of_no_offer :
    let settings : MailSettings :=
      { MailSettings.default with
        provider := .smtp, smtpHost := "mail.example.com", fromAddress := "no-reply@example.com",
        smtpUsername := some "postmaster", smtpPassword := some "secret" }
    let service : RelayService Smtp.Client.modest :=
      ⟨transportOf settings, "no-reply@example.com", .startTls⟩
    let relay : Smtp.Relay Unit := fun p _ =>
      (match p with
        | .greeting => .reply 220 ["mail.example.com ESMTP"]
        | .command ⟨"EHLO", _⟩ => .reply 250 ["mail.example.com", "8BITMIME", "AUTH PLAIN LOGIN"]
        | _ => .agreed, ())
    let mail := Mail.ofCode "user@example.org" "123456"
    let said := service.dialogue relay mail ()
    ofSettings Smtp.Client.modest settings = (.ok service, [configured settings]) ∧
      settings.smtpSecurity = .startTls ∧
      service.transport.credentials = some ("postmaster", "secret") ∧
      said.map Smtp.Exchange.prompt = [.connection, .greeting, .hello] ∧
      (¬ ∃ x ∈ Smtp.inTheClear said, x.offersUpgrade) ∧
      ∃ reason, (service.send relay "1" mail ()).outcome = .error (.mail reason) := by
  intro settings service relay mail said
  have hservice : ofSettings Smtp.Client.modest settings = (.ok service, [configured settings]) := by
    have hsender : Smtp.Client.modest.parse "no-reply@example.com" = .ok "no-reply@example.com" :=
      Smtp.Client.modest_parse (by decide +kernel)
    simp only [ofSettings, settings, hsender]
    rfl
  have hsaid : said = [⟨.connection, .agreed⟩, ⟨.greeting, .reply 220 ["mail.example.com ESMTP"]⟩,
      ⟨.hello, .reply 250 ["mail.example.com", "8BITMIME", "AUTH PLAIN LOGIN"]⟩] := by
    decide +kernel
  have hoffers : ¬ ∃ x ∈ Smtp.inTheClear said, x.offersUpgrade := by
    rw [hsaid]
    decide
  obtain ⟨-, hstart, -⟩ :=
    startTls_required Smtp.Client.modest_isDocumented hservice relay "1" mail ()
  exact ⟨hservice, rfl, rfl, by rw [hsaid]; rfl, hoffers, (hstart rfl).2 (.inl hoffers)⟩

end MailCode.RelayService
