import MailCode.Settings.App
import MailCode.Proofs.Settings.Reading
/-!
# The settings that the variables describe

Thirteen variables must be parsed where they are set (`Settings.demands`). Reading the settings
fails with the first of them that cannot be, whether or not its setting would have been used, and
otherwise gives the settings that the variables describe (`Settings.loading`).
-/

namespace MailCode

open Variables (word16 word32 word64)

variable {vars : Variables}

/-! ## What each setting is read from -/

/-- The server that the variables describe; two of its times have no variable. -/
structure ServerSettings.DescribedBy (vars : Variables) (s : ServerSettings) : Prop where
  host : vars.Reads "SERVER_HOST" .ok "127.0.0.1" s.host
  port : vars.Reads "SERVER_PORT" word16 50051 s.port
  workers : vars.Reads "SERVER_WORKERS" word64 0 s.workers
  maxPayloadSize : vars.Reads "SERVER_MAX_PAYLOAD_SIZE" word64 65536 s.maxPayloadSize
  keepAlive : s.keepAlive = 75
  shutdownTimeout : s.shutdownTimeout = 30

/-- The cache that the variables describe; the wait between two attempts has no variable. -/
structure CacheSettings.DescribedBy (vars : Variables) (s : CacheSettings) : Prop where
  backend : vars.Reads "CACHE_BACKEND" CacheBackend.parse .redis s.backend
  url : vars.Reads "REDIS_URL" .ok "redis://localhost:6379" s.url
  connectRetries : vars.Reads "REDIS_CONNECT_RETRIES" word32 3 s.connectRetries
  connectRetryDelay : s.connectRetryDelay = 100

/-- The mails that the variables describe; the port follows the protection that is read. -/
structure MailSettings.DescribedBy (vars : Variables) (s : MailSettings) : Prop where
  provider : vars.Reads "MAIL_PROVIDER" MailProviderKind.parse .mock s.provider
  smtpHost : vars.Reads "SMTP_HOST" .ok "" s.smtpHost
  smtpSecurity : vars.Reads "SMTP_SECURITY" SmtpSecurity.parse .startTls s.smtpSecurity
  smtpPort : vars.Reads "SMTP_PORT" word16 s.smtpSecurity.defaultPort s.smtpPort
  smtpUsername : ∀ text, s.smtpUsername = some text ↔ vars.Says "SMTP_USERNAME" text
  smtpPassword : ∀ text, s.smtpPassword = some text ↔ vars.Says "SMTP_PASSWORD" text
  fromAddress : vars.Reads "MAIL_FROM" .ok "no-reply@localhost" s.fromAddress
  timeout : vars.Reads "SMTP_TIMEOUT_SECS" word64 30 s.timeout

/-- Issuing as the variables describe it. -/
structure IssuingSettings.DescribedBy (vars : Variables) (s : IssuingSettings) : Prop where
  strategy : vars.Reads "VERIFY_ISSUANCE_STRATEGY" Strategy.parse .checkThenSet s.strategy
  policy : vars.Reads "VERIFY_DELIVERY_POLICY" DeliveryPolicy.parse .bestEffort s.policy

/-- The log that the variables describe for a deployment. -/
structure LoggingSettings.DescribedBy (vars : Variables) (d : Deployment) (s : LoggingSettings) :
    Prop where
  level : vars.Reads "LOG_LEVEL" .ok (LoggingSettings.forDeployment d).level s.level
  format : vars.Reads "LOG_FORMAT" LogFormat.parse (LoggingSettings.forDeployment d).format s.format
  sourceLocation : s.sourceLocation = (LoggingSettings.forDeployment d).sourceLocation

/-- The settings that the variables describe; the log suits the deployment that is read. -/
structure Settings.DescribedBy (vars : Variables) (s : Settings) : Prop where
  deployment : vars.Reads "ENVIRONMENT" Deployment.parse .development s.deployment
  server : s.server.DescribedBy vars
  cache : s.cache.DescribedBy vars
  mail : s.mail.DescribedBy vars
  issuing : s.issuing.DescribedBy vars
  logging : s.logging.DescribedBy vars s.deployment

/-! ## What is read is what is described -/

theorem ServerSettings.ofVariables_eq_ok_iff {s : ServerSettings} :
    ofVariables vars = .ok s ↔ s.DescribedBy vars := by
  simp only [ofVariables, bind_eq_ok_iff, Variables.valueOr_eq_ok_iff]
  constructor
  · rintro ⟨port, hport, workers, hworkers, maxPayloadSize, hmax, ⟨⟩⟩
    exact ⟨Variables.reads_textOr _ _, hport, hworkers, hmax, rfl, rfl⟩
  · intro h
    have hhost : vars.textOr "SERVER_HOST" default.host = s.host := Variables.textOr_eq_iff.2 h.host
    have hkeep : default.keepAlive = s.keepAlive := h.keepAlive.symm
    have hshutdown : default.shutdownTimeout = s.shutdownTimeout := h.shutdownTimeout.symm
    refine ⟨s.port, h.port, s.workers, h.workers, s.maxPayloadSize, h.maxPayloadSize, ?_⟩
    rw [hhost, hkeep, hshutdown]
    rfl

theorem CacheSettings.ofVariables_eq_ok_iff {s : CacheSettings} :
    ofVariables vars = .ok s ↔ s.DescribedBy vars := by
  simp only [ofVariables, bind_eq_ok_iff, Variables.valueOr_eq_ok_iff]
  constructor
  · rintro ⟨backend, hbackend, retries, hretries, ⟨⟩⟩
    exact ⟨hbackend, Variables.reads_textOr _ _, hretries, rfl⟩
  · intro h
    have hurl : vars.textOr "REDIS_URL" default.url = s.url := Variables.textOr_eq_iff.2 h.url
    have hdelay : default.connectRetryDelay = s.connectRetryDelay := h.connectRetryDelay.symm
    refine ⟨s.backend, h.backend, s.connectRetries, h.connectRetries, ?_⟩
    rw [hurl, hdelay]
    rfl

theorem MailSettings.ofVariables_eq_ok_iff {s : MailSettings} :
    ofVariables vars = .ok s ↔ s.DescribedBy vars := by
  simp only [ofVariables, bind_eq_ok_iff, Variables.valueOr_eq_ok_iff]
  constructor
  · rintro ⟨security, hsecurity, provider, hprovider, port, hport, timeout, htimeout, ⟨⟩⟩
    exact ⟨hprovider, Variables.reads_textOr _ _, hsecurity, hport,
      fun _ => Variables.text?_eq_some_iff, fun _ => Variables.text?_eq_some_iff,
      Variables.reads_textOr _ _, htimeout⟩
  · intro h
    have hhost : vars.textOr "SMTP_HOST" "" = s.smtpHost := Variables.textOr_eq_iff.2 h.smtpHost
    have husername : vars.text? "SMTP_USERNAME" = s.smtpUsername := by
      ext text
      rw [h.smtpUsername, Variables.text?_eq_some_iff]
    have hpassword : vars.text? "SMTP_PASSWORD" = s.smtpPassword := by
      ext text
      rw [h.smtpPassword, Variables.text?_eq_some_iff]
    have hfrom : vars.textOr "MAIL_FROM" default.fromAddress = s.fromAddress :=
      Variables.textOr_eq_iff.2 h.fromAddress
    refine ⟨s.smtpSecurity, h.smtpSecurity, s.provider, h.provider, s.smtpPort, h.smtpPort,
      s.timeout, h.timeout, ?_⟩
    rw [hhost, husername, hpassword, hfrom]
    rfl

theorem IssuingSettings.ofVariables_eq_ok_iff {s : IssuingSettings} :
    ofVariables vars = .ok s ↔ s.DescribedBy vars := by
  simp only [ofVariables, bind_eq_ok_iff, Variables.valueOr_eq_ok_iff]
  constructor
  · rintro ⟨strategy, hstrategy, policy, hpolicy, ⟨⟩⟩
    exact ⟨hstrategy, hpolicy⟩
  · intro h
    exact ⟨s.strategy, h.strategy, s.policy, h.policy, rfl⟩

theorem LoggingSettings.ofVariables_eq_ok_iff {d : Deployment} {s : LoggingSettings} :
    ofVariables vars d = .ok s ↔ s.DescribedBy vars d := by
  simp only [ofVariables, bind_eq_ok_iff, Variables.valueOr_eq_ok_iff]
  constructor
  · rintro ⟨format, hformat, ⟨⟩⟩
    exact ⟨Variables.reads_textOr _ _, hformat, rfl⟩
  · intro h
    refine ⟨s.format, h.format, ?_⟩
    rw [Variables.textOr_eq_iff.2 h.level, ← h.sourceLocation]
    rfl

theorem Settings.ofVariables_eq_ok_iff {s : Settings} :
    ofVariables vars = .ok s ↔ s.DescribedBy vars := by
  simp only [ofVariables, Deployment.ofVariables, bind_eq_ok_iff, Variables.valueOr_eq_ok_iff,
    ServerSettings.ofVariables_eq_ok_iff, CacheSettings.ofVariables_eq_ok_iff,
    MailSettings.ofVariables_eq_ok_iff, IssuingSettings.ofVariables_eq_ok_iff,
    LoggingSettings.ofVariables_eq_ok_iff]
  constructor
  · rintro ⟨deployment, hdeployment, server, hserver, cache, hcache, mail, hmail, issuing, hissuing,
      logging, hlogging, ⟨⟩⟩
    exact ⟨hdeployment, hserver, hcache, hmail, hissuing, hlogging⟩
  · intro h
    exact ⟨s.deployment, h.deployment, s.server, h.server, s.cache, h.cache, s.mail, h.mail,
      s.issuing, h.issuing, s.logging, h.logging, rfl⟩

/-! ## What is demanded -/

/-- The variables that must be parsed where they are set, in the order in which they are read. -/
def Settings.demands : List Demand :=
  [⟨"ENVIRONMENT", Deployment.parse⟩,
   ⟨"SERVER_PORT", word16⟩,
   ⟨"SERVER_WORKERS", word64⟩,
   ⟨"SERVER_MAX_PAYLOAD_SIZE", word64⟩,
   ⟨"CACHE_BACKEND", CacheBackend.parse⟩,
   ⟨"REDIS_CONNECT_RETRIES", word32⟩,
   ⟨"SMTP_SECURITY", SmtpSecurity.parse⟩,
   ⟨"MAIL_PROVIDER", MailProviderKind.parse⟩,
   ⟨"SMTP_PORT", word16⟩,
   ⟨"SMTP_TIMEOUT_SECS", word64⟩,
   ⟨"VERIFY_ISSUANCE_STRATEGY", Strategy.parse⟩,
   ⟨"VERIFY_DELIVERY_POLICY", DeliveryPolicy.parse⟩,
   ⟨"LOG_FORMAT", LogFormat.parse⟩]

theorem ServerSettings.loads : Loads vars (ofVariables vars)
    [⟨"SERVER_PORT", word16⟩, ⟨"SERVER_WORKERS", word64⟩,
      ⟨"SERVER_MAX_PAYLOAD_SIZE", word64⟩] :=
  .bind (.valueOr _ _ _) fun _ => .bind (.valueOr _ _ _) fun _ => .bind (.valueOr _ _ _) fun _ =>
    .pure _

theorem CacheSettings.loads : Loads vars (ofVariables vars)
    [⟨"CACHE_BACKEND", CacheBackend.parse⟩, ⟨"REDIS_CONNECT_RETRIES", word32⟩] :=
  .bind (.valueOr _ _ _) fun _ => .bind (.valueOr _ _ _) fun _ => .pure _

theorem MailSettings.loads : Loads vars (ofVariables vars)
    [⟨"SMTP_SECURITY", SmtpSecurity.parse⟩, ⟨"MAIL_PROVIDER", MailProviderKind.parse⟩,
      ⟨"SMTP_PORT", word16⟩, ⟨"SMTP_TIMEOUT_SECS", word64⟩] :=
  .bind (.valueOr _ _ _) fun _ => .bind (.valueOr _ _ _) fun _ => .bind (.valueOr _ _ _) fun _ =>
    .bind (.valueOr _ _ _) fun _ => .pure _

theorem IssuingSettings.loads : Loads vars (ofVariables vars)
    [⟨"VERIFY_ISSUANCE_STRATEGY", Strategy.parse⟩,
      ⟨"VERIFY_DELIVERY_POLICY", DeliveryPolicy.parse⟩] :=
  .bind (.valueOr _ _ _) fun _ => .bind (.valueOr _ _ _) fun _ => .pure _

theorem LoggingSettings.loads (d : Deployment) :
    Loads vars (ofVariables vars d) [⟨"LOG_FORMAT", LogFormat.parse⟩] :=
  .bind (.valueOr _ _ _) fun _ => .pure _

/-- The parts are read in the order in which the demands are listed. -/
theorem Settings.loads : Loads vars (ofVariables vars) demands :=
  .bind (.valueOr _ _ _) fun deployment => .bind ServerSettings.loads fun _ =>
    .bind CacheSettings.loads fun _ => .bind MailSettings.loads fun _ =>
      .bind IssuingSettings.loads fun _ => .bind (LoggingSettings.loads deployment) fun _ => .pure _

/-- What reading the settings from the variables comes to. -/
structure Settings.Loading (vars : Variables) : Prop where
  /-- What is read are the settings that the variables describe. -/
  ok_iff : ∀ s, ofVariables vars = .ok s ↔ s.DescribedBy vars
  /-- Settings are read as long as nothing is refused. -/
  succeeds_iff : (∃ s, ofVariables vars = .ok s) ↔ ∀ d ∈ demands, d.IsMet vars
  /-- The first variable that is refused is reported. -/
  error_iff : ∀ e, ofVariables vars = .error e ↔ Demand.FirstRefused vars demands e
  /-- Nothing but the thirteen variables decides on a failure. -/
  error_congr : ∀ vars' : Variables, (∀ d ∈ demands, vars'.lookup d.name = vars.lookup d.name) →
    ∀ e, ofVariables vars' = .error e ↔ ofVariables vars = .error e

/-- Reading the settings fails with the first variable that is set to what cannot be parsed, and
otherwise gives what the variables describe. -/
theorem Settings.loading (vars : Variables) : Loading vars where
  ok_iff _ := ofVariables_eq_ok_iff
  succeeds_iff := loads.succeeds_iff
  error_iff := loads
  error_congr vars' h e := by
    rw [loads e, loads e, Demand.firstRefused_congr h]

-- The protection is read before the provider, and both before the port.
example : Settings.ofVariables
    [("MAIL_PROVIDER", [120]), ("SMTP_PORT", [45, 49]), ("SMTP_SECURITY", [115, 115, 108])] =
      .error ⟨"SMTP_SECURITY", "ssl", "Invalid SMTP security mode: ssl"⟩ := by
  rfl

end MailCode
