import MailCode.Proofs.Json.Objects
import MailCode.Proofs.Settings.Loading
/-!
# Defaults that depend on other settings

The port of the relay is meant to follow the protection of the session where it is not set, and the
log is meant to suit the deployment. Both do so for settings that are read from variables. In JSON a
port that is missing is always that of the default protection, so there it follows only that one
(`smtpPort_by_default`), and a log that is missing is always the one for development
(`logging_by_default`).
-/

namespace MailCode

open Json

namespace MailSettings

theorem smtpPort_of_isUnset {vars : Variables} {s : MailSettings} (hs : ofVariables vars = .ok s)
    (hunset : vars.IsUnset "SMTP_PORT") : s.smtpPort = s.smtpSecurity.defaultPort := by
  have hport := (ofVariables_eq_ok_iff.1 hs).smtpPort
  exact hport.unique (.inr ⟨hunset, rfl⟩)

theorem smtpPort_of_lacks {body : Raw} {s : MailSettings} (hlacks : Lacks "smtp_port" body)
    (hs : (Tree.parse? body).bind ofTree? = some s) : s.smtpPort = default.smtpPort := by
  obtain ⟨t, ht, hs⟩ := Option.bind_eq_some_iff.1 hs
  simp only [ofTree?, Option.bind_eq_bind, Option.bind_eq_some_iff] at hs
  obtain ⟨r, hr, _, -, _, -, _, -, port, hport, _, -, _, -, _, -, _, -, ⟨⟩⟩ := hs
  rw [Record.withDefault_of_lacks hlacks ht hr] at hport
  exact (Option.some.inj hport).symm

theorem defaultPort_injective : Function.Injective SmtpSecurity.defaultPort := by
  intro p q
  cases p <;> cases q <;> decide

/-- A port that an object leaves out is that of the default protection, whichever protection the
object asks for. Where settings are read from variables it is the port of the protection that was
read. -/
theorem smtpPort_by_default {body : Raw} {s : MailSettings} (hlacks : Lacks "smtp_port" body)
    (hs : (Tree.parse? body).bind ofTree? = some s) :
    s.smtpPort = 587 ∧ (s.smtpPort = s.smtpSecurity.defaultPort ↔ s.smtpSecurity = .startTls) ∧
      ∀ vars r, ofVariables vars = .ok r → vars.IsUnset "SMTP_PORT" →
        r.smtpPort = r.smtpSecurity.defaultPort := by
  have hport : s.smtpPort = SmtpSecurity.startTls.defaultPort := smtpPort_of_lacks hlacks hs
  refine ⟨hport, ?_, fun vars r => smtpPort_of_isUnset⟩
  rw [hport, defaultPort_injective.eq_iff]
  exact eq_comm

/-- An object that leaves out the protection as well, and variables that ask for a session without
any. -/
theorem smtpPort_by_default_plain :
    let body := "\x7b\"provider\":\"mock\",\"from_address\":\"a@example.com\"\x7d".toUTF8.toList
    let vars : Variables := [("SMTP_SECURITY", [112, 108, 97, 105, 110])]
    Lacks "smtp_port" body ∧
      (∃ s, (Tree.parse? body).bind ofTree? = some s ∧ s.smtpSecurity = .startTls ∧
        s.smtpPort = 587) ∧
      ∃ r, ofVariables vars = .ok r ∧ r.smtpSecurity = .plain ∧ r.smtpPort = 25 := by
  intro body vars
  have hlacks : Lacks "smtp_port" body := by decide +kernel
  have hbody : (Tree.parse? body).bind ofTree? =
      some ⟨.mock, "", .startTls, 587, none, none, "a@example.com", 30⟩ := by decide +kernel
  have hvars : ofVariables vars =
      .ok ⟨.mock, "", .plain, 25, none, none, "no-reply@localhost", 30⟩ := by rfl
  have hunset : vars.IsUnset "SMTP_PORT" := Variables.isUnset_of_lookup (by decide)
  obtain ⟨hobject, -, hvariables⟩ := smtpPort_by_default hlacks hbody
  exact ⟨hlacks, ⟨_, hbody, rfl, hobject⟩, _, hvars, rfl, hvariables vars _ hvars hunset⟩

/-- The port of an object that asks for protection from the first byte is not that of the
protection. -/
theorem smtpPort_of_tls :
    let body := ("\x7b\"provider\":\"smtp\",\"smtp_host\":\"mx.example.com\"," ++
      "\"smtp_security\":\"tls\",\"from_address\":\"a@example.com\"\x7d").toUTF8.toList
    Lacks "smtp_port" body ∧
      (Tree.parse? body).bind ofTree? =
        some ⟨.smtp, "mx.example.com", .tls, 587, none, none, "a@example.com", 30⟩ ∧
      SmtpSecurity.tls.defaultPort ≠ 587 := by
  decide +kernel

end MailSettings

namespace Settings

theorem logging_of_isUnset {vars : Variables} {s : Settings} (hs : ofVariables vars = .ok s)
    (hlevel : vars.IsUnset "LOG_LEVEL") (hformat : vars.IsUnset "LOG_FORMAT") :
    s.logging = .forDeployment s.deployment := by
  have hread : LoggingSettings.ofVariables vars s.deployment = .ok s.logging :=
    LoggingSettings.ofVariables_eq_ok_iff.2 (ofVariables_eq_ok_iff.1 hs).logging
  have hsuits : LoggingSettings.ofVariables vars s.deployment = .ok (.forDeployment s.deployment) :=
    LoggingSettings.ofVariables_eq_ok_iff.2 ⟨.inr ⟨hlevel, rfl⟩, .inr ⟨hformat, rfl⟩, rfl⟩
  exact Except.ok.inj (hread.symm.trans hsuits)

theorem logging_of_lacks {body : Raw} {s : Settings} (hlacks : Lacks "logging" body)
    (hs : (Tree.parse? body).bind ofTree? = some s) : s.logging = .forDeployment .development := by
  obtain ⟨t, ht, hs⟩ := Option.bind_eq_some_iff.1 hs
  simp only [ofTree?, Option.bind_eq_bind, Option.bind_eq_some_iff] at hs
  obtain ⟨r, hr, _, -, _, -, _, -, _, -, _, -, logging, hlogging, ⟨⟩⟩ := hs
  rw [Record.withDefault_of_lacks hlacks ht hr] at hlogging
  exact (Option.some.inj hlogging).symm

theorem forDeployment_eq_development_iff {d : Deployment} :
    LoggingSettings.forDeployment .development = .forDeployment d ↔ d = .development := by
  cases d <;> decide

/-- A log that an object leaves out is the one for development, whichever deployment the object is
for. Where settings are read from variables that say nothing of the log, it is the one for the
deployment that was read. -/
theorem logging_by_default {body : Raw} {s : Settings} (hlacks : Lacks "logging" body)
    (hs : (Tree.parse? body).bind ofTree? = some s) :
    s.logging = .forDeployment .development ∧
      (s.logging = .forDeployment s.deployment ↔ s.deployment = .development) ∧
      ∀ vars r, ofVariables vars = .ok r → vars.IsUnset "LOG_LEVEL" → vars.IsUnset "LOG_FORMAT" →
        r.logging = .forDeployment r.deployment := by
  have hlogging := logging_of_lacks hlacks hs
  refine ⟨hlogging, ?_, fun vars r => logging_of_isUnset⟩
  rw [hlogging]
  exact forDeployment_eq_development_iff

/-- An object for development, and variables that ask for production and say nothing of the log. -/
theorem logging_by_default_production :
    let body := ("\x7b\"environment\":\"development\"," ++
      "\"server\":\x7b\"host\":\"h\",\"port\":1\x7d,\"cache\":\x7b\"url\":\"u\"\x7d," ++
      "\"mail\":\x7b\"provider\":\"mock\",\"from_address\":\"f\"\x7d\x7d").toUTF8.toList
    let vars : Variables := [("ENVIRONMENT", [112, 114, 111, 100])]
    Lacks "logging" body ∧
      (∃ s, (Tree.parse? body).bind ofTree? = some s ∧ s.deployment = .development ∧
        s.logging = .forDeployment s.deployment) ∧
      ∃ r, ofVariables vars = .ok r ∧ r.deployment = .production ∧
        r.logging = ⟨"info", .json, false⟩ := by
  intro body vars
  have hlacks : Lacks "logging" body := by decide +kernel
  have hbody : (Tree.parse? body).bind ofTree? =
      some { default with
        server := .on "h" 1
        cache := .ofUrl "u"
        mail := { MailSettings.default with fromAddress := "f" } } := by decide +kernel
  have hvars : ofVariables vars =
      .ok { default with deployment := .production, logging := .forDeployment .production } := by
    rfl
  have hlevel : vars.IsUnset "LOG_LEVEL" := Variables.isUnset_of_lookup (by decide)
  have hformat : vars.IsUnset "LOG_FORMAT" := Variables.isUnset_of_lookup (by decide)
  obtain ⟨-, hobject, hvariables⟩ := logging_by_default hlacks hbody
  exact ⟨hlacks, ⟨_, hbody, rfl, hobject.2 rfl⟩, _, hvars, rfl,
    hvariables vars _ hvars hlevel hformat⟩

/-- The log of an object for production is not the one for production. -/
theorem logging_of_production :
    let body := ("\x7b\"environment\":\"production\"," ++
      "\"server\":\x7b\"host\":\"h\",\"port\":1\x7d,\"cache\":\x7b\"url\":\"u\"\x7d," ++
      "\"mail\":\x7b\"provider\":\"mock\",\"from_address\":\"f\"\x7d\x7d").toUTF8.toList
    Lacks "logging" body ∧
      (Tree.parse? body).bind ofTree? =
        some { default with
          deployment := .production
          server := .on "h" 1
          cache := .ofUrl "u"
          mail := { MailSettings.default with fromAddress := "f" }
          logging := ⟨"debug", .pretty, true⟩ } ∧
      LoggingSettings.forDeployment .production = ⟨"info", .json, false⟩ := by
  decide +kernel

end Settings

end MailCode
