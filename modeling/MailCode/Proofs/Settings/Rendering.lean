import MailCode.Proofs.Json.Numbers
import MailCode.Proofs.Settings.Loading
/-!
# Settings written to variables

Every setting that has a variable can be written to it: a number in decimal, a choice by its name,
a text as it is, and an absent credential by leaving the variable unset (`rendered`). The variables
that come of it are ones that a process can be given, and settings without any part that no variable
tells are read back from them as they were (`environment_round_trip`).
-/

namespace MailCode

variable {vars : Variables}

/-! ## Variables that a process can be given -/

/-- What a process accepts as its variables: each is named once and by a name, and no value has a
zero byte in it. -/
structure Variables.IsEnvironment (vars : Variables) : Prop where
  distinct : (vars.map (·.1)).Nodup
  names : ∀ v ∈ vars, v.1 ≠ "" ∧ '=' ∉ v.1.toList ∧ '\x00' ∉ v.1.toList
  values : ∀ v ∈ vars, 0 ∉ v.2

/-- The variables with the given texts, those without a text left unset. -/
def Variables.ofTexts (texts : List (String × Option String)) : Variables :=
  texts.filterMap fun t => t.2.map fun text => (t.1, text.toUTF8.toList)

namespace Variables

variable {texts : List (String × Option String)}

theorem mem_ofTexts {v : String × List UInt8} :
    v ∈ ofTexts texts ↔ ∃ text, (v.1, some text) ∈ texts ∧ v.2 = text.toUTF8.toList := by
  simp only [ofTexts, List.mem_filterMap, Option.map_eq_some_iff]
  constructor
  · rintro ⟨⟨name, text?⟩, hmem, text, rfl, rfl⟩
    exact ⟨text, hmem, rfl⟩
  · rintro ⟨text, hmem, hvalue⟩
    exact ⟨(v.1, some text), hmem, text, rfl, hvalue ▸ rfl⟩

theorem ofTexts_cons_none (name : String) : ofTexts ((name, none) :: texts) = ofTexts texts :=
  List.filterMap_cons_none rfl

theorem ofTexts_cons_some (name text : String) :
    ofTexts ((name, some text) :: texts) = (name, text.toUTF8.toList) :: ofTexts texts :=
  List.filterMap_cons_some rfl

theorem lookup_ofTexts_of_notMem {name : String} (h : name ∉ texts.map (·.1)) :
    (ofTexts texts).lookup name = none := by
  rw [List.lookup_eq_none_iff]
  intro v hv
  obtain ⟨text, hmem, -⟩ := mem_ofTexts.1 hv
  rw [bne_iff_ne]
  rintro rfl
  exact h (List.mem_map_of_mem hmem)

/-- Where the names are distinct, every variable has the text that is listed for it. -/
theorem lookup_ofTexts {t : String × Option String} (hdistinct : (texts.map (·.1)).Nodup)
    (ht : t ∈ texts) : (ofTexts texts).lookup t.1 = t.2.map (·.toUTF8.toList) := by
  induction texts with
  | nil => cases ht
  | cons first texts ih =>
    rw [List.map_cons, List.nodup_cons] at hdistinct
    obtain ⟨hfresh, hdistinct⟩ := hdistinct
    obtain ⟨name, text?⟩ := first
    rcases List.mem_cons.1 ht with rfl | hrest
    · cases text? with
      | none => rw [ofTexts_cons_none, lookup_ofTexts_of_notMem hfresh, Option.map_none]
      | some text => rw [ofTexts_cons_some, List.lookup_cons_self, Option.map_some]
    · have hne : t.1 ≠ name := fun heq => hfresh (List.mem_map.2 ⟨t, hrest, heq⟩)
      cases text? with
      | none => rw [ofTexts_cons_none, ih hdistinct hrest]
      | some text =>
        rw [ofTexts_cons_some, List.lookup_cons, beq_eq_false_iff_ne.2 hne]
        exact ih hdistinct hrest

theorem names_ofTexts_sublist (texts : List (String × Option String)) :
    ((ofTexts texts).map (·.1)).Sublist (texts.map (·.1)) := by
  induction texts with
  | nil => exact .slnil
  | cons first texts ih =>
    obtain ⟨name, text?⟩ := first
    cases text? with
    | none =>
      rw [ofTexts_cons_none]
      exact ih.cons name
    | some text =>
      rw [ofTexts_cons_some]
      exact ih.cons_cons name

/-- A variable that is set to a text, or left unset, gives just that. -/
theorem eq_some_iff_says {name text : String} {text? : Option String}
    (h : vars.lookup name = text?.map (·.toUTF8.toList)) :
    text? = some text ↔ vars.Says name text := by
  have htext : vars.text? name = text? := by
    rw [Variables.text?, h]
    cases text? with
    | none => rfl
    | some text => exact Text.utf8Text?_utf8 text
  rw [← htext, text?_eq_some_iff]

/-- No text has a zero byte but one with the zero character. -/
theorem zero_notMem_utf8 {text : String} (h : '\x00' ∉ text.toList) :
    0 ∉ text.toUTF8.toList := by
  rw [Text.utf8_eq, List.mem_flatMap]
  rintro ⟨c, hc, hzero⟩
  have hne : c.toNat ≠ 0 := by
    intro hnat
    obtain rfl : c = '\x00' := Char.toNat_inj.1 hnat
    exact h hc
  rcases Nat.lt_or_ge c.toNat 0x80 with hascii | hbeyond
  · rw [Text.utf8EncodeChar_of_ascii hascii, List.mem_singleton] at hzero
    have hmod : 0 = c.toNat % 256 := congrArg UInt8.toNat hzero
    omega
  · exact absurd (Text.le_utf8EncodeChar hbeyond 0 hzero) (by decide)

theorem isEnvironment_ofTexts (hdistinct : (texts.map (·.1)).Nodup)
    (hnames : ∀ name ∈ texts.map (·.1), name ≠ "" ∧ '=' ∉ name.toList ∧ '\x00' ∉ name.toList)
    (htexts : ∀ t ∈ texts, ∀ text ∈ t.2, '\x00' ∉ text.toList) :
    IsEnvironment (ofTexts texts) where
  distinct := hdistinct.sublist (names_ofTexts_sublist texts)
  names v hv := by
    obtain ⟨text, hmem, -⟩ := mem_ofTexts.1 hv
    exact hnames v.1 (List.mem_map_of_mem hmem)
  values v hv := by
    obtain ⟨text, hmem, hvalue⟩ := mem_ofTexts.1 hv
    exact hvalue ▸ zero_notMem_utf8 (htexts _ hmem text rfl)

end Variables

/-! ## Parsing what is written -/

namespace Variables

theorem natural_text {bound n : Nat} (h : n < bound) :
    natural bound (Text.Decimal.text n) = .ok n := by
  rw [natural, Text.Decimal.text, String.toList_ofList, Text.Decimal.parse_render h]
  rfl

theorem word16_text (w : UInt16) : word16 (Text.Decimal.text w.toNat) = .ok w := by
  rw [word16, natural_text w.toNat_lt]
  exact congrArg Except.ok UInt16.ofNat_toNat

theorem word32_text (w : UInt32) : word32 (Text.Decimal.text w.toNat) = .ok w := by
  rw [word32, natural_text w.toNat_lt]
  exact congrArg Except.ok UInt32.ofNat_toNat

theorem word64_text (w : UInt64) : word64 (Text.Decimal.text w.toNat) = .ok w := by
  rw [word64, natural_text w.toNat_lt]
  exact congrArg Except.ok UInt64.ofNat_toNat

end Variables

theorem Deployment.parse_name (d : Deployment) : parse d.name = .ok d := by
  cases d <;> rfl

theorem CacheBackend.parse_name (b : CacheBackend) : parse b.name = .ok b := by
  cases b <;> rfl

theorem MailProviderKind.parse_name (p : MailProviderKind) : parse p.name = .ok p := by
  cases p <;> rfl

theorem SmtpSecurity.parse_name (s : SmtpSecurity) : parse s.name = .ok s := by
  cases s <;> rfl

theorem Strategy.parse_name (s : Strategy) : parse s.name = .ok s := by
  cases s <;> rfl

theorem DeliveryPolicy.parse_name (p : DeliveryPolicy) : parse p.name = .ok p := by
  cases p <;> rfl

theorem LogFormat.parse_name (f : LogFormat) : parse f.name = .ok f := by
  cases f <;> rfl

/-! ## The settings as variables -/

namespace Settings

/-- Every variable with the text that is written to it, if it is set: numbers in decimal, choices by
the names they have as JSON, texts as they are. -/
def rendered (s : Settings) : List (String × Option String) :=
  [("ENVIRONMENT", some s.deployment.name),
   ("SERVER_HOST", some s.server.host),
   ("SERVER_PORT", some (Text.Decimal.text s.server.port.toNat)),
   ("SERVER_WORKERS", some (Text.Decimal.text s.server.workers.toNat)),
   ("SERVER_MAX_PAYLOAD_SIZE", some (Text.Decimal.text s.server.maxPayloadSize.toNat)),
   ("CACHE_BACKEND", some s.cache.backend.name),
   ("REDIS_URL", some s.cache.url),
   ("REDIS_CONNECT_RETRIES", some (Text.Decimal.text s.cache.connectRetries.toNat)),
   ("MAIL_PROVIDER", some s.mail.provider.name),
   ("SMTP_HOST", some s.mail.smtpHost),
   ("SMTP_SECURITY", some s.mail.smtpSecurity.name),
   ("SMTP_PORT", some (Text.Decimal.text s.mail.smtpPort.toNat)),
   ("SMTP_USERNAME", s.mail.smtpUsername),
   ("SMTP_PASSWORD", s.mail.smtpPassword),
   ("MAIL_FROM", some s.mail.fromAddress),
   ("SMTP_TIMEOUT_SECS", some (Text.Decimal.text s.mail.timeout.toNat)),
   ("VERIFY_ISSUANCE_STRATEGY", some s.issuing.strategy.name),
   ("VERIFY_DELIVERY_POLICY", some s.issuing.policy.name),
   ("LOG_LEVEL", some s.logging.level),
   ("LOG_FORMAT", some s.logging.format.name)]

/-- The texts that a setting can be as it likes. -/
def freeTexts (s : Settings) : List String :=
  [s.server.host, s.cache.url, s.mail.smtpHost, s.mail.fromAddress, s.logging.level] ++
    s.mail.smtpUsername.toList ++ s.mail.smtpPassword.toList

/-- The settings that variables can tell: what has no variable is as it is by default. -/
structure IsTellable (s : Settings) : Prop where
  noZero : ∀ text ∈ s.freeTexts, '\x00' ∉ text.toList
  keepAlive : s.server.keepAlive = ServerSettings.default.keepAlive
  shutdownTimeout : s.server.shutdownTimeout = ServerSettings.default.shutdownTimeout
  connectRetryDelay : s.cache.connectRetryDelay = CacheSettings.default.connectRetryDelay
  sourceLocation : s.logging.sourceLocation = true ↔ s.deployment = .development

/-- The variables of the settings are as they are written; there may be others. -/
def WrittenTo (s : Settings) (vars : Variables) : Prop :=
  ∀ t ∈ s.rendered, vars.lookup t.1 = t.2.map (·.toUTF8.toList)

/-- The variables of the settings, and no others. -/
def toVariables (s : Settings) : Variables :=
  .ofTexts s.rendered

theorem rendered_distinct (s : Settings) : (s.rendered.map (·.1)).Nodup := by
  simp only [rendered, List.map_cons, List.map_nil]
  decide

theorem writtenTo_toVariables (s : Settings) : s.WrittenTo s.toVariables :=
  fun _ ht => Variables.lookup_ofTexts s.rendered_distinct ht

theorem sourceLocation_forDeployment (d : Deployment) :
    (LoggingSettings.forDeployment d).sourceLocation = true ↔ d = .development := by
  cases d <;> decide

theorem describedBy_of_writtenTo {s : Settings} (hs : s.IsTellable) (h : s.WrittenTo vars) :
    s.DescribedBy vars := by
  simp only [WrittenTo, rendered, List.forall_mem_cons] at h
  obtain ⟨hdeployment, hhost, hport, hworkers, hmax, hbackend, hurl, hretries, hprovider, hsmtpHost,
    hsecurity, hsmtpPort, husername, hpassword, hfrom, htimeout, hstrategy, hpolicy, hlevel,
    hformat, -⟩ := h
  exact {
    deployment := .inl ⟨_, hdeployment, Deployment.parse_name _⟩
    server := {
      host := .inl ⟨_, hhost, rfl⟩
      port := .inl ⟨_, hport, Variables.word16_text _⟩
      workers := .inl ⟨_, hworkers, Variables.word64_text _⟩
      maxPayloadSize := .inl ⟨_, hmax, Variables.word64_text _⟩
      keepAlive := hs.keepAlive
      shutdownTimeout := hs.shutdownTimeout }
    cache := {
      backend := .inl ⟨_, hbackend, CacheBackend.parse_name _⟩
      url := .inl ⟨_, hurl, rfl⟩
      connectRetries := .inl ⟨_, hretries, Variables.word32_text _⟩
      connectRetryDelay := hs.connectRetryDelay }
    mail := {
      provider := .inl ⟨_, hprovider, MailProviderKind.parse_name _⟩
      smtpHost := .inl ⟨_, hsmtpHost, rfl⟩
      smtpSecurity := .inl ⟨_, hsecurity, SmtpSecurity.parse_name _⟩
      smtpPort := .inl ⟨_, hsmtpPort, Variables.word16_text _⟩
      smtpUsername := fun _ => Variables.eq_some_iff_says husername
      smtpPassword := fun _ => Variables.eq_some_iff_says hpassword
      fromAddress := .inl ⟨_, hfrom, rfl⟩
      timeout := .inl ⟨_, htimeout, Variables.word64_text _⟩ }
    issuing := {
      strategy := .inl ⟨_, hstrategy, Strategy.parse_name _⟩
      policy := .inl ⟨_, hpolicy, DeliveryPolicy.parse_name _⟩ }
    logging := {
      level := .inl ⟨_, hlevel, rfl⟩
      format := .inl ⟨_, hformat, LogFormat.parse_name _⟩
      sourceLocation := by
        rw [Bool.eq_iff_iff, hs.sourceLocation, sourceLocation_forDeployment] } }

theorem noZero_rendered {s : Settings} (h : ∀ text ∈ s.freeTexts, '\x00' ∉ text.toList) :
    ∀ t ∈ s.rendered, ∀ text ∈ t.2, '\x00' ∉ text.toList := by
  simp only [freeTexts, List.forall_mem_append, List.forall_mem_cons, Option.mem_toList] at h
  obtain ⟨⟨⟨hhost, hurl, hsmtpHost, hfrom, hlevel, -⟩, husername⟩, hpassword⟩ := h
  have hnumber (n : Nat) : '\x00' ∉ (Text.Decimal.text n).toList := by
    rw [Text.Decimal.text, String.toList_ofList]
    exact fun hmem => absurd (Text.Decimal.isDigit_of_mem_render hmem) (by decide)
  have hdeployment : '\x00' ∉ s.deployment.name.toList := by cases s.deployment <;> decide
  have hbackend : '\x00' ∉ s.cache.backend.name.toList := by cases s.cache.backend <;> decide
  have hprovider : '\x00' ∉ s.mail.provider.name.toList := by cases s.mail.provider <;> decide
  have hsecurity : '\x00' ∉ s.mail.smtpSecurity.name.toList := by
    cases s.mail.smtpSecurity <;> decide
  have hstrategy : '\x00' ∉ s.issuing.strategy.name.toList := by
    cases s.issuing.strategy <;> decide
  have hpolicy : '\x00' ∉ s.issuing.policy.name.toList := by cases s.issuing.policy <;> decide
  have hformat : '\x00' ∉ s.logging.format.name.toList := by cases s.logging.format <;> decide
  simp only [rendered, List.forall_mem_cons, Option.mem_some, forall_eq']
  exact ⟨hdeployment, hhost, hnumber _, hnumber _, hnumber _, hbackend, hurl, hnumber _, hprovider,
    hsmtpHost, hsecurity, hnumber _, husername, hpassword, hfrom, hnumber _, hstrategy, hpolicy,
    hlevel, hformat, List.forall_mem_nil _⟩

theorem isEnvironment_toVariables {s : Settings} (hs : s.IsTellable) :
    s.toVariables.IsEnvironment := by
  refine Variables.isEnvironment_ofTexts s.rendered_distinct ?_ (noZero_rendered hs.noZero)
  simp only [rendered, List.map_cons, List.map_nil]
  decide

/-- Settings that are written to variables are read back from them as they were, whatever other
variables there are. -/
theorem environment_round_trip {s : Settings} (hs : s.IsTellable) :
    s.toVariables.IsEnvironment ∧ s.WrittenTo s.toVariables ∧
      ∀ vars, s.WrittenTo vars → ofVariables vars = .ok s :=
  ⟨isEnvironment_toVariables hs, s.writtenTo_toVariables, fun _ hvars =>
    ofVariables_eq_ok_iff.2 (describedBy_of_writtenTo hs hvars)⟩

/-- The greatest numbers, a level without a letter, a user without a password, and signs that mean
something in other places. -/
theorem environment_round_trip_production :
    let s : Settings := {
      deployment := .production
      server := { ServerSettings.default with port := 65535, workers := 18446744073709551615 }
      cache := { CacheSettings.default with url := " =\n", connectRetries := 4294967295 }
      mail := ⟨.smtp, "mx.example.com", .tls, 0, some "Zoë", none, "a=b@example.com", 1⟩
      issuing := ⟨.setIfAbsent, .strict⟩
      logging := ⟨"", .compact, false⟩ }
    s.IsTellable ∧ s.toVariables.IsEnvironment ∧ ofVariables s.toVariables = .ok s := by
  intro s
  have htellable : s.IsTellable := ⟨by decide, rfl, rfl, rfl, by decide⟩
  obtain ⟨henvironment, hwritten, hread⟩ := environment_round_trip htellable
  exact ⟨htellable, henvironment, hread s.toVariables hwritten⟩

end Settings

end MailCode
