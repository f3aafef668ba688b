import MailCode.Proofs.Json.Parsing
import MailCode.Settings.App
import MailCode.Cache.Basic
import MailCode.Answer
/-!
# What is written as JSON is read back

Every kind of value that is written as JSON can be read again from the text, and comes back as it
was (`json_round_trip`). A field is read off the shape of what was written for it, a record is found
to give just the fields that were listed for it (`ofTree?_object`), and so each kind of value comes
down to its fields.
-/

namespace MailCode

namespace Json

/-- The shapes of the fields of a record that is written. -/
def fields (members : List (String × Json)) : Record :=
  members.map fun m => (m.1, m.2.toTree)

/-! ## Fields -/

theorem text?_toTree (s : String) : Tree.text? (Json.text s).toTree = some s := by
  rw [toTree, Tree.text?, text?_escaped]

theorem bool?_toTree (b : Bool) : Tree.bool? (Json.bool b).toTree = some b := by
  rw [toTree, Tree.bool?]

theorem nat?_toTree {bound n : Nat} (h : n < bound) :
    Tree.nat? bound (Json.number n).toTree = some n := by
  have hchars : (written n).map Char.ofUInt8 = Text.Decimal.render n :=
    map_written fun _ hc => Text.Decimal.isDigit_of_mem_render hc
  rw [toTree, Tree.nat?, hchars, Text.Decimal.digits_render h]
  rfl

theorem word16?_toTree (w : UInt16) : Tree.word16? (Json.number w.toNat).toTree = some w := by
  rw [Tree.word16?, nat?_toTree w.toNat_lt, Option.map_some]
  exact congrArg some UInt16.ofNat_toNat

theorem word32?_toTree (w : UInt32) : Tree.word32? (Json.number w.toNat).toTree = some w := by
  rw [Tree.word32?, nat?_toTree w.toNat_lt, Option.map_some]
  exact congrArg some UInt32.ofNat_toNat

theorem word64?_toTree (w : UInt64) : Tree.word64? (Json.number w.toNat).toTree = some w := by
  rw [Tree.word64?, nat?_toTree w.toNat_lt, Option.map_some]
  exact congrArg some UInt64.ofNat_toNat

theorem nullable?_toTree (o : Option String) :
    Tree.nullable? Tree.text? (Json.ofText? o).toTree = some o := by
  cases o with
  | none => rfl
  | some s =>
    have htext := text?_toTree s
    rw [toTree] at htext
    rw [ofText?, toTree, Tree.nullable?, htext]
    · rfl
    · simp

theorem variant?_toTree {α : Type} (names : List (String × α)) (name : String) :
    Tree.variant? names (Json.text name).toTree = names.lookup name := by
  rw [toTree, Tree.variant?, Tree.name?, text?_escaped, Option.bind_some]

/-! ## Records -/

theorem named?_toMembers (members : List (String × Json)) :
    Record.named? (toMembers members) = some (fields members) := by
  induction members with
  | nil => rfl
  | cons m members ih =>
    rw [Record.named?] at ih ⊢
    rw [toMembers, List.mapM_cons, ih]
    dsimp only
    rw [text?_escaped]
    rfl

/-- A record that is written gives the fields that are listed for it, each once. -/
theorem ofTree?_object {names : List String} (members : List (String × Json))
    (hnames : members.map (·.1) = names) (hdistinct : names.Nodup) :
    Record.ofTree? names (Json.object members).toTree = some (fields members) := by
  have hgiven : (fields members).map (·.1) = names := by
    rw [fields, List.map_map]
    exact hnames
  have hall : (fields members).filter (fun m => names.contains m.1) = fields members := by
    rw [List.filter_eq_self]
    intro m hm
    rw [List.contains_iff_mem, ← hgiven]
    exact List.mem_map_of_mem hm
  rw [toTree, Record.ofTree?, named?_toMembers]
  simp only [Option.bind_eq_bind, Option.bind_some, hall, hgiven, hdistinct, if_true]

/-! ### One field after the other

A reader asks for the object and then for one field after the other, and goes on with what it got.
Each of these lemmas takes one of its steps.
-/

section
variable {α β : Type} {members : List (String × Json)} {name : String} {x : Json}
  {read : Tree → Option α} {a : α} {rest : α → Option β} {b : β}

theorem read_object {names : List String} {rest : Record → Option β}
    (hnames : members.map (·.1) = names) (hdistinct : names.Nodup)
    (hrest : rest (fields members) = some b) :
    (Record.ofTree? names (Json.object members).toTree >>= rest) = some b := by
  rw [ofTree?_object members hnames hdistinct]
  exact hrest

theorem lookup_fields (members : List (String × Json)) (name : String) :
    (fields members).lookup name = (members.lookup name).map toTree := by
  induction members with
  | nil => rfl
  | cons m members ih =>
    rw [fields] at ih ⊢
    rw [List.map_cons, List.lookup_cons, ih, List.lookup_cons]
    split <;> rfl

theorem read_required (hx : members.lookup name = some x) (hread : read x.toTree = some a)
    (hrest : rest a = some b) : ((fields members).required name read >>= rest) = some b := by
  rw [Record.required, lookup_fields, hx, Option.map_some, Option.bind_some, hread]
  exact hrest

theorem read_withDefault {default : α} (hx : members.lookup name = some x)
    (hread : read x.toTree = some a) (hrest : rest a = some b) :
    ((fields members).withDefault name default read >>= rest) = some b := by
  rw [Record.withDefault, lookup_fields, hx, Option.map_some]
  dsimp only
  rw [hread]
  exact hrest

end

/-- Whether every value comes back from the text that is written for it. -/
def RoundTrips {α : Type} (toJson : α → Json) (ofTree? : Tree → Option α) : Prop :=
  ∀ a, (Tree.parse? (toJson a).compress.toUTF8.toList).bind ofTree? = some a

theorem RoundTrips.of_toTree {α : Type} {toJson : α → Json} {ofTree? : Tree → Option α}
    (h : ∀ a, ofTree? (toJson a).toTree = some a) : RoundTrips toJson ofTree? := by
  intro a
  rw [parse?_compress, Option.bind_some, h]

end Json

open Json

/-! ## Requests, answers and codes -/

theorem CodeRequest.ofTree?_toTree (r : CodeRequest) : ofTree? r.toJson.toTree = some r := by
  refine read_object rfl (by decide) ?_
  refine read_required rfl (text?_toTree r.email) ?_
  rfl

theorem ErrorCode.ofTree?_toTree (c : ErrorCode) : ofTree? c.toJson.toTree = some c := by
  have hnumber : c.number < 4 := by cases c <;> decide
  rw [ofTree?, toJson, nat?_toTree hnumber]
  cases c <;> rfl

theorem Answer.ofTree?_toTree (a : Answer) : ofTree? a.toJson.toTree = some a := by
  refine read_object rfl (by decide) ?_
  refine read_required rfl (text?_toTree a.email) ?_
  refine read_required rfl a.error.ofTree?_toTree ?_
  rfl

theorem Health.ofTree?_toTree (h : Health) : ofTree? h.toJson.toTree = some h := by
  refine read_object rfl (by decide) ?_
  refine read_required rfl (text?_toTree h.status) ?_
  refine read_required rfl (text?_toTree h.service) ?_
  refine read_required rfl (text?_toTree h.version) ?_
  refine read_required rfl (bool?_toTree h.cache) ?_
  refine read_required rfl (text?_toTree h.timestamp) ?_
  rfl

theorem CodeRecord.ofTree?_toTree (r : CodeRecord) : ofTree? r.toJson.toTree = some r := by
  refine read_object rfl (by decide) ?_
  refine read_required rfl (text?_toTree r.key) ?_
  refine read_required rfl (text?_toTree r.code) ?_
  refine read_required rfl (word64?_toTree r.lifetime) ?_
  rfl

/-! ## Settings -/

/-- A name out of a list stands for what the list says. -/
theorem variant?_of_lookup {α : Type} {names : List (String × α)} {name : String} {a : α}
    (h : names.lookup name = some a) : Tree.variant? names (Json.text name).toTree = some a := by
  rw [variant?_toTree, h]

theorem Strategy.ofTree?_toTree (s : Strategy) : ofTree? s.toJson.toTree = some s :=
  variant?_of_lookup (by cases s <;> rfl)

theorem DeliveryPolicy.ofTree?_toTree (p : DeliveryPolicy) : ofTree? p.toJson.toTree = some p :=
  variant?_of_lookup (by cases p <;> rfl)

theorem CacheBackend.ofTree?_toTree (b : CacheBackend) : ofTree? b.toJson.toTree = some b :=
  variant?_of_lookup (by cases b <;> rfl)

theorem MailProviderKind.ofTree?_toTree (p : MailProviderKind) :
    ofTree? p.toJson.toTree = some p :=
  variant?_of_lookup (by cases p <;> rfl)

theorem SmtpSecurity.ofTree?_toTree (s : SmtpSecurity) : ofTree? s.toJson.toTree = some s :=
  variant?_of_lookup (by cases s <;> rfl)

theorem Deployment.ofTree?_toTree (d : Deployment) : ofTree? d.toJson.toTree = some d :=
  variant?_of_lookup (by cases d <;> rfl)

theorem LogFormat.ofTree?_toTree (f : LogFormat) : ofTree? f.toJson.toTree = some f :=
  variant?_of_lookup (by cases f <;> rfl)

theorem ServerSettings.ofTree?_toTree (s : ServerSettings) : ofTree? s.toJson.toTree = some s := by
  refine read_object rfl (by decide) ?_
  refine read_required rfl (text?_toTree s.host) ?_
  refine read_required rfl (word16?_toTree s.port) ?_
  refine read_withDefault rfl (word64?_toTree s.workers) ?_
  refine read_withDefault rfl (word64?_toTree s.keepAlive) ?_
  refine read_withDefault rfl (word64?_toTree s.shutdownTimeout) ?_
  refine read_withDefault rfl (word64?_toTree s.maxPayloadSize) ?_
  rfl

theorem CacheSettings.ofTree?_toTree (s : CacheSettings) : ofTree? s.toJson.toTree = some s := by
  refine read_object rfl (by decide) ?_
  refine read_withDefault rfl s.backend.ofTree?_toTree ?_
  refine read_required rfl (text?_toTree s.url) ?_
  refine read_withDefault rfl (word32?_toTree s.connectRetries) ?_
  refine read_withDefault rfl (word64?_toTree s.connectRetryDelay) ?_
  rfl

theorem MailSettings.ofTree?_toTree (s : MailSettings) : ofTree? s.toJson.toTree = some s := by
  refine read_object rfl (by decide) ?_
  refine read_required rfl s.provider.ofTree?_toTree ?_
  refine read_withDefault rfl (text?_toTree s.smtpHost) ?_
  refine read_withDefault rfl s.smtpSecurity.ofTree?_toTree ?_
  refine read_withDefault rfl (word16?_toTree s.smtpPort) ?_
  refine read_withDefault rfl (nullable?_toTree s.smtpUsername) ?_
  refine read_withDefault rfl (nullable?_toTree s.smtpPassword) ?_
  refine read_required rfl (text?_toTree s.fromAddress) ?_
  refine read_withDefault rfl (word64?_toTree s.timeout) ?_
  rfl

theorem IssuingSettings.ofTree?_toTree (s : IssuingSettings) :
    ofTree? s.toJson.toTree = some s := by
  refine read_object rfl (by decide) ?_
  refine read_withDefault rfl s.strategy.ofTree?_toTree ?_
  refine read_withDefault rfl s.policy.ofTree?_toTree ?_
  rfl

theorem LoggingSettings.ofTree?_toTree (s : LoggingSettings) :
    ofTree? s.toJson.toTree = some s := by
  refine read_object rfl (by decide) ?_
  refine read_required rfl (text?_toTree s.level) ?_
  refine read_withDefault rfl s.format.ofTree?_toTree ?_
  refine read_withDefault rfl (bool?_toTree s.sourceLocation) ?_
  rfl

theorem Settings.ofTree?_toTree (s : Settings) : ofTree? s.toJson.toTree = some s := by
  refine read_object rfl (by decide) ?_
  refine read_required rfl s.deployment.ofTree?_toTree ?_
  refine read_required rfl s.server.ofTree?_toTree ?_
  refine read_required rfl s.cache.ofTree?_toTree ?_
  refine read_required rfl s.mail.ofTree?_toTree ?_
  refine read_withDefault rfl s.issuing.ofTree?_toTree ?_
  refine read_withDefault rfl s.logging.ofTree?_toTree ?_
  rfl

/-- Whatever is written as JSON comes back from its text as it was: requests and answers, codes as
they are kept, the state of health, and the settings, in parts and as a whole. That goes for every
text in them, for every number up to the last of its width, and for credentials that are missing. -/
theorem json_round_trip :
    RoundTrips CodeRequest.toJson CodeRequest.ofTree? ∧
      RoundTrips Answer.toJson Answer.ofTree? ∧
      RoundTrips CodeRecord.toJson CodeRecord.ofTree? ∧
      RoundTrips Health.toJson Health.ofTree? ∧
      RoundTrips ServerSettings.toJson ServerSettings.ofTree? ∧
      RoundTrips CacheSettings.toJson CacheSettings.ofTree? ∧
      RoundTrips MailSettings.toJson MailSettings.ofTree? ∧
      RoundTrips IssuingSettings.toJson IssuingSettings.ofTree? ∧
      RoundTrips LoggingSettings.toJson LoggingSettings.ofTree? ∧
      RoundTrips Settings.toJson Settings.ofTree? :=
  ⟨.of_toTree CodeRequest.ofTree?_toTree, .of_toTree Answer.ofTree?_toTree,
    .of_toTree CodeRecord.ofTree?_toTree, .of_toTree Health.ofTree?_toTree,
    .of_toTree ServerSettings.ofTree?_toTree, .of_toTree CacheSettings.ofTree?_toTree,
    .of_toTree MailSettings.ofTree?_toTree, .of_toTree IssuingSettings.ofTree?_toTree,
    .of_toTree LoggingSettings.ofTree?_toTree, .of_toTree Settings.ofTree?_toTree⟩

end MailCode
