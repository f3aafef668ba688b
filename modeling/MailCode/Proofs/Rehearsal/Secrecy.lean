import MailCode.Proofs.Cache.Recoding
import MailCode.Proofs.Rehearsal.Masking
/-!
# Codes leave only by mail

Two runs are compared: in the second one every code is another one of the same size, those that the
generator gives out, those that it is made to give out, and those that the cache holds at the start.
Whatever happens, the two runs keep in step. They give the same answers to requests and questions
and log the same (`codes_undisclosed`), so neither an answer nor the log nor the text of an error
tells anything of a code but its size. The codes show in the mails and in the cache, which is what
`World.Recoded` leaves open.
-/

namespace MailCode

/-- Texts of the same size, in bytes. -/
def SameSize (a b : String) : Prop :=
  b.utf8ByteSize = a.utf8ByteSize

instance (a b : String) : Decidable (SameSize a b) :=
  inferInstanceAs (Decidable (b.utf8ByteSize = a.utf8ByteSize))

/-- Mails that differ in their bodies only, and not in the sizes of these. -/
structure Mail.Recoded (mail mail' : Mail) : Prop where
  address : mail'.address = mail.address
  subject : mail'.subject = mail.subject
  body : SameSize mail.body mail'.body

/-- Mailboxes that hold such mails. -/
structure Mailbox.Recoded (b b' : Mailbox) : Prop where
  count : b'.count = b.count
  failing : b'.failing = b.failing
  outbox : List.Forall₂ Mail.Recoded b.outbox b'.outbox
  named : b'.named = b.named
  ids : b'.ids = b.ids

namespace Rehearsal

open Issuance World

/-- The same faults, but for the code that the generator is made to give out. -/
structure Faults.Recoded (f f' : Faults) : Prop where
  lookup : f'.lookup = f.lookup
  store : f'.store = f.store
  storeIfAbsent : f'.storeIfAbsent = f.storeIfAbsent
  contains : f'.contains = f.contains
  timeLeft : f'.timeLeft = f.timeLeft
  health : f'.health = f.health
  generate : Option.Rel (Outcome.Akin SameSize) f.generate f'.generate
  send : f'.send = f.send

/-- Worlds that differ in codes only, and not in the sizes of these. -/
structure World.Recoded (w w' : World Memory) : Prop where
  cache : w.cache.Recoded SameSize w'.cache
  now : w'.now = w.now
  mailbox : w.mailbox.Recoded w'.mailbox
  faults : w.faults.Recoded w'.faults
  codes : ∀ n, SameSize (w.codes n) (w'.codes n)
  drawn : w'.drawn = w.drawn

/-- Such worlds belong together, and all of their events are to be the same. -/
def likeness : Likeness (World Memory) (World Memory) :=
  ⟨World.Recoded, SameSize, fun _ => true⟩

/-- The same episode, but for the code that the generator is made to give out. -/
def Episode.Recoded : Episode → Episode → Prop
  | .rig change, .rig change' => ∀ f f' : Faults, f.Recoded f' → (change f).Recoded (change' f')
  | episode, episode' => episode' = episode

/-- What an episode tells: the result of an action, and otherwise the answers that the requests
under way have come to. -/
def Episode.told (settings : IssuingSettings) (crowd : Crowd (World Memory)) (episode : Episode) :
    Result :=
  match episode.action? with
  | some action => (perform settings action crowd.state).result
  | none => .answers (episode.play Memory.gateway settings crowd).answers

/-- What the episodes of a run tell, one after the other. -/
def transcript (settings : IssuingSettings) : List Episode → Crowd (World Memory) → List Result
  | [], _ => []
  | episode :: episodes, crowd =>
    episode.told settings crowd ::
      transcript settings episodes (episode.play Memory.gateway settings crowd)

/-! ## The collaborators -/

section
variable {w w' : World Memory}

theorem recoded_askCache {α β : Type} {values : α → β → Prop} (hw : w.Recoded w')
    (fault : Option (Fault CacheError)) {ask : Memory → Reply Memory CacheError α}
    {ask' : Memory → Reply Memory CacheError β}
    (h : (ask w.cache).Akin (Memory.likeness SameSize) values (ask' w'.cache)) :
    (w.askCache fault ask).Akin likeness values (w'.askCache fault ask') := by
  cases fault with
  | some f =>
    cases f with
    | error e => exact ⟨.error e, hw, .refl _ _⟩
    | panic p => exact ⟨.panic p, hw, .refl _ _⟩
  | none => exact ⟨h.outcome, { hw with cache := h.state }, h.events⟩

theorem recoded_drawCode (hw : w.Recoded w') :
    w.drawCode.Akin likeness SameSize w'.drawCode := by
  have hfault := hw.faults.generate
  unfold drawCode
  generalize w.faults.generate = fault at hfault ⊢
  generalize w'.faults.generate = fault' at hfault ⊢
  cases hfault with
  | some houtcome => exact ⟨houtcome, hw, .refl _ _⟩
  | none =>
    have hcode : SameSize (w.codes w.drawn) (w'.codes w'.drawn) := by
      rw [hw.drawn]
      exact hw.codes w.drawn
    exact ⟨.ok hcode, { hw with drawn := congrArg (· + 1) hw.drawn }, .refl _ _⟩

/-- The size of a mail tells the size of the code in it. -/
theorem sameSize_codeBody {code code' : String} (h : SameSize code code') :
    SameSize (Mail.codeBody code) (Mail.codeBody code') := by
  unfold SameSize at h ⊢
  unfold Mail.codeBody
  dsimp only
  generalize Text.Decimal.text codeLifetimeMinutes = minutes
  simp only [String.utf8ByteSize_append, h]

theorem recoded_sendMail (hw : w.Recoded w') {mail mail' : Mail} (hmail : mail.Recoded mail') :
    (sendMail mail w).Akin likeness Eq (sendMail mail' w') := by
  unfold sendMail
  rw [hw.faults.send]
  cases w.faults.send with
  | some f =>
    cases f with
    | error e => exact ⟨.error e, hw, .refl _ _⟩
    | panic p => exact ⟨.panic p, hw, .refl _ _⟩
  | none =>
    obtain ⟨hcount, hfailing, houtbox, hnamed, hids⟩ := hw.mailbox
    simp only [Reply.mapState, Mailbox.send, hfailing]
    split
    · refine ⟨.error _, hw, .of_eq ?_⟩
      simp only [Mailbox.refusing, hmail.address]
    · refine ⟨.ok (by rw [hids, hnamed]), ?_, .of_eq ?_⟩
      · have htaken := List.rel_append houtbox (.cons hmail .nil)
        exact { hw with
          mailbox := ⟨congrArg (· + 1) hcount, rfl, htaken, congrArg (· + 1) hnamed, hids⟩ }
      · have hsize : mail'.body.utf8ByteSize = mail.body.utf8ByteSize := hmail.body
        simp only [Mailbox.taken, hmail.address, hsize, hcount, hnamed, hids]

/-- To whatever an issuance asks of them, the collaborators reply alike. -/
theorem cast_akin : cast.Akin likeness cast where
  lookup key w w' hw := by
    simp only [cast, collaborators, hw.faults.lookup, hw.now]
    exact recoded_askCache hw _ (hw.cache.lookup w.now key)
  store key code code' w w' hcode hw := by
    simp only [cast, collaborators, hw.faults.store, hw.now]
    exact recoded_askCache hw _ (hw.cache.store w.now key hcode codeLifetime)
  storeIfAbsent key code code' w w' hcode hw := by
    simp only [cast, collaborators, hw.faults.storeIfAbsent, hw.now]
    exact recoded_askCache hw _ (hw.cache.storeIfAbsent w.now key hcode codeLifetime)
  generate w w' hw := recoded_drawCode hw
  send email code code' w w' hcode hw := recoded_sendMail hw ⟨rfl, rfl, sameSize_codeBody hcode⟩

/-! ## Questions -/

theorem recoded_hasLiveCode (hw : w.Recoded w') (email : String) :
    (hasLiveCode cast email w).Akin likeness Eq (hasLiveCode cast email w') := by
  simp only [hasLiveCode, cast, collaborators, hw.faults.contains, hw.now]
  exact recoded_askCache hw _ (hw.cache.contains w.now _)

theorem recoded_codeTimeLeft (hw : w.Recoded w') (email : String) :
    (codeTimeLeft cast email w).Akin likeness Eq (codeTimeLeft cast email w') := by
  simp only [codeTimeLeft, cast, collaborators, hw.faults.timeLeft, hw.now]
  exact recoded_askCache hw _ (hw.cache.timeLeft w.now _)

theorem recoded_cacheHealthy (hw : w.Recoded w') :
    (cacheHealthy cast w).Akin likeness Eq (cacheHealthy cast w') := by
  unfold cacheHealthy
  simp only [cast, collaborators, askHealth, hw.faults.health]
  cases w.faults.health with
  | none => exact ⟨.ok rfl, hw, .refl _ _⟩
  | some outcome =>
    cases outcome with
    | ok well => exact ⟨.ok rfl, hw, .refl _ _⟩
    | error e => exact ⟨.ok rfl, hw, .refl _ _⟩
    | panic p => exact ⟨.panic p, hw, .refl _ _⟩

end

/-! ## Runs -/

section
variable {crowd crowd' : Crowd (World Memory)} {episode episode' : Episode}
  {episodes episodes' : List Episode}

/-- Two episodes that are recoded are the same, unless they set faults. -/
theorem Episode.Recoded.cases (h : episode.Recoded episode') :
    (∃ change change', episode = .rig change ∧ episode' = .rig change' ∧
      ∀ f f' : Faults, f.Recoded f' → (change f).Recoded (change' f')) ∨
    episode' = episode := by
  unfold Episode.Recoded at h
  split at h
  · exact .inl ⟨_, _, rfl, rfl, h⟩
  · exact .inr h

theorem akin_asked {ε α β : Type} {values : α → β → Prop} {reply : Reply (World Memory) ε α}
    {reply' : Reply (World Memory) ε β} (h : crowd.Akin likeness crowd')
    (hreply : reply.Akin likeness values reply') {calls calls' : List Call}
    (hcalls : List.Forall₂ (Call.Akin SameSize) calls calls') :
    (asked calls crowd reply).Akin likeness (asked calls' crowd' reply') :=
  ⟨h.tasks, hreply.state, List.rel_append h.calls hcalls, h.events.append hreply.events⟩

/-- Whatever happens, the two runs keep in step. -/
theorem akin_play (settings : IssuingSettings) (h : crowd.Akin likeness crowd')
    (hepisode : episode.Recoded episode') :
    (episode.play Memory.gateway settings crowd).Akin likeness
      (episode'.play Memory.gateway settings crowd') := by
  have hw : crowd.state.Recoded crowd'.state := h.state
  -- The generator may be made to give out other codes; all else that happens is the same.
  rcases hepisode.cases with ⟨change, change', rfl, rfl, hchange⟩ | rfl
  · exact ⟨h.tasks, { hw with faults := hchange _ _ hw.faults }, h.calls, h.events⟩
  cases episode' with
  | request email =>
    exact ⟨List.rel_append h.tasks (.cons ⟨rfl, .start⟩ .nil), hw, h.calls, h.events⟩
  | turn place => exact akin_turn cast_akin settings h place
  | issue email =>
    obtain ⟨-, hstate, hcalls, hevents⟩ := akin_issue cast_akin hw settings email
    exact ⟨h.tasks, hstate, List.rel_append h.calls hcalls, h.events.append hevents⟩
  | hasLiveCode email =>
    exact akin_asked h (recoded_hasLiveCode hw email) (.cons (.contains _) .nil)
  | codeTimeLeft email =>
    exact akin_asked h (recoded_codeTimeLeft hw email) (.cons (.timeLeft _) .nil)
  | cacheHealthy => exact akin_asked h (recoded_cacheHealthy hw) .nil
  | rig change => exact ⟨h.tasks, { hw with faults := hepisode _ _ hw.faults }, h.calls, h.events⟩
  | setMailboxFailing failing =>
    exact ⟨h.tasks, { hw with mailbox := { hw.mailbox with failing := rfl } }, h.calls, h.events⟩
  | resetMailbox =>
    exact ⟨h.tasks, { hw with mailbox := { hw.mailbox with count := rfl, outbox := .nil } },
      h.calls, h.events⟩
  | wait duration =>
    exact ⟨h.tasks, { hw with now := congrArg (· + duration) hw.now }, h.calls, h.events⟩

theorem ofReply_eq {α : Type} (f : α → Memory.Result) (calls : List Call)
    {reply reply' : Reply (World Memory) CacheError α} (h : reply.Akin likeness Eq reply') :
    (Performance.ofReply f calls reply').result = (Performance.ofReply f calls reply).result :=
  congrArg (Result.ofOutcome f) h.outcome.eq

theorem ofStage_eq {codes : String → String → Prop} {stage stage' : Stage}
    (h : stage.Akin codes stage') : Result.ofStage stage' = Result.ofStage stage := by
  cases h <;> rfl

/-- Either run tells the same. -/
theorem told_eq (settings : IssuingSettings) (h : crowd.Akin likeness crowd')
    (hepisode : episode.Recoded episode') :
    episode'.told settings crowd' = episode.told settings crowd := by
  have hw : crowd.state.Recoded crowd'.state := h.state
  have hplayed := (akin_play settings h hepisode).answers
  rcases hepisode.cases with ⟨change, change', rfl, rfl, -⟩ | rfl
  · rfl
  cases episode' with
  | request email | turn place => exact congrArg Result.answers hplayed
  | issue email =>
    exact ofStage_eq (akin_issue cast_akin hw settings email).stage
  | hasLiveCode email => exact ofReply_eq _ _ (recoded_hasLiveCode hw email)
  | codeTimeLeft email => exact ofReply_eq _ _ (recoded_codeTimeLeft hw email)
  | cacheHealthy => exact ofReply_eq _ _ (recoded_cacheHealthy hw)
  | rig change | setMailboxFailing failing | resetMailbox | wait duration => rfl

theorem akin_run (settings : IssuingSettings) (h : crowd.Akin likeness crowd')
    (hepisodes : List.Forall₂ Episode.Recoded episodes episodes') :
    (episodes.foldl (Episode.play Memory.gateway settings) crowd).Akin likeness
        (episodes'.foldl (Episode.play Memory.gateway settings) crowd') ∧
      transcript settings episodes' crowd' = transcript settings episodes crowd := by
  induction hepisodes generalizing crowd crowd' with
  | nil => exact ⟨h, rfl⟩
  | cons hepisode _ ih =>
    obtain ⟨hrun, htold⟩ := ih (akin_play settings h hepisode)
    exact ⟨hrun, congrArg₂ List.cons (told_eq settings h hepisode) htold⟩

/-- Codes of the same size cannot be told apart by anyone who gets no mail: if every code is
another one of the same size, a run of requests, questions, faults and pauses gives the same
answers, wherever the requests give way to one another, and logs the same. Only the bodies of the
mails and the codes that are kept are different. -/
theorem codes_undisclosed (settings : IssuingSettings)
    (hepisodes : List.Forall₂ Episode.Recoded episodes episodes') {start start' : World Memory}
    (hstart : start.Recoded start') :
    let crowd : Crowd (World Memory) := ⟨[], start, [], []⟩
    let crowd' : Crowd (World Memory) := ⟨[], start', [], []⟩
    transcript settings episodes' crowd' = transcript settings episodes crowd ∧
      log Memory.gateway settings episodes' start' = log Memory.gateway settings episodes start ∧
      (episodes.foldl (Episode.play Memory.gateway settings) crowd).state.Recoded
        (episodes'.foldl (Episode.play Memory.gateway settings) crowd').state := by
  intro crowd crowd'
  have h : crowd.Akin likeness crowd' := ⟨.nil, hstart, .nil, .refl _ _⟩
  obtain ⟨hrun, htold⟩ := akin_run settings h hepisodes
  have hlogged := hrun.events
  rw [Likeness.Logged, likeness, List.filter_true, List.filter_true] at hlogged
  exact ⟨htold, hlogged, hrun.state⟩

/-- Two requests race for an address, a third finds the code that the cache held at the start, and
a fourth gets a code that the generator is made to give out, all of it with numbers for codes and
again with words. -/
theorem codes_undisclosed_in_race :
    let settings : IssuingSettings := ⟨.setIfAbsent, .bestEffort⟩
    let episodes (code : String) : List Episode := [.request "b", .request "b", .turn 0, .turn 1,
      .turn 1, .turn 0, .issue "a", .rig fun faults => { faults with generate := some (.ok code) },
      .issue "c", .wait 599999, .codeTimeLeft "b", .turn 0, .wait 1, .turn 1, .hasLiveCode "b"]
    let held (code : String) : Memory :=
      (Memory.store 0 (CodeKey.ofAddress "a") code 300 .empty).state
    let numbers : World Memory := .fresh (held "12") (fun _ => "345") fun _ => "id"
    let words : World Memory := .fresh (held "ja") (fun _ => "né") fun _ => "id"
    List.Forall₂ Episode.Recoded (episodes "6789") (episodes "oral") ∧ numbers.Recoded words ∧
      transcript settings (episodes "oral") ⟨[], words, [], []⟩ =
        transcript settings (episodes "6789") ⟨[], numbers, [], []⟩ ∧
      log Memory.gateway settings (episodes "oral") words =
        log Memory.gateway settings (episodes "6789") numbers := by
  intro settings episodes held numbers words
  have hepisodes : List.Forall₂ Episode.Recoded (episodes "6789") (episodes "oral") := by
    have hrig (f f' : Faults) (h : f.Recoded f') :
        Faults.Recoded { f with generate := some (.ok "6789") }
          { f' with generate := some (.ok "oral") } :=
      { h with generate := .some (.ok (by decide)) }
    simp only [episodes, List.forall₂_cons, List.forall₂_nil_left_iff, Episode.Recoded, and_true,
      true_and]
    exact hrig
  have hstart : numbers.Recoded words := by
    have hempty : Memory.empty.Recoded SameSize Memory.empty := ⟨.nil, rfl, rfl⟩
    have hheld : SameSize "12" "ja" := by decide
    have hdrawn : SameSize "345" "né" := by decide
    exact ⟨(hempty.store 0 _ hheld 300).state, rfl, ⟨rfl, rfl, .nil, rfl, rfl⟩,
      ⟨rfl, rfl, rfl, rfl, rfl, rfl, .none, rfl⟩, fun _ => hdrawn, rfl⟩
  obtain ⟨htold, hlogged, -⟩ := codes_undisclosed settings hepisodes hstart
  exact ⟨hepisodes, hstart, htold, hlogged⟩

end

end Rehearsal

end MailCode
