import MailCode.Proofs.Rehearsal.Cast
/-!
# A code is used again until it expires

In a run of requests that are served one after the other, questions, faults that come and go and
time that passes, a `Ledger` notes for each address the last code that was written, and when. It
is kept from what the collaborators reply and never looks into the cache. `Keeps` says that the
cache holds what the ledger says, and `codes_reused` draws the conclusions: for ten minutes after
a write the code is sent again and nothing else happens, and afterwards a fresh code is made.
-/

namespace MailCode.Rehearsal

open Issuance World

/-- The code that was last written for each address, and the moment of the write. -/
abbrev Ledger := String → Option (String × Nat)

/-- The entry that should be live for an address. -/
def Ledger.record? (ledger : Ledger) (now : Nat) (email : String) : Option Entry :=
  ((ledger email).map fun (code, t) => (⟨code, t + codeLifetime * 1000⟩ : Entry)).filter
    (·.isLive now)

/-- The ledger after a dialogue about an address. -/
def Ledger.after (ledger : Ledger) (now : Nat) (email : String) (said : List Exchange) : Ledger :=
  match said.findSome? Exchange.written? with
  | some code => Function.update ledger email (some (code, now))
  | none => ledger

/-- A world and its ledger. -/
structure Chronicle where
  world : World Memory
  ledger : Ledger

/-- Carries an action out and keeps the ledger. -/
def Chronicle.perform (settings : IssuingSettings) (ch : Chronicle) (action : Action) : Chronicle where
  world := (Rehearsal.perform settings action ch.world).world
  ledger :=
    match action with
    | .issue email => ch.ledger.after ch.world.now email (dialogue cast settings email ch.world)
    | _ => ch.ledger

/-- Carries actions out, one after the other. -/
def Chronicle.run (settings : IssuingSettings) (actions : List Action) (ch : Chronicle) : Chronicle :=
  actions.foldl (Chronicle.perform settings) ch

/-- Whether an action is a request on its own, a question, a fault or a lapse of time. -/
def Action.isSequential : Action → Bool
  | .issueTogether .. | .direct .. => false
  | _ => true

/-- A live code is looked up and sent, and that is all that is said. -/
def Reuses (settings : IssuingSettings) (email code : String) (w : World Memory) : Prop :=
  ∃ sent, dialogue cast settings email w =
    [.lookup (CodeKey.ofAddress email) (.ok (some code)), .send (Mail.ofCode email code) sent]

/-- No live code is found and the generator is asked for one. If it has one and the write meets no
fault, the code is written and sent. -/
def Renews (settings : IssuingSettings) (email : String) (ch : Chronicle) : Prop :=
  ∃ made rest,
    dialogue cast settings email ch.world =
      .lookup (CodeKey.ofAddress email) (.ok none) :: .generate made :: rest ∧
    (ch.world.faults.generate = none → made = .ok (ch.world.codes ch.world.drawn)) ∧
    ∀ code, made = .ok code → ch.world.faults.write settings.strategy = none →
      (∃ sent, rest = [writeExchange settings.strategy email code (.ok .inserted),
        .send (Mail.ofCode email code) sent]) ∧
      (ch.perform settings (.issue email)).ledger email = some (code, ch.world.now)

/-! ## One issuance -/

theorem quiet_finish (settings : IssuingSettings) (email code : String) (w : World Memory)
    (calls : List Call) (events : List Event) :
    w.Quiet (finish cast settings email code w calls events).state := by
  rw [finish_state]
  exact quiet_send w _

/-- An issuance writes the code that it says it has written, or nothing. -/
theorem issue_writes (settings : IssuingSettings) (email : String) (w : World Memory) :
    (∃ code, (dialogue cast settings email w).findSome? Exchange.written? = some code ∧
      w.Becomes (issue cast settings email w).state (w.withCode email code)) ∨
    ((dialogue cast settings email w).findSome? Exchange.written? = none ∧
      w.Quiet (issue cast settings email w).state) := by
  have hlookup {o w₁ es₁} (hl : cast.lookup (CodeKey.ofAddress email) w = ⟨o, w₁, es₁⟩) :
      w.Quiet w₁ := by
    have hquiet := quiet_lookup w (CodeKey.ofAddress email)
    rwa [hl] at hquiet
  have hgenerate {w₁ o w₂ es₂} (hg : cast.generate w₁ = ⟨o, w₂, es₂⟩) : w₁.Quiet w₂ := by
    have hquiet := quiet_generate w₁
    rwa [hg] at hquiet
  have hwrite {code w₂ o w₃ es₃}
      (hw : write cast settings.strategy email code w₂ = ⟨o, w₃, es₃⟩) :
      Wrote settings.strategy email code w₂ o w₃ := by
    have hwrote := write_wrote settings.strategy email code w₂
    rwa [hw] at hwrote
  have hcourse := issue_course cast settings email w
  generalize dialogue cast settings email w = said at hcourse ⊢
  generalize issue cast settings email w = p at hcourse ⊢
  cases hcourse with
  | refused he => exact .inr ⟨rfl, .refl w⟩
  | lookupFailed hne hl ho => exact .inr ⟨rfl, hlookup hl⟩
  | hit hne hl => exact .inr ⟨rfl, (hlookup hl).trans (quiet_finish ..)⟩
  | generatorFailed hne hl hg ho => exact .inr ⟨rfl, (hlookup hl).trans (hgenerate hg)⟩
  | writeFailed hne hl hg hw ho =>
    refine .inr ⟨?_, ?_⟩
    · simp [written?_writeExchange_failed (Outcome.isOk_of_failure? ho)]
    · cases hwrite hw with
      | inserted => cases ho
      | existing => cases ho
      | failed _ hquiet => exact ((hlookup hl).trans (hgenerate hg)).trans hquiet
  | @stored w₁ es₁ code w₂ es₂ w₃ es₃ hne hl hg hw =>
    refine .inl ⟨code, ?_, ?_⟩
    · simp [List.findSome?_cons]
    · have hquiet := (hlookup hl).trans (hgenerate hg)
      cases hwrite hw with
      | inserted _ hbecomes =>
        rw [hquiet.withCode_eq] at hbecomes
        exact (hquiet.becomes hbecomes).quiet (quiet_finish ..)
      | failed ho => cases ho
  | lost hne hl hg hw =>
    refine .inr ⟨?_, ?_⟩
    · simp [strategy_of_existing hw, Exchange.written?, writeExchange]
    · cases hwrite hw with
      | existing _ _ hquiet =>
        exact (((hlookup hl).trans (hgenerate hg)).trans hquiet).trans (quiet_finish ..)
      | failed ho => cases ho

/-! ## The ledger and the cache -/

/-- The cache holds what the ledger says. -/
structure Chronicle.Keeps (ch : Chronicle) : Prop where
  sound : ch.world.cache.poisoned = false
  record : ∀ email, ch.world.record? email = ch.ledger.record? ch.world.now email

theorem Chronicle.Keeps.quiet {ch : Chronicle} (h : ch.Keeps) {w : World Memory}
    (hquiet : ch.world.Quiet w) : Keeps ⟨w, ch.ledger⟩ := by
  refine ⟨hquiet.poisoned.trans h.sound, fun email => ?_⟩
  rw [hquiet.record?_eq, h.record, hquiet.now]

theorem Ledger.record?_update (ledger : Ledger) (now : Nat) (email code email' : String) :
    Ledger.record? (Function.update ledger email (some (code, now))) now email' =
      if email' = email then some ⟨code, now + codeLifetime * 1000⟩
      else ledger.record? now email' := by
  by_cases he : email' = email
  · rw [if_pos he, he, record?, Function.update_self]
    exact fresh?_codeLifetime now code
  · rw [if_neg he, record?, Function.update_of_ne he, record?]

/-- A request keeps the ledger true. -/
theorem Chronicle.Keeps.issue {ch : Chronicle} (h : ch.Keeps) (settings : IssuingSettings)
    (email : String) : (ch.perform settings (.issue email)).Keeps := by
  rcases issue_writes settings email ch.world with ⟨code, hsaid, hbecomes⟩ | ⟨hsaid, hquiet⟩
  · refine ⟨hbecomes.poisoned.trans h.sound, fun email' => ?_⟩
    simp only [perform, Ledger.after, hsaid, Rehearsal.perform]
    rw [hbecomes.record?_withCode, h.record, hbecomes.now, Ledger.record?_update]
  · simp only [perform, Ledger.after, hsaid]
    exact h.quiet hquiet

theorem Chronicle.Keeps.wait {ch : Chronicle} (h : ch.Keeps) (duration : Nat) :
    Keeps ⟨{ ch.world with now := ch.world.now + duration }, ch.ledger⟩ := by
  refine ⟨h.sound, fun email => ?_⟩
  have hle : ch.world.now ≤ ch.world.now + duration := Nat.le_add_right _ _
  have hrecord := h.record email
  rw [World.record?] at hrecord ⊢
  rw [Memory.live?_later hle, hrecord, Ledger.record?, Entry.filter_isLive_later hle]
  rfl

/-- Whatever is done keeps the ledger true. -/
theorem Chronicle.Keeps.perform {ch : Chronicle} (h : ch.Keeps) (settings : IssuingSettings)
    {action : Action} (ha : action.isSequential) : (ch.perform settings action).Keeps := by
  cases action with
  | issue email => exact h.issue settings email
  | issueTogether emails points => cases ha
  | hasLiveCode email =>
    exact h.quiet (quiet_ask ch.world.faults.contains ch.world (CodeKey.ofAddress email) _)
  | codeTimeLeft email =>
    exact h.quiet (quiet_ask ch.world.faults.timeLeft ch.world (CodeKey.ofAddress email) _)
  | cacheHealthy => exact h.quiet (quiet_cacheHealthy ch.world)
  | rig change => exact ⟨h.sound, h.record⟩
  | setMailboxFailing failing => exact ⟨h.sound, h.record⟩
  | resetMailbox => exact ⟨h.sound, h.record⟩
  | wait duration => exact h.wait duration
  | direct action => cases ha

theorem Chronicle.keeps_empty {w : World Memory} (hempty : w.cache = .empty) :
    Keeps ⟨w, fun _ => none⟩ := by
  constructor
  · show w.cache.poisoned = false
    rw [hempty]
    rfl
  · intro email
    show w.cache.live? w.now (CodeKey.ofAddress email) = none
    rw [hempty]
    rfl

theorem Chronicle.Keeps.run {ch : Chronicle} (h : ch.Keeps) (settings : IssuingSettings)
    {actions : List Action} (hseq : ∀ action ∈ actions, action.isSequential) :
    (ch.run settings actions).Keeps := by
  induction actions generalizing ch with
  | nil => exact h
  | cons action actions ih =>
    have hnext := h.perform settings (hseq action List.mem_cons_self)
    exact ih hnext fun a ha => hseq a (List.mem_cons_of_mem _ ha)

/-! ## What follows for a request and for a question -/

theorem Ledger.record?_live {ledger : Ledger} {now t : Nat} {email code : String}
    (h : ledger email = some (code, t)) (hlive : now < t + 600 * 1000) :
    ledger.record? now email = some ⟨code, t + 600 * 1000⟩ := by
  rw [record?, h]
  exact Option.filter_some_pos (decide_eq_true hlive)

theorem Ledger.record?_dead {ledger : Ledger} {now : Nat} {email : String}
    (h : ∀ code t, ledger email = some (code, t) → t + 600 * 1000 ≤ now) :
    ledger.record? now email = none := by
  rw [record?]
  rcases hledger : ledger email with _ | ⟨code, t⟩
  · rfl
  · have hle := h code t hledger
    exact Option.filter_some_neg (decide_eq_false (Nat.not_lt.2 hle))

theorem hasLiveCode_result {w : World Memory} (hsound : w.cache.poisoned = false)
    (hfault : w.faults.contains = none) (settings : IssuingSettings) (email : String) :
    (Rehearsal.perform settings (.hasLiveCode email) w).result =
      .memory (.flag (w.record? email).isSome) := by
  show Result.ofOutcome .flag (cast.contains (CodeKey.ofAddress email) w).outcome = _
  rw [contains_outcome hsound hfault]
  rfl

theorem codeTimeLeft_result {w : World Memory} (hsound : w.cache.poisoned = false)
    (hfault : w.faults.timeLeft = none) (settings : IssuingSettings) (email : String) :
    (Rehearsal.perform settings (.codeTimeLeft email) w).result =
      .memory (.seconds ((w.record? email).map fun e => (e.expiresAt - w.now) / 1000)) := by
  show Result.ofOutcome .seconds (cast.timeLeft (CodeKey.ofAddress email) w).outcome = _
  rw [timeLeft_outcome hsound hfault]
  rfl

theorem reuses_of_record {w : World Memory} {email : String} {e : Entry} (hne : email ≠ "")
    (hsound : w.cache.poisoned = false) (hfault : w.faults.lookup = none)
    (hrecord : w.record? email = some e) (settings : IssuingSettings) :
    Reuses settings email e.value w := by
  have ho := lookup_outcome hsound hfault email
  rw [hrecord] at ho
  rcases hl : cast.lookup (CodeKey.ofAddress email) w with ⟨o, w₁, es₁⟩
  rw [hl] at ho
  obtain rfl : o = .ok (some e.value) := ho
  exact ⟨_, (Course.hit hne hl).eq_dialogue⟩

/-- The ledger takes down what an issuance says it has written. -/
theorem Chronicle.ledger_issue {ch : Chronicle} {settings : IssuingSettings} {email code : String}
    (h : (dialogue cast settings email ch.world).findSome? Exchange.written? = some code) :
    (ch.perform settings (.issue email)).ledger email = some (code, ch.world.now) := by
  simp only [perform, Ledger.after, h]
  exact Function.update_self ..

theorem renews_of_record {ch : Chronicle} {email : String} (hne : email ≠ "")
    (hsound : ch.world.cache.poisoned = false) (hfault : ch.world.faults.lookup = none)
    (hrecord : ch.world.record? email = none) (settings : IssuingSettings) :
    Renews settings email ch := by
  have ho := lookup_outcome hsound hfault email
  obtain ⟨cache, hstate⟩ := lookup_state (CodeKey.ofAddress email) ch.world
  have hlooked := quiet_lookup ch.world (CodeKey.ofAddress email)
  rw [hrecord] at ho
  rcases hl : cast.lookup (CodeKey.ofAddress email) ch.world with ⟨o, w₁, es₁⟩
  rw [hl] at ho hstate hlooked
  obtain rfl : o = .ok none := ho
  obtain rfl : w₁ = { ch.world with cache } := hstate
  rcases hg : cast.generate { ch.world with cache } with ⟨o, w₂, es₂⟩
  have hquiet : ch.world.Quiet w₂ := by
    have hgenerated := quiet_generate { ch.world with cache }
    rw [hg] at hgenerated
    exact hlooked.trans hgenerated
  have hmade : ch.world.faults.generate = none → o = .ok (ch.world.codes ch.world.drawn) := by
    intro hnone
    have hcode := generate_outcome (w := { ch.world with cache }) hnone
    rwa [hg] at hcode
  rcases o with code | e | p
  · -- Where nothing is live and no fault is set, a write can only succeed.
    have hfree : w₂.record? email = none := (hquiet.record?_eq email).trans hrecord
    have hwritten (hnone : ch.world.faults.write settings.strategy = none) :
        (write cast settings.strategy email code w₂).outcome = .ok .inserted :=
      write_outcome (hquiet.poisoned.trans hsound) (hquiet.faults ▸ hnone) hfree code
    rcases hw : write cast settings.strategy email code w₂ with ⟨o, w₃, es₃⟩
    rw [hw] at hwritten
    rcases o with (_ | winner) | e | p
    · have hsaid := (Course.stored hne hl hg hw).eq_dialogue
      refine ⟨_, _, hsaid, hmade, ?_⟩
      rintro code' hcode -
      cases hcode
      refine ⟨⟨_, rfl⟩, Chronicle.ledger_issue ?_⟩
      rw [hsaid]
      simp [List.findSome?_cons]
    · refine ⟨_, _, (Course.lost hne hl hg hw).eq_dialogue, hmade, fun _ _ hnone => ?_⟩
      cases hwritten hnone
    · refine ⟨_, _, (Course.writeFailed hne hl hg hw rfl).eq_dialogue, hmade, fun _ _ hnone => ?_⟩
      cases hwritten hnone
    · refine ⟨_, _, (Course.writeFailed hne hl hg hw rfl).eq_dialogue, hmade, fun _ _ hnone => ?_⟩
      cases hwritten hnone
  · refine ⟨_, _, (Course.generatorFailed hne hl hg rfl).eq_dialogue, hmade, fun _ hcode => ?_⟩
    cases hcode
  · refine ⟨_, _, (Course.generatorFailed hne hl hg rfl).eq_dialogue, hmade, fun _ hcode => ?_⟩
    cases hcode

/-- In a run that starts from an empty cache a code is sent again for ten minutes after it was
written, while nothing is written and no code is made, whatever became of the mails before. From
then on a fresh code is made, and becomes the last that was written. Questions about codes are
answered accordingly. -/
theorem codes_reused (settings : IssuingSettings) (actions : List Action)
    (hseq : ∀ action ∈ actions, action.isSequential) (start : World Memory)
    (hempty : start.cache = .empty) (email : String) :
    let ch := Chronicle.run settings actions ⟨start, fun _ => none⟩
    let present := (Rehearsal.perform settings (.hasLiveCode email) ch.world).result
    let left := (Rehearsal.perform settings (.codeTimeLeft email) ch.world).result
    (∀ code t, ch.ledger email = some (code, t) → ch.world.now < t + 600 * 1000 →
      (email ≠ "" → ch.world.faults.lookup = none → Reuses settings email code ch.world ∧
        (ch.perform settings (.issue email)).ledger = ch.ledger) ∧
      (ch.world.faults.contains = none → present = .memory (.flag true)) ∧
      (ch.world.faults.timeLeft = none →
        left = .memory (.seconds (some ((t + 600 * 1000 - ch.world.now) / 1000))))) ∧
    ((∀ code t, ch.ledger email = some (code, t) → t + 600 * 1000 ≤ ch.world.now) →
      (email ≠ "" → ch.world.faults.lookup = none → Renews settings email ch) ∧
      (ch.world.faults.contains = none → present = .memory (.flag false)) ∧
      (ch.world.faults.timeLeft = none → left = .memory (.seconds none))) := by
  intro ch present left
  have hkeeps : ch.Keeps := (Chronicle.keeps_empty hempty).run settings hseq
  have hrecord := hkeeps.record email
  constructor
  · intro code t hledger hlive
    rw [Ledger.record?_live hledger hlive] at hrecord
    refine ⟨fun hne hnone => ?_, fun hnone => ?_, fun hnone => ?_⟩
    · obtain ⟨sent, hsaid⟩ := reuses_of_record hne hkeeps.sound hnone hrecord settings
      refine ⟨⟨sent, hsaid⟩, ?_⟩
      simp [Chronicle.perform, Ledger.after, hsaid, List.findSome?_cons]
    · have hanswer := hasLiveCode_result hkeeps.sound hnone settings email
      rw [hrecord] at hanswer
      exact hanswer
    · have hanswer := codeTimeLeft_result hkeeps.sound hnone settings email
      rw [hrecord] at hanswer
      exact hanswer
  · intro hdead
    rw [Ledger.record?_dead hdead] at hrecord
    refine ⟨fun hne hnone => ?_, fun hnone => ?_, fun hnone => ?_⟩
    · exact renews_of_record hne hkeeps.sound hnone hrecord settings
    · have hanswer := hasLiveCode_result hkeeps.sound hnone settings email
      rw [hrecord] at hanswer
      exact hanswer
    · have hanswer := codeTimeLeft_result hkeeps.sound hnone settings email
      rw [hrecord] at hanswer
      exact hanswer

/-- One millisecond before a code expires it is still sent, though the mail before was refused;
one millisecond later a fresh one is made. -/
theorem codes_reused_until_expiry :
    let settings : IssuingSettings := ⟨.setIfAbsent, .strict⟩
    let start : World Memory := .fresh .empty (fun _ => "1234") fun _ => "id"
    let actions : List Action :=
      [.issue "a", .setMailboxFailing true, .issue "a", .wait 599999]
    let atEnd (actions : List Action) := Chronicle.run settings actions ⟨start, fun _ => none⟩
    (∀ action ∈ actions ++ [.wait 1], action.isSequential) ∧ start.cache = .empty ∧
      Reuses settings "a" "1234" (atEnd actions).world ∧
      Renews settings "a" (atEnd (actions ++ [.wait 1])) := by
  intro settings start actions atEnd
  have hseq : ∀ action ∈ actions ++ [.wait 1], action.isSequential := by decide
  have hbefore := codes_reused settings actions
    (fun action h => hseq action (List.mem_append_left _ h)) start rfl "a"
  have hafter := codes_reused settings (actions ++ [.wait 1]) hseq start rfl "a"
  have hledger : (atEnd actions).ledger "a" = some ("1234", 0) := by decide +kernel
  have hledger' : (atEnd (actions ++ [.wait 1])).ledger "a" = some ("1234", 0) := by decide +kernel
  have hnow : (atEnd actions).world.now = 599999 := by decide +kernel
  have hnow' : (atEnd (actions ++ [.wait 1])).world.now = 600000 := by decide +kernel
  have hfault : (atEnd actions).world.faults.lookup = none := by decide +kernel
  have hfault' : (atEnd (actions ++ [.wait 1])).world.faults.lookup = none := by decide +kernel
  refine ⟨hseq, rfl, ?_, ?_⟩
  · have hlive : (atEnd actions).world.now < 0 + 600 * 1000 := by omega
    exact ((hbefore.1 "1234" 0 hledger hlive).1 (by decide) hfault).1
  · refine (hafter.2 fun code t h => ?_).1 (by decide) hfault'
    cases hledger'.symm.trans h
    exact Nat.le_of_eq hnow'.symm

end MailCode.Rehearsal
