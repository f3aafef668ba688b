import MailCode.Proofs.Issuance.Log
import MailCode.Proofs.Issuance.Protocol
import MailCode.Rehearsal.Action
/-!
# What the log tells

Whoever reads the events of an issuance learns whether there was a live code, what became of the
write and of the mail, and what was answered: `Story` says which event tells what. The events of the
collaborators do not get in the way if they have targets of their own, and in a rehearsal they do
(`logs_cast`).
-/

namespace MailCode

namespace Issuance

variable {σ : Type} {policy : DeliveryPolicy} {email : String}

/-- An event of some name was logged. -/
def Logged (events : List Event) (name : String) : Prop :=
  ∃ e ∈ events, e.name? = some name

/-- An event that an issuance ends with. -/
def IsTerminal (e : Event) : Prop :=
  e.name? = some "code_issued" ∨ e.name? = some "code_issue_failed"

/-- What the last event says of the answer. -/
def Concludes (answer : Answer) (last : Event) : Prop :=
  if answer.error = .success then last.level = .info ∧ last.name? = some "code_issued"
  else last.level = .error ∧ last.name? = some "code_issue_failed" ∧
    last.fields.lookup "error_code" = some (.text answer.error.symbol)

/-- What the own events of an issuance tell of its dialogue and its answer. -/
structure Story (policy : DeliveryPolicy) (said : List Exchange) (answer : Answer)
    (own : List Event) : Prop where
  terminal : ∃ others last, own = others ++ [last] ∧ (∀ e ∈ others, ¬IsTerminal e) ∧
    Concludes answer last
  reused : Logged own "code_reused" ↔ ∃ key code, .lookup key (.ok (some code)) ∈ said
  stored : Logged own "code_stored" ↔ ∃ key code lifetime, .generate (.ok code) ∈ said ∧
    (.store key code lifetime (.ok ()) ∈ said ∨
      .storeIfAbsent key code lifetime (.ok .inserted) ∈ said)
  lostRace : Logged own "code_store_lost_race" ↔ ∃ key code lifetime winner,
    .storeIfAbsent key code lifetime (.ok (.existing winner)) ∈ said
  delivered : Logged own "code_delivered" ↔ ∃ mail messageId, .send mail (.ok messageId) ∈ said
  deliveryFailed : Logged own "code_delivery_failed" ↔
    policy = .bestEffort ∧ ∃ mail message, .send mail (.error (.mail message)) ∈ said

theorem name?_about (level : Level) (email name message : String) (more : List (String × Field)) :
    (about level email name message more).name? = some name := rfl

/-- An event of some name is told of an exchange. -/
def ToldAs (policy : DeliveryPolicy) (email : String) (x : Exchange) (name : String) : Prop :=
  ∃ e, x.told? policy email = some e ∧ e.name? = some name

/-- Which exchanges have which events told of them. -/
structure Headlines (policy : DeliveryPolicy) (email : String) (x : Exchange) : Prop where
  issued : ¬ToldAs policy email x "code_issued"
  issueFailed : ¬ToldAs policy email x "code_issue_failed"
  reused : ToldAs policy email x "code_reused" ↔ ∃ key code, x = .lookup key (.ok (some code))
  stored : ToldAs policy email x "code_stored" ↔ ∃ key code lifetime,
    x = .store key code lifetime (.ok ()) ∨ x = .storeIfAbsent key code lifetime (.ok .inserted)
  lostRace : ToldAs policy email x "code_store_lost_race" ↔ ∃ key code lifetime winner,
    x = .storeIfAbsent key code lifetime (.ok (.existing winner))
  delivered : ToldAs policy email x "code_delivered" ↔
    ∃ mail messageId, x = .send mail (.ok messageId)
  deliveryFailed : ToldAs policy email x "code_delivery_failed" ↔
    policy = .bestEffort ∧ ∃ mail message, x = .send mail (.error (.mail message))

theorem headlines (policy : DeliveryPolicy) (email : String) (x : Exchange) :
    Headlines policy email x := by
  rcases x with ⟨key, (_ | code) | e | p⟩ | ⟨key, code, lifetime, _ | e | p⟩ |
    ⟨key, code, lifetime, (_ | winner) | e | p⟩ | _ | _ | _ | _ |
    ⟨mail, messageId | (e | m | m | m) | p⟩ <;>
  constructor <;>
  simp [ToldAs, Exchange.told?, codeReused, codeStored, codeStoreLostRace, codeDelivered,
    codeDeliveryFailed, name?_about, BackendError.toDeliveryError, DeliveryError.isRejection,
    and_assoc]

theorem not_isTerminal_of_told? {x : Exchange} {e : Event} (h : x.told? policy email = some e) :
    ¬IsTerminal e := by
  rintro (hname | hname)
  · exact (headlines policy email x).issued ⟨e, h, hname⟩
  · exact (headlines policy email x).issueFailed ⟨e, h, hname⟩

theorem closing_concludes (email : String) (failed : Option IssuanceError) :
    Concludes ⟨email, verdict failed⟩ (closing email failed) := by
  cases failed with
  | none => exact ⟨rfl, name?_about ..⟩
  | some e =>
    have hcode : e.code ≠ .success := by
      rcases e with _ | _ | (_ | _) | _ | _ <;> simp [IssuanceError.code]
    rw [Concludes, verdict, if_neg hcode]
    exact ⟨rfl, name?_about .., rfl⟩

theorem isTerminal_closing (email : String) (failed : Option IssuanceError) :
    IsTerminal (closing email failed) := by
  cases failed with
  | none => exact .inl (name?_about ..)
  | some e => exact .inr (name?_about ..)

/-- An event of another name than the last one was logged just if it was told of an exchange. -/
theorem logged_story {said : List Exchange} {name : String} (hissued : name ≠ "code_issued")
    (hfailed : name ≠ "code_issue_failed") :
    Logged (story policy email said) name ↔ ∃ x ∈ said, ToldAs policy email x name := by
  have hclosing : (closing email (failure? policy email said)).name? ≠ some name := by
    intro hname
    rcases isTerminal_closing email (failure? policy email said) with h | h
    · exact hissued (Option.some.inj (hname.symm.trans h))
    · exact hfailed (Option.some.inj (hname.symm.trans h))
  simp only [Logged, ToldAs, story, List.mem_append, List.mem_filterMap, List.mem_singleton]
  constructor
  · rintro ⟨e, ⟨x, hx, he⟩ | rfl, h⟩
    · exact ⟨x, hx, e, he, h⟩
    · exact absurd h hclosing
  · rintro ⟨x, hx, e, he, h⟩
    exact ⟨e, .inl ⟨x, hx, he⟩, h⟩

/-- What is written was generated. -/
theorem Protocol.generated {strategy : Strategy} {said : List Exchange}
    (h : Protocol strategy email said) {key value : String} {lifetime : Nat} :
    (∀ reply, .store key value lifetime reply ∈ said → .generate (.ok value) ∈ said) ∧
      ∀ reply, .storeIfAbsent key value lifetime reply ∈ said → .generate (.ok value) ∈ said := by
  cases h <;> simp +contextual

theorem story_tells {strategy : Strategy} {said : List Exchange}
    (h : Protocol strategy email said) (policy : DeliveryPolicy) :
    Story policy said ⟨email, verdict (failure? policy email said)⟩ (story policy email said) := by
  constructor
  case terminal =>
    refine ⟨_, _, rfl, fun e he => ?_, closing_concludes email _⟩
    obtain ⟨x, -, htold⟩ := List.mem_filterMap.1 he
    exact not_isTerminal_of_told? htold
  case reused =>
    rw [logged_story (by decide) (by decide)]
    simp only [(headlines policy email _).reused]
    exact ⟨fun ⟨x, hx, key, code, he⟩ => ⟨key, code, he ▸ hx⟩,
      fun ⟨key, code, hx⟩ => ⟨_, hx, key, code, rfl⟩⟩
  case stored =>
    rw [logged_story (by decide) (by decide)]
    simp only [(headlines policy email _).stored]
    constructor
    · rintro ⟨x, hx, key, code, lifetime, rfl | rfl⟩
      · exact ⟨key, code, lifetime, h.generated.1 _ hx, .inl hx⟩
      · exact ⟨key, code, lifetime, h.generated.2 _ hx, .inr hx⟩
    · rintro ⟨key, code, lifetime, -, hx | hx⟩
      · exact ⟨_, hx, key, code, lifetime, .inl rfl⟩
      · exact ⟨_, hx, key, code, lifetime, .inr rfl⟩
  case lostRace =>
    rw [logged_story (by decide) (by decide)]
    simp only [(headlines policy email _).lostRace]
    exact ⟨fun ⟨x, hx, key, code, lifetime, winner, he⟩ => ⟨key, code, lifetime, winner, he ▸ hx⟩,
      fun ⟨key, code, lifetime, winner, hx⟩ => ⟨_, hx, key, code, lifetime, winner, rfl⟩⟩
  case delivered =>
    rw [logged_story (by decide) (by decide)]
    simp only [(headlines policy email _).delivered]
    exact ⟨fun ⟨x, hx, mail, messageId, he⟩ => ⟨mail, messageId, he ▸ hx⟩,
      fun ⟨mail, messageId, hx⟩ => ⟨_, hx, mail, messageId, rfl⟩⟩
  case deliveryFailed =>
    rw [logged_story (by decide) (by decide)]
    simp only [(headlines policy email _).deliveryFailed]
    exact ⟨fun ⟨x, hx, hpolicy, mail, message, he⟩ => ⟨hpolicy, mail, message, he ▸ hx⟩,
      fun ⟨hpolicy, mail, message, hx⟩ => ⟨_, hx, hpolicy, mail, message, rfl⟩⟩

/-! ## What a rehearsal logs besides -/

section
variable (now : Nat) (key value : String) (lifetime : Nat) (m : Memory)

theorem foreign_nil : Foreign [] := by
  simp [Foreign]

theorem foreign_liveEntry : Foreign (m.liveEntry now key).2.2 := by
  unfold Memory.liveEntry
  split
  · exact foreign_nil
  · split
    · exact foreign_nil
    · simp [Foreign, Memory.evicted, Memory.target, target]

theorem foreign_insert : Foreign (m.insert now key value lifetime).events := by
  unfold Memory.insert
  dsimp only
  split
  · exact foreign_nil
  · split
    · unfold Memory.sweep
      dsimp only
      split <;> simp [Foreign, Memory.swept, Memory.target, target]
    · exact foreign_nil

theorem foreign_locked {α : Type} {operation : Memory → Reply Memory CacheError α}
    (h : ∀ m, Foreign (operation m).events) : Foreign (m.locked operation).events := by
  unfold Memory.locked
  split
  · exact foreign_nil
  · exact h m

theorem foreign_storeIfAbsent : Foreign (m.storeIfAbsent now key value lifetime).events := by
  refine foreign_locked m fun m => ?_
  have hentry := foreign_liveEntry now key m
  dsimp only
  split
  · exact hentry
  · exact List.forall_mem_append.2 ⟨hentry, foreign_insert now key value lifetime _⟩

end

theorem foreign_askCache {α : Type} (fault : Option (Rehearsal.Fault CacheError))
    (w : Rehearsal.World Memory) {ask : Memory → Reply Memory CacheError α}
    (h : ∀ m, Foreign (ask m).events) : Foreign (w.askCache fault ask).events := by
  cases fault with
  | some f => exact foreign_nil
  | none => exact h w.cache

/-- In a rehearsal only the service itself logs under its target. -/
theorem logs_cast : Rehearsal.cast.Logs Foreign where
  lookup key w := foreign_askCache _ w fun m =>
    foreign_locked m fun m => foreign_liveEntry w.now key m
  store key value lifetime w := foreign_askCache _ w fun m =>
    foreign_locked m fun m => foreign_insert w.now key value lifetime m
  storeIfAbsent key value lifetime w := foreign_askCache _ w fun m =>
    foreign_storeIfAbsent w.now key value lifetime m
  generate w := by
    have hcast : Rehearsal.cast.generate w = w.drawCode := rfl
    rw [hcast, Rehearsal.World.drawCode]
    split <;> exact foreign_nil
  send mail w := by
    have hcast : Rehearsal.cast.send mail w = w.sendMail mail := rfl
    rw [hcast, Rehearsal.World.sendMail]
    split
    · exact foreign_nil
    · simp only [Mailbox.send, Reply.mapState]
      split <;> simp [Foreign, Mailbox.refusing, Mailbox.taken, mailTarget, target]

/-! ## The log and the answer -/

/-- Whatever the collaborators do, the log and the answer of an issuance tell the same: its own
events, which are those that are left when the collaborators are silenced, end with one that says
how it ended, and the others say what became of the calls. They stand in the log in this order, and
if nobody else logs under the issuance's target, they can be told from the rest. -/
theorem log_tells_story (c : Collaborators σ) (settings : IssuingSettings) (email : String)
    (s : σ) :
    let p := issue c settings email s
    let own := (issue c.silenced settings email s).events
    (∃ answer, p.stage = .done answer ∧
      Story settings.policy (dialogue c settings email s) answer own) ∧
    own.Sublist p.events ∧
    (c.Logs Foreign → p.events.filter (·.target = target) = own) := by
  intro p own
  have hcourse := issue_course c settings email s
  have hown : own = story settings.policy email (dialogue c settings email s) :=
    events_silenced c settings email s
  rw [hown]
  have hlogs : c.Logs fun _ => True :=
    ⟨fun _ _ => trivial, fun _ _ _ _ => trivial, fun _ _ _ _ => trivial, fun _ => trivial,
      fun _ _ => trivial⟩
  obtain ⟨hstage, hwoven⟩ := hcourse.logs_story hlogs
  refine ⟨⟨_, hstage, story_tells hcourse.protocol.1 settings.policy⟩, hwoven.sublist, ?_⟩
  exact fun hforeign => (hcourse.logs_story hforeign).2.filter_eq fun e he => target_of_mem_story he

/-- A mail that is refused and overlooked: three events of the issuance's own, between those of its
collaborators. -/
theorem log_tells_story_of_refused_mail :
    let start : Rehearsal.World Memory := .fresh .empty (fun _ => "1234") fun _ => "id"
    let w := { start with mailbox := start.mailbox.setFailing true }
    let settings : IssuingSettings := ⟨.setIfAbsent, .bestEffort⟩
    let p := issue Rehearsal.cast settings "a" w
    let own := p.events.filter (·.target = target)
    Rehearsal.cast.Logs Foreign ∧
      (∃ answer, p.stage = .done answer ∧
        Story .bestEffort (dialogue Rehearsal.cast settings "a" w) answer own) ∧
      own.map Event.name? =
        [some "code_stored", some "code_delivery_failed", some "code_issued"] ∧
      own ≠ p.events := by
  intro start w settings p own
  obtain ⟨hstory, -, hown⟩ := log_tells_story Rehearsal.cast settings "a" w
  rw [← hown logs_cast] at hstory
  exact ⟨logs_cast, hstory, by decide +kernel, by decide +kernel⟩

end Issuance

end MailCode
