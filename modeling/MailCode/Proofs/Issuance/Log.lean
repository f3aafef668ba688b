import MailCode.Proofs.Issuance.Course
/-!
# What an issuance logs

The events of an issuance lie between those of its collaborators; they are what is left of its log
when the collaborators are `silenced`. `story` tells them from the dialogue alone: of each exchange
there is at most one, and a last one says how it all ended. Every course logs its story
(`Course.logs_story`), and nothing else is an issuance's own.
-/

namespace MailCode

variable {σ : Type}

/-- The same collaborators, which log nothing now. -/
def Collaborators.silenced (c : Collaborators σ) : Collaborators σ where
  lookup key s := { c.lookup key s with events := [] }
  store key value lifetime s := { c.store key value lifetime s with events := [] }
  storeIfAbsent key value lifetime s := { c.storeIfAbsent key value lifetime s with events := [] }
  contains key s := { c.contains key s with events := [] }
  timeLeft key s := { c.timeLeft key s with events := [] }
  healthy s := { c.healthy s with events := [] }
  generate s := { c.generate s with events := [] }
  send mail s := { c.send mail s with events := [] }

/-- Whatever an issuance's collaborators log is allowed. -/
structure Collaborators.Logs (c : Collaborators σ) (allowed : List Event → Prop) : Prop where
  lookup : ∀ key s, allowed (c.lookup key s).events
  store : ∀ key value lifetime s, allowed (c.store key value lifetime s).events
  storeIfAbsent : ∀ key value lifetime s, allowed (c.storeIfAbsent key value lifetime s).events
  generate : ∀ s, allowed (c.generate s).events
  send : ∀ mail s, allowed (c.send mail s).events

/-- Events that others have logged. -/
def Foreign (events : List Event) : Prop :=
  ∀ e ∈ events, e.target ≠ Issuance.target

namespace Exchange

open Issuance

/-- What an issuance logs of an exchange. -/
def told? (policy : DeliveryPolicy) (email : String) : Exchange → Option Event
  | .lookup _ (.ok (some _)) => some (codeReused email)
  | .store _ _ _ (.ok ()) | .storeIfAbsent _ _ _ (.ok .inserted) => some (codeStored email)
  | .storeIfAbsent _ _ _ (.ok (.existing _)) => some (codeStoreLostRace email)
  | .send _ (.ok messageId) => some (codeDelivered email messageId)
  | .send _ (.error e) =>
    if e.toDeliveryError.isRejection && policy == .bestEffort then
      some (codeDeliveryFailed email e.toDeliveryError)
    else none
  | _ => none

/-- The failure that an exchange ends an issuance with. -/
def failure? (policy : DeliveryPolicy) : Exchange → Option IssuanceError
  | .lookup _ reply => reply.failure? .cache
  | .store _ _ _ reply => reply.failure? .cache
  | .storeIfAbsent _ _ _ reply => reply.failure? .cache
  | .generate reply => reply.failure? .generator
  | .send _ (.error e) =>
    if e.toDeliveryError.isRejection && policy == .bestEffort then none
    else some (.delivery e.toDeliveryError)
  | .send _ (.panic p) => some (panicked p)
  | _ => none

end Exchange

namespace Issuance

/-- The event at the end. -/
def closing (email : String) : Option IssuanceError → Event
  | none => codeIssued email
  | some e => codeIssueFailed email e

/-- What is answered at the end. -/
def verdict : Option IssuanceError → ErrorCode
  | none => .success
  | some e => e.code

/-- How a dialogue ended: well, or with a failure. -/
def failure? (policy : DeliveryPolicy) (email : String) (said : List Exchange) :
    Option IssuanceError :=
  if email = "" then some (.invalidRequest "email is empty")
  else said.findSome? (Exchange.failure? policy)

/-- What an issuance logs, by what was said. -/
def story (policy : DeliveryPolicy) (email : String) (said : List Exchange) : List Event :=
  said.filterMap (Exchange.told? policy email) ++ [closing email (failure? policy email said)]

/-- A log is made of some events and of others between them. -/
inductive Woven (allowed : List Event → Prop) : List Event → List Event → Prop
  | nil : Woven allowed [] []
  | own (e : Event) {own log : List Event} : Woven allowed own log →
      Woven allowed (e :: own) (e :: log)
  | other {others own log : List Event} : allowed others → Woven allowed own log →
      Woven allowed own (others ++ log)

namespace Woven

variable {allowed : List Event → Prop} {own own' log log' : List Event}

theorem all_own (allowed : List Event → Prop) (events : List Event) :
    Woven allowed events events := by
  induction events with
  | nil => exact .nil
  | cons e events ih => exact .own e ih

theorem all_others {events : List Event} (h : allowed events) : Woven allowed [] events := by
  have hwoven := Woven.other h .nil
  rwa [List.append_nil] at hwoven

theorem append (h : Woven allowed own log) (h' : Woven allowed own' log') :
    Woven allowed (own ++ own') (log ++ log') := by
  induction h with
  | nil => exact h'
  | own e _ ih => exact .own e ih
  | other hothers _ ih =>
    rw [List.append_assoc]
    exact .other hothers ih

theorem sublist (h : Woven allowed own log) : own.Sublist log := by
  induction h with
  | nil => exact .slnil
  | own e _ ih => exact ih.cons_cons e
  | other _ _ ih => exact ih.trans (List.sublist_append_right ..)

/-- Where the others are silent there is nothing else. -/
theorem eq_of_silent (h : Woven (· = []) own log) : log = own := by
  induction h with
  | nil => rfl
  | own e _ ih => rw [ih]
  | other hothers _ ih => rw [hothers, List.nil_append, ih]

/-- Own events can be told from foreign ones. -/
theorem filter_eq (h : Woven Foreign own log) (hown : ∀ e ∈ own, e.target = target) :
    log.filter (·.target = target) = own := by
  induction h with
  | nil => rfl
  | own e _ ih =>
    obtain ⟨he, hrest⟩ := List.forall_mem_cons.1 hown
    rw [List.filter_cons_of_pos (by simpa using he), ih hrest]
  | @other others own log hothers _ ih =>
    have hnone : others.filter (·.target = target) = [] :=
      List.filter_eq_nil_iff.2 fun e he => by simpa using hothers e he
    rw [List.filter_append, hnone, List.nil_append, ih hown]

end Woven

variable {c : Collaborators σ} {settings : IssuingSettings} {policy : DeliveryPolicy}
  {email code : String} {s : σ} {allowed : List Event → Prop}

/-! ## The end of a dialogue -/

/-- The failure of the last exchange decides, if there was none before. -/
theorem story_concat (hne : email ≠ "") {earlier : List Exchange}
    (hearlier : ∀ y ∈ earlier, y.failure? policy = none) (x : Exchange) :
    failure? policy email (earlier ++ [x]) = x.failure? policy ∧
      story policy email (earlier ++ [x]) = earlier.filterMap (Exchange.told? policy email) ++
        ((x.told? policy email).toList ++ [closing email (x.failure? policy)]) := by
  have hfailure : failure? policy email (earlier ++ [x]) = x.failure? policy := by
    have hnone : earlier.findSome? (Exchange.failure? policy) = none :=
      List.findSome?_eq_none_iff.2 hearlier
    rw [failure?, if_neg hne, List.findSome?_append, hnone, Option.none_or]
    cases hx : x.failure? policy <;> simp [hx]
  refine ⟨hfailure, ?_⟩
  rw [story, hfailure, List.filterMap_append, List.append_assoc]
  cases hx : x.told? policy email <;> simp [hx]

theorem deliver_story (c : Collaborators σ) (policy : DeliveryPolicy) (email code : String)
    (s : σ) :
    let reply := c.send (Mail.ofCode email code) s
    let x := Exchange.send (Mail.ofCode email code) reply.outcome
    (deliver c policy email code s).stage = .done ⟨email, verdict (x.failure? policy)⟩ ∧
      (deliver c policy email code s).events =
        reply.events ++ ((x.told? policy email).toList ++ [closing email (x.failure? policy)]) := by
  intro reply x
  simp only [x, deliver, Reply.mapError]
  cases reply.outcome with
  | ok messageId => exact ⟨rfl, List.append_assoc ..⟩
  | panic p => exact ⟨rfl, rfl⟩
  | error e =>
    simp only [Outcome.mapError, Exchange.told?, Exchange.failure?]
    split
    · exact ⟨rfl, List.append_assoc ..⟩
    · exact ⟨rfl, rfl⟩

/-! ## Along the courses -/

theorem failure?_writeExchange (strategy : Strategy) (email code : String)
    (reply : Outcome CacheError StoreOutcome) :
    (writeExchange strategy email code reply).failure? policy = reply.failure? .cache := by
  cases strategy with
  | setIfAbsent => rfl
  | checkThenSet => cases reply <;> rfl

theorem told?_writeExchange_inserted (strategy : Strategy) (email code : String) :
    (writeExchange strategy email code (.ok .inserted)).told? policy email =
      some (codeStored email) := by
  cases strategy <;> rfl

theorem told?_writeExchange_existing (email code winner : String) :
    (writeExchange .setIfAbsent email code (.ok (.existing winner))).told? policy email =
      some (codeStoreLostRace email) := rfl

theorem told?_writeExchange_failed {reply : Outcome CacheError StoreOutcome}
    (h : reply.isOk = false) (strategy : Strategy) (email code : String) :
    (writeExchange strategy email code reply).told? policy email = none := by
  cases reply with
  | ok outcome => cases h
  | error e | panic p => cases strategy <;> rfl

theorem logs_write (hlogs : c.Logs allowed) (strategy : Strategy) (email code : String) (s : σ) :
    allowed (write c strategy email code s).events := by
  cases strategy with
  | checkThenSet => exact hlogs.store _ _ _ s
  | setIfAbsent => exact hlogs.storeIfAbsent _ _ _ s

/-- An issuance that was stopped before its mail logs nothing of its own but that. -/
theorem story_of_stopped (earlier : List Exchange) {x : Exchange} {e : IssuanceError}
    {events : List Event} (hne : email ≠ "")
    (hearlier : ∀ y ∈ earlier, y.failure? policy = none ∧ y.told? policy email = none)
    (htold : x.told? policy email = none) (hfailure : x.failure? policy = some e)
    (hevents : Woven allowed [] events) (calls : List Call) :
    (fail email e s calls events).stage =
        .done ⟨email, verdict (failure? policy email (earlier ++ [x]))⟩ ∧
      Woven allowed (story policy email (earlier ++ [x])) (fail email e s calls events).events := by
  obtain ⟨hend, hstory⟩ := story_concat hne (fun y hy => (hearlier y hy).1) x
  have hnone : earlier.filterMap (Exchange.told? policy email) = [] :=
    List.filterMap_eq_nil_iff.2 fun y hy => (hearlier y hy).2
  rw [hend, hstory, hnone, htold, hfailure]
  exact ⟨rfl, hevents.append (.all_own allowed _)⟩

/-- What is logged of the mail comes after what was logged before. -/
theorem story_of_mailed (hlogs : c.Logs allowed) (earlier : List Exchange) {events : List Event}
    (hne : email ≠ "") (hearlier : ∀ y ∈ earlier, y.failure? settings.policy = none)
    (hevents : Woven allowed (earlier.filterMap (Exchange.told? settings.policy email)) events)
    (code : String) (calls : List Call) :
    let x := Exchange.send (Mail.ofCode email code) (c.send (Mail.ofCode email code) s).outcome
    let p := finish c settings email code s calls events
    p.stage = .done ⟨email, verdict (failure? settings.policy email (earlier ++ [x]))⟩ ∧
      Woven allowed (story settings.policy email (earlier ++ [x])) p.events := by
  intro x p
  obtain ⟨hend, hstory⟩ := story_concat hne hearlier x
  obtain ⟨hstage, hlogged⟩ := deliver_story c settings.policy email code s
  refine ⟨?_, ?_⟩
  · rw [hend]
    exact hstage
  · rw [hstory]
    simp only [p, finish, hlogged]
    exact hevents.append (.other (hlogs.send _ s) (.all_own allowed _))

/-- Whichever course an issuance takes, it logs its story, and answers accordingly. -/
theorem Course.logs_story {said : List Exchange} {p : Progress σ} (hlogs : c.Logs allowed)
    (h : Course c settings email s said p) :
    p.stage = .done ⟨email, verdict (failure? settings.policy email said)⟩ ∧
      Woven allowed (story settings.policy email said) p.events := by
  have hlookup {o s₁ es₁} (hl : c.lookup (CodeKey.ofAddress email) s = ⟨o, s₁, es₁⟩) :
      allowed es₁ := by
    have hallowed := hlogs.lookup (CodeKey.ofAddress email) s
    rwa [hl] at hallowed
  have hgenerate {s₁ o s₂ es₂} (hg : c.generate s₁ = ⟨o, s₂, es₂⟩) : allowed es₂ := by
    have hallowed := hlogs.generate s₁
    rwa [hg] at hallowed
  have hwrite {code s₂ o s₃ es₃}
      (hw : write c settings.strategy email code s₂ = ⟨o, s₃, es₃⟩) : allowed es₃ := by
    have hallowed := logs_write hlogs settings.strategy email code s₂
    rwa [hw] at hallowed
  -- Until the write has been answered nobody but the collaborators has logged anything.
  have hresolved {s₁ es₁ code s₂ es₂ o s₃ es₃}
      (hl : c.lookup (CodeKey.ofAddress email) s = ⟨.ok none, s₁, es₁⟩)
      (hg : c.generate s₁ = ⟨.ok code, s₂, es₂⟩)
      (hw : write c settings.strategy email code s₂ = ⟨o, s₃, es₃⟩) :
      Woven allowed [] (es₁ ++ es₂ ++ es₃) :=
    ((Woven.all_others (hlookup hl)).append (.all_others (hgenerate hg))).append
      (.all_others (hwrite hw))
  have hfound (code : String) :
      (Exchange.lookup (CodeKey.ofAddress email) (.ok (some code))).failure? settings.policy =
        none := rfl
  have hmissed : let x := Exchange.lookup (CodeKey.ofAddress email) (.ok none)
      x.failure? settings.policy = none ∧ x.told? settings.policy email = none := ⟨rfl, rfl⟩
  have hmade (code : String) : let x := Exchange.generate (.ok code)
      x.failure? settings.policy = none ∧ x.told? settings.policy email = none := ⟨rfl, rfl⟩
  cases h with
  | refused he =>
    rw [story, failure?, if_pos he]
    exact ⟨rfl, .all_own allowed _⟩
  | @lookupFailed o s₁ es₁ e hne hl ho =>
    refine story_of_stopped [] hne (by simp) ?_ ?_ (.all_others (hlookup hl)) _
    · cases o with
      | ok found => cases ho
      | error e | panic p => rfl
    · exact ho
  | @hit code s₁ es₁ hne hl =>
    refine story_of_mailed hlogs [_] hne (by simp [hfound]) ?_ _ _
    exact (Woven.all_others (hlookup hl)).append (.all_own allowed [codeReused email])
  | generatorFailed hne hl hg ho =>
    refine story_of_stopped [_] hne (by simp [hmissed]) rfl ?_ ?_ _
    · exact ho
    · exact (Woven.all_others (hlookup hl)).append (.all_others (hgenerate hg))
  | writeFailed hne hl hg hw ho =>
    refine story_of_stopped [_, _] hne (by simp [hmissed, hmade])
      (told?_writeExchange_failed (Outcome.isOk_of_failure? ho) _ _ _) ?_ (hresolved hl hg hw) _
    rw [failure?_writeExchange, ho]
  | stored hne hl hg hw =>
    refine story_of_mailed hlogs [_, _, _] hne ?_ ?_ _ _
    · simp [hmissed, hmade, failure?_writeExchange, Outcome.failure?]
    · have hwoven := (hresolved hl hg hw).append (.all_own allowed [codeStored email])
      simpa [hmissed, hmade, told?_writeExchange_inserted] using hwoven
  | lost hne hl hg hw =>
    have hstrategy := strategy_of_existing hw
    refine story_of_mailed hlogs [_, _, _] hne ?_ ?_ _ _
    · simp [hmissed, hmade, failure?_writeExchange, Outcome.failure?]
    · have hwoven := (hresolved hl hg hw).append (.all_own allowed [codeStoreLostRace email])
      simpa [hmissed, hmade, hstrategy, told?_writeExchange_existing] using hwoven

/-! ## Whose events they are -/

theorem logs_silenced (c : Collaborators σ) : c.silenced.Logs (· = []) :=
  ⟨fun _ _ => rfl, fun _ _ _ _ => rfl, fun _ _ _ _ => rfl, fun _ => rfl, fun _ _ => rfl⟩

theorem write_silenced (c : Collaborators σ) (strategy : Strategy) (email code : String) (s : σ) :
    write c.silenced strategy email code s =
      { write c strategy email code s with events := [] } := by
  cases strategy <;> rfl

/-- With silenced collaborators an issuance takes the same course. -/
theorem Course.silenced {said : List Exchange} {p : Progress σ}
    (h : Course c settings email s said p) :
    ∃ p', Course c.silenced settings email s said p' := by
  have hlookup {o s₁ es₁} (hl : c.lookup (CodeKey.ofAddress email) s = ⟨o, s₁, es₁⟩) :
      c.silenced.lookup (CodeKey.ofAddress email) s = ⟨o, s₁, []⟩ := by
    simp only [Collaborators.silenced, hl]
  have hgenerate {s₁ o s₂ es₂} (hg : c.generate s₁ = ⟨o, s₂, es₂⟩) :
      c.silenced.generate s₁ = ⟨o, s₂, []⟩ := by
    simp only [Collaborators.silenced, hg]
  have hwrite {code s₂ o s₃ es₃}
      (hw : write c settings.strategy email code s₂ = ⟨o, s₃, es₃⟩) :
      write c.silenced settings.strategy email code s₂ = ⟨o, s₃, []⟩ := by
    rw [write_silenced, hw]
  cases h with
  | refused he => exact ⟨_, .refused he⟩
  | lookupFailed hne hl ho => exact ⟨_, .lookupFailed hne (hlookup hl) ho⟩
  | hit hne hl => exact ⟨_, .hit hne (hlookup hl)⟩
  | generatorFailed hne hl hg ho =>
    exact ⟨_, .generatorFailed hne (hlookup hl) (hgenerate hg) ho⟩
  | writeFailed hne hl hg hw ho =>
    exact ⟨_, .writeFailed hne (hlookup hl) (hgenerate hg) (hwrite hw) ho⟩
  | stored hne hl hg hw => exact ⟨_, .stored hne (hlookup hl) (hgenerate hg) (hwrite hw)⟩
  | lost hne hl hg hw => exact ⟨_, .lost hne (hlookup hl) (hgenerate hg) (hwrite hw)⟩

/-- Silenced, the collaborators leave nothing in the log but the story of the issuance. -/
theorem events_silenced (c : Collaborators σ) (settings : IssuingSettings) (email : String)
    (s : σ) :
    (issue c.silenced settings email s).events =
      story settings.policy email (dialogue c settings email s) := by
  obtain ⟨p', hcourse⟩ := (issue_course c settings email s).silenced
  rw [hcourse.eq_issue]
  exact (hcourse.logs_story (logs_silenced c)).2.eq_of_silent

theorem target_of_told? {x : Exchange} {e : Event} (h : x.told? policy email = some e) :
    e.target = target := by
  unfold Exchange.told? at h
  split at h <;> try split at h
  all_goals cases h <;> rfl

/-- Everything in a story is an issuance's own. -/
theorem target_of_mem_story {said : List Exchange} {e : Event}
    (h : e ∈ story policy email said) : e.target = target := by
  rcases List.mem_append.1 h with h | h
  · obtain ⟨x, -, htold⟩ := List.mem_filterMap.1 h
    exact target_of_told? htold
  · rw [List.mem_singleton.1 h]
    cases failure? policy email said <;> rfl

end Issuance

end MailCode
