import MailCode.Proofs.Issuance.Comparison
import MailCode.Proofs.Issuance.Verdict
import MailCode.Rehearsal.Action
/-!
# The two delivery policies

The policy decides what is answered when a mail is refused. By then the collaborators have done all
that the request asks of them, so no call and no state depends on it: two services that differ in
the policy alone keep step, whatever happens to both of them (`Crowd.Agree`). Their answers part
just where a mail was refused.
-/

namespace MailCode.Issuance

/-- Something that happens to the service and its collaborators. -/
inductive Happening (σ ρ : Type) where
  /-- A request comes in, to be served in the turns that it gets. -/
  | arrive (email : String)
  /-- The request at a place has its turn. -/
  | turn (place : Nat)
  /-- A request is served from start to end. -/
  | issue (email : String)
  /-- Behind the service's back the collaborators are asked something, or changed. -/
  | aside (act : σ → ρ × σ)

variable {σ ρ : Type}

namespace Happening

variable (c : Collaborators σ) (settings : IssuingSettings) (crowd : Crowd σ)

/-- What comes of it. -/
def play : Happening σ ρ → Crowd σ
  | .arrive email => { crowd with tasks := crowd.tasks ++ [⟨email, .start⟩] }
  | .turn place => crowd.turn c settings place
  | .issue email =>
    let p := Issuance.issue c settings email crowd.state
    { crowd with
      state := p.state
      calls := crowd.calls ++ p.calls
      events := crowd.events ++ p.events }
  | .aside act => { crowd with state := (act crowd.state).2 }

/-- The answer that is given then, to the request or to whoever asked. -/
def response? : Happening σ ρ → Option (Answer ⊕ ρ)
  | .arrive _ => none
  | .turn place => do
    let task ← crowd.tasks[place]?
    if task.stage.isDone then none
    else (step c settings task.email task.stage crowd.state).stage.answer?.map .inl
  | .issue email => (Issuance.issue c settings email crowd.state).stage.answer?.map .inl
  | .aside act => some (.inr (act crowd.state).1)

/-- The provider refuses a mail. -/
def Refused : Happening σ ρ → Prop
  | .turn place => ∃ email code message,
      crowd.tasks[place]? = some ⟨email, .handedOver code⟩ ∧
        (c.send (Mail.ofCode email code) crowd.state).outcome = .error (.mail message)
  | .issue email => ∃ mail message,
      .send mail (.error (.mail message)) ∈ dialogue c settings email crowd.state
  | .arrive _ | .aside _ => False

/-- One thing after the other. -/
def playAll (happenings : List (Happening σ ρ)) : Crowd σ :=
  happenings.foldl (Happening.play c settings) crowd

end Happening

/-- Stages under the two policies: the same, or what a refused mail came to. -/
inductive Stage.Agree : Stage → Stage → Prop
  | same (stage : Stage) : Agree stage stage
  | refused (email : String) : Agree (.done ⟨email, .success⟩) (.done ⟨email, .deliveryError⟩)

/-- Issuances for one address under the two policies. -/
structure Task.Agree (task task' : Task) : Prop where
  email : task'.email = task.email
  stage : task.stage.Agree task'.stage

/-- What steps leave behind under the two policies. -/
structure Progress.Agree (p p' : Progress σ) : Prop where
  stage : p.stage.Agree p'.stage
  state : p'.state = p.state
  calls : p'.calls = p.calls

/-- Crowds that have come equally far under the two policies. -/
structure Crowd.Agree (crowd crowd' : Crowd σ) : Prop where
  tasks : List.Forall₂ Task.Agree crowd.tasks crowd'.tasks
  state : crowd'.state = crowd.state
  calls : crowd'.calls = crowd.calls

theorem Crowd.Agree.refl (crowd : Crowd σ) : crowd.Agree crowd := by
  refine ⟨?_, rfl, rfl⟩
  exact List.forall₂_same.2 fun task _ => ⟨rfl, .same task.stage⟩

section
variable (c : Collaborators σ) (strategy : Strategy) (email : String)

/-! ## One request -/

/-- A refused mail is reported or not, and anything else is answered alike. -/
theorem sentCode_policies (sent : Outcome BackendError String) :
    (∀ message, sent = .error (.mail message) →
      sentCode .bestEffort sent = .success ∧ sentCode .strict sent = .deliveryError) ∧
    ((¬∃ message, sent = .error (.mail message)) →
      sentCode .strict sent = sentCode .bestEffort sent) := by
  rcases sent with id | (e | m | m | m) | p <;> simp [sentCode]

theorem deliver_agree (code : String) (s : σ) :
    (deliver c .bestEffort email code s).Agree (deliver c .strict email code s) := by
  refine ⟨?_, ?_, ?_⟩
  · obtain ⟨hrefused, hother⟩ := sentCode_policies (c.send (Mail.ofCode email code) s).outcome
    rw [deliver_answer, deliver_answer]
    by_cases h : ∃ message, (c.send (Mail.ofCode email code) s).outcome = .error (.mail message)
    · obtain ⟨message, h⟩ := h
      rw [(hrefused message h).1, (hrefused message h).2]
      exact .refused email
    · rw [hother h]
      exact .same _
  · rw [deliver_state, deliver_state]
  · rw [deliver_calls, deliver_calls]

/-- Until the mail has been handed over, a step does not know the policy. -/
theorem step_policies {stage : Stage} (h : ∀ code, stage ≠ .handedOver code) (s : σ) :
    step c ⟨strategy, .strict⟩ email stage s = step c ⟨strategy, .bestEffort⟩ email stage s := by
  cases stage with
  | start | lookedUp | written | done => rfl
  | handedOver code => exact absurd rfl (h code)

theorem step_agree {stage stage' : Stage} (h : stage.Agree stage') (s : σ) :
    (step c ⟨strategy, .bestEffort⟩ email stage s).Agree
      (step c ⟨strategy, .strict⟩ email stage' s) := by
  cases h with
  | refused email' => exact ⟨.refused email', rfl, rfl⟩
  | same =>
    cases stage with
    | handedOver code => exact deliver_agree c email code s
    | start | lookedUp | written | done =>
      rw [step_policies c strategy email (by simp)]
      exact ⟨.same _, rfl, rfl⟩

theorem next_agree {p p' : Progress σ} (h : p.Agree p') :
    (p.next c ⟨strategy, .bestEffort⟩ email).Agree (p'.next c ⟨strategy, .strict⟩ email) := by
  obtain ⟨hstage, hstate, hcalls⟩ := step_agree c strategy email h.stage p.state
  unfold Progress.next
  rw [h.state]
  exact ⟨hstage, hstate, congrArg₂ (· ++ ·) h.calls hcalls⟩

theorem issue_agree (s : σ) :
    (issue c ⟨strategy, .bestEffort⟩ email s).Agree (issue c ⟨strategy, .strict⟩ email s) := by
  have hbegin : (Progress.begin s).Agree (Progress.begin s) := ⟨.same .start, rfl, rfl⟩
  have hnext {p p' : Progress σ} (h : p.Agree p') := next_agree c strategy email h
  exact hnext (hnext (hnext (hnext hbegin)))

/-- What is said to the collaborators is the same, down to their replies. -/
theorem dialogue_policies (s : σ) :
    dialogue c ⟨strategy, .strict⟩ email s = dialogue c ⟨strategy, .bestEffort⟩ email s :=
  congrArg Prod.fst (issue_agree c.recorded strategy email ([], s)).state

end

/-! ## The service as a whole -/

section
variable (c : Collaborators σ) (strategy : Strategy) {crowd crowd' : Crowd σ}

theorem turn_agree (h : crowd.Agree crowd') (place : Nat) :
    (crowd.turn c ⟨strategy, .bestEffort⟩ place).Agree
      (crowd'.turn c ⟨strategy, .strict⟩ place) := by
  have hfound := rel_getElem? h.tasks place
  unfold Crowd.turn
  generalize crowd.tasks[place]? = found at hfound ⊢
  generalize crowd'.tasks[place]? = found' at hfound ⊢
  cases hfound with
  | none => exact h
  | @some task task' htask =>
    obtain ⟨hstage, hstate, hcalls⟩ :=
      step_agree c strategy task.email htask.stage crowd.state
    dsimp only
    rw [htask.email, h.state]
    refine ⟨rel_set h.tasks ?_ place, hstate, congrArg₂ (· ++ ·) h.calls hcalls⟩
    exact ⟨rfl, hstage⟩

theorem play_agree (h : crowd.Agree crowd') (happening : Happening σ ρ) :
    (happening.play c ⟨strategy, .bestEffort⟩ crowd).Agree
      (happening.play c ⟨strategy, .strict⟩ crowd') := by
  cases happening with
  | arrive email =>
    exact ⟨List.rel_append h.tasks (.cons ⟨rfl, .same .start⟩ .nil), h.state, h.calls⟩
  | turn place => exact turn_agree c strategy h place
  | issue email =>
    obtain ⟨-, hstate, hcalls⟩ := issue_agree c strategy email crowd.state
    simp only [Happening.play, h.state]
    exact ⟨h.tasks, hstate, congrArg₂ (· ++ ·) h.calls hcalls⟩
  | aside act => exact ⟨h.tasks, congrArg (fun s => (act s).2) h.state, h.calls⟩

theorem playAll_agree (h : crowd.Agree crowd') (happenings : List (Happening σ ρ)) :
    (Happening.playAll c ⟨strategy, .bestEffort⟩ crowd happenings).Agree
      (Happening.playAll c ⟨strategy, .strict⟩ crowd' happenings) := by
  induction happenings generalizing crowd crowd' with
  | nil => exact h
  | cons happening happenings ih => exact ih (play_agree c strategy h happening)

/-! ## What is answered -/

/-- The answers of the two services: different ones if a mail was refused, and the same if not. -/
def Contrast (refused : Prop) (lenient strict : Option (Answer ⊕ ρ)) : Prop :=
  (refused → ∃ email, lenient = some (.inl ⟨email, .success⟩) ∧
    strict = some (.inl ⟨email, .deliveryError⟩)) ∧
  (¬refused → strict = lenient)

theorem Contrast.of_eq {refused : Prop} {lenient strict : Option (Answer ⊕ ρ)} (h : ¬refused)
    (heq : strict = lenient) : Contrast refused lenient strict :=
  ⟨fun hrefused => absurd hrefused h, fun _ => heq⟩

theorem turn_contrast (h : crowd.Agree crowd') (place : Nat) :
    let next : Happening σ ρ := .turn place
    Contrast (next.Refused c ⟨strategy, .bestEffort⟩ crowd)
        (next.response? c ⟨strategy, .bestEffort⟩ crowd)
        (next.response? c ⟨strategy, .strict⟩ crowd') ∧
      (next.Refused c ⟨strategy, .strict⟩ crowd' ↔
        next.Refused c ⟨strategy, .bestEffort⟩ crowd) := by
  intro next
  have hfound := rel_getElem? h.tasks place
  simp only [next, Happening.Refused, Happening.response?, h.state]
  generalize crowd.tasks[place]? = found at hfound ⊢
  generalize crowd'.tasks[place]? = found' at hfound ⊢
  cases hfound with
  | none => exact ⟨.of_eq (by simp) rfl, by simp⟩
  | @some task task' htask =>
    obtain ⟨email, stage⟩ := task
    obtain ⟨email', stage'⟩ := task'
    obtain ⟨hemail, hstage⟩ := htask
    obtain rfl : email' = email := hemail
    cases hstage with
    | refused answered => exact ⟨.of_eq (by simp) rfl, by simp⟩
    | same =>
      refine ⟨?_, Iff.rfl⟩
      cases stage with
      | start | lookedUp | written | done => exact .of_eq (by simp) rfl
      | handedOver code =>
        obtain ⟨hrefused, hother⟩ :=
          sentCode_policies (c.send (Mail.ofCode email' code) crowd.state).outcome
        constructor
        · rintro ⟨_, _, message, hfound, hsent⟩
          cases hfound
          refine ⟨email', ?_, ?_⟩
          · simp [Stage.isDone, step, deliver_answer, Stage.answer?, (hrefused message hsent).1]
          · simp [Stage.isDone, step, deliver_answer, Stage.answer?, (hrefused message hsent).2]
        · intro hnone
          have hsame := hother <| by
            rintro ⟨message, hsent⟩
            exact hnone ⟨email', code, message, rfl, hsent⟩
          simp [Stage.isDone, step, deliver_answer, Stage.answer?, hsame]

theorem issue_contrast (email : String) (s : σ) :
    let answer? policy := (issue c ⟨strategy, policy⟩ email s).stage.answer?
    Contrast
      (∃ mail message, .send mail (.error (.mail message)) ∈
        dialogue c ⟨strategy, .bestEffort⟩ email s)
      ((answer? .bestEffort).map .inl : Option (Answer ⊕ ρ)) ((answer? .strict).map .inl) := by
  intro answer?
  obtain ⟨a, hlenient, htells⟩ := (issue_course c ⟨strategy, .bestEffort⟩ email s).tells
  obtain ⟨a', hstrict, htells'⟩ := (issue_course c ⟨strategy, .strict⟩ email s).tells
  rw [dialogue_policies] at htells'
  have hagree := (issue_agree c strategy email s).stage
  simp only [answer?, hlenient, hstrict, Stage.answer?, Option.map_some] at hagree ⊢
  constructor
  · intro hrefused
    have herror : a'.error = .deliveryError := htells'.deliveryError.2 ⟨rfl, hrefused⟩
    cases hagree with
    | refused email' => exact ⟨email', rfl, rfl⟩
    | same => cases (htells.deliveryError.1 herror).1
  · intro hnone
    cases hagree with
    | same => rfl
    | refused email' => exact absurd (htells'.deliveryError.1 rfl).2 hnone

theorem contrast (h : crowd.Agree crowd') (next : Happening σ ρ) :
    Contrast (next.Refused c ⟨strategy, .bestEffort⟩ crowd)
        (next.response? c ⟨strategy, .bestEffort⟩ crowd)
        (next.response? c ⟨strategy, .strict⟩ crowd') ∧
      (next.Refused c ⟨strategy, .strict⟩ crowd' ↔
        next.Refused c ⟨strategy, .bestEffort⟩ crowd) := by
  cases next with
  | arrive email => exact ⟨.of_eq id rfl, Iff.rfl⟩
  | turn place => exact turn_contrast c strategy h place
  | issue email =>
    simp only [Happening.Refused, Happening.response?, h.state, dialogue_policies]
    exact ⟨issue_contrast c strategy email crowd.state, trivial⟩
  | aside act =>
    simp only [Happening.Refused, Happening.response?, h.state]
    exact ⟨.of_eq id rfl, trivial⟩

/-- Two services with the same history that differ in the policy alone have made the same calls, in
the same order, and left their collaborators in the same state. Whatever happens next, a mail is
refused under both policies or under neither; if one is, the request is answered with `success` by
the one service and with `deliveryError` by the other, and if none is, both answer alike. -/
theorem policies_agree (happenings : List (Happening σ ρ)) (crowd : Crowd σ) :
    let lenient := Happening.playAll c ⟨strategy, .bestEffort⟩ crowd happenings
    let strict := Happening.playAll c ⟨strategy, .strict⟩ crowd happenings
    strict.state = lenient.state ∧ strict.calls = lenient.calls ∧
      ∀ next : Happening σ ρ,
        Contrast (next.Refused c ⟨strategy, .bestEffort⟩ lenient)
            (next.response? c ⟨strategy, .bestEffort⟩ lenient)
            (next.response? c ⟨strategy, .strict⟩ strict) ∧
          (next.Refused c ⟨strategy, .strict⟩ strict ↔
            next.Refused c ⟨strategy, .bestEffort⟩ lenient) := by
  intro lenient strict
  have hagree : lenient.Agree strict := playAll_agree c strategy (.refl crowd) happenings
  exact ⟨hagree.state, hagree.calls, fun next => contrast c strategy hagree next⟩

end

/-- Two requests take turns, and the mailbox starts to refuse mails when the second one's has been
handed over. No call tells the two services apart, but the answer in the turn that is next does. -/
theorem policies_agree_until_refusal :
    let world : Rehearsal.World Memory := .fresh .empty (fun n => toString n) fun _ => "id"
    let happenings : List (Happening (Rehearsal.World Memory) Unit) :=
      [.arrive "a", .turn 0, .arrive "b", .turn 1, .turn 1, .turn 0, .turn 1,
        .aside fun w => ((), { w with mailbox := w.mailbox.setFailing true })]
    let next : Happening (Rehearsal.World Memory) Unit := .turn 1
    let after (policy : DeliveryPolicy) :=
      Happening.playAll Rehearsal.cast ⟨.setIfAbsent, policy⟩ (Crowd.gather [] world) happenings
    let response? (policy : DeliveryPolicy) :=
      next.response? Rehearsal.cast ⟨.setIfAbsent, policy⟩ (after policy)
    next.Refused Rehearsal.cast ⟨.setIfAbsent, .bestEffort⟩ (after .bestEffort) ∧
      (after .strict).calls = (after .bestEffort).calls ∧
      ∃ email, response? .bestEffort = some (.inl ⟨email, .success⟩) ∧
        response? .strict = some (.inl ⟨email, .deliveryError⟩) := by
  intro world happenings next after response?
  have hrefused : next.Refused Rehearsal.cast ⟨.setIfAbsent, .bestEffort⟩ (after .bestEffort) := by
    have hfailing : (after .bestEffort).state.mailbox.failing = true := by decide +kernel
    have hfault : (after .bestEffort).state.faults.send = none :=
      Option.isNone_iff_eq_none.1 (by decide +kernel)
    refine ⟨"b", "0", "Simulated mail sending failure", by decide +kernel, ?_⟩
    generalize (after .bestEffort).state = w at hfailing hfault ⊢
    simp [Rehearsal.cast, Rehearsal.World.collaborators, Rehearsal.World.sendMail, hfault,
      Mailbox.send, hfailing, Reply.mapState]
  obtain ⟨-, hcalls, hnext⟩ :=
    policies_agree Rehearsal.cast .setIfAbsent happenings (Crowd.gather [] world)
  exact ⟨hrefused, hcalls, (hnext next).1.1 hrefused⟩

end MailCode.Issuance
