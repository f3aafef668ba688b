import Mathlib.Data.List.Forall2
import MailCode.Issuance.Crowd
/-!
# Two sets of collaborators compared

An issuance can be watched over two sets of collaborators at once, each with states of its own. A
`Likeness` says which states of the two belong together, which codes do, and which events are worth
comparing. Collaborators are `Akin` if in states that belong together they reply alike: with the
same values up to the codes in them, with the same errors and the same panics.

That is enough for issuances to run alike over the two (`akin_step`, `akin_issue`), and so is it for
several of them in any order of turns (`akin_turn`): they come to the same answers by the same
calls, but for the codes. Two things are made of it. The codes may differ between two runs over one
cache, so that whatever is alike tells nothing of them; or the caches may differ, and the codes are
the same.
-/

namespace MailCode

/-- What belongs together in two systems with states `σ` and `σ'`. -/
structure Likeness (σ σ' : Type) where
  states : σ → σ' → Prop
  codes : String → String → Prop
  /-- The events that are compared. -/
  compares : Event → Bool

/-- Outcomes with values that correspond. -/
inductive Outcome.Akin {ε α β : Type} (values : α → β → Prop) :
    Outcome ε α → Outcome ε β → Prop
  | ok {a : α} {b : β} : values a b → Akin values (.ok a) (.ok b)
  | error (e : ε) : Akin values (.error e) (.error e)
  | panic (p : Panic) : Akin values (.panic p) (.panic p)

/-- Outcomes of a write whose codes correspond. -/
inductive StoreOutcome.Akin (codes : String → String → Prop) : StoreOutcome → StoreOutcome → Prop
  | inserted : Akin codes .inserted .inserted
  | existing {winner winner' : String} :
      codes winner winner' → Akin codes (.existing winner) (.existing winner')

/-- Calls that differ in the codes they hand over. -/
inductive Call.Akin (codes : String → String → Prop) : Call → Call → Prop
  | lookup (key : String) : Akin codes (.lookup key) (.lookup key)
  | generate : Akin codes .generate .generate
  | store (key : String) (lifetime : Nat) {code code' : String} :
      codes code code' → Akin codes (.store key code lifetime) (.store key code' lifetime)
  | storeIfAbsent (key : String) (lifetime : Nat) {code code' : String} :
      codes code code' →
      Akin codes (.storeIfAbsent key code lifetime) (.storeIfAbsent key code' lifetime)
  | send (email : String) {code code' : String} :
      codes code code' →
      Akin codes (.send (Mail.ofCode email code)) (.send (Mail.ofCode email code'))
  | contains (key : String) : Akin codes (.contains key) (.contains key)
  | timeLeft (key : String) : Akin codes (.timeLeft key) (.timeLeft key)

variable {σ σ' : Type}

/-- The same is logged, as far as it is compared. -/
def Likeness.Logged (L : Likeness σ σ') (events events' : List Event) : Prop :=
  events'.filter L.compares = events.filter L.compares

/-- Replies that tell the same up to the values in them. -/
structure Reply.Akin {ε α β : Type} (L : Likeness σ σ') (values : α → β → Prop)
    (r : Reply σ ε α) (r' : Reply σ' ε β) : Prop where
  outcome : r.outcome.Akin values r'.outcome
  state : L.states r.state r'.state
  events : L.Logged r.events r'.events

/-- Collaborators that reply alike to what an issuance asks of them. -/
structure Collaborators.Akin (L : Likeness σ σ') (c : Collaborators σ) (c' : Collaborators σ') :
    Prop where
  lookup : ∀ key s s', L.states s s' →
    (c.lookup key s).Akin L (Option.Rel L.codes) (c'.lookup key s')
  store : ∀ key code code' s s', L.codes code code' → L.states s s' →
    (c.store key code codeLifetime s).Akin L Eq (c'.store key code' codeLifetime s')
  storeIfAbsent : ∀ key code code' s s', L.codes code code' → L.states s s' →
    (c.storeIfAbsent key code codeLifetime s).Akin L (StoreOutcome.Akin L.codes)
      (c'.storeIfAbsent key code' codeLifetime s')
  generate : ∀ s s', L.states s s' → (c.generate s).Akin L L.codes (c'.generate s')
  send : ∀ email code code' s s', L.codes code code' → L.states s s' →
    (c.send (Mail.ofCode email code) s).Akin L Eq (c'.send (Mail.ofCode email code') s')

namespace Issuance

/-- Stages that differ in the codes they have come to. -/
inductive Stage.Akin (codes : String → String → Prop) : Stage → Stage → Prop
  | start : Akin codes .start .start
  | lookedUp {found found' : Option String} :
      Option.Rel codes found found' → Akin codes (.lookedUp (.ok found)) (.lookedUp (.ok found'))
  | notLookedUp (e : CacheError) : Akin codes (.lookedUp (.error e)) (.lookedUp (.error e))
  | written {code code' : String} {outcome outcome' : StoreOutcome} :
      codes code code' → outcome.Akin codes outcome' →
      Akin codes (.written code (.ok outcome)) (.written code' (.ok outcome'))
  | notWritten {code code' : String} (e : CacheError) :
      codes code code' → Akin codes (.written code (.error e)) (.written code' (.error e))
  | handedOver {code code' : String} :
      codes code code' → Akin codes (.handedOver code) (.handedOver code')
  | done (answer : Answer) : Akin codes (.done answer) (.done answer)

/-- Issuances for the same address whose stages differ in codes. -/
structure Task.Akin (codes : String → String → Prop) (task task' : Task) : Prop where
  email : task'.email = task.email
  stage : task.stage.Akin codes task'.stage

/-- What steps leave behind that differ in codes. -/
structure Progress.Akin (L : Likeness σ σ') (p : Progress σ) (p' : Progress σ') : Prop where
  stage : p.stage.Akin L.codes p'.stage
  state : L.states p.state p'.state
  calls : List.Forall₂ (Call.Akin L.codes) p.calls p'.calls
  events : L.Logged p.events p'.events

/-- Crowds that have come equally far, with different codes. -/
structure Crowd.Akin (L : Likeness σ σ') (crowd : Crowd σ) (crowd' : Crowd σ') : Prop where
  tasks : List.Forall₂ (Task.Akin L.codes) crowd.tasks crowd'.tasks
  state : L.states crowd.state crowd'.state
  calls : List.Forall₂ (Call.Akin L.codes) crowd.calls crowd'.calls
  events : L.Logged crowd.events crowd'.events

end Issuance

open Issuance

variable {L : Likeness σ σ'} {c : Collaborators σ} {c' : Collaborators σ'} {s : σ} {s' : σ'}
  {code code' : String}

/-! ## The parts of a step -/

theorem Likeness.Logged.refl (L : Likeness σ σ') (events : List Event) : L.Logged events events :=
  rfl

theorem Likeness.Logged.of_eq {events events' : List Event} (h : events' = events) :
    L.Logged events events' :=
  congrArg (List.filter L.compares) h

theorem Likeness.Logged.append {events₁ events₁' events₂ events₂' : List Event}
    (h₁ : L.Logged events₁ events₁') (h₂ : L.Logged events₂ events₂') :
    L.Logged (events₁ ++ events₂) (events₁' ++ events₂') := by
  unfold Likeness.Logged at *
  rw [List.filter_append, List.filter_append, h₁, h₂]

theorem Outcome.Akin.map {ε α β α' β' : Type} {values : α → β → Prop} {values' : α' → β' → Prop}
    {f : α → α'} {g : β → β'} (hf : ∀ a b, values a b → values' (f a) (g b)) {o : Outcome ε α}
    {o' : Outcome ε β} (h : o.Akin values o') : (o.map f).Akin values' (o'.map g) := by
  cases h with
  | ok hab => exact .ok (hf _ _ hab)
  | error e => exact .error e
  | panic p => exact .panic p

theorem Outcome.Akin.refl {ε α : Type} {values : α → α → Prop} (h : ∀ a, values a a)
    (o : Outcome ε α) : o.Akin values o := by
  cases o with
  | ok a => exact .ok (h a)
  | error e => exact .error e
  | panic p => exact .panic p

/-- Outcomes that may differ in nothing are the same. -/
theorem Outcome.Akin.eq {ε α : Type} {o o' : Outcome ε α} (h : o.Akin Eq o') : o' = o := by
  cases h with
  | ok hab => rw [hab]
  | error e | panic p => rfl

/-- Outcomes that look the same through `f` correspond if values that do so correspond. -/
theorem Outcome.Akin.of_map {ε α β γ : Type} {values : α → β → Prop} {f : α → γ} {g : β → γ}
    (hf : ∀ a b, g b = f a → values a b) {o : Outcome ε α} {o' : Outcome ε β}
    (h : o'.map g = o.map f) : o.Akin values o' := by
  cases o with
  | ok a => cases o' with
    | ok b => exact .ok (hf a b (Outcome.ok.inj h))
    | error e | panic p => cases h
  | error e => cases o' with
    | error e' =>
      cases h
      exact .error e
    | ok b | panic p => cases h
  | panic p => cases o' with
    | panic p' =>
      cases h
      exact .panic p
    | ok b | error e => cases h

theorem Reply.Akin.map {ε α β α' β' : Type} {values : α → β → Prop} {values' : α' → β' → Prop}
    {f : α → α'} {g : β → β'} (hf : ∀ a b, values a b → values' (f a) (g b)) {r : Reply σ ε α}
    {r' : Reply σ' ε β} (h : r.Akin L values r') : (r.map f).Akin L values' (r'.map g) :=
  ⟨h.outcome.map hf, h.state, h.events⟩

namespace Issuance

section
variable {email : String} {calls calls' : List Call} {events events' : List Event}

theorem akin_fail (hs : L.states s s') (hcalls : List.Forall₂ (Call.Akin L.codes) calls calls')
    (hevents : L.Logged events events') (email : String) (e : IssuanceError) :
    (fail email e s calls events).Akin L (fail email e s' calls' events') :=
  ⟨.done _, hs, hcalls, hevents.append (.refl L _)⟩

theorem akin_succeed (hs : L.states s s') (hevents : L.Logged events events') (email : String) :
    (succeed email s events).Akin L (succeed email s' events') :=
  ⟨.done _, hs, .nil, hevents.append (.refl L _)⟩

theorem akin_handOver (hs : L.states s s') (hcode : L.codes code code') (email : String)
    (resolved : Event) :
    (handOver email code resolved s).Akin L (handOver email code' resolved s') :=
  ⟨.handedOver hcode, hs, .cons (.send email hcode) .nil, .refl L _⟩

end

theorem akin_writeCall (strategy : Strategy) (email : String) {codes : String → String → Prop}
    (hcode : codes code code') :
    (writeCall strategy email code).Akin codes (writeCall strategy email code') := by
  cases strategy with
  | checkThenSet => exact .store _ _ hcode
  | setIfAbsent => exact .storeIfAbsent _ _ hcode

theorem akin_write (hc : c.Akin L c') (hs : L.states s s') (hcode : L.codes code code')
    (strategy : Strategy) (email : String) :
    (write c strategy email code s).Akin L (StoreOutcome.Akin L.codes)
      (write c' strategy email code' s') := by
  cases strategy with
  | checkThenSet => exact (hc.store _ code code' s s' hcode hs).map fun _ _ _ => .inserted
  | setIfAbsent => exact hc.storeIfAbsent _ code code' s s' hcode hs

theorem akin_lookUp (hc : c.Akin L c') (hs : L.states s s') (email : String) :
    (lookUp c email s).Akin L (lookUp c' email s') := by
  unfold lookUp
  split
  · exact akin_fail hs .nil (.refl L _) email _
  · obtain ⟨houtcome, hstate, hevents⟩ := hc.lookup (CodeKey.ofAddress email) s s' hs
    have hcalls : List.Forall₂ (Call.Akin L.codes) [.lookup (CodeKey.ofAddress email)]
        [.lookup (CodeKey.ofAddress email)] := .cons (.lookup _) .nil
    dsimp only
    generalize (c.lookup (CodeKey.ofAddress email) s).outcome = o at houtcome ⊢
    generalize (c'.lookup (CodeKey.ofAddress email) s').outcome = o' at houtcome ⊢
    cases houtcome with
    | ok hfound => exact ⟨.lookedUp hfound, hstate, hcalls, hevents⟩
    | error e => exact ⟨.notLookedUp e, hstate, hcalls, hevents⟩
    | panic p => exact akin_fail hstate hcalls hevents email _

theorem akin_create (hc : c.Akin L c') (hs : L.states s s') (strategy : Strategy)
    (email : String) : (create c strategy email s).Akin L (create c' strategy email s') := by
  unfold create
  obtain ⟨hmade, hs₁, hevents⟩ := hc.generate s s' hs
  dsimp only
  generalize c.generate s = made at hmade hs₁ hevents ⊢
  generalize c'.generate s' = made' at hmade hs₁ hevents ⊢
  obtain ⟨o, s₁, es⟩ := made
  obtain ⟨o', s₁', es'⟩ := made'
  have hasked : List.Forall₂ (Call.Akin L.codes) [.generate] [.generate] := .cons .generate .nil
  cases hmade with
  | error e => exact akin_fail hs₁ hasked hevents email _
  | panic p => exact akin_fail hs₁ hasked hevents email _
  | @ok code code' hcode =>
    obtain ⟨hwritten, hs₂, hevents'⟩ := akin_write hc hs₁ hcode strategy email
    have hcalls : List.Forall₂ (Call.Akin L.codes) [.generate, writeCall strategy email code]
        [.generate, writeCall strategy email code'] :=
      .cons .generate (.cons (akin_writeCall strategy email hcode) .nil)
    have hlogged := Likeness.Logged.append hevents hevents'
    dsimp only
    generalize (write c strategy email code s₁).outcome = o at hwritten ⊢
    generalize (write c' strategy email code' s₁').outcome = o' at hwritten ⊢
    cases hwritten with
    | ok houtcome => exact ⟨.written hcode houtcome, hs₂, hcalls, hlogged⟩
    | error e => exact ⟨.notWritten e hcode, hs₂, hcalls, hlogged⟩
    | panic p => exact akin_fail hs₂ hcalls hlogged email _

theorem akin_deliver (hc : c.Akin L c') (hs : L.states s s') (hcode : L.codes code code')
    (policy : DeliveryPolicy) (email : String) :
    (deliver c policy email code s).Akin L (deliver c' policy email code' s') := by
  obtain ⟨hsent, hstate, hevents⟩ := hc.send email code code' s s' hcode hs
  unfold deliver
  dsimp only [Reply.mapError]
  generalize (c.send (Mail.ofCode email code) s).outcome = o at hsent ⊢
  generalize (c'.send (Mail.ofCode email code') s').outcome = o' at hsent ⊢
  cases hsent with
  | ok hid =>
    subst hid
    exact akin_succeed hstate (hevents.append (.refl L _)) email
  | error e =>
    simp only [Outcome.mapError]
    split
    · exact akin_succeed hstate (hevents.append (.refl L _)) email
    · exact akin_fail hstate .nil hevents email _
  | panic p => exact akin_fail hstate .nil hevents email _

/-! ## Issuances -/

/-- A step over either set of collaborators comes to the same, but for the codes. -/
theorem akin_step (hc : c.Akin L c') (hs : L.states s s') (settings : IssuingSettings)
    (email : String) {stage stage' : Stage} (hstage : stage.Akin L.codes stage') :
    (step c settings email stage s).Akin L (step c' settings email stage' s') := by
  cases hstage with
  | start => exact akin_lookUp hc hs email
  | lookedUp hfound =>
    cases hfound with
    | some hcode => exact akin_handOver hs hcode email _
    | none => exact akin_create hc hs settings.strategy email
  | notLookedUp e => exact akin_fail hs .nil (.refl L _) email _
  | written hcode houtcome =>
    cases houtcome with
    | inserted => exact akin_handOver hs hcode email _
    | existing hwinner => exact akin_handOver hs hwinner email _
  | notWritten e _ => exact akin_fail hs .nil (.refl L _) email _
  | handedOver hcode => exact akin_deliver hc hs hcode settings.policy email
  | done answer => exact ⟨.done answer, hs, .nil, .refl L _⟩

theorem akin_next (hc : c.Akin L c') (settings : IssuingSettings) (email : String)
    {p : Progress σ} {p' : Progress σ'} (h : p.Akin L p') :
    (p.next c settings email).Akin L (p'.next c' settings email) := by
  obtain ⟨hstage, hstate, hcalls, hevents⟩ := akin_step hc h.state settings email h.stage
  exact ⟨hstage, hstate, List.rel_append h.calls hcalls, h.events.append hevents⟩

theorem akin_issue (hc : c.Akin L c') (hs : L.states s s') (settings : IssuingSettings)
    (email : String) : (issue c settings email s).Akin L (issue c' settings email s') := by
  have hbegin : (Progress.begin s).Akin L (Progress.begin s') := ⟨.start, hs, .nil, .refl L _⟩
  have hnext {p : Progress σ} {p' : Progress σ'} (h : p.Akin L p') :=
    akin_next hc settings email h
  exact hnext (hnext (hnext (hnext hbegin)))

/-! ## Several issuances -/

section
variable {α β : Type} {related : α → β → Prop} {l : List α} {l' : List β}

theorem rel_getElem? (h : List.Forall₂ related l l') (place : Nat) :
    Option.Rel related l[place]? l'[place]? := by
  induction h generalizing place with
  | nil => exact .none
  | cons hfirst _ ih =>
    cases place with
    | zero => exact .some hfirst
    | succ place => exact ih place

theorem rel_set (h : List.Forall₂ related l l') {a : α} {b : β} (hab : related a b)
    (place : Nat) : List.Forall₂ related (l.set place a) (l'.set place b) := by
  induction h generalizing place with
  | nil => exact .nil
  | cons hfirst hrest ih =>
    cases place with
    | zero => exact .cons hab hrest
    | succ place => exact .cons hfirst (ih place)

end

/-- A turn in either of two crowds that have come equally far brings them equally far again. -/
theorem akin_turn (hc : c.Akin L c') (settings : IssuingSettings) {crowd : Crowd σ}
    {crowd' : Crowd σ'} (h : crowd.Akin L crowd') (place : Nat) :
    (crowd.turn c settings place).Akin L (crowd'.turn c' settings place) := by
  have hfound := rel_getElem? h.tasks place
  unfold Crowd.turn
  generalize crowd.tasks[place]? = found at hfound ⊢
  generalize crowd'.tasks[place]? = found' at hfound ⊢
  cases hfound with
  | none => exact h
  | @some task task' htask =>
    obtain ⟨hstage, hstate, hcalls, hevents⟩ :=
      akin_step hc h.state settings task.email htask.stage
    dsimp only
    rw [htask.email]
    refine ⟨rel_set h.tasks ?_ place, hstate, List.rel_append h.calls hcalls,
      h.events.append hevents⟩
    exact ⟨rfl, hstage⟩

/-- An answer says nothing of codes. -/
theorem Stage.Akin.answer? {codes : String → String → Prop} {stage stage' : Stage}
    (h : stage.Akin codes stage') : stage'.answer? = stage.answer? := by
  cases h <;> rfl

theorem Crowd.Akin.answers {crowd : Crowd σ} {crowd' : Crowd σ'} (h : crowd.Akin L crowd') :
    crowd'.answers = crowd.answers := by
  have hanswers : List.Forall₂ Eq crowd.answers crowd'.answers := by
    refine List.rel_filterMap (fun task task' htask => ?_) h.tasks
    rw [htask.stage.answer?]
    cases task.stage.answer? with
    | none => exact .none
    | some answer => exact .some rfl
  rw [List.forall₂_eq_eq_eq] at hanswers
  exact hanswers.symm

/-! ## Nothing differs where no code does -/

theorem Task.Akin.eq {task task' : Task} (h : task.Akin Eq task') : task' = task := by
  obtain ⟨email, stage⟩ := task
  obtain ⟨email', stage'⟩ := task'
  obtain ⟨hemail, hstage⟩ := h
  cases hemail
  cases hstage with
  | start | notLookedUp e | done answer => rfl
  | lookedUp hfound => cases hfound with
    | none => rfl
    | some hcode => rw [hcode]
  | written hcode houtcome => cases houtcome with
    | inserted => rw [hcode]
    | existing hwinner => rw [hcode, hwinner]
  | notWritten e hcode => rw [hcode]
  | handedOver hcode => rw [hcode]

end Issuance

theorem Call.Akin.eq {call call' : Call} (h : call.Akin Eq call') : call' = call := by
  cases h with
  | lookup | generate | contains | timeLeft => rfl
  | store key lifetime hcode | storeIfAbsent key lifetime hcode | send email hcode => rw [hcode]

/-- Crowds that have come equally far with the same codes are the same, but for their states. -/
theorem Issuance.Crowd.Akin.eq {crowd : Crowd σ} {crowd' : Crowd σ'} (hcodes : L.codes = Eq)
    (h : crowd.Akin L crowd') : crowd'.tasks = crowd.tasks ∧ crowd'.calls = crowd.calls := by
  obtain ⟨htasks, -, hcalls, -⟩ := h
  rw [hcodes] at htasks hcalls
  have htasks := htasks.imp fun _ _ htask => htask.eq.symm
  have hcalls := hcalls.imp fun _ _ hcall => hcall.eq.symm
  rw [List.forall₂_eq_eq_eq] at htasks hcalls
  exact ⟨htasks.symm, hcalls.symm⟩

/-- So are issuances. -/
theorem Issuance.Progress.Akin.eq {p : Progress σ} {p' : Progress σ'} (hcodes : L.codes = Eq)
    (h : p.Akin L p') : p'.stage = p.stage ∧ p'.calls = p.calls := by
  obtain ⟨hstage, -, hcalls, -⟩ := h
  rw [hcodes] at hstage hcalls
  have htask : (⟨"", p'.stage⟩ : Task) = ⟨"", p.stage⟩ := Task.Akin.eq ⟨rfl, hstage⟩
  have hcalls := hcalls.imp fun _ _ hcall => hcall.eq.symm
  rw [List.forall₂_eq_eq_eq] at hcalls
  exact ⟨(Task.mk.inj htask).2, hcalls.symm⟩

end MailCode
