import MailCode.Proofs.Issuance.Dialogue
/-!
# The courses an issuance can take

Whatever the collaborators reply, an issuance that runs on its own goes one of the seven ways of
`Course`. `issue_course` says so, and `Course.eq_issue` that no two of them are open at once.
What holds of every issuance is then a case analysis over `Course`, which never looks at the
steps again.

A course tells what was said on the way; `Course.recorded` is the proof that writing it down
changes nothing.
-/

namespace MailCode.Issuance

variable {σ : Type} {c : Collaborators σ} {settings : IssuingSettings} {email : String} {s : σ}

/-- The end of an issuance that has settled on a code: one mail, and what the provider makes of
it. -/
def finish (c : Collaborators σ) (settings : IssuingSettings) (email code : String) (s : σ)
    (calls : List Call) (events : List Event) : Progress σ :=
  let delivered := deliver c settings.policy email code s
  ⟨delivered.stage, delivered.state, calls ++ [.send (Mail.ofCode email code)],
    events ++ delivered.events⟩

/-- The ways an issuance can go, each with the replies that lead there, with what is said and with
what it leaves behind. -/
inductive Course (c : Collaborators σ) (settings : IssuingSettings) (email : String) (s : σ) :
    List Exchange → Progress σ → Prop
  /-- An empty address is refused. -/
  | refused : email = "" →
      Course c settings email s [] (fail email (.invalidRequest "email is empty") s [] [])
  | lookupFailed {o s₁ es₁ e} : email ≠ "" →
      c.lookup (CodeKey.ofAddress email) s = ⟨o, s₁, es₁⟩ → o.failure? .cache = some e →
      Course c settings email s [.lookup (CodeKey.ofAddress email) o]
        (fail email e s₁ [.lookup (CodeKey.ofAddress email)] es₁)
  /-- A live code is sent once more. -/
  | hit {code s₁ es₁} : email ≠ "" →
      c.lookup (CodeKey.ofAddress email) s = ⟨.ok (some code), s₁, es₁⟩ →
      Course c settings email s
        [.lookup (CodeKey.ofAddress email) (.ok (some code)),
          .send (Mail.ofCode email code) (c.send (Mail.ofCode email code) s₁).outcome]
        (finish c settings email code s₁ [.lookup (CodeKey.ofAddress email)]
          (es₁ ++ [codeReused email]))
  | generatorFailed {s₁ es₁ o s₂ es₂ e} : email ≠ "" →
      c.lookup (CodeKey.ofAddress email) s = ⟨.ok none, s₁, es₁⟩ →
      c.generate s₁ = ⟨o, s₂, es₂⟩ → o.failure? .generator = some e →
      Course c settings email s [.lookup (CodeKey.ofAddress email) (.ok none), .generate o]
        (fail email e s₂ [.lookup (CodeKey.ofAddress email), .generate] (es₁ ++ es₂))
  | writeFailed {s₁ es₁ code s₂ es₂ o s₃ es₃ e} : email ≠ "" →
      c.lookup (CodeKey.ofAddress email) s = ⟨.ok none, s₁, es₁⟩ →
      c.generate s₁ = ⟨.ok code, s₂, es₂⟩ →
      write c settings.strategy email code s₂ = ⟨o, s₃, es₃⟩ → o.failure? .cache = some e →
      Course c settings email s
        [.lookup (CodeKey.ofAddress email) (.ok none), .generate (.ok code),
          writeExchange settings.strategy email code o]
        (fail email e s₃ [.lookup (CodeKey.ofAddress email), .generate,
          writeCall settings.strategy email code] (es₁ ++ es₂ ++ es₃))
  /-- The fresh code was written and is sent. -/
  | stored {s₁ es₁ code s₂ es₂ s₃ es₃} : email ≠ "" →
      c.lookup (CodeKey.ofAddress email) s = ⟨.ok none, s₁, es₁⟩ →
      c.generate s₁ = ⟨.ok code, s₂, es₂⟩ →
      write c settings.strategy email code s₂ = ⟨.ok .inserted, s₃, es₃⟩ →
      Course c settings email s
        [.lookup (CodeKey.ofAddress email) (.ok none), .generate (.ok code),
          writeExchange settings.strategy email code (.ok .inserted),
          .send (Mail.ofCode email code) (c.send (Mail.ofCode email code) s₃).outcome]
        (finish c settings email code s₃ [.lookup (CodeKey.ofAddress email), .generate,
          writeCall settings.strategy email code] (es₁ ++ es₂ ++ es₃ ++ [codeStored email]))
  /-- Another code had been written meanwhile and is sent instead. -/
  | lost {s₁ es₁ code s₂ es₂ winner s₃ es₃} : email ≠ "" →
      c.lookup (CodeKey.ofAddress email) s = ⟨.ok none, s₁, es₁⟩ →
      c.generate s₁ = ⟨.ok code, s₂, es₂⟩ →
      write c settings.strategy email code s₂ = ⟨.ok (.existing winner), s₃, es₃⟩ →
      Course c settings email s
        [.lookup (CodeKey.ofAddress email) (.ok none), .generate (.ok code),
          writeExchange settings.strategy email code (.ok (.existing winner)),
          .send (Mail.ofCode email winner) (c.send (Mail.ofCode email winner) s₃).outcome]
        (finish c settings email winner s₃ [.lookup (CodeKey.ofAddress email), .generate,
          writeCall settings.strategy email code]
          (es₁ ++ es₂ ++ es₃ ++ [codeStoreLostRace email]))

/-! ## Steps -/

theorem next_of_done {p : Progress σ} {answer : Answer} (h : p.stage = .done answer) :
    p.next c settings email = p := by
  obtain ⟨stage, state, calls, events⟩ := p
  obtain rfl : stage = .done answer := h
  simp [Progress.next, step]

theorem deliver_stage (c : Collaborators σ) (policy : DeliveryPolicy) (email code : String)
    (s : σ) : ∃ answer, (deliver c policy email code s).stage = .done answer := by
  apply Stage.answer?_of_left
  have h := step_left_le c ⟨.checkThenSet, policy⟩ email (.handedOver code) s
  exact Nat.le_zero.1 h

theorem deliver_calls (c : Collaborators σ) (policy : DeliveryPolicy) (email code : String)
    (s : σ) : (deliver c policy email code s).calls = [] := by
  unfold deliver
  dsimp only
  split
  · rfl
  · split <;> rfl
  · rfl

theorem deliver_state (c : Collaborators σ) (policy : DeliveryPolicy) (email code : String)
    (s : σ) :
    (deliver c policy email code s).state = (c.send (Mail.ofCode email code) s).state := by
  unfold deliver
  dsimp only
  split
  · rfl
  · split <;> rfl
  · rfl

theorem next_of_lookup {found : Option String} {s₁ : σ} {es₁ : List Event} (hne : email ≠ "")
    (hl : c.lookup (CodeKey.ofAddress email) s = ⟨.ok found, s₁, es₁⟩) :
    (Progress.begin s).next c settings email =
      ⟨.lookedUp (.ok found), s₁, [.lookup (CodeKey.ofAddress email)], es₁⟩ := by
  simp [Progress.begin, Progress.next, step, lookUp, hne, hl]

theorem next_of_write {s₁ s₂ s₃ : σ} {code : String} {outcome : StoreOutcome}
    {es₂ es₃ events : List Event} {calls : List Call} (hg : c.generate s₁ = ⟨.ok code, s₂, es₂⟩)
    (hw : write c settings.strategy email code s₂ = ⟨.ok outcome, s₃, es₃⟩) :
    Progress.next c settings email ⟨.lookedUp (.ok none), s₁, calls, events⟩ =
      ⟨.written code (.ok outcome), s₃,
        calls ++ [.generate, writeCall settings.strategy email code],
        events ++ es₂ ++ es₃⟩ := by
  simp [Progress.next, step, afterLookup, create, hg, hw]

/-- The step after the mail was handed over is the last. -/
theorem next_of_handedOver (calls : List Call) (events : List Event) (code : String) (s : σ) :
    Progress.next c settings email
      ⟨.handedOver code, s, calls ++ [.send (Mail.ofCode email code)], events⟩ =
      finish c settings email code s calls events := by
  simp [Progress.next, step, finish, deliver_calls]

theorem finish_stage (c : Collaborators σ) (settings : IssuingSettings) (email code : String)
    (s : σ) (calls : List Call) (events : List Event) :
    ∃ answer, (finish c settings email code s calls events).stage = .done answer :=
  deliver_stage c settings.policy email code s

/-- The end of an issuance leaves behind what the mail does. -/
theorem finish_state (c : Collaborators σ) (settings : IssuingSettings) (email code : String)
    (s : σ) (calls : List Call) (events : List Event) :
    (finish c settings email code s calls events).state =
      (c.send (Mail.ofCode email code) s).state :=
  deliver_state c settings.policy email code s

/-! ## Whole issuances -/

theorem Course.eq_issue {said : List Exchange} {p : Progress σ}
    (h : Course c settings email s said p) :
    issue c settings email s = p := by
  cases h with
  | refused he => simp [issue, Progress.begin, Progress.next, step, lookUp, he, fail]
  | @lookupFailed o s₁ es₁ e hne hl ho =>
    cases o <;> simp only [Outcome.failure?, Option.some.injEq, reduceCtorEq] at ho <;> subst ho <;>
      simp [issue, Progress.begin, Progress.next, step, lookUp, hne, hl, fail, afterLookup]
  | @hit code s₁ es₁ hne hl =>
    obtain ⟨answer, hdone⟩ := finish_stage c settings email code s₁
      [.lookup (CodeKey.ofAddress email)] (es₁ ++ [codeReused email])
    -- A hit goes straight from the lookup to the mail, so the fourth step finds nothing to do.
    have hsecond : Progress.next c settings email
        ⟨.lookedUp (.ok (some code)), s₁, [.lookup (CodeKey.ofAddress email)], es₁⟩ =
        ⟨.handedOver code, s₁,
          [.lookup (CodeKey.ofAddress email)] ++ [.send (Mail.ofCode email code)],
          es₁ ++ [codeReused email]⟩ := rfl
    rw [issue, next_of_lookup hne hl, hsecond, next_of_handedOver, next_of_done hdone]
  | @generatorFailed s₁ es₁ o s₂ es₂ e hne hl hg ho =>
    rw [issue, next_of_lookup hne hl]
    cases o <;> simp only [Outcome.failure?, Option.some.injEq, reduceCtorEq] at ho <;> subst ho <;>
      simp [Progress.next, step, afterLookup, create, hg, fail]
  | @writeFailed s₁ es₁ code s₂ es₂ o s₃ es₃ e hne hl hg hw ho =>
    rw [issue, next_of_lookup hne hl]
    cases o <;> simp only [Outcome.failure?, Option.some.injEq, reduceCtorEq] at ho <;> subst ho <;>
      simp [Progress.next, step, afterLookup, create, hg, hw, fail, afterWrite]
  | stored hne hl hg hw =>
    rw [issue, next_of_lookup hne hl, next_of_write hg hw]
    exact next_of_handedOver _ _ _ _
  | lost hne hl hg hw =>
    rw [issue, next_of_lookup hne hl, next_of_write hg hw]
    exact next_of_handedOver _ _ _ _

/-! ## Writing it down -/

theorem finish_recorded (code : String) (log : List Exchange) (s : σ) (calls : List Call)
    (events : List Event) :
    finish c.recorded settings email code (log, s) calls events =
      { finish c settings email code s calls events with
        state :=
          (log ++ [.send (Mail.ofCode email code) (c.send (Mail.ofCode email code) s).outcome],
            (finish c settings email code s calls events).state) } := by
  have hsend : c.recorded.send (Mail.ofCode email code) (log, s) =
      (c.send (Mail.ofCode email code) s).noted log (.send (Mail.ofCode email code)) := rfl
  simp only [finish, deliver, hsend, Reply.noted, Reply.mapError, succeed, fail]
  cases (c.send (Mail.ofCode email code) s).outcome with
  | ok id => rfl
  | error e =>
    simp only [Outcome.mapError]
    split <;> rfl
  | panic p => rfl

/-- An issuance that is written down takes the course that it would have taken anyway. -/
theorem Course.recorded {said : List Exchange} {p : Progress σ}
    (h : Course c settings email s said p) (log : List Exchange) :
    issue c.recorded settings email (log, s) = { p with state := (log ++ said, p.state) } := by
  have hlookup {o s₁ es₁} (hl : c.lookup (CodeKey.ofAddress email) s = ⟨o, s₁, es₁⟩) :
      c.recorded.lookup (CodeKey.ofAddress email) (log, s) =
        ⟨o, (log ++ [.lookup (CodeKey.ofAddress email) o], s₁), es₁⟩ := by
    simp only [Collaborators.recorded, Reply.noted, hl]
  have hgenerate {log : List Exchange} {s₁ : σ} {o s₂ es₂} (hg : c.generate s₁ = ⟨o, s₂, es₂⟩) :
      c.recorded.generate (log, s₁) = ⟨o, (log ++ [.generate o], s₂), es₂⟩ := by
    simp only [Collaborators.recorded, Reply.noted, hg]
  have hwrite {log : List Exchange} {code : String} {s₂ : σ} {o s₃ es₃}
      (hw : write c settings.strategy email code s₂ = ⟨o, s₃, es₃⟩) :
      write c.recorded settings.strategy email code (log, s₂) =
        ⟨o, (log ++ [writeExchange settings.strategy email code o], s₃), es₃⟩ := by
    simp only [write_recorded, Reply.noted, hw]
  cases h with
  | refused he =>
    rw [List.append_nil]
    exact (Course.refused he).eq_issue
  | lookupFailed hne hl ho => exact (Course.lookupFailed hne (hlookup hl) ho).eq_issue
  | hit hne hl =>
    rw [(Course.hit hne (hlookup hl)).eq_issue, finish_recorded, List.append_assoc]
    rfl
  | generatorFailed hne hl hg ho =>
    rw [(Course.generatorFailed hne (hlookup hl) (hgenerate hg) ho).eq_issue, List.append_assoc]
    rfl
  | writeFailed hne hl hg hw ho =>
    rw [(Course.writeFailed hne (hlookup hl) (hgenerate hg) (hwrite hw) ho).eq_issue,
      List.append_assoc, List.append_assoc]
    rfl
  | stored hne hl hg hw =>
    rw [(Course.stored hne (hlookup hl) (hgenerate hg) (hwrite hw)).eq_issue, finish_recorded]
    simp only [List.append_assoc, List.cons_append, List.nil_append]
  | lost hne hl hg hw =>
    rw [(Course.lost hne (hlookup hl) (hgenerate hg) (hwrite hw)).eq_issue, finish_recorded]
    simp only [List.append_assoc, List.cons_append, List.nil_append]

theorem Course.eq_dialogue {said : List Exchange} {p : Progress σ}
    (h : Course c settings email s said p) : dialogue c settings email s = said := by
  rw [dialogue, h.recorded []]
  rfl

/-- Every issuance takes one of the courses. -/
theorem issue_course (c : Collaborators σ) (settings : IssuingSettings) (email : String) (s : σ) :
    Course c settings email s (dialogue c settings email s) (issue c settings email s) := by
  suffices h : ∃ said p, Course c settings email s said p by
    obtain ⟨said, p, h⟩ := h
    rw [h.eq_issue, h.eq_dialogue]
    exact h
  by_cases hne : email = ""
  · exact ⟨_, _, .refused hne⟩
  rcases hl : c.lookup (CodeKey.ofAddress email) s with ⟨(_ | code) | e | p, s₁, es₁⟩
  · rcases hg : c.generate s₁ with ⟨code | e | p, s₂, es₂⟩
    · rcases hw : write c settings.strategy email code s₂ with ⟨(_ | winner) | e | p, s₃, es₃⟩
      · exact ⟨_, _, .stored hne hl hg hw⟩
      · exact ⟨_, _, .lost hne hl hg hw⟩
      · exact ⟨_, _, .writeFailed hne hl hg hw rfl⟩
      · exact ⟨_, _, .writeFailed hne hl hg hw rfl⟩
    · exact ⟨_, _, .generatorFailed hne hl hg rfl⟩
    · exact ⟨_, _, .generatorFailed hne hl hg rfl⟩
  · exact ⟨_, _, .hit hne hl⟩
  · exact ⟨_, _, .lookupFailed hne hl rfl⟩
  · exact ⟨_, _, .lookupFailed hne hl rfl⟩

end MailCode.Issuance
