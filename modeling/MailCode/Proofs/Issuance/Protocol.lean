import MailCode.Proofs.Issuance.Course
/-!
# The protocol between an issuance and its collaborators

`Protocol` is the grammar of what can be said during one issuance. `dialogue_protocol` says that
nothing else ever is, whatever the collaborators reply: the cache and the generator are asked at
most once each, a call that gives no value is the last one, and the one mail carries a code that
the cache holds. It says too that whatever the grammar allows can happen.
-/

namespace MailCode.Issuance

variable {σ : Type}

/-- What can be written down during an issuance. -/
inductive Protocol (strategy : Strategy) (email : String) : List Exchange → Prop
  /-- An empty address concerns nobody. -/
  | refused : email = "" → Protocol strategy email []
  | lookupFailed {reply} : email ≠ "" → reply.isOk = false →
      Protocol strategy email [.lookup (CodeKey.ofAddress email) reply]
  /-- A live code is sent once more. -/
  | hit (code sent) : email ≠ "" →
      Protocol strategy email
        [.lookup (CodeKey.ofAddress email) (.ok (some code)), .send (Mail.ofCode email code) sent]
  | generatorFailed {reply} : email ≠ "" → reply.isOk = false →
      Protocol strategy email [.lookup (CodeKey.ofAddress email) (.ok none), .generate reply]
  | storeFailed {code reply} : email ≠ "" → strategy = .checkThenSet → reply.isOk = false →
      Protocol strategy email
        [.lookup (CodeKey.ofAddress email) (.ok none), .generate (.ok code),
          .store (CodeKey.ofAddress email) code 600 reply]
  | stored (code sent) : email ≠ "" → strategy = .checkThenSet →
      Protocol strategy email
        [.lookup (CodeKey.ofAddress email) (.ok none), .generate (.ok code),
          .store (CodeKey.ofAddress email) code 600 (.ok ()), .send (Mail.ofCode email code) sent]
  | storeIfAbsentFailed {code reply} : email ≠ "" → strategy = .setIfAbsent → reply.isOk = false →
      Protocol strategy email
        [.lookup (CodeKey.ofAddress email) (.ok none), .generate (.ok code),
          .storeIfAbsent (CodeKey.ofAddress email) code 600 reply]
  | inserted (code sent) : email ≠ "" → strategy = .setIfAbsent →
      Protocol strategy email
        [.lookup (CodeKey.ofAddress email) (.ok none), .generate (.ok code),
          .storeIfAbsent (CodeKey.ofAddress email) code 600 (.ok .inserted),
          .send (Mail.ofCode email code) sent]
  /-- Another code had been written meanwhile and is sent instead. -/
  | lost (code winner sent) : email ≠ "" → strategy = .setIfAbsent →
      Protocol strategy email
        [.lookup (CodeKey.ofAddress email) (.ok none), .generate (.ok code),
          .storeIfAbsent (CodeKey.ofAddress email) code 600 (.ok (.existing winner)),
          .send (Mail.ofCode email winner) sent]

variable {c : Collaborators σ} {settings : IssuingSettings} {email : String}

/-! ## Every issuance keeps to it -/

theorem Protocol.writeFailed {strategy : Strategy} {reply : Outcome CacheError StoreOutcome}
    (hne : email ≠ "") (hreply : reply.isOk = false) (code : String) :
    Protocol strategy email [.lookup (CodeKey.ofAddress email) (.ok none), .generate (.ok code),
      writeExchange strategy email code reply] := by
  cases strategy with
  | checkThenSet => exact .storeFailed hne rfl ((Outcome.isOk_map _ reply).trans hreply)
  | setIfAbsent => exact .storeIfAbsentFailed hne rfl hreply

theorem Protocol.written {strategy : Strategy} (hne : email ≠ "") (code : String)
    (sent : Outcome BackendError String) :
    Protocol strategy email [.lookup (CodeKey.ofAddress email) (.ok none), .generate (.ok code),
      writeExchange strategy email code (.ok .inserted), .send (Mail.ofCode email code) sent] := by
  cases strategy with
  | checkThenSet => exact .stored code sent hne rfl
  | setIfAbsent => exact .inserted code sent hne rfl

/-- Every course keeps to the protocol, and names the calls that it made. -/
theorem Course.protocol {s : σ} {said : List Exchange} {p : Progress σ}
    (h : Course c settings email s said p) :
    Protocol settings.strategy email said ∧ said.filterMap Exchange.call? = p.calls := by
  cases h with
  | refused he => exact ⟨.refused he, rfl⟩
  | lookupFailed hne hl ho => exact ⟨.lookupFailed hne (Outcome.isOk_of_failure? ho), rfl⟩
  | hit hne hl => exact ⟨.hit _ _ hne, rfl⟩
  | generatorFailed hne hl hg ho =>
    exact ⟨.generatorFailed hne (Outcome.isOk_of_failure? ho), rfl⟩
  | writeFailed hne hl hg hw ho =>
    refine ⟨.writeFailed hne (Outcome.isOk_of_failure? ho) _, ?_⟩
    simp only [List.filterMap_cons, call?_writeExchange]
    rfl
  | stored hne hl hg hw =>
    refine ⟨.written hne _ _, ?_⟩
    simp only [List.filterMap_cons, call?_writeExchange]
    rfl
  | lost hne hl hg hw =>
    rw [strategy_of_existing hw]
    exact ⟨.lost _ _ _ hne rfl, rfl⟩

/-- In a dialogue nothing is said twice, and only the last call can fail. -/
theorem Protocol.once {strategy : Strategy} {said : List Exchange}
    (h : Protocol strategy email said) :
    (said.filterMap Exchange.call?).Nodup ∧ said.countP Exchange.isWrite ≤ 1 ∧
      said.countP Exchange.isSend ≤ 1 ∧ ∀ x ∈ said.dropLast, x.answered := by
  cases h <;>
    simp [List.countP_cons, Exchange.call?, Exchange.isWrite, Exchange.isSend, Exchange.answered,
      Outcome.isOk]

/-! ## And every part of it can happen -/

/-- Collaborators that always reply the same. -/
def constant (looked : Outcome CacheError (Option String)) (made : Outcome GeneratorError String)
    (stored : Outcome CacheError Unit) (storedIfAbsent : Outcome CacheError StoreOutcome)
    (sent : Outcome BackendError String) : Collaborators Unit where
  lookup _ _ := ⟨looked, (), []⟩
  store _ _ _ _ := ⟨stored, (), []⟩
  storeIfAbsent _ _ _ _ := ⟨storedIfAbsent, (), []⟩
  contains _ _ := ⟨.ok false, (), []⟩
  timeLeft _ _ := ⟨.ok none, (), []⟩
  healthy _ := ⟨.ok true, (), []⟩
  generate _ := ⟨made, (), []⟩
  send _ _ := ⟨sent, (), []⟩

/-- Every dialogue that the protocol allows takes place with some collaborators. -/
theorem exists_dialogue_eq {strategy : Strategy} {said : List Exchange}
    (h : Protocol strategy email said) (policy : DeliveryPolicy) :
    ∃ c : Collaborators Unit, dialogue c ⟨strategy, policy⟩ email () = said := by
  have takes (c : Collaborators Unit) {said p}
      (h : Course c ⟨strategy, policy⟩ email () said p) :
      ∃ c : Collaborators Unit, dialogue c ⟨strategy, policy⟩ email () = said :=
    ⟨c, h.eq_dialogue⟩
  cases h with
  | refused he =>
    exact takes (constant (.ok none) (.ok "") (.ok ()) (.ok .inserted) (.ok "")) (.refused he)
  | @lookupFailed reply hne hreply =>
    obtain ⟨e, he⟩ := Outcome.exists_failure? .cache hreply
    exact takes (constant reply (.ok "") (.ok ()) (.ok .inserted) (.ok ""))
      (.lookupFailed hne rfl he)
  | hit code sent hne =>
    exact takes (constant (.ok (some code)) (.ok "") (.ok ()) (.ok .inserted) sent)
      (.hit hne rfl)
  | @generatorFailed reply hne hreply =>
    obtain ⟨e, he⟩ := Outcome.exists_failure? .generator hreply
    exact takes (constant (.ok none) reply (.ok ()) (.ok .inserted) (.ok ""))
      (.generatorFailed hne rfl rfl he)
  | @storeFailed code reply hne hs hreply =>
    subst hs
    obtain ⟨e, he⟩ := Outcome.exists_failure? .cache
      ((Outcome.isOk_map (fun _ => StoreOutcome.inserted) reply).trans hreply)
    have hwrite : reply = (reply.map fun _ => StoreOutcome.inserted).map fun _ => () := by
      cases reply <;> rfl
    rw [hwrite]
    exact takes (constant (.ok none) (.ok code) reply (.ok .inserted) (.ok ""))
      (.writeFailed hne rfl rfl rfl he)
  | stored code sent hne hs =>
    subst hs
    exact takes (constant (.ok none) (.ok code) (.ok ()) (.ok .inserted) sent)
      (.stored hne rfl rfl rfl)
  | @storeIfAbsentFailed code reply hne hs hreply =>
    subst hs
    obtain ⟨e, he⟩ := Outcome.exists_failure? .cache hreply
    exact takes (constant (.ok none) (.ok code) (.ok ()) reply (.ok ""))
      (.writeFailed hne rfl rfl rfl he)
  | inserted code sent hne hs =>
    subst hs
    exact takes (constant (.ok none) (.ok code) (.ok ()) (.ok .inserted) sent)
      (.stored hne rfl rfl rfl)
  | lost code winner sent hne hs =>
    subst hs
    exact takes (constant (.ok none) (.ok code) (.ok ()) (.ok (.existing winner)) sent)
      (.lost hne rfl rfl rfl)

/-! ## Both ways -/

/-- An issuance keeps to the protocol, whatever its collaborators reply: at most one write and one
mail, nothing tried twice, and no mail once a call has failed. The calls are those that the
issuance says it made, and writing them down changes nothing. All that the protocol allows
happens with some collaborators. -/
theorem dialogue_protocol (settings : IssuingSettings) (email : String) :
    (∀ {σ : Type} (c : Collaborators σ) (s : σ),
      let said := dialogue c settings email s
      Protocol settings.strategy email said ∧
        (said.filterMap Exchange.call?).Nodup ∧ said.countP Exchange.isWrite ≤ 1 ∧
        said.countP Exchange.isSend ≤ 1 ∧ (∀ x ∈ said.dropLast, x.answered) ∧
        said.filterMap Exchange.call? = (issue c settings email s).calls ∧
        issue c.recorded settings email ([], s) =
          { issue c settings email s with state := (said, (issue c settings email s).state) }) ∧
    ∀ said, Protocol settings.strategy email said →
      ∃ c : Collaborators Unit, dialogue c settings email () = said := by
  refine ⟨fun {σ} c s => ?_, fun said h => exists_dialogue_eq h settings.policy⟩
  intro said
  have hcourse := issue_course c settings email s
  obtain ⟨hprotocol, hcalls⟩ := hcourse.protocol
  obtain ⟨hcallsOnce, hwrites, hsends, hanswered⟩ := hprotocol.once
  exact ⟨hprotocol, hcallsOnce, hwrites, hsends, hanswered, hcalls, hcourse.recorded []⟩

end MailCode.Issuance
