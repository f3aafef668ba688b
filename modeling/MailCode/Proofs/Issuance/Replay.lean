import MailCode.Issuance.Stage
import MailCode.Proofs.Issuance.Course
/-!
# Nothing that was done is undone

`replay` makes the calls of a dialogue once more, in their order. That this gives the same replies
again and ends in the state that an issuance leaves behind says three things at once: the dialogue
leaves nothing out, every call starts from what the one before left, and no effect is taken back,
also where a call fails or panics. `serveAll_recorded` says it of requests one after the other.
-/

namespace MailCode

variable {σ : Type}

/-- The call made once more, from a state that may be another one. -/
def Exchange.again (c : Collaborators σ) (s : σ) : Exchange → Exchange × σ
  | .lookup key _ => (.lookup key (c.lookup key s).outcome, (c.lookup key s).state)
  | .store key value lifetime _ =>
    (.store key value lifetime (c.store key value lifetime s).outcome,
      (c.store key value lifetime s).state)
  | .storeIfAbsent key value lifetime _ =>
    (.storeIfAbsent key value lifetime (c.storeIfAbsent key value lifetime s).outcome,
      (c.storeIfAbsent key value lifetime s).state)
  | .contains key _ => (.contains key (c.contains key s).outcome, (c.contains key s).state)
  | .timeLeft key _ => (.timeLeft key (c.timeLeft key s).outcome, (c.timeLeft key s).state)
  | .healthy _ => (.healthy (c.healthy s).outcome, (c.healthy s).state)
  | .generate _ => (.generate (c.generate s).outcome, (c.generate s).state)
  | .send mail _ => (.send mail (c.send mail s).outcome, (c.send mail s).state)

section
variable (c : Collaborators σ) (s : σ)

theorem Exchange.again_lookup (key : String) (o : Outcome CacheError (Option String)) :
    (Exchange.lookup key o).again c s =
      (.lookup key (c.lookup key s).outcome, (c.lookup key s).state) := rfl

theorem Exchange.again_generate (o : Outcome GeneratorError String) :
    (Exchange.generate o).again c s =
      (.generate (c.generate s).outcome, (c.generate s).state) := rfl

theorem Exchange.again_send (mail : Mail) (o : Outcome BackendError String) :
    (Exchange.send mail o).again c s =
      (.send mail (c.send mail s).outcome, (c.send mail s).state) := rfl

end

namespace Issuance

variable {c : Collaborators σ} {settings : IssuingSettings} {email : String} {s : σ}

/-- The calls of a dialogue made once more, one after the other: what is replied, and the state
that they lead to. -/
def replay (c : Collaborators σ) : List Exchange → σ → List Exchange × σ
  | [], s => ([], s)
  | x :: said, s =>
    let (y, s₁) := x.again c s
    let (replies, s₂) := replay c said s₁
    (y :: replies, s₂)

theorem replay_append (c : Collaborators σ) (said said' : List Exchange) (s : σ) :
    replay c (said ++ said') s =
      ((replay c said s).1 ++ (replay c said' (replay c said s).2).1,
        (replay c said' (replay c said s).2).2) := by
  induction said generalizing s with
  | nil => rfl
  | cons x said ih => simp only [List.cons_append, replay, ih]

/-- Calls that get the same replies once more get them one by one. -/
theorem replay_concat {earlier : List Exchange} {x : Exchange} {s s' : σ}
    (h : replay c (earlier ++ [x]) s = (earlier ++ [x], s')) :
    ∃ s₁, replay c earlier s = (earlier, s₁) ∧ x.again c s₁ = (x, s') := by
  rw [replay_append] at h
  obtain ⟨hreplies, hstate⟩ := Prod.mk.inj h
  obtain ⟨hearlier, hlast⟩ := List.append_inj' hreplies rfl
  exact ⟨(replay c earlier s).2, Prod.ext hearlier rfl,
    Prod.ext (List.cons.inj hlast).1 hstate⟩

theorem again_writeExchange {strategy : Strategy} {code : String}
    {o : Outcome CacheError StoreOutcome} {s₁ : σ} {es : List Event}
    (hw : write c strategy email code s = ⟨o, s₁, es⟩) :
    (writeExchange strategy email code o).again c s =
      (writeExchange strategy email code o, s₁) := by
  cases strategy with
  | checkThenSet =>
    simp only [write, Reply.map, Reply.mk.injEq] at hw
    obtain ⟨rfl, rfl, -⟩ := hw
    simp only [writeExchange, Exchange.again]
    cases (c.store (CodeKey.ofAddress email) code codeLifetime s).outcome <;> rfl
  | setIfAbsent =>
    have hs : c.storeIfAbsent (CodeKey.ofAddress email) code codeLifetime s = ⟨o, s₁, es⟩ := hw
    simp only [writeExchange, Exchange.again, hs]

/-- A dialogue is what the collaborators really reply, each call starting from what the one before
left behind; and the last one leaves behind what the issuance does. -/
theorem Course.replay_eq {said : List Exchange} {p : Progress σ}
    (h : Course c settings email s said p) : replay c said s = (said, p.state) := by
  cases h with
  | refused he => rfl
  | lookupFailed hne hl ho => simp only [replay, Exchange.again_lookup, hl, fail]
  | hit hne hl =>
    simp only [replay, Exchange.again_lookup, hl, Exchange.again_send, finish_state]
  | generatorFailed hne hl hg ho =>
    simp only [replay, Exchange.again_lookup, hl, Exchange.again_generate, hg, fail]
  | writeFailed hne hl hg hw ho =>
    simp only [replay, Exchange.again_lookup, hl, Exchange.again_generate, hg,
      again_writeExchange hw, fail]
  | stored hne hl hg hw =>
    simp only [replay, Exchange.again_lookup, hl, Exchange.again_generate, hg,
      again_writeExchange hw, Exchange.again_send, finish_state]
  | lost hne hl hg hw =>
    simp only [replay, Exchange.again_lookup, hl, Exchange.again_generate, hg,
      again_writeExchange hw, Exchange.again_send, finish_state]

/-! ## Requests one after the other -/

/-- What can be asked of the service. -/
inductive Request where
  | issue (email : String)
  | hasLiveCode (email : String)
  | codeTimeLeft (email : String)
  | cacheHealthy
  deriving DecidableEq, Repr

/-- What a request leaves behind. -/
def Request.serve (c : Collaborators σ) (settings : IssuingSettings) (r : Request) (s : σ) : σ :=
  match r with
  | .issue email => (Issuance.issue c settings email s).state
  | .hasLiveCode email => (Issuance.hasLiveCode c email s).state
  | .codeTimeLeft email => (Issuance.codeTimeLeft c email s).state
  | .cacheHealthy => (Issuance.cacheHealthy c s).state

/-- What requests leave behind that are served one after the other. -/
def serveAll (c : Collaborators σ) (settings : IssuingSettings) (rs : List Request) (s : σ) : σ :=
  rs.foldl (fun s r => r.serve c settings s) s

/-- What is said in the course of some requests. -/
def conversation (c : Collaborators σ) (settings : IssuingSettings) (rs : List Request) (s : σ) :
    List Exchange :=
  (serveAll c.recorded settings rs ([], s)).1

theorem cacheHealthy_state (c : Collaborators σ) (s : σ) :
    (cacheHealthy c s).state = (c.healthy s).state := by
  unfold cacheHealthy
  dsimp only
  split <;> rfl

/-- Writing down what is said changes nothing, and what is said are real replies. -/
theorem Request.serve_recorded (c : Collaborators σ) (settings : IssuingSettings) (r : Request)
    (s : σ) :
    ∃ said, (∀ log, r.serve c.recorded settings (log, s) = (log ++ said, r.serve c settings s)) ∧
      replay c said s = (said, r.serve c settings s) := by
  cases r with
  | issue email =>
    have hcourse := issue_course c settings email s
    refine ⟨_, fun log => ?_, hcourse.replay_eq⟩
    rw [Request.serve, hcourse.recorded log]
    rfl
  | hasLiveCode email => exact ⟨[.contains _ _], fun _ => rfl, rfl⟩
  | codeTimeLeft email => exact ⟨[.timeLeft _ _], fun _ => rfl, rfl⟩
  | cacheHealthy =>
    refine ⟨[.healthy (c.healthy s).outcome], fun log => ?_, ?_⟩
    · simp only [Request.serve, cacheHealthy_state]
      rfl
    · simp only [Request.serve, cacheHealthy_state]
      rfl

theorem serveAll_cons (c : Collaborators σ) (settings : IssuingSettings) (r : Request)
    (rs : List Request) (s : σ) :
    serveAll c settings (r :: rs) s = serveAll c settings rs (r.serve c settings s) := rfl

theorem serveAll_append (c : Collaborators σ) (settings : IssuingSettings) (rs rs' : List Request)
    (s : σ) :
    serveAll c settings (rs ++ rs') s = serveAll c settings rs' (serveAll c settings rs s) :=
  List.foldl_append

/-- Whatever is asked, nothing that was done is undone. -/
theorem serveAll_recorded (c : Collaborators σ) (settings : IssuingSettings) (rs : List Request)
    (s : σ) :
    (∀ log, serveAll c.recorded settings rs (log, s) =
      (log ++ conversation c settings rs s, serveAll c settings rs s)) ∧
    replay c (conversation c settings rs s) s =
      (conversation c settings rs s, serveAll c settings rs s) := by
  suffices h : ∃ said,
      (∀ log, serveAll c.recorded settings rs (log, s) = (log ++ said, serveAll c settings rs s)) ∧
      replay c said s = (said, serveAll c settings rs s) by
    obtain ⟨said, hserved, hreplay⟩ := h
    have hsaid : conversation c settings rs s = said := by
      rw [conversation, hserved []]
      rfl
    rw [hsaid]
    exact ⟨hserved, hreplay⟩
  induction rs generalizing s with
  | nil => exact ⟨[], fun log => by rw [List.append_nil]; rfl, rfl⟩
  | cons r rs ih =>
    obtain ⟨said, hserved, hreplay⟩ := r.serve_recorded c settings s
    obtain ⟨said', hserved', hreplay'⟩ := ih (r.serve c settings s)
    refine ⟨said ++ said', fun log => ?_, ?_⟩
    · rw [serveAll_cons, serveAll_cons, hserved, hserved', List.append_assoc]
    · rw [replay_append, hreplay, hreplay']
      rfl

theorem conversation_append (c : Collaborators σ) (settings : IssuingSettings)
    (rs rs' : List Request) (s : σ) :
    conversation c settings (rs ++ rs') s =
      conversation c settings rs s ++ conversation c settings rs' (serveAll c settings rs s) := by
  rw [conversation, serveAll_append, (serveAll_recorded c settings rs s).1 [],
    (serveAll_recorded c settings rs' _).1]
  rfl

end Issuance

end MailCode
