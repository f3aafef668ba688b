import MailCode.Proofs.Mail.Sessions
import MailCode.Text.Numerals
/-!
# A client that keeps to what is documented

What is asked of a client can be met (`Client.modest_isDocumented`). `Client.modest` has no way to
log in, but it protects its connections as it is told to and upgrades one before it hands a mail
over.

Its sessions come from lists of prompts, which are gone through as long as the relay goes along
(`Session.after`). However that ends, the prompts of a session are some of its script, in the order
of the script (`Session.Keeps`); and whatever comes behind a list of prompts shows that the relay
went along with all of them (`Session.Plays.exists_of_after`).
-/

namespace MailCode.Smtp

/-! ## Going through a list of prompts -/

/-- Whether a client goes on after an exchange. -/
def Exchange.goesOn : Exchange → Bool
  | ⟨.connection, reaction⟩ | ⟨.handshake, reaction⟩ => reaction == .agreed
  | ⟨_, reaction⟩ => reaction.isPositive

/-- Why a client does not go on. -/
def Reaction.failure : Reaction → Failure
  | .reply code lines =>
    ⟨(if code < 500 then "transient" else "permanent") ++ " error (" ++ Text.Decimal.text code ++
      "): " ++ String.join lines, 500 ≤ code⟩
  | .malformed reason => ⟨"response error: " ++ reason, false⟩
  | .closed reason => ⟨"network error: " ++ reason, false⟩
  | .agreed => ⟨"response error: no reply", false⟩

/-- The last prompt of a session. -/
def Prompt.quit : Prompt := .command ⟨"QUIT", ""⟩

namespace Session

/-- Takes leave of the relay. -/
def leave (verdict : Verdict) : Session Verdict :=
  .facing .quit fun _ => .ended verdict

/-- Gives up after a reaction to a prompt; there is a leave to be taken only where commands are
spoken. -/
def giveUp (prompt : Prompt) (reaction : Reaction) : Session Verdict :=
  match prompt with
  | .command _ => leave (.error reaction.failure)
  | _ => .ended (.error reaction.failure)

/-- Confronts the relay with some prompts first, as long as it goes along. -/
def after : List Prompt → Session Verdict → Session Verdict
  | [], session => session
  | p :: ps, session => .facing p fun r =>
    if Exchange.goesOn ⟨p, r⟩ then after ps session else giveUp p r

/-- Hands the content of a mail over. -/
def handOver (content : String) : Session Verdict :=
  .facing (.content content) fun r =>
    match Exchange.accepted? ⟨.content content, r⟩ with
    | some lines => leave (.ok lines)
    | none => leave (.error r.failure)

variable {session : Session Verdict} {script ps : List Prompt} {said : List Exchange}
  {verdict : Verdict}

theorem ne_quit_of_transaction {p : Prompt} (h : p.phase = .transaction) : p ≠ .quit := by
  rintro rfl
  cases h

theorem Plays.of_leave {verdict' : Verdict} (h : (leave verdict).Plays said verdict') :
    verdict' = verdict ∧ ∃ r, said = [⟨.quit, r⟩] := by
  cases h with
  | facing _ r h =>
    cases h
    exact ⟨rfl, r, rfl⟩

theorem Plays.of_giveUp {p : Prompt} {r : Reaction} (h : (giveUp p r).Plays said verdict) :
    ∀ x ∈ said, x.prompt = .quit := by
  unfold giveUp at h
  split at h
  · obtain ⟨-, r', rfl⟩ := h.of_leave
    exact List.forall_mem_singleton.2 rfl
  · cases h
    exact nofun

/-- A mail is handed over behind a list of prompts only if the relay goes along with all of them. -/
theorem Plays.exists_of_after (h : (after ps session).Plays said verdict)
    (hps : ∀ p ∈ ps, p.phase ≠ .transaction) {x : Exchange} (hx : x ∈ said)
    (hphase : x.prompt.phase = .transaction) :
    ∃ said₁ said₂, said = said₁ ++ said₂ ∧ said₁.map Exchange.prompt = ps ∧
      (∀ y ∈ said₁, y.goesOn) ∧ x ∈ said₂ ∧ session.Plays said₂ verdict := by
  induction ps generalizing said with
  | nil => exact ⟨[], said, rfl, rfl, nofun, hx, h⟩
  | cons p ps ih =>
    obtain ⟨hp, hps⟩ := List.forall_mem_cons.1 hps
    cases h with
    | @facing _ said _ _ r h =>
      have hx : x ∈ said := by
        refine (List.mem_cons.1 hx).resolve_left ?_
        rintro rfl
        exact hp hphase
      dsimp only at h
      split at h
      case isTrue hgoes =>
        obtain ⟨said₁, said₂, rfl, hprompts, hall, hx₂, hplays⟩ := ih h hps hx
        exact ⟨⟨p, r⟩ :: said₁, said₂, rfl, congrArg (p :: ·) hprompts,
          List.forall_mem_cons.2 ⟨hgoes, hall⟩, hx₂, hplays⟩
      case isFalse => exact absurd (h.of_giveUp x hx) (ne_quit_of_transaction hphase)

/-! ## Scripts -/

/-- However a session goes, it takes its prompts from a script, and its result is the relay's reply
to the content of a mail, or an error. -/
def Keeps (session : Session Verdict) (script : List Prompt) : Prop :=
  ∀ said verdict, session.Plays said verdict →
    (said.map Exchange.prompt).Sublist script ∧ verdict.toOption = acceptance? said

theorem keeps_ended (e : Failure) (script : List Prompt) :
    (.ended (.error e) : Session Verdict).Keeps script := by
  rintro said verdict hplays
  cases hplays
  exact ⟨List.nil_sublist script, rfl⟩

theorem keeps_leave (e : Failure) (hquit : .quit ∈ script) : (leave (.error e)).Keeps script := by
  rintro said verdict hplays
  obtain ⟨rfl, r, rfl⟩ := hplays.of_leave
  exact ⟨List.singleton_sublist.2 hquit, rfl⟩

theorem keeps_giveUp (p : Prompt) (r : Reaction) (hquit : .quit ∈ script) :
    (giveUp p r).Keeps script := by
  unfold giveUp
  split
  · exact keeps_leave _ hquit
  · exact keeps_ended _ script

theorem Keeps.facing {next : Reaction → Session Verdict} {p : Prompt}
    (h : ∀ r, (next r).Keeps script) (hp : ∀ r, Exchange.accepted? ⟨p, r⟩ = none) :
    (Session.facing p next).Keeps (p :: script) := by
  rintro said verdict hplays
  cases hplays with
  | facing _ r hplays =>
    obtain ⟨hscript, hanswered⟩ := h r _ _ hplays
    rw [acceptance?, List.findSome?_cons, hp]
    exact ⟨hscript.cons_cons p, hanswered⟩

theorem Keeps.after (h : session.Keeps script) (hquit : .quit ∈ script)
    (hps : ∀ p ∈ ps, ∀ r, Exchange.accepted? ⟨p, r⟩ = none) :
    (after ps session).Keeps (ps ++ script) := by
  induction ps with
  | nil => exact h
  | cons p ps ih =>
    obtain ⟨hp, hps⟩ := List.forall_mem_cons.1 hps
    refine .facing (fun r => ?_) hp
    split
    · exact ih hps
    · exact keeps_giveUp p r (List.mem_append_right ps hquit)

theorem Keeps.after_opening (h : session.Keeps script) (hquit : .quit ∈ script)
    (hps : ∀ p ∈ ps, p.phase = .opening) : (Session.after ps session).Keeps (ps ++ script) := by
  refine h.after hquit fun p hp r => Option.not_isSome_iff_eq_none.1 fun haccepted => ?_
  have hphase : p.phase = .transaction := Exchange.phase_of_accepted? haccepted
  rw [hps p hp] at hphase
  cases hphase

theorem keeps_handOver (content : String) :
    (handOver content).Keeps [.content content, .quit] := by
  rintro said verdict hplays
  cases hplays with
  | @facing _ said _ _ r hplays =>
    dsimp only at hplays
    rw [acceptance?, List.findSome?_cons]
    split at hplays
    case h_1 lines haccepted =>
      obtain ⟨rfl, r', rfl⟩ := hplays.of_leave
      rw [haccepted]
      exact ⟨.refl _, rfl⟩
    case h_2 haccepted =>
      obtain ⟨rfl, r', rfl⟩ := hplays.of_leave
      rw [haccepted]
      exact ⟨.refl _, rfl⟩

/-- A session is conducted as documented if its script has the parts in order and no login, and a
connection that is to be upgraded is so before a mail is handed over. -/
theorem Keeps.conducted (h : session.Keeps script) {transport : Transport}
    (hordered : script.Pairwise fun p q => p.phase.rank ≤ q.phase.rank)
    (hlogin : ∀ p ∈ script, p.phase ≠ .login) (hplays : session.Plays said verdict)
    (hupgraded : transport.protection = .upgraded →
      (∃ x ∈ said, x.prompt.phase = .transaction) → Upgraded said) :
    Conducted transport said verdict := by
  obtain ⟨hscript, hanswered⟩ := h said verdict hplays
  have hnone (x : Exchange) (hx : x ∈ said) : x.prompt.phase ≠ .login :=
    hlogin _ (hscript.subset (List.mem_map_of_mem hx))
  have hparts := List.pairwise_map.1 (hordered.sublist hscript)
  refine ⟨hparts, ?_, fun hprotection => ?_, hanswered⟩
  · rintro ⟨x, hx, hphase⟩
    exact absurd hphase (hnone x hx)
  · rintro ⟨x, hx, hphase | hphase⟩
    · exact absurd hphase (hnone x hx)
    · exact hupgraded hprotection ⟨x, hx, hphase⟩

end Session

/-! ## The client -/

/-- A mail on its way. -/
structure Letter where
  sender : String
  recipient : String
  content : String

/-- What a client says of a mail before it hands it over. -/
def Letter.envelope (l : Letter) : List Prompt :=
  [.command ⟨"MAIL", "FROM:<" ++ l.sender ++ ">"⟩, .command ⟨"RCPT", "TO:<" ++ l.recipient ++ ">"⟩,
    .command ⟨"DATA", ""⟩]

/-- Delivers a mail to a relay that has been greeted. -/
def Letter.delivery (l : Letter) : Session Verdict :=
  .after l.envelope (.handOver l.content)

/-- What is said when a mail is delivered. -/
def Letter.script (l : Letter) : List Prompt :=
  l.envelope ++ [.content l.content, .quit]

/-- How a client introduces itself. -/
def Prompt.hello : Prompt := .command ⟨"EHLO", "[127.0.0.1]"⟩

/-- What is said to have a connection upgraded; the client introduces itself anew behind it. -/
def upgrade : List Prompt := [.command ⟨"STARTTLS", ""⟩, .handshake, .hello]

/-- Holds a session once the connection is upgraded, which the relay has to offer. -/
def Session.upgrading (session : Session Verdict) : Session Verdict :=
  .facing .hello fun r =>
    if Exchange.offersUpgrade ⟨.hello, r⟩ then .after upgrade session
    else if r.isPositive then
      .ended (.error ⟨"internal client error: STARTTLS is not supported on this server", false⟩)
    else .giveUp .hello r

/-- A client that has no way to log in. -/
def Client.modest : Client where
  Address := String
  Message := Letter
  parse text := if text.toList.contains '@' then .ok text else .error "Invalid input"
  prepare _ _ := .ok ()
  compose sender recipient subject body :=
    .ok ⟨sender, recipient, "Subject: " ++ subject ++ "\n\n" ++ body⟩
  session transport letter :=
    match transport.protection with
    | .wrapped => .after [.connection, .handshake, .greeting, .hello] letter.delivery
    | .upgraded => .after [.connection, .greeting] (.upgrading letter.delivery)
    | .absent => .after [.connection, .greeting, .hello] letter.delivery

theorem Client.modest_parse {text : String} (h : text.toList.contains '@') :
    modest.parse text = .ok text := by
  simp only [modest, if_pos h]

theorem Letter.delivery_keeps (l : Letter) : l.delivery.Keeps l.script :=
  (Session.keeps_handOver l.content).after (by simp) (by simp [envelope, Exchange.accepted?])

theorem Letter.quit_mem_script (l : Letter) : .quit ∈ l.script := by
  simp [script]

/-- It is enough that a session delivers a mail behind an opening. -/
theorem Letter.conducted (l : Letter) {opening : List Prompt} {session : Session Verdict}
    {transport : Transport} {said : List Exchange} {verdict : Verdict}
    (h : session.Keeps (opening ++ l.script)) (hopening : ∀ p ∈ opening, p.phase = .opening)
    (hplays : session.Plays said verdict)
    (hupgraded : transport.protection = .upgraded →
      (∃ x ∈ said, x.prompt.phase = .transaction) → Upgraded said) :
    Conducted transport said verdict := by
  have hfirst (p : Prompt) (hp : p ∈ opening) (q : Prompt) : p.phase.rank ≤ q.phase.rank := by
    rw [hopening p hp]
    exact Nat.zero_le _
  have hordered : l.script.Pairwise fun p q => p.phase.rank ≤ q.phase.rank := by
    simp [script, envelope, Prompt.quit, Prompt.phase, Phase.rank]
  have hlogin : ∀ p ∈ l.script, p.phase ≠ .login := by
    simp [script, envelope, Prompt.quit, Prompt.phase]
  refine h.conducted (List.pairwise_append.2 ⟨?_, hordered, fun p hp q _ => hfirst p hp q⟩) ?_
    hplays hupgraded
  · exact List.pairwise_of_forall_mem_list fun p hp q _ => hfirst p hp q
  · refine List.forall_mem_append.2 ⟨fun p hp => ?_, hlogin⟩
    rw [hopening p hp]
    decide

namespace Session

variable {session : Session Verdict} {script : List Prompt} {said : List Exchange}
  {verdict : Verdict}

theorem Keeps.upgrading (h : session.Keeps script) (hquit : .quit ∈ script) :
    session.upgrading.Keeps (.hello :: (upgrade ++ script)) := by
  have hquit' : .quit ∈ upgrade ++ script := List.mem_append_right _ hquit
  refine .facing (fun r => ?_) fun _ => rfl
  split
  · exact h.after hquit (by simp [upgrade, Prompt.hello, Exchange.accepted?])
  · split
    · exact keeps_ended _ _
    · exact keeps_giveUp _ r hquit'

/-- A relay that offers to upgrade the connection and goes along with it has it upgraded. -/
theorem upgraded_of_prompts {said₁ said₂ said₃ : List Exchange} {r : Reaction}
    (h₁ : said₁.map Exchange.prompt = [.connection, .greeting])
    (hoffers : Exchange.offersUpgrade ⟨.hello, r⟩) (h₂ : said₂.map Exchange.prompt = upgrade)
    (hgoes : ∀ x ∈ said₂, x.goesOn) : Upgraded (said₁ ++ ⟨.hello, r⟩ :: (said₂ ++ said₃)) := by
  simp only [upgrade, List.map_eq_cons_iff, List.map_eq_nil_iff] at h₁ h₂
  obtain ⟨⟨_, r₁⟩, _, rfl, rfl, ⟨_, r₂⟩, _, rfl, rfl, rfl⟩ := h₁
  obtain ⟨⟨_, r₃⟩, _, rfl, rfl, ⟨_, r₄⟩, _, rfl, rfl, ⟨_, r₅⟩, _, rfl, rfl, rfl⟩ := h₂
  have hgranted : r₃.isPositive := hgoes ⟨.command ⟨"STARTTLS", ""⟩, r₃⟩ (by simp)
  have hprotects : Exchange.protects ⟨.handshake, r₄⟩ := hgoes ⟨.handshake, r₄⟩ (by simp)
  refine ⟨⟨⟨.hello, r⟩, ?_, hoffers⟩, ⟨⟨.command ⟨"STARTTLS", ""⟩, r₃⟩, ?_, ?_⟩,
    ⟨⟨.handshake, r₄⟩, by simp, hprotects⟩⟩
  all_goals simp [inTheClear, Exchange.protects, Exchange.grantsUpgrade, Prompt.hello, hgranted]

/-- A mail is handed over only once the connection has been upgraded. -/
theorem Plays.upgraded (h : (after [.connection, .greeting] session.upgrading).Plays said verdict)
    (hx : ∃ x ∈ said, x.prompt.phase = .transaction) : Upgraded said := by
  obtain ⟨x, hx, hphase⟩ := hx
  obtain ⟨said₁, said₂, rfl, hprompts₁, -, hx, h⟩ := h.exists_of_after (by decide) hx hphase
  cases h with
  | @facing _ said₂ _ _ r h =>
    have hx : x ∈ said₂ := by
      refine (List.mem_cons.1 hx).resolve_left ?_
      rintro rfl
      cases hphase
    dsimp only at h
    split at h
    case isTrue hoffers =>
      obtain ⟨said₃, said₄, rfl, hprompts₃, hgoes, -, -⟩ :=
        h.exists_of_after (by decide) hx hphase
      exact upgraded_of_prompts hprompts₁ hoffers hprompts₃ hgoes
    case isFalse =>
      split at h
      · cases h
        cases hx
      · exact absurd (h.of_giveUp x hx) (ne_quit_of_transaction hphase)

end Session

theorem Client.modest_isDocumented : modest.IsDocumented := by
  intro transport (letter : Letter) said verdict hplays
  have hkeeps := letter.delivery_keeps
  have hquit := letter.quit_mem_script
  simp only [modest] at hplays
  split at hplays
  case h_1 hprotection =>
    exact letter.conducted (hkeeps.after_opening hquit (by decide)) (by decide) hplays
      (by simp [hprotection])
  case h_2 =>
    have hupgrading : (Session.after [.connection, .greeting] (.upgrading letter.delivery)).Keeps
        ([.connection, .greeting] ++ (.hello :: (upgrade ++ letter.script))) :=
      (hkeeps.upgrading hquit).after_opening (by simp [hquit]) (by decide)
    have hopening : ∀ p ∈ [.connection, .greeting] ++ .hello :: upgrade, p.phase = .opening := by
      decide
    refine letter.conducted ?_ hopening hplays fun _ => hplays.upgraded
    rwa [List.append_assoc]
  case h_3 hprotection =>
    exact letter.conducted (hkeeps.after_opening hquit (by decide)) (by decide) hplays
      (by simp [hprotection])

end MailCode.Smtp
