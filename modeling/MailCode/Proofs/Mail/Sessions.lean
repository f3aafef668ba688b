import MailCode.Mail.Client
import MailCode.Text.Basic
import Mathlib.Tactic.Tauto
/-!
# What a mail client is relied on for

Nothing is known of a client but what is documented of one. A session comes in parts, each of which
may be missing: an opening, a login, the transaction of a mail and a closing. A client logs in only
if it has been given credentials, uses a connection that is to be upgraded only once that has been
done, and returns the relay's reply to the content of the mail, or an error (`Conducted`). What is
said in the clear follows from that (`Conducted.isHarmless_of_inTheClear`).

What was said is all that reached the relay: `replay` confronts it with the same prompts once more,
and it does the same again.
-/

namespace MailCode.Smtp

variable {ρ α : Type}

/-! ## What was said -/

/-- The relay is confronted with some prompts, one after the other. -/
def replay (relay : Relay ρ) : List Prompt → ρ → List Exchange × ρ
  | [], s => ([], s)
  | p :: ps, s =>
    let (reaction, s₁) := relay p s
    let (said, s₂) := replay relay ps s₁
    (⟨p, reaction⟩ :: said, s₂)

/-- The ways in which a session can go, whatever the relay is like. -/
inductive Session.Plays : Session α → List Exchange → α → Prop
  | ended (result : α) : Plays (.ended result) [] result
  | facing {next : Reaction → Session α} {said : List Exchange} {result : α} (prompt : Prompt)
      (reaction : Reaction) (h : Plays (next reaction) said result) :
      Plays (.facing prompt next) (⟨prompt, reaction⟩ :: said) result

namespace Session

theorem run_plays (relay : Relay ρ) (session : Session α) (state : ρ) :
    session.Plays (session.run relay state).said (session.run relay state).result := by
  induction session generalizing state with
  | ended result => exact .ended result
  | facing prompt next ih => exact .facing prompt _ (ih _ _)

theorem replay_said (relay : Relay ρ) (session : Session α) (state : ρ) :
    replay relay ((session.run relay state).said.map Exchange.prompt) state =
      ((session.run relay state).said, (session.run relay state).relay) := by
  induction session generalizing state with
  | ended result => rfl
  | facing prompt next ih => simp only [run, List.map_cons, replay, ih]

end Session

/-! ## Reading a dialogue -/

/-- A part of a session. -/
inductive Phase where
  /-- The connection is made, and the client introduces itself. -/
  | opening
  | login
  /-- A mail is handed over. -/
  | transaction
  | closing
  deriving DecidableEq, Repr

/-- The place of a part among the others. -/
def Phase.rank : Phase → Nat
  | .opening => 0
  | .login => 1
  | .transaction => 2
  | .closing => 3

/-- The part of a session that a prompt belongs to. -/
def Prompt.phase : Prompt → Phase
  | .connection | .greeting | .handshake => .opening
  | .command c =>
    if ["EHLO", "HELO", "STARTTLS"].contains c.verb then .opening
    else if c.verb = "AUTH" then .login
    else if c.verb = "QUIT" then .closing
    else .transaction
  | .answer _ => .login
  | .content _ => .transaction

/-- What anybody may hear: it tells neither who logs in nor anything of a mail. -/
def Prompt.isHarmless : Prompt → Bool
  | .connection | .greeting | .handshake => true
  | .command c => ["EHLO", "HELO", "STARTTLS", "QUIT"].contains c.verb
  | .answer _ | .content _ => false

theorem Prompt.isHarmless_iff (p : Prompt) :
    p.isHarmless ↔ p.phase = .opening ∨ p.phase = .closing := by
  cases p with
  | connection | greeting | handshake => simp [isHarmless, phase]
  | command c =>
    simp only [isHarmless, phase, List.contains_eq_mem, List.mem_cons, List.not_mem_nil, or_false,
      decide_eq_true_eq]
    split
    case isTrue h => rcases h with h | h | h <;> simp [h]
    case isFalse h =>
      have hverb : (c.verb = "EHLO" ∨ c.verb = "HELO" ∨ c.verb = "STARTTLS" ∨ c.verb = "QUIT") ↔
          c.verb = "QUIT" := by tauto
      rw [hverb]
      split
      · simp_all
      · split <;> simp_all
  | answer | content => simp [isHarmless, phase]

/-- A positive reply. -/
def Reaction.isPositive : Reaction → Bool
  | .reply code _ => 200 ≤ code && code < 400
  | _ => false

/-- The first word of a line. -/
def firstWord (line : String) : String :=
  String.ofList ((Text.dropBlanks line.toList).takeWhile (!Text.isBlank ·))

namespace Exchange

/-- Whether the relay answered a hello and offered `STARTTLS`. -/
def offersUpgrade : Exchange → Bool
  | ⟨.command c, .reply code lines⟩ =>
    ["EHLO", "HELO"].contains c.verb && (Reaction.reply code lines).isPositive &&
      lines.any (firstWord · == "STARTTLS")
  | _ => false

/-- Whether the relay was asked for `STARTTLS` and granted it. -/
def grantsUpgrade : Exchange → Bool
  | ⟨.command c, reaction⟩ => c.verb == "STARTTLS" && reaction.isPositive
  | _ => false

/-- Whether the connection is protected from here on. -/
def protects (x : Exchange) : Bool :=
  x.prompt == .handshake && x.reaction == .agreed

/-- The lines with which the relay took the content of a mail, if it did. -/
def accepted? : Exchange → Option (List String)
  | ⟨.content _, .reply code lines⟩ =>
    if (Reaction.reply code lines).isPositive then some lines else none
  | _ => none

theorem phase_of_accepted? {x : Exchange} (h : x.accepted?.isSome) :
    x.prompt.phase = .transaction := by
  unfold accepted? at h
  split at h
  · rfl
  · cases h

end Exchange

/-- What was said before the connection was protected. -/
def inTheClear (said : List Exchange) : List Exchange :=
  said.takeWhile (!·.protects)

/-- The lines with which the relay took the content of a mail, if it did. -/
def acceptance? (said : List Exchange) : Option (List String) :=
  said.findSome? Exchange.accepted?

/-- A connection was made in the clear and then upgraded. -/
structure Upgraded (said : List Exchange) : Prop where
  offered : ∃ x ∈ inTheClear said, x.offersUpgrade
  granted : ∃ x ∈ inTheClear said, x.grantsUpgrade
  completed : ∃ x ∈ said, x.protects

/-! ## What is documented of a client -/

/-- What is documented of a session. -/
structure Conducted (transport : Transport) (said : List Exchange) (verdict : Verdict) :
    Prop where
  /-- Its parts follow one another. -/
  ordered : said.Pairwise fun x y => x.prompt.phase.rank ≤ y.prompt.phase.rank
  /-- The client logs in only with credentials that it has been given. -/
  authorised : (∃ x ∈ said, x.prompt.phase = .login) → transport.credentials.isSome
  /-- A connection that is to be upgraded is not used for anything unless it has been. -/
  upgraded : transport.protection = .upgraded →
    (∃ x ∈ said, x.prompt.phase = .login ∨ x.prompt.phase = .transaction) → Upgraded said
  /-- The verdict is the relay's reply to the content of the mail, or an error. -/
  answered : verdict.toOption = acceptance? said

/-- A client conducts its sessions as it is documented. -/
def Client.IsDocumented (client : Client) : Prop :=
  ∀ transport message said verdict, (client.session transport message).Plays said verdict →
    Conducted transport said verdict

namespace Conducted

variable {transport : Transport} {said : List Exchange} {verdict : Verdict}

/-- Behind a handshake comes nothing that belongs to an earlier part. -/
theorem rank_of_inTheClear (h : Conducted transport said verdict) {x y : Exchange}
    (hx : x ∈ inTheClear said) (hy : y ∈ said) (hprotects : y.protects) :
    x.prompt.phase.rank ≤ y.prompt.phase.rank := by
  have hsplit : inTheClear said ++ said.dropWhile (!·.protects) = said :=
    List.takeWhile_append_dropWhile
  have hordered := h.ordered
  rw [← hsplit] at hordered hy
  rcases List.mem_append.1 hy with hy | hy
  · have hclear := List.all_eq_true.1 List.all_takeWhile y hy
    simp [hprotects] at hclear
  · exact (List.pairwise_append.1 hordered).2.2 x hx y hy

theorem isHarmless_of_inTheClear (h : Conducted transport said verdict)
    (hprotection : transport.protection = .upgraded) {x : Exchange} (hx : x ∈ inTheClear said) :
    x.prompt.isHarmless := by
  have hmem : x ∈ said := List.takeWhile_subset _ hx
  rw [Prompt.isHarmless_iff]
  cases hphase : x.prompt.phase with
  | opening => exact .inl rfl
  | closing => exact .inr rfl
  | login | transaction =>
    -- The connection has been upgraded by then, in the opening, so this is not said in the clear.
    obtain ⟨y, hy, hprotects⟩ := (h.upgraded hprotection ⟨x, hmem, by simp [hphase]⟩).completed
    have hrank := h.rank_of_inTheClear hx hy hprotects
    simp only [Exchange.protects, Bool.and_eq_true, beq_iff_eq] at hprotects
    rw [hphase, hprotects.1] at hrank
    exact absurd hrank (by decide)

theorem upgraded_of_ok {lines : List String} (h : Conducted transport said (.ok lines))
    (hprotection : transport.protection = .upgraded) : Upgraded said := by
  have haccepted : acceptance? said = some lines := h.answered.symm
  obtain ⟨x, hx, hlines⟩ := List.exists_of_findSome?_eq_some haccepted
  refine h.upgraded hprotection ⟨x, hx, .inr ?_⟩
  exact Exchange.phase_of_accepted? (by rw [hlines]; rfl)

end Conducted

end MailCode.Smtp
