/-!
# The client that talks to a relay

Mails leave through a client. Which addresses it can read, how it puts a mail together and what it
says to a relay is its own affair: a `Client` is open, and what is relied on is asked of it where it
is needed.

A session is the tree of what the client does for all that the relay may do. It confronts the relay
with a `Prompt`, waits for the `Reaction` and goes on as that has it, until it ends with a result.
It always does, since no client waits forever. The relay may do anything at any point.
-/

namespace MailCode.Smtp

/-! ## Sessions -/

/-- A command line: the verb, in capitals, and what stands behind it. -/
structure Command where
  verb : String
  argument : String := ""
  deriving DecidableEq, Repr

/-- What a relay is confronted with. -/
inductive Prompt where
  /-- It is connected to. -/
  | connection
  /-- It is waited for, to speak first. -/
  | greeting
  /-- The connection is to be protected from here on. -/
  | handshake
  | command (c : Command)
  /-- A line that answers a challenge while the client logs in. -/
  | answer (text : String)
  /-- The content of a mail. -/
  | content (text : String)
  deriving DecidableEq, Repr

/-- What a relay does. -/
inductive Reaction where
  /-- It goes along with a connection or a handshake. -/
  | agreed
  | reply (code : Nat) (lines : List String)
  | malformed (reason : String)
  | closed (reason : String)
  deriving DecidableEq, Repr

/-- A relay with the state `ρ`. -/
abbrev Relay (ρ : Type) := Prompt → ρ → Reaction × ρ

/-- What a relay did when it was confronted with something. -/
structure Exchange where
  prompt : Prompt
  reaction : Reaction
  deriving DecidableEq, Repr

/-- A session that ends with a result of the type `α`. -/
inductive Session (α : Type) where
  | ended (result : α)
  | facing (prompt : Prompt) (next : Reaction → Session α)

/-- What a session with a relay came to, and what was said on the way. -/
structure Session.Run (ρ α : Type) where
  result : α
  said : List Exchange
  relay : ρ

/-- Holds a session with a relay. -/
def Session.run {ρ α : Type} (relay : Relay ρ) : Session α → ρ → Session.Run ρ α
  | .ended result, state => ⟨result, [], state⟩
  | .facing prompt next, state =>
    let (reaction, state) := relay prompt state
    let rest := run relay (next reaction) state
    { rest with said := ⟨prompt, reaction⟩ :: rest.said }

/-! ## Clients -/

/-- How the connection to a relay is protected. -/
inductive Protection where
  /-- From the first byte. -/
  | wrapped
  /-- By the command `STARTTLS`, or not used at all. -/
  | upgraded
  | absent
  deriving DecidableEq, Repr

/-- How a relay is reached; the timeout is in seconds. -/
structure Transport where
  host : String
  protection : Protection
  port : UInt16
  timeout : UInt64
  /-- The user name and the password to log in with. -/
  credentials : Option (String × String)
  deriving DecidableEq, Repr

/-- Why a session failed, and whether trying again is pointless. -/
structure Failure where
  text : String
  isPermanent : Bool
  deriving DecidableEq, Repr

/-- What became of a mail: the lines of the relay's last word on it, or why it was not taken. -/
abbrev Verdict := Except Failure (List String)

/-- A mail client. Whatever it refuses it gives a reason for. -/
structure Client where
  Address : Type
  Message : Type
  /-- Reads an address, with or without a name. -/
  parse : String → Except String Address
  /-- Makes ready for protected connections to a host. -/
  prepare : Protection → (host : String) → Except String Unit
  /-- Puts a mail together. -/
  compose (sender recipient : Address) (subject body : String) : Except String Message
  /-- Sends a mail. -/
  session : Transport → Message → Session Verdict

end MailCode.Smtp
