import MailCode.Cache.Basic
import MailCode.Redis.Client
import MailCode.Redis.Endpoint
/-!
# Reaching a server
-/

namespace MailCode.Url

/-!
## Masked URLs

Logs show a URL with everything from the end of its first `://` to the first `@` covered up. A
text without both is shown as it is.
-/

/-- A text up to the end of its first `://`, if it has one. -/
def throughScheme? : List Char → Option (List Char)
  | [] => none
  | ':' :: '/' :: '/' :: _ => some [':', '/', '/']
  | c :: cs => (throughScheme? cs).map (c :: ·)

/-- The masked form of a URL. -/
def maskChars (cs : List Char) : List Char :=
  match Address.split? cs, throughScheme? cs with
  | some (_, host), some scheme => scheme ++ ['*', '*', '*', '*', '@'] ++ host
  | _, _ => cs

/-- The masked form of a URL. -/
def mask (url : String) : String :=
  String.ofList (maskChars url.toList)

end MailCode.Url

namespace MailCode.Redis.Connection

/-!
## Connecting to a server

At start-up a connection is tried a limited number of times. Between two attempts the client
waits: first for the configured delay, then each time twice as long as before, but no longer than
five seconds.
-/

/-- How an attempt, counted from one, ends. -/
abbrev Attempts := Nat → Except Failure Unit

/-- What became of connecting. -/
structure Report where
  result : Except BackendError Unit
  /-- The attempts that were made, by number. -/
  attempts : List UInt32
  /-- The waits between the attempts as they were asked for, in milliseconds. -/
  waits : List UInt64
  events : List Event

/-- The longest time that a timer sleeps at once: thirty years of 365 days, in milliseconds. -/
def longestSleep : UInt64 := 946080000000

/-- How long the client slept, in milliseconds. That is not the sum of what was asked for if a wait
is beyond the longest sleep, and the first wait may be, since it is as long as the settings say. -/
def Report.slept (r : Report) : Nat :=
  r.waits.foldl (fun total wait => total + (min wait longestSleep).toNat) 0

/-- The longest wait after the first, in milliseconds. -/
def longestWait : UInt64 := 5000

/-- The wait after a wait; doubling is arithmetic of 64 bits. -/
def nextDelay (delay : UInt64) : UInt64 :=
  min (delay * 2) longestWait

/-- An attempt begins. -/
def attempting (attempt : UInt32) : Event :=
  said .debug
    ("Attempting to connect to Redis (attempt " ++ Text.Decimal.text attempt.toNat ++ ")")

/-- An attempt failed and another will follow. -/
def retrying (attempt limit : UInt32) (e : Failure) (delay : UInt64) : Event :=
  said .warn ("Failed to connect to Redis (attempt " ++ Text.Decimal.text attempt.toNat ++ "/" ++
    Text.Decimal.text limit.toNat ++ "): " ++ e.text ++ ". Retrying in " ++
    Text.Decimal.text delay.toNat ++ "ms...")

/-- The last attempt failed. -/
def gaveUp (attempt : UInt32) (e : Failure) : Event :=
  said .error ("Failed to connect to Redis after " ++ Text.Decimal.text attempt.toNat ++
    " attempts: " ++ e.text)

/-- A number below a limit of 32 bits has a successor. -/
theorem toNat_succ {attempt limit : UInt32} (h : attempt < limit) :
    (attempt + 1).toNat = attempt.toNat + 1 := by
  have hlt : attempt.toNat < limit.toNat := UInt32.lt_iff_toNat_lt.1 h
  have hlimit : limit.toNat < 2 ^ 32 := limit.toNat_lt
  rw [UInt32.toNat_add, UInt32.toNat_one]
  exact Nat.mod_eq_of_lt (by omega)

/-- Tries on after `made` attempts that failed; attempts are counted in 32 bits. -/
def tryAfter (attempts : Attempts) (limit made : UInt32) (delay : UInt64) : Report :=
  let attempt := made + 1
  match attempts attempt.toNat with
  | .ok () =>
    ⟨.ok (), [attempt], [], [attempting attempt, said .info "Successfully connected to Redis"]⟩
  | .error e =>
    if attempt < limit then
      let rest := tryAfter attempts limit attempt (nextDelay delay)
      ⟨rest.result, attempt :: rest.attempts, delay :: rest.waits,
        attempting attempt :: retrying attempt limit e delay :: rest.events⟩
    else ⟨.error (.cache e), [attempt], [], [attempting attempt, gaveUp attempt e]⟩
termination_by limit.toNat - (made + 1).toNat
decreasing_by
  rename_i hlt
  rw [toNat_succ hlt]
  exact Nat.sub_lt_sub_left (UInt32.lt_iff_toNat_lt.1 hlt) (Nat.lt_succ_self _)

/-- Tries `retries` times, but once at least. -/
def establish (attempts : Attempts) (retries : UInt32) (delay : UInt64) : Report :=
  tryAfter attempts (max retries 1) 0 delay

/-- Connects to the server that a URL names. -/
def connect (url : String) (retries : UInt32) (delay : UInt64) (attempts : Endpoint → Attempts) :
    Report :=
  let creating := said .info ("Creating Redis client with URL: " ++ Url.mask url)
  match Endpoint.parse url with
  | .error e =>
    let failure := Failure.invalidConfig e.text
    ⟨.error (.config ("Invalid Redis URL: " ++ failure.text)), [], [],
      [creating, said .error ("Failed to parse Redis URL: " ++ failure.text)]⟩
  | .ok endpoint =>
    let report := establish (attempts endpoint) retries delay
    ⟨report.result, report.attempts, report.waits,
      creating :: report.events ++
        (match report.result with
          | .ok () => [said .info "Redis client created successfully"]
          | .error _ => [])⟩

end MailCode.Redis.Connection
