import MailCode.Json.Tree
import MailCode.Text.Numerals
import MailCode.Text.Quoted
/-!
# Environment variables

The settings are read from the variables of the process. A variable that is not valid UTF-8
counts as unset. A variable that is set must be readable as what it is for: an `InvalidSetting`
names the variable, its value and why it was refused.
-/

namespace MailCode

/-- The variables of a process, each with the bytes of its value. -/
abbrev Variables := List (String × List UInt8)

/-- A variable whose value cannot be read. -/
structure InvalidSetting where
  name : String
  value : String
  reason : String
  deriving DecidableEq, Repr

/-- The wording of a refused variable. -/
def InvalidSetting.text (e : InvalidSetting) : String :=
  e.name ++ "=" ++ Text.quote e.value ++ " is invalid: " ++ e.reason

namespace Variables

/-- The text of a variable, if it is set to one. -/
def text? (vars : Variables) (name : String) : Option String :=
  (vars.lookup name).bind Json.utf8Text?

/-- The text of a variable, or `default` where it is unset. -/
def textOr (vars : Variables) (name default : String) : String :=
  (vars.text? name).getD default

/-- The value of a variable, read with `parse`. -/
def value? {α : Type} (vars : Variables) (name : String) (parse : String → Except String α) :
    Except InvalidSetting (Option α) :=
  match vars.text? name with
  | none => .ok none
  | some text =>
    match parse text with
    | .ok a => .ok (some a)
    | .error reason => .error ⟨name, text, reason⟩

/-- The value of a variable, or `default` where it is unset. -/
def valueOr {α : Type} (vars : Variables) (name : String) (default : α)
    (parse : String → Except String α) : Except InvalidSetting α :=
  (vars.value? name parse).map (·.getD default)

/-- Reads a number below `bound`. -/
def natural (bound : Nat) (text : String) : Except String Nat :=
  (Text.Decimal.parse bound text.toList).mapError Text.Decimal.Error.message

/-- Reads a number of 16 bits. -/
def word16 (text : String) : Except String UInt16 :=
  (natural UInt16.size text).map Nat.toUInt16

/-- Reads a number of 32 bits. -/
def word32 (text : String) : Except String UInt32 :=
  (natural UInt32.size text).map Nat.toUInt32

/-- Reads a number of 64 bits. -/
def word64 (text : String) : Except String UInt64 :=
  (natural UInt64.size text).map Nat.toUInt64

end Variables

end MailCode
