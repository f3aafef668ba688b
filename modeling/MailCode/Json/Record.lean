import MailCode.Json.Tree
import MailCode.Text.Numerals
/-!
# Reading typed values out of a received text

The parts of a `Tree` that a value of the service is made of: texts, numbers below a bound,
booleans, one of a few names, and records.

A record comes as an object or as an array. In an object every name must be readable, names that
are not fields are ignored whatever they hold, and a field given twice is refused. In an array
the fields stand in their declared order and the last ones may be missing; more elements than
fields are refused. A missing field is an error unless it has a default.
-/

namespace MailCode.Json

namespace Tree

/-- A string's text. -/
def text? : Tree → Option String
  | .string raw => Raw.text? raw
  | _ => none

/-- A boolean. -/
def bool? : Tree → Option Bool
  | .bool b => some b
  | _ => none

/-- A natural number below `bound`, written in digits alone. -/
def nat? (bound : Nat) : Tree → Option Nat
  | .number raw => (Text.Decimal.digits bound 0 (raw.map Char.ofUInt8)).toOption
  | _ => none

/-- A received number of 16 bits. -/
def word16? (t : Tree) : Option UInt16 :=
  (t.nat? UInt16.size).map Nat.toUInt16

/-- A received number of 32 bits. -/
def word32? (t : Tree) : Option UInt32 :=
  (t.nat? UInt32.size).map Nat.toUInt32

/-- A received number of 64 bits. -/
def word64? (t : Tree) : Option UInt64 :=
  (t.nat? UInt64.size).map Nat.toUInt64

/-- A value that may be `null`. -/
def nullable? {α : Type} (read : Tree → Option α) : Tree → Option (Option α)
  | .null => some none
  | t => (read t).map some

/-- A name out of a list, as a string or as the only member of an object that holds `null`. -/
def name? : Tree → Option String
  | .string raw => Raw.text? raw
  | .object [(key, .null)] => Raw.text? key
  | _ => none

/-- One of the values that `names` lists by name. -/
def variant? {α : Type} (names : List (String × α)) (t : Tree) : Option α :=
  t.name?.bind fun name => names.lookup name

end Tree

/-- The fields that a record gives, each at most once. -/
abbrev Record := List (String × Tree)

namespace Record

/-- The members of an object with their names read. -/
def named? (members : List (Raw × Tree)) : Option Record :=
  members.mapM fun (key, value) => (Raw.text? key).map (·, value)

/-- The fields that a received value gives for a record with the fields `names`. -/
def ofTree? (names : List String) : Tree → Option Record
  | .object members => do
    let given := (← named? members).filter fun (name, _) => names.contains name
    if (given.map (·.1)).Nodup then some given else none
  | .array elements =>
    if elements.length ≤ names.length then some (names.zip elements) else none
  | _ => none

/-- A field that must be given. -/
def required {α : Type} (r : Record) (name : String) (read : Tree → Option α) : Option α :=
  (r.lookup name).bind read

/-- A field that stands for `default` where it is not given. -/
def withDefault {α : Type} (r : Record) (name : String) (default : α) (read : Tree → Option α) :
    Option α :=
  match r.lookup name with
  | none => some default
  | some t => read t

end Record

end MailCode.Json
