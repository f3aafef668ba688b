import MailCode.Text.Numerals
/-!
# JSON documents as they are written

`Json` is what the service writes: its answers, its settings and its log lines. `Json.render`
gives the compact text, members in the order they are listed. Inside a string only the quote,
the backslash and the controls below U+0020 are escaped; every other character stands for itself.
-/

namespace MailCode

/-- A document to write; the only numbers that occur are natural. -/
inductive Json where
  | null
  | bool (b : Bool)
  | number (n : Nat)
  | text (s : String)
  | array (elements : List Json)
  | object (members : List (String × Json))

namespace Json

/-- One lower-case hexadecimal digit. -/
def hexDigit (n : Nat) : Char :=
  (Nat.toDigits 16 (n % 16)).headD '0'

/-- How one character stands inside a string. -/
def escapeChar (c : Char) : List Char :=
  if c = '"' then ['\\', '"']
  else if c = '\\' then ['\\', '\\']
  else if c = '\x08' then ['\\', 'b']
  else if c = '\t' then ['\\', 't']
  else if c = '\n' then ['\\', 'n']
  else if c = '\x0c' then ['\\', 'f']
  else if c = '\r' then ['\\', 'r']
  else if c.toNat < 0x20 then ['\\', 'u', '0', '0', hexDigit (c.toNat / 16), hexDigit c.toNat]
  else [c]

/-- A string with its quotes. -/
def renderText (s : String) : List Char :=
  '"' :: s.toList.flatMap escapeChar ++ ['"']

mutual

/-- The compact text of a document. -/
def render : Json → List Char
  | .null => ['n', 'u', 'l', 'l']
  | .bool true => ['t', 'r', 'u', 'e']
  | .bool false => ['f', 'a', 'l', 's', 'e']
  | .number n => Text.Decimal.render n
  | .text s => renderText s
  | .array [] => ['[', ']']
  | .array (x :: xs) => '[' :: render x ++ renderElements xs ++ [']']
  | .object [] => ['\x7b', '\x7d']
  | .object ((k, x) :: xs) => '\x7b' :: renderText k ++ ':' :: render x ++ renderMembers xs ++ ['\x7d']

/-- The elements after the first, each with the comma before it. -/
def renderElements : List Json → List Char
  | [] => []
  | x :: xs => ',' :: render x ++ renderElements xs

/-- The members after the first, each with the comma before it. -/
def renderMembers : List (String × Json) → List Char
  | [] => []
  | (k, x) :: xs => ',' :: renderText k ++ ':' :: render x ++ renderMembers xs

end

/-- The compact text of a document as a string. -/
def compress (j : Json) : String :=
  String.ofList j.render

/-- A text, or `null` where there is none. -/
def ofText? : Option String → Json
  | none => .null
  | some s => .text s

end Json

end MailCode
