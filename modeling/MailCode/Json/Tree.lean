import MailCode.Text.Numerals
/-!
# Reading JSON
-/

namespace MailCode.Json

/-!
## JSON text as it is received

A body is read byte by byte by an automaton that keeps the open arrays and objects on a list of
its own, so a value may nest without limit. What it builds is a `Tree`: the shape of the text,
with names, strings and numbers left as the bytes they were written in. Whether those bytes mean
anything (paired surrogates, valid UTF-8, a number that fits) is asked only of the parts that
somebody uses; see `Raw.text?` and `Json.Record`.

`Tree.parse?` accepts exactly one value, with spaces, tabs, carriage returns and line feeds
around its tokens and nothing else after it.
-/

/-- The bytes between the quotes of a string, escapes as they were written. -/
abbrev Raw := List UInt8

/-- The shape of a JSON text. -/
inductive Tree where
  | null
  | bool (b : Bool)
  | number (raw : Raw)
  | string (raw : Raw)
  | array (elements : List Tree)
  | object (members : List (Raw × Tree))
  deriving Inhabited

namespace Tree

/-- What is still open around the value being read, with what it already holds, last first. -/
inductive Frame where
  | array (done : List Tree)
  | object (done : List (Raw × Tree)) (key : Raw)

/-- Where a number stands between two of its bytes. -/
inductive NumberPart where
  | minus
  | zero
  | integer
  | point
  | fraction
  | exponent
  | exponentSign
  | exponentDigits
  deriving DecidableEq

/-- Where a string stands between two of its bytes. -/
inductive StringPart where
  | plain
  | escape
  | hex (left : Nat)
  deriving DecidableEq

/-- What a string is read for. -/
inductive StringUse where
  | value
  | key (done : List (Raw × Tree))

/-- What may come next. Bytes read of the current token are kept last first. -/
inductive Mode where
  | value
  | firstElement
  | afterElement (done : List Tree)
  | firstMember
  | nextMember (done : List (Raw × Tree))
  | colon (done : List (Raw × Tree)) (key : Raw)
  | afterMember (done : List (Raw × Tree))
  | literal (left : List Char) (value : Tree)
  | string (use : StringUse) (read : Raw) (part : StringPart)
  | number (read : Raw) (part : NumberPart)
  | finished (value : Tree)

/-- The automaton's state: what is open, outermost last, and what may come next. -/
structure State where
  stack : List Frame
  mode : Mode

/-- The white space of JSON. -/
def isSpace (b : UInt8) : Bool :=
  b == 0x20 || b == 0x09 || b == 0x0a || b == 0x0d

/-- A decimal digit. -/
def isDigit (b : UInt8) : Bool :=
  0x30 ≤ b && b ≤ 0x39

/-- A value is complete: it goes into what is open around it. -/
def settle : List Frame → Tree → State
  | [], v => ⟨[], .finished v⟩
  | .array done :: stack, v => ⟨stack, .afterElement (v :: done)⟩
  | .object done key :: stack, v => ⟨stack, .afterMember ((key, v) :: done)⟩

/-- The first byte of a value. -/
def beginValue (stack : List Frame) (b : UInt8) : Option State :=
  match Char.ofUInt8 b with
  | '"' => some ⟨stack, .string .value [] .plain⟩
  | '[' => some ⟨stack, .firstElement⟩
  | '{' => some ⟨stack, .firstMember⟩
  | 'n' => some ⟨stack, .literal ['u', 'l', 'l'] .null⟩
  | 't' => some ⟨stack, .literal ['r', 'u', 'e'] (.bool true)⟩
  | 'f' => some ⟨stack, .literal ['a', 'l', 's', 'e'] (.bool false)⟩
  | '-' => some ⟨stack, .number [b] .minus⟩
  | '0' => some ⟨stack, .number [b] .zero⟩
  | _ => if isDigit b then some ⟨stack, .number [b] .integer⟩ else none

/-- The part of a number that one more byte leads to, if the number goes on with it. -/
def NumberPart.next? (part : NumberPart) (b : UInt8) : Option NumberPart :=
  let point := b == 0x2e
  let exponentMark := b == 0x65 || b == 0x45
  match part with
  | .minus => if b == 0x30 then some .zero else if isDigit b then some .integer else none
  | .zero =>
    if point then some .point else if exponentMark then some .exponent else none
  | .integer =>
    if isDigit b then some .integer
    else if point then some .point else if exponentMark then some .exponent else none
  | .point => if isDigit b then some .fraction else none
  | .fraction =>
    if isDigit b then some .fraction else if exponentMark then some .exponent else none
  | .exponent =>
    if isDigit b then some .exponentDigits
    else if b == 0x2b || b == 0x2d then some .exponentSign else none
  | .exponentSign | .exponentDigits => if isDigit b then some .exponentDigits else none

/-- Whether a number may end here. -/
def NumberPart.isComplete : NumberPart → Bool
  | .zero | .integer | .fraction | .exponentDigits => true
  | .minus | .point | .exponent | .exponentSign => false

/-- The closing quote of a string has been read. -/
def endString (stack : List Frame) (raw : Raw) : StringUse → State
  | .value => settle stack (.string raw)
  | .key done => ⟨stack, .colon done raw⟩

/-- One byte inside a string: a control below U+0020 is refused, an escape must be a known one. -/
def stepString (stack : List Frame) (use : StringUse) (read : Raw) (part : StringPart)
    (b : UInt8) : Option State :=
  match part with
  | .plain =>
    if b == 0x22 then some (endString stack read.reverse use)
    else if b == 0x5c then some ⟨stack, .string use (b :: read) .escape⟩
    else if b < 0x20 then none
    else some ⟨stack, .string use (b :: read) .plain⟩
  | .escape =>
    match Char.ofUInt8 b with
    | '"' | '\\' | '/' | 'b' | 'f' | 'n' | 'r' | 't' => some ⟨stack, .string use (b :: read) .plain⟩
    | 'u' => some ⟨stack, .string use (b :: read) (.hex 3)⟩
    | _ => none
  | .hex left =>
    if (Text.Hex.value? b).isSome then
      match left with
      | 0 => some ⟨stack, .string use (b :: read) .plain⟩
      | n + 1 => some ⟨stack, .string use (b :: read) (.hex n)⟩
    else none

/-- One byte between the values of an array or object, white space left aside. -/
def stepBetween (stack : List Frame) (mode : Mode) (b : UInt8) : Option State :=
  match mode, Char.ofUInt8 b with
  | .value, _ => beginValue stack b
  | .firstElement, ']' => some (settle stack (.array []))
  | .firstElement, _ => beginValue (.array [] :: stack) b
  | .afterElement done, ',' => some ⟨.array done :: stack, .value⟩
  | .afterElement done, ']' => some (settle stack (.array done.reverse))
  | .firstMember, '"' => some ⟨stack, .string (.key []) [] .plain⟩
  | .firstMember, '}' => some (settle stack (.object []))
  | .nextMember done, '"' => some ⟨stack, .string (.key done) [] .plain⟩
  | .colon done key, ':' => some ⟨.object done key :: stack, .value⟩
  | .afterMember done, ',' => some ⟨stack, .nextMember done⟩
  | .afterMember done, '}' => some (settle stack (.object done.reverse))
  | _, _ => none

/-- One byte where white space may stand. -/
def stepToken (stack : List Frame) (mode : Mode) (b : UInt8) : Option State :=
  if isSpace b then some ⟨stack, mode⟩ else stepBetween stack mode b

/-- One byte of the text; `none` once the text cannot be JSON any more. -/
def step (s : State) (b : UInt8) : Option State :=
  match s.mode with
  | .literal [] _ => none
  | .literal (c :: left) v =>
    if Char.ofUInt8 b = c then
      some (if left.isEmpty then settle s.stack v else ⟨s.stack, .literal left v⟩)
    else none
  | .string use read part => stepString s.stack use read part b
  | .number read part =>
    match part.next? b with
    | some part => some ⟨s.stack, .number (b :: read) part⟩
    | none =>
      if part.isComplete then
        let after := settle s.stack (.number read.reverse)
        stepToken after.stack after.mode b
      else none
  | mode => stepToken s.stack mode b

/-- Reads bytes from a state. -/
def run : State → List UInt8 → Option State
  | s, [] => some s
  | s, b :: bs =>
    match step s b with
    | some s => run s bs
    | none => none

/-- The value of a text that ends here. -/
def finish? (s : State) : Option Tree :=
  match s.stack, s.mode with
  | [], .finished v => some v
  | [], .number read part => if part.isComplete then some (.number read.reverse) else none
  | _, _ => none

/-- Before the first byte. -/
def start : State := ⟨[], .value⟩

/-- The shape of a text that is one JSON value and nothing else. -/
def parse? (bytes : List UInt8) : Option Tree :=
  (run start bytes).bind finish?

end Tree

/-!
## What a received string says

The bytes between the quotes are turned into characters: escapes are resolved, a pair of
surrogate escapes becomes the one character it stands for, and the whole must be valid UTF-8.
A lone surrogate says nothing.
-/

/-- The UTF-8 bytes of a code point that is no surrogate. -/
def utf8Of (code : Nat) : List UInt8 :=
  String.utf8EncodeChar (Char.ofNat code)

/-- The bytes an escape letter other than `u` stands for. -/
def simpleEscape? (b : UInt8) : Option UInt8 :=
  match Char.ofUInt8 b with
  | '"' => some 0x22
  | '\\' => some 0x5c
  | '/' => some 0x2f
  | 'b' => some 0x08
  | 'f' => some 0x0c
  | 'n' => some 0x0a
  | 'r' => some 0x0d
  | 't' => some 0x09
  | _ => none

/-- The code unit that four hexadecimal digits spell. -/
def codeUnit? (a b c d : UInt8) : Option Nat := do
  let a ← Text.Hex.value? a
  let b ← Text.Hex.value? b
  let c ← Text.Hex.value? c
  let d ← Text.Hex.value? d
  return ((a * 16 + b) * 16 + c) * 16 + d

/-- The code point of a pair of surrogates. -/
def pairedCode (high low : Nat) : Nat :=
  0x10000 + (high - 0xd800) * 0x400 + (low - 0xdc00)

/-- Resolves escapes; `read` holds the bytes so far, last first. -/
def unescapeFrom (read : List UInt8) : Raw → Option (List UInt8)
  | [] => some read.reverse
  | 0x5c :: 0x75 :: a :: b :: c :: d :: rest =>
    match codeUnit? a b c d with
    | none => none
    | some unit =>
      if 0xd800 ≤ unit ∧ unit < 0xdc00 then
        match rest with
        | 0x5c :: 0x75 :: a' :: b' :: c' :: d' :: rest =>
          match codeUnit? a' b' c' d' with
          | none => none
          | some unit' =>
            if 0xdc00 ≤ unit' ∧ unit' < 0xe000 then
              unescapeFrom ((utf8Of (pairedCode unit unit')).reverse ++ read) rest
            else none
        | _ => none
      else if 0xdc00 ≤ unit ∧ unit < 0xe000 then none
      else unescapeFrom ((utf8Of unit).reverse ++ read) rest
  | 0x5c :: e :: rest =>
    match simpleEscape? e with
    | some b => unescapeFrom (b :: read) rest
    | none => none
  | [0x5c] => none
  | b :: rest => unescapeFrom (b :: read) rest

/-- The bytes of a received string with its escapes resolved. -/
def unescape? (raw : Raw) : Option (List UInt8) :=
  unescapeFrom [] raw

/-- The text that valid UTF-8 stands for. -/
def utf8Text? (bytes : List UInt8) : Option String :=
  String.fromUTF8? bytes.toByteArray

/-- The text of a received string. -/
def Raw.text? (raw : Raw) : Option String :=
  (unescape? raw).bind utf8Text?

end MailCode.Json
