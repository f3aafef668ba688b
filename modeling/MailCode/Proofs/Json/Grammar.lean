import MailCode.Json.Tree
/-!
# The grammar of JSON

What a JSON text is, said without the automaton that reads it: a `Document` is a value with white
space around it, and a value `Spells` its shape. The grammar leaves open what names and strings say,
as a text may well hold strings that say nothing. What a string does say is a matter of its own:
`Denotes` ties the bytes between two quotes to the characters that they stand for, whichever way
each of them is written.
-/

namespace MailCode.Json

/-! ## White space and numbers -/

/-- White space, or nothing. -/
def Blank (bs : Raw) : Prop :=
  ∀ b ∈ bs, b = 0x20 ∨ b = 0x09 ∨ b = 0x0a ∨ b = 0x0d

/-- Digits, or nothing. -/
def Digits (bs : Raw) : Prop :=
  ∀ b ∈ bs, 0x30 ≤ b ∧ b ≤ 0x39

/-- The whole part of a number: zero, or digits that do not begin with zero. -/
inductive Whole : Raw → Prop
  | zero : Whole [0x30]
  | digits {d : UInt8} {ds : Raw} : 0x31 ≤ d → d ≤ 0x39 → Digits ds → Whole (d :: ds)

/-- What may follow the whole part: a point and at least one digit. -/
inductive Fraction : Raw → Prop
  | absent : Fraction []
  | present {ds : Raw} : ds ≠ [] → Digits ds → Fraction (0x2e :: ds)

/-- What may come last in a number: an exponent, which may have a sign. -/
inductive Exponent : Raw → Prop
  | absent : Exponent []
  | present {mark : UInt8} {sign ds : Raw} : mark = 0x65 ∨ mark = 0x45 →
      sign = [] ∨ sign = [0x2b] ∨ sign = [0x2d] → ds ≠ [] → Digits ds →
      Exponent (mark :: (sign ++ ds))

/-- A number. -/
inductive Number : Raw → Prop
  | mk {sign whole fraction exponent : Raw} : sign = [] ∨ sign = [0x2d] → Whole whole →
      Fraction fraction → Exponent exponent → Number (sign ++ whole ++ fraction ++ exponent)

/-! ## Strings -/

/-- A byte that stands for itself in a string: no quote, no backslash and no control. -/
def IsPlain (b : UInt8) : Prop :=
  b ≠ 0x22 ∧ b ≠ 0x5c ∧ ¬ b < 0x20

/-- The letters that mean a character behind a backslash. -/
def letters : List (UInt8 × Char) :=
  [(0x22, '"'), (0x5c, '\\'), (0x2f, '/'), (0x62, '\x08'), (0x66, '\x0c'), (0x6e, '\n'),
    (0x72, '\r'), (0x74, '\t')]

/-- What may stand between the quotes of a string, whether it says anything or not. -/
inductive Inside : Raw → Prop
  | nil : Inside []
  | plain {b : UInt8} {bs : Raw} : IsPlain b → Inside bs → Inside (b :: bs)
  | letter {e : UInt8} {c : Char} {bs : Raw} : (e, c) ∈ letters → Inside bs →
      Inside (0x5c :: e :: bs)
  | unit {a b c d : UInt8} {unit : Nat} {bs : Raw} : codeUnit? a b c d = some unit → Inside bs →
      Inside (0x5c :: 0x75 :: a :: b :: c :: d :: bs)

/-- The ways in which a character may stand in a string. -/
inductive CharForm (c : Char) : Raw → Prop
  /-- As itself, in UTF-8. -/
  | plain : c ≠ '"' → c ≠ '\\' → 0x20 ≤ c.toNat → CharForm c (String.utf8EncodeChar c)
  /-- As a letter behind a backslash. -/
  | letter {e : UInt8} : (e, c) ∈ letters → CharForm c [0x5c, e]
  /-- As its code in hexadecimal digits. -/
  | unit {a b d e : UInt8} : codeUnit? a b d e = some c.toNat → CharForm c [0x5c, 0x75, a, b, d, e]
  /-- As a pair of surrogates. -/
  | pair {a b d e a' b' d' e' : UInt8} {high low : Nat} : codeUnit? a b d e = some high →
      codeUnit? a' b' d' e' = some low → 0xd800 ≤ high → high < 0xdc00 → 0xdc00 ≤ low →
      low < 0xe000 → c.toNat = 0x10000 + (high - 0xd800) * 0x400 + (low - 0xdc00) →
      CharForm c [0x5c, 0x75, a, b, d, e, 0x5c, 0x75, a', b', d', e']

/-- What the bytes between the quotes of a string say. -/
inductive Denotes : Raw → List Char → Prop
  | nil : Denotes [] []
  | cons {c : Char} {cs : List Char} {form raw : Raw} : CharForm c form → Denotes raw cs →
      Denotes (form ++ raw) (c :: cs)

/-! ## Values -/

mutual

/-- How a value may be spelled, without white space around it. -/
inductive Spells : Tree → Raw → Prop
  | null : Spells .null [0x6e, 0x75, 0x6c, 0x6c]
  | true : Spells (.bool true) [0x74, 0x72, 0x75, 0x65]
  | false : Spells (.bool false) [0x66, 0x61, 0x6c, 0x73, 0x65]
  | number {raw : Raw} : Number raw → Spells (.number raw) raw
  | string {raw : Raw} : Inside raw → Spells (.string raw) (0x22 :: (raw ++ [0x22]))
  | emptyArray {gap : Raw} : Blank gap → Spells (.array []) (0x5b :: (gap ++ [0x5d]))
  | array {gap first rest : Raw} {t : Tree} {ts : List Tree} : Blank gap → Spells t first →
      SpellsElements ts rest → Spells (.array (t :: ts)) (0x5b :: (gap ++ first ++ rest))
  | emptyObject {gap : Raw} : Blank gap → Spells (.object []) (0x7b :: (gap ++ [0x7d]))
  | object {gap first rest : Raw} {m : Raw × Tree} {ms : List (Raw × Tree)} : Blank gap →
      SpellsMember m first → SpellsMembers ms rest →
      Spells (.object (m :: ms)) (0x7b :: (gap ++ first ++ rest))

/-- The elements of an array after the first, up to the closing bracket. -/
inductive SpellsElements : List Tree → Raw → Prop
  | close {gap : Raw} : Blank gap → SpellsElements [] (gap ++ [0x5d])
  | more {gap gap' next rest : Raw} {t : Tree} {ts : List Tree} : Blank gap → Blank gap' →
      Spells t next → SpellsElements ts rest →
      SpellsElements (t :: ts) (gap ++ 0x2c :: (gap' ++ next ++ rest))

/-- A member of an object. -/
inductive SpellsMember : Raw × Tree → Raw → Prop
  | mk {key gap gap' value : Raw} {t : Tree} : Inside key → Blank gap → Blank gap' →
      Spells t value →
      SpellsMember (key, t) (0x22 :: (key ++ 0x22 :: (gap ++ 0x3a :: (gap' ++ value))))

/-- The members of an object after the first, up to the closing brace. -/
inductive SpellsMembers : List (Raw × Tree) → Raw → Prop
  | close {gap : Raw} : Blank gap → SpellsMembers [] (gap ++ [0x7d])
  | more {gap gap' next rest : Raw} {m : Raw × Tree} {ms : List (Raw × Tree)} : Blank gap →
      Blank gap' → SpellsMember m next → SpellsMembers ms rest →
      SpellsMembers (m :: ms) (gap ++ 0x2c :: (gap' ++ next ++ rest))

end

/-- A text that is one value, with white space around it. -/
inductive Document : Tree → Raw → Prop
  | mk {gap gap' value : Raw} {t : Tree} : Blank gap → Spells t value → Blank gap' →
      Document t (gap ++ value ++ gap')

end MailCode.Json
