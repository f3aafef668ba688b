/-!
# Numbers as text

Decimal numbers, hexadecimal digits, and the identifiers that are made of such digits.
-/

namespace MailCode.Text.Decimal

/-!
## Whole numbers in decimal

Reading a whole number that must fit below a bound, with the three ways in which a text can fail
to be one. The text is read from left to right: a character that is no digit is reported unless
the digits before it have already passed the bound.
-/

/-- Why a text is not a number of the wanted range. -/
inductive Error where
  | empty
  | notADigit
  | tooLarge
  deriving DecidableEq, Repr

/-- The wording of each cause. -/
def Error.message : Error → String
  | .empty => "cannot parse integer from empty string"
  | .notADigit => "invalid digit found in string"
  | .tooLarge => "number too large to fit in target type"

/-- Reads digits onto the number read so far; `bound` is the first number that does not fit. -/
def digits (bound : Nat) : Nat → List Char → Except Error Nat
  | n, [] => .ok n
  | n, c :: cs =>
    if c.isDigit then
      let next := 10 * n + (c.toNat - 48)
      if next < bound then digits bound next cs else .error .tooLarge
    else .error .notADigit

/-- Reads a number below `bound`: an optional plus sign, then one digit at least. -/
def parse (bound : Nat) : List Char → Except Error Nat
  | [] => .error .empty
  | ['+'] => .error .notADigit
  | '+' :: cs => digits bound 0 cs
  | cs => digits bound 0 cs

/-- Reads a number from `-bound` to `bound - 1`: an optional sign, then one digit at least. -/
def parseSigned (bound : Nat) : List Char → Except Error Int
  | ['-'] => .error .notADigit
  | '-' :: cs => (digits (bound + 1) 0 cs).map fun n => -(n : Int)
  | cs => (parse bound cs).map Int.ofNat

/-- The digits of a number, without leading zeros. -/
def render (n : Nat) : List Char :=
  Nat.toDigits 10 n

/-- A number as text. -/
def text (n : Nat) : String :=
  String.ofList (render n)

/-- A number that may be negative as text. -/
def signedText : Int → String
  | .ofNat n => text n
  | .negSucc n => "-" ++ text (n + 1)

end MailCode.Text.Decimal

namespace MailCode.Text.Hex

/-!
## Hexadecimal digits

The value of a digit, written as a byte or as a character; both cases of the letters count.
-/

/-- The value of a hexadecimal digit in ASCII. -/
def value? (b : UInt8) : Option Nat :=
  if 0x30 ≤ b && b ≤ 0x39 then some (b.toNat - 0x30)
  else if 0x41 ≤ b && b ≤ 0x46 then some (b.toNat - 0x41 + 10)
  else if 0x61 ≤ b && b ≤ 0x66 then some (b.toNat - 0x61 + 10)
  else none

/-- The value of a character that is a hexadecimal digit. -/
def valueOfChar? (c : Char) : Option Nat :=
  if c.toNat < 0x80 then value? c.toUInt8 else none

end MailCode.Text.Hex

namespace MailCode.Uuid

/-!
## Random identifiers

An identifier of version 4 is 128 bits of which six are fixed: four tell the version and two the
variant. It is written as 32 hexadecimal digits in five groups.
-/

/-- The lowest `count` hexadecimal digits of a number, the highest first. -/
def hexDigits : (count n : Nat) → List Char
  | 0, _ => []
  | count + 1, n => hexDigits count (n / 16) ++ [(Nat.toDigits 16 (n % 16)).headD '0']

/-- The identifier made of the lowest 122 bits of a number. -/
def ofBits (n : Nat) : String :=
  let node := hexDigits 12 n
  let clock := hexDigits 3 (n >>> 48)
  let variant := hexDigits 1 (8 + (n >>> 60) % 4)
  let high := hexDigits 3 (n >>> 62)
  let middle := hexDigits 4 (n >>> 74)
  let low := hexDigits 8 (n >>> 90)
  String.ofList (low ++ ['-'] ++ middle ++ ['-', '4'] ++ high ++ ['-'] ++ variant ++ clock ++
    ['-'] ++ node)

end MailCode.Uuid
