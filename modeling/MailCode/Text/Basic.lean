/-!
# White space, parts and lower case

What reading settings, filters and URLs needs of texts as lists of characters.
-/

namespace MailCode.Text

/-!
## White space

The characters with the property White_Space of Unicode, and cutting them off both ends of a
text.
-/

/-- Whether a character is white space in the sense of Unicode, not only of ASCII. -/
def isBlank (c : Char) : Bool :=
  let n := c.toNat
  (9 ≤ n && n ≤ 13) || n == 0x20 || n == 0x85 || n == 0xa0 || n == 0x1680 ||
    (0x2000 ≤ n && n ≤ 0x200a) || n == 0x2028 || n == 0x2029 || n == 0x202f || n == 0x205f ||
    n == 0x3000

/-- The text without the blanks at its start. -/
def dropBlanks (cs : List Char) : List Char :=
  cs.dropWhile isBlank

/-- The text without the blanks at its end. -/
def dropTrailingBlanks (cs : List Char) : List Char :=
  (cs.reverse.dropWhile isBlank).reverse

/-- The text without the blanks at both ends. -/
def trim (cs : List Char) : List Char :=
  dropTrailingBlanks (dropBlanks cs)

/-!
## The parts of a text

A text is cut at every place where a separator stands, so a text without one is a single part and
the empty text a single empty part.
-/

/-- Puts a character in front of the first of several parts. -/
def addToFirst (c : Char) : List (List Char) → List (List Char)
  | [] => [[c]]
  | part :: parts => (c :: part) :: parts

/-- The parts of a text between its separators. -/
def split (separator : Char) (cs : List Char) : List (List Char) :=
  cs.foldr (fun c parts => if c = separator then [] :: parts else addToFirst c parts) [[]]

/-!
## Lower case, as far as names written in ASCII need it

The settings' names are words of ASCII letters. `lowerAscii` knows the 26 capitals only;
`lowerForAscii` also knows the one character outside ASCII whose lower case is an ASCII letter,
the Kelvin sign, so it agrees with the full mapping of Unicode on whether a text spells an ASCII
word. (The dotted capital I lowers to two characters, the second outside ASCII, and so never
spells one.)
-/

/-- The text with its ASCII capitals made small. -/
def lowerAscii (cs : List Char) : List Char :=
  cs.map Char.toLower

/-- The lower case of a character where that is an ASCII letter, else the character. -/
def lowerCharForAscii (c : Char) : Char :=
  if c = '\u212a' then 'k' else c.toLower

/-- The text with every character made small whose lower case is an ASCII letter. -/
def lowerForAscii (cs : List Char) : List Char :=
  cs.map lowerCharForAscii

end MailCode.Text
