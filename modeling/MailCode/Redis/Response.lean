import MailCode.Text.Numerals
import MailCode.Text.Quoted
import MailCode.Json.Tree
/-!
# What a Redis server answers

A `Response` is one reply of the protocol. The client asks each reply to be a text, a number, a
boolean or nothing in particular; a reply that cannot be read that way is an error that tells why
and shows the reply.
-/

namespace MailCode.Redis

/-- One reply of a server. -/
inductive Response where
  | nil
  | int (n : Int)
  | bulk (bytes : List UInt8)
  | status (text : String)
  | array (elements : List Response)
  | error (line : String)
  deriving Inhabited

/-- What can go wrong between the client and its server. -/
inductive Failure where
  | invalidConfig (reason : String)
  | network (reason : String)
  | signalled (line : String)
  | notUtf8
  | incompatible (why : String) (response : Response)

namespace Response

/-- The texts joined by a comma and a blank. -/
def commaSeparated (texts : List String) : String :=
  String.intercalate ", " texts

mutual

/-- A reply as error messages show it. -/
def describe : Response → String
  | .nil => "nil"
  | .int n => "int(" ++ Text.Decimal.signedText n ++ ")"
  | .bulk bytes =>
    match Json.utf8Text? bytes with
    | some text => "string-data('" ++ Text.quote text ++ "')"
    | none =>
      "binary-data([" ++ commaSeparated (bytes.map fun b => Text.Decimal.text b.toNat) ++ "])"
  | .status text => if text = "OK" then "ok" else "status(" ++ Text.quote text ++ ")"
  | .array elements => "bulk(" ++ commaSeparated (describeEach elements) ++ ")"
  | .error line => line

/-- Each reply of an array as error messages show it. -/
def describeEach : List Response → List String
  | [] => []
  | r :: rs => r.describe :: describeEach rs

end

mutual

/-- The first error that a reply signals, on its own or inside an array. -/
def signalled? : Response → Option String
  | .error line => some line
  | .array elements => signalledIn? elements
  | _ => none

/-- The first error that one of the replies signals. -/
def signalledIn? : List Response → Option String
  | [] => none
  | r :: rs => r.signalled?.or (signalledIn? rs)

end

/-- Reads a reply unless it signals an error. -/
def checked {α : Type} (r : Response) (read : Response → Except Failure α) : Except Failure α :=
  match r.signalled? with
  | some line => .error (.signalled line)
  | none => read r

/-- The text of a bulk reply. -/
def utf8 (bytes : List UInt8) : Except Failure String :=
  match Json.utf8Text? bytes with
  | some text => .ok text
  | none => .error .notUtf8

/-- A reply read as a text. -/
def toText (r : Response) : Except Failure String :=
  r.checked fun
    | .bulk bytes => utf8 bytes
    | .status text => .ok text
    | r => .error (.incompatible "Response type not string compatible." r)

/-- A reply read as a text that may be missing. -/
def toText? (r : Response) : Except Failure (Option String) :=
  match r with
  | .nil => .ok none
  | r => r.toText.map some

/-- A reply read as a number: an integer goes through `ofInt`, a text through `parse`. -/
def toNumber {α : Type} (ofInt : Int → α) (parse : List Char → Except Text.Decimal.Error α)
    (r : Response) : Except Failure α :=
  r.checked fun
    | .int n => .ok (ofInt n)
    | .status "OK" =>
      .error (.incompatible "Response type not convertible to numeric." (.status "OK"))
    | .status text => parsed (.status text) text
    | .bulk bytes => (utf8 bytes).bind (parsed (.bulk bytes))
    | r => .error (.incompatible "Response type not convertible to numeric." r)
where
  /-- The number that a text spells. -/
  parsed (r : Response) (text : String) : Except Failure α :=
    match parse text.toList with
    | .ok n => .ok n
    | .error _ => .error (.incompatible "Could not convert from string." r)

/-- A reply read as a count: 32 bits without sign, integers wrapped to them. -/
def toCount (r : Response) : Except Failure Nat :=
  r.toNumber (fun n => (n % UInt32.size).toNat) (Text.Decimal.parse UInt32.size)

/-- A reply read as a number of 64 bits with sign. -/
def toSeconds (r : Response) : Except Failure Int :=
  r.toNumber id (Text.Decimal.parseSigned 0x8000000000000000)

/-- A reply read as a boolean. -/
def toBool (r : Response) : Except Failure Bool :=
  r.checked fun
    | .nil => .ok false
    | .int n => .ok (n != 0)
    | .status "OK" => .ok true
    | .status "1" => .ok true
    | .status "0" => .ok false
    | .status text => .error (.incompatible "Response status not valid boolean" (.status text))
    | .bulk [0x31] => .ok true
    | .bulk [0x30] => .ok false
    | r => .error (.incompatible "Response type not bool compatible." r)

/-- A reply of which nothing is wanted but that it signals no error. -/
def toUnit (r : Response) : Except Failure Unit :=
  r.checked fun _ => .ok ()

end Response

/-- The kinds of error that a server signals by a code of its own. -/
def signalKinds : List (String × String) :=
  [("ERR", "ResponseError"), ("EXECABORT", "ExecAbortError"), ("LOADING", "BusyLoadingError"),
    ("NOSCRIPT", "NoScriptError"), ("MOVED", "Moved"), ("ASK", "Ask"), ("TRYAGAIN", "TryAgain"),
    ("CLUSTERDOWN", "ClusterDown"), ("CROSSSLOT", "CrossSlot"), ("MASTERDOWN", "MasterDown"),
    ("READONLY", "ReadOnly"), ("NOTBUSY", "NotBusy")]

/-- A text up to its first blank, and what follows that blank. -/
def splitAtBlank : List Char → List Char × Option (List Char)
  | [] => ([], none)
  | c :: cs =>
    if c = ' ' then ([], some cs)
    else
      let (word, rest) := splitAtBlank cs
      (c :: word, rest)

/-- The wording of an error line. -/
def signalText (line : String) : String :=
  let (word, rest) := splitAtBlank line.toList
  let code := String.ofList word
  match signalKinds.lookup code, rest.map String.ofList with
  | some kind, some detail => "An error was signalled by the server - " ++ kind ++ ": " ++ detail
  | some kind, none => "An error was signalled by the server- " ++ kind
  | none, some detail => code ++ ": " ++ detail
  | none, none => code ++ ": Unknown extension error encountered"

/-- The wording of a failure. -/
def Failure.text : Failure → String
  | .invalidConfig reason => reason ++ "- InvalidClientConfig"
  | .network reason => reason
  | .signalled line => signalText line
  | .notUtf8 => "Invalid UTF-8- TypeError"
  | .incompatible why response =>
    "Response was of incompatible type - TypeError: " ++ Text.quote why ++ " (response was " ++
      response.describe ++ ")"

end MailCode.Redis
