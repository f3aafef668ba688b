import MailCode.Settings.Variables
import MailCode.Text.Alphanumeric
import MailCode.Text.Basic
/-!
# Files with variables

A file holds one `NAME=value` a line, with an optional `export` before it, blank lines and
comments. A value may be quoted and may go on over several lines while a quote is open; outside
single quotes `$NAME` and `${NAME}` stand for the value of a variable.

A file only sets variables that have no text yet. The first line that cannot be read ends the
reading; what stood before it holds.
-/

namespace MailCode.Startup

/-! ## Lines -/

/-- Where the scan for the end of a line stands. -/
inductive Scan where
  | complete
  | blank
  | escape
  | strong
  | strongEscape
  | weak
  | weakEscape
  deriving DecidableEq, Repr

/-- One character outside quotes. -/
def Scan.plain (c : Char) : Scan :=
  if c = '\\' then .escape else if c = '"' then .weak else if c = '\x27' then .strong
  else .complete

/-- The scan after one more character; `none` where a comment starts. -/
def Scan.step (scan : Scan) (c : Char) : Option Scan :=
  match scan with
  | .blank => if c = '#' then none else some (Scan.plain c)
  | .complete =>
    if Text.isBlank c && c != '\n' && c != '\r' then some .blank else some (Scan.plain c)
  | .escape => some .complete
  | .weak => some (if c = '\\' then .weakEscape else if c = '"' then .complete else .weak)
  | .weakEscape => some .weak
  | .strong =>
    some (if c = '\\' then .strongEscape else if c = '\x27' then .complete else .strong)
  | .strongEscape => some .strong

/-- Scans a line from a state: the state at its end, or the text before the comment in it. -/
def Scan.line (scan : Scan) : List Char → Except (List Char) Scan
  | [] => .ok scan
  | c :: cs =>
    match scan.step c with
    | none => .error []
    | some scan => (scan.line cs).mapError (c :: ·)

/-- A text cut behind each of its line feeds. -/
def physicalLines : List Char → List (List Char)
  | [] => []
  | '\n' :: cs => ['\n'] :: physicalLines cs
  | c :: cs =>
    match physicalLines cs with
    | [] => [[c]]
    | l :: ls => (c :: l) :: ls

/-- A line without its end. -/
def withoutLineEnd (cs : List Char) : List Char :=
  match cs.reverse with
  | '\n' :: '\r' :: rest => rest.reverse
  | '\n' :: rest => rest.reverse
  | _ => cs

/-- Joins the lines over which a quote is open; `none` stands for a quote that is never closed. -/
def logicalLines : (begun : List Char) → Scan → List (List Char) → List (Option (List Char))
  | _, .complete, [] => []
  | _, _, [] => [none]
  | begun, scan, line :: rest =>
    let whole := begun ++ line
    if (Text.dropBlanks whole).head? = some '#' then some [] :: logicalLines [] .complete rest
    else
      match scan.line line with
      | .error before => some (begun ++ before) :: logicalLines [] .complete rest
      | .ok .complete => some (withoutLineEnd whole) :: logicalLines [] .complete rest
      | .ok scan => logicalLines whole scan rest

/-! ## Values -/

/-- The quotes around the place that is being read. -/
inductive Quotes where
  | none
  | weak
  | strong
  deriving DecidableEq, Repr

/-- A reference to a variable that is being read: its name so far, last character first, and
whether it stands in braces. -/
structure Reference where
  braced : Bool
  name : List Char

/-- Where the reading of a value stands; `read` holds what it says so far, last character first. -/
structure ValueState where
  quotes : Quotes
  escaped : Bool
  ended : Bool
  reference : Option Reference
  read : List Char

/-- Puts what a reference stands for behind what has been read. -/
def ValueState.resolve (value : String → String) (s : ValueState) (name : List Char) :
    ValueState :=
  { s with
    reference := .none
    read := (value (String.ofList name.reverse)).toList.reverse ++ s.read }

/-- Puts one character behind what has been read. -/
def ValueState.push (s : ValueState) (c : Char) : ValueState :=
  { s with read := c :: s.read }

/-- One character of a value outside references; `none` if it may not stand there. -/
def ValueState.plain (s : ValueState) (c : Char) : Option ValueState :=
  if c = '$' then some { s with reference := some ⟨false, []⟩ }
  else
    match s.quotes with
    | .weak =>
      if c = '"' then some { s with quotes := .none }
      else if c = '\\' then some { s with escaped := true }
      else some (s.push c)
    | _ =>
      if c = '\x27' then some { s with quotes := .strong }
      else if c = '"' then some { s with quotes := .weak }
      else if c = '\\' then some { s with escaped := true }
      else if c = ' ' || c = '\t' then some { s with ended := true }
      else some (s.push c)

/-- One character behind a backslash. -/
def ValueState.escape (s : ValueState) (c : Char) : Option ValueState :=
  let s := { s with escaped := false }
  if c = '\\' || c = '\x27' || c = '"' || c = '$' || c = ' ' then some (s.push c)
  else if c = 'n' then some (s.push '\n')
  else none

/-- One character of a reference. -/
def ValueState.refer (value : String → String) (s : ValueState) (r : Reference) (c : Char) :
    ValueState :=
  if Text.isAlphanumeric c then { s with reference := some { r with name := c :: r.name } }
  else if r.braced then
    if c = '\x7d' then s.resolve value r.name
    else { s with reference := some { r with name := c :: r.name } }
  else if c = '\x7b' && r.name.isEmpty then { s with reference := some ⟨true, []⟩ }
  else
    let s := s.resolve value r.name
    if c = '$' then { s with reference := some ⟨false, []⟩ } else s.push c

/-- Reads a value from a state on; `value` tells what variables stand for. -/
def ValueState.run (value : String → String) : ValueState → List Char → Option ValueState
  | s, [] => some s
  | s, c :: cs =>
    if s.ended then
      if c = ' ' || c = '\t' then run value s cs else if c = '#' then some s else none
    else if s.escaped then
      match s.escape c with
      | some s => run value s cs
      | none => none
    else if s.quotes = .strong then
      run value (if c = '\x27' then { s with quotes := .none } else s.push c) cs
    else
      match s.reference with
      | some r => run value (s.refer value r c) cs
      | none =>
        match s.plain c with
        | some s => run value s cs
        | none => none

/-- Reads a value to its end. -/
def readValue? (value : String → String) (cs : List Char) : Option String :=
  match ValueState.run value ⟨.none, false, false, none, []⟩ cs with
  | none => none
  | some s =>
    if s.quotes ≠ .none then none
    else
      match s.reference with
      | none => some (String.ofList s.read.reverse)
      | some r =>
        if r.braced then none else some (String.ofList (s.resolve value r.name).read.reverse)

/-! ## Assignments -/

/-- A name at the start of a text, and what follows it. -/
def name? (cs : List Char) : Option (String × List Char) :=
  if cs.head?.any fun c => c.isAlpha || c == '_' then
    let name := cs.takeWhile fun c => c.isAlphanum || c == '_' || c == '.'
    some (String.ofList name, Text.dropBlanks (cs.drop name.length))
  else none

/-- What follows an equals sign, and the blanks behind it. -/
def afterEquals? : List Char → Option (List Char)
  | '=' :: cs => some (Text.dropBlanks cs)
  | _ => none

/-- The name that a line assigns to, and the text of the value. -/
def assignment? (cs : List Char) : Option (String × List Char) := do
  let (name, rest) ← name? cs
  if name = "export" then
    match afterEquals? rest with
    | some value => return (name, value)
    | none =>
      let (name, rest) ← name? rest
      return (name, ← afterEquals? rest)
  else return (name, ← afterEquals? rest)

/-- What one line says: nothing, an assignment, or it cannot be read. -/
inductive LineMeaning where
  | nothing
  | assigns (name value : String)
  | unreadable

/-- Reads one line. -/
def readLine (value : String → String) (line : List Char) : LineMeaning :=
  let cs := Text.dropBlanks (Text.dropTrailingBlanks line)
  if cs.isEmpty || cs.head? = some '#' then .nothing
  else
    match assignment? cs with
    | none => .unreadable
    | some (name, text) =>
      if text.isEmpty || text.head? = some '#' then .assigns name ""
      else
        match readValue? value text with
        | some text => .assigns name text
        | none => .unreadable

namespace VariablesFile

/-- Reads lines into the variables; `given` holds what the lines so far assigned. -/
def loadLines (vars : Variables) (given : List (String × String)) :
    List (Option (List Char)) → Variables
  | [] => vars
  | none :: _ => vars
  | some line :: rest =>
    let value (name : String) : String :=
      (vars.text? name).getD ((given.lookup name).getD "")
    match readLine value line with
    | .unreadable => vars
    | .nothing => loadLines vars given rest
    | .assigns name text =>
      let vars :=
        if (vars.text? name).isSome then vars else (name, text.toUTF8.toList) :: vars
      loadLines vars ((name, text) :: given) rest

/-- A text without the byte order mark that may open it. -/
def withoutMark : List Char → List Char
  | '\ufeff' :: cs => cs
  | cs => cs

/-- The variables with those of a file set that had no text yet. -/
def load (content : String) (vars : Variables) : Variables :=
  loadLines vars [] (logicalLines [] .complete (physicalLines (withoutMark content.toList)))

end VariablesFile

end MailCode.Startup
