import MailCode.Outcome
import MailCode.Text.Alphanumeric
import MailCode.Text.Basic
import MailCode.Text.Numerals
/-!
# Which events are shown

A filter is a list of directives separated by commas. A directive is a level, for every target, or
`target[span{field}]=level`, of which the target, the part in brackets and the level may be
missing: it concerns the targets that start with the given text, inside the named span, that
have the named field. Without a level everything is shown.

Of the directives that concern an event the most specific decides, and an event that none concerns
is not shown; an empty filter shows nothing.
-/

namespace MailCode.Startup

/-- How many kinds of events are shown, from none to all. -/
abbrev Verbosity := Nat

/-- The least verbosity that shows a level. -/
def verbosityOf : Level → Verbosity
  | .error => 1
  | .warn => 2
  | .info => 3
  | .debug => 4

/-- Everything is shown. -/
def showAll : Verbosity := 5

/-- The verbosity that a word or a digit names. -/
def verbosity? (cs : List Char) : Option Verbosity :=
  match Text.Decimal.parse 6 cs with
  | .ok n => some n
  | .error _ =>
    match String.ofList (cs.map Char.toLower) with
    | "error" => some 1
    | "warn" => some 2
    | "info" => some 3
    | "debug" => some 4
    | "trace" => some showAll
    | "off" => some 0
    | _ => none

/-- A field that a directive asks for, and perhaps the value it must have. -/
structure FieldTest where
  name : List Char
  value : Option (List Char)
  deriving DecidableEq, Repr

/-- A field test as it is written: the name, and the value behind an equals sign. -/
def FieldTest.ofText (cs : List Char) : FieldTest :=
  let name := cs.takeWhile (· != '=')
  match cs.drop name.length with
  | [] => ⟨name, none⟩
  | _ :: value => ⟨name, some (value.takeWhile (· != '='))⟩

/-- A part of a filter. -/
structure Directive where
  /-- What the targets start with; nothing for every target. -/
  target : List Char
  span : Option (List Char)
  field : Option FieldTest
  verbosity : Verbosity
  deriving DecidableEq, Repr

namespace Directive

/-- A directive for targets, whatever their span and fields. -/
def ofTarget (target : List Char) (verbosity : Verbosity) : Directive :=
  ⟨target, none, none, verbosity⟩

/-- The name of the field that is asked for; none has the empty name. -/
def fieldName (d : Directive) : List Char :=
  (d.field.map (·.name)).getD []

/-- Whether an event is of the kind that a directive is about. Events are in no span, and the
values of fields are those of spans. -/
def concerns (d : Directive) (e : Event) : Bool :=
  d.span.isNone && d.target.isPrefixOf e.target.toList &&
    d.field.all fun f =>
      f.value.isNone && ("message" :: e.fields.map (·.1)).contains (String.ofList f.name)

/-- Whether a directive goes before another one where both concern an event: the longer target,
then the one that asks for a field, then the later name of a field. -/
def isAsSpecificAs (d other : Directive) : Bool :=
  other.target.length < d.target.length ||
    (other.target.length == d.target.length && !(d.fieldName < other.fieldName : Bool))

/-- Whether a directive can start with a character. -/
def isStart (c : Char) : Bool :=
  c == '[' || c == '-' || c == ':' || c == '_' || Text.isAlphanumeric c

/-- The verbosity behind an equals sign; nothing there shows everything. -/
def level? (cs : List Char) : Option Verbosity :=
  if cs.isEmpty then some showAll else verbosity? cs

/-- Reads one directive. Blanks around it are overlooked when its signs are sought, but not cut
off: the texts between the signs are counted from where the blanks begin. -/
def parse? (cs : List Char) : Option Directive :=
  let core := Text.trim cs
  let piece (start stop : Nat) : List Char := (cs.drop start).take (stop - start)
  let next (start : Nat) (signs : List Char) : Nat :=
    start + ((core.drop start).takeWhile (!signs.contains ·)).length
  let afterBracket (span : Option (List Char)) (field : Option FieldTest) (bracket : Nat) :
      Option Directive :=
    let target := piece 0 (next 0 ['['])
    match core[bracket + 1]? with
    | none => some ⟨target, span, field, showAll⟩
    | some '=' => (level? (cs.drop (bracket + 2))).map (⟨target, span, field, ·⟩)
    | some _ => none
  if core.head?.any isStart then
    let sign := next 0 ['=', '[']
    match core[sign]? with
    | none =>
      match verbosity? cs with
      | some verbosity => some (ofTarget [] verbosity)
      | none => some (ofTarget cs showAll)
    | some '=' => (level? (cs.drop (sign + 1))).map (ofTarget (piece 0 sign))
    | some _ =>
      let nameEnd := next (sign + 1) [']', '\x7b']
      let name := piece (sign + 1) nameEnd
      match core[nameEnd]? with
      | none => none
      | some ']' => afterBracket (some name) none nameEnd
      | some _ =>
        let fieldEnd := next (nameEnd + 1) ['\x7d']
        let field := piece (nameEnd + 1) fieldEnd
        if !field.isEmpty && core[fieldEnd + 1]? == some ']' then
          afterBracket (if name.isEmpty then none else some name) (some (.ofText field))
            (fieldEnd + 1)
        else none
  else none

end Directive

/-- The directives of a filter. -/
abbrev Filter := List Directive

namespace Filter

/-- Reads a filter. -/
def parse? (text : String) : Option Filter :=
  ((Text.split ',' text.toList).filter (!·.isEmpty)).mapM Directive.parse?

/-- The directive that decides about an event: the most specific, and of equals the last. -/
def deciding? (f : Filter) (e : Event) : Option Directive :=
  (f.filter (·.concerns e)).foldl (fun best d =>
    match best with
    | none => some d
    | some b => if d.isAsSpecificAs b then some d else some b) none

/-- Whether an event is shown. -/
def shows (f : Filter) (e : Event) : Bool :=
  (f.deciding? e).any fun d => verbosityOf e.level ≤ d.verbosity

/-- The filter for a variable that overrides the settings and the level of the settings: the first
that can be read, or the level `info`. -/
def choose (override : Option String) (level : String) : Filter :=
  ((override.bind parse?).or (parse? level)).getD [.ofTarget [] 3]

end Filter

end MailCode.Startup
