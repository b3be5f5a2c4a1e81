import Fusebox.Journal.Verbosity
import Fusebox.Text.Blank
import Fusebox.Text.Letter
import Fusebox.Text.Pattern
import Fusebox.Text.Slice

/-! The directives of a log filter. A directive says how talkative some events may
be: those whose origin starts with its target, which happen inside its span, and which
have its field. In full it is written `target[span{field=value}]=level`; any part may be
missing, and a level may also stand alone.

Positions in a directive are counted from its first character that is not blank, but
the parts are then cut out of the whole text. So blanks in front move every part
towards the front, and a directive can be torn inside a character. -/
namespace Fusebox

/-- A field that an event must have, with the pattern for its value if there is one. -/
structure FieldDemand where
  name : String
  pattern : Option String
deriving DecidableEq

/-- How talkative the events may be that a directive is about. What is not given
makes no difference. -/
structure Directive where
  target : Option String := none
  span : Option String := none
  field : Option FieldDemand := none
  verbosity : Verbosity := .upTo .trace
deriving DecidableEq

/-- Whether a text is an exponent of a number, or nothing. -/
def FieldDemand.isExponent : List Char → Bool
  | [] => true
  | mark :: rest =>
    let digits := match rest with
      | '+' :: digits | '-' :: digits => digits
      | _ => rest
    (mark == 'e' || mark == 'E') && !digits.isEmpty && digits.all Char.isDigit

/-- Whether a text is a number with a plus in front. A point may stand anywhere among
the digits. -/
def FieldDemand.isSignedNumber : List Char → Bool
  | '+' :: number =>
    let front := number.takeWhile fun c => c.isDigit || c == '.'
    (front.any Char.isDigit && front.count '.' ≤ 1 && isExponent (number.drop front.length)) ||
      ["inf", "infinity", "nan"].contains (String.ofList (number.map Char.toLower))
  | _ => false

namespace Directive

/-- Why a text gives no directive. -/
inductive Flaw where
  /-- It is not written like one. -/
  | malformed
  /-- One of its parts would begin or end inside a character. -/
  | torn
deriving DecidableEq

/-- The part of a directive between two positions. -/
def cut (text : List Char) (start stop : Nat) : Except Flaw (List Char) :=
  match Text.slice? start stop text with
  | some part => .ok part
  | none => .error .torn

/-- Characters that a target or a level can start with. -/
def startsWord (c : Char) : Bool := c == '-' || c == ':' || c == '_' || Text.isLetterOrNumeral c

/-- Without brackets and equals sign a text is a level for all events, or else a target
of which everything is shown. Blanks around it belong to it. -/
def ofWord (text : List Char) : Directive :=
  match Verbosity.parse? text with
  | some verbosity => { verbosity }
  | none => { target := some (String.ofList text) }

/-- The demand on a field. A value that is no number has to be a pattern, and what
follows a second equals sign is left out. -/
def demand? (text : List Char) : Option FieldDemand :=
  let name := text.takeWhile (· != '=')
  match text.drop name.length with
  | [] => if name.isEmpty then none else some ⟨String.ofList name, none⟩
  | _ :: rest =>
    let value := rest.takeWhile (· != '=')
    if FieldDemand.isSignedNumber value || Text.Pattern.isValid value then
      some ⟨String.ofList name, some (String.ofList value)⟩
    else none

/-- The rest of a directive is its level. None at all means that everything is shown. -/
def readLevel (text : List Char) (directive : Directive) (start : Nat) : Except Flaw Directive := do
  let word ← cut text start (Text.bytes text)
  if word.isEmpty then return directive
  match Verbosity.parse? word with
  | some verbosity => return { directive with verbosity }
  | none => throw .malformed

/-- Behind a bracket a directive ends, or an equals sign leads to its level. -/
def readBehind (text : List Char) (directive : Directive) (start : Nat) :
    List Char → Except Flaw Directive
  | [] => .ok directive
  | '=' :: _ => readLevel text directive (start + 1)
  | _ => .error .malformed

/-- A field, from behind its opening brace. The bracket is closed right behind it. -/
def readField (text : List Char) (directive : Directive) (start : Nat) (rest : List Char) :
    Except Flaw Directive :=
  let inside := rest.takeWhile (· != '\x7d')
  let stop := start + Text.bytes inside
  match rest.drop inside.length with
  | [] => .error .malformed
  | _ :: rest => do
    let part ← cut text start stop
    match demand? part, rest with
    | some demand, ']' :: rest =>
      readBehind text { directive with field := some demand } (stop + 2) rest
    | _, _ => throw .malformed

/-- A span and a field, from behind the opening bracket. No name in front of a field
means any span or none. -/
def readSpan (text : List Char) (directive : Directive) (start : Nat) (rest : List Char) :
    Except Flaw Directive :=
  let inside := rest.takeWhile fun c => c != ']' && c != '\x7b'
  let stop := start + Text.bytes inside
  match rest.drop inside.length with
  | [] => .error .malformed
  | mark :: rest => do
    let name ← cut text start stop
    if mark = ']' then
      readBehind text { directive with span := some (String.ofList name) } (stop + 1) rest
    else if name.isEmpty then readField text directive (stop + 1) rest
    else readField text { directive with span := some (String.ofList name) } (stop + 1) rest

/-- A target, up to the bracket or the equals sign that follows it. -/
def readTarget (text core : List Char) : Except Flaw Directive :=
  let inside := core.takeWhile fun c => c != '=' && c != '['
  let stop := Text.bytes inside
  match core.drop inside.length with
  | [] => .ok (ofWord text)
  | mark :: rest => do
    let name ← cut text 0 stop
    let directive : Directive := { target := some (String.ofList name) }
    if mark = '=' then readLevel text directive (stop + 1)
    else readSpan text directive (stop + 1) rest

/-- A directive. -/
def parse (text : List Char) : Except Flaw Directive :=
  let core := Text.trim text
  match core with
  | [] => .error .malformed
  | '[' :: rest => readSpan text {} 1 rest
  | c :: _ => if startsWord c then readTarget text core else .error .malformed

/-- Whether a directive has a say about events themselves, and not only about what
happens inside of spans. -/
def isStatic (directive : Directive) : Bool :=
  directive.span.isNone && (directive.field.bind FieldDemand.pattern).isNone

/-- Whether a directive is about an event. -/
def concerns (directive : Directive) (event : Event) : Bool :=
  directive.isStatic &&
    (directive.target.all fun target => target.toList.isPrefixOf event.origin.toList) &&
    directive.field.all fun demand => event.fieldNames.contains demand.name

/-- How specific the target is; longer ones are more so, and none at all is least. -/
def reach (directive : Directive) : Nat :=
  match directive.target with
  | none => 0
  | some target => target.length + 1

/-- Whether a directive gives way to a later one about the same event. The more
specific target has its way, then a demand on a field, then the field whose name comes
later in the alphabet. -/
def yields (known later : Directive) : Bool :=
  known.reach < later.reach || (known.reach == later.reach &&
    match known.field, later.field with
    | none, _ => true
    | some _, none => false
    | some known, some later => decide (known.name ≤ later.name))

end Directive
end Fusebox
