import Fusebox.Text.Blank
import Fusebox.Text.Front
import Fusebox.Text.Letter

/-! Which texts are patterns for values. What a pattern matches is not asked here.

A pattern is made of characters, groups, alternatives, repetitions, and sets of
characters in brackets. It cannot look around or refer back to a group. While it is
about the characters of all scripts it knows no capitals, no words and no kinds of
characters; once it is about bytes it knows those of ASCII, and must match nothing else
but characters written out. Last, a pattern is nested only so deep. -/
namespace Fusebox.Text.Pattern

/-- How a part of a pattern is meant. -/
structure Manner where
  /-- It is about characters of all scripts, not about bytes. -/
  scripts : Bool := true
  /-- Capitals make no difference. -/
  caseless : Bool := false
  /-- Blanks and comments may stand between its parts. -/
  spaced : Bool := false

/-- What follows blanks and comments; `comment` tells whether one has begun. -/
def skipNotes (comment : Bool) : List Char → List Char
  | [] => []
  | c :: rest =>
    if comment then skipNotes (c != '\n') rest
    else if c == '#' then skipNotes true rest
    else if isBlank c then skipNotes false rest
    else c :: rest

/-- The next part of a pattern. -/
def Manner.skip (manner : Manner) (text : List Char) : List Char :=
  if manner.spaced then skipNotes false text else text

/-! ## Characters -/

/-- What a backslash and the text behind it stand for. -/
inductive Escape where
  /-- A character, perhaps given as a byte. -/
  | char (c : Char) (byte : Bool)
  /-- A place that takes no character; some places depend on what a word is. -/
  | place (ofWord : Bool)
  /-- Digits, blanks or the characters of words, or else all but these. -/
  | kind (others : Bool)

/-- So many hexadecimal digits, and what follows them. -/
def hexDigits? (manner : Manner) : Nat → List Char → Option (List Char × List Char)
  | 0, text => some ([], text)
  | count + 1, text =>
    match manner.skip text with
    | [] => none
    | c :: rest =>
      if isDigit 16 c then
        (hexDigits? manner count rest).map fun (digits, rest) => (c :: digits, rest)
      else none

/-- The character that so many hexadecimal digits stand for, and what follows them. -/
def coded? (manner : Manner) (width : Nat) (text : List Char) : Option (Char × List Char) := do
  let (digits, rest) ← hexDigits? manner width text
  let code := valueOf 16 digits
  if code.isValidChar then some (Char.ofNat code, rest) else none

/-- What the text behind a backslash stands for, and what follows it. -/
def escape? (manner : Manner) : List Char → Option (Escape × List Char)
  | [] => none
  | c :: rest =>
    let plain (c : Char) := some (.char c false, rest)
    match c with
    | 'x' => (coded? manner 2 rest).map fun (c, rest) => (.char c true, rest)
    | 'u' => (coded? manner 4 rest).map fun (c, rest) => (.char c false, rest)
    | 'U' => (coded? manner 8 rest).map fun (c, rest) => (.char c false, rest)
    | 'a' => plain '\x07'
    | 'f' => plain '\x0c'
    | 'n' => plain '\n'
    | 'r' => plain '\r'
    | 't' => plain '\t'
    | 'v' => plain '\x0b'
    | 'A' | 'z' => some (.place false, rest)
    | 'b' | 'B' | '<' | '>' => some (.place true, rest)
    | 'd' | 's' | 'w' => some (.kind false, rest)
    | 'D' | 'S' | 'W' => some (.kind true, rest)
    | _ => if c.toNat < 0x80 && !c.isAlphanum then plain c else none

/-- Whether a pattern can be asked for what an escape stands for. -/
def Manner.allows (manner : Manner) : Escape → Bool
  | .char c byte => if manner.scripts then !manner.caseless else !byte || c.toNat < 0x80
  | .place ofWord => !ofWord || !manner.scripts
  | .kind others => !others && !manner.scripts

/-! ## Sets -/

/-- Whether a set can hold a character. -/
def Manner.allowsMember (manner : Manner) (c : Char) : Bool :=
  if manner.scripts then !manner.caseless else c.toNat < 0x80

/-- How deep parts are nested that stand side by side, given the depth of each. -/
def sideBySide (depths : List Nat) : Nat :=
  let deepest := depths.foldl max 0
  if depths.length ≤ 1 then deepest else deepest + 1

/-- A member of a set, which is a character unless it is a kind of characters, and what
follows it. -/
def member? (manner : Manner) : List Char → Option (Option Char × List Char)
  | [] => none
  | '\\' :: rest =>
    match escape? manner rest with
    | some (.char c _, rest) => if manner.allowsMember c then some (some c, rest) else none
    | some (.kind others, rest) =>
      if manner.allows (.kind others) then some (none, rest) else none
    | _ => none
  | c :: rest => if manner.allowsMember c then some (some c, rest) else none

/-- The next character of a set. Of a comment it is the first one inside. -/
def ahead? (manner : Manner) (text : List Char) : Option Char :=
  if manner.spaced then
    match text.dropWhile isBlank with
    | '#' :: rest => (rest.dropWhile isBlank).head?
    | rest => rest.head?
  else text.head?

/-- What follows a member of a set, or a range of them. A hyphen makes a range unless
the set ends behind it, or another hyphen follows. -/
def memberRest? (manner : Manner) (text : List Char) : Option (List Char) := do
  let (least, rest) ← member? manner text
  match manner.skip rest with
  | '-' :: behind =>
    if ahead? manner behind = some ']' ∨ ahead? manner behind = some '-' then
      some ('-' :: behind)
    else do
      let (greatest, rest) ← member? manner (manner.skip behind)
      if (← least) ≤ (← greatest) then some rest else none
  | rest => some rest

/-- Names that a set can use between colons for sets that are known by name. -/
def namedSets : List String := [
  "alnum", "alpha", "ascii", "blank", "cntrl", "digit", "graph", "lower", "print", "punct",
  "space", "upper", "word", "xdigit"]

/-- Whether a set known by name is turned around, and what follows it. The text starts
behind its opening bracket. -/
def namedSet? (text : List Char) : Option (Bool × List Char) := do
  let inside ← skip? ':' text
  let name := (skip? '^' inside).getD inside
  let rest ← namedSets.findSome? fun known => word? (known ++ ":]").toList name
  return ((skip? '^' inside).isSome, rest)

/-- Whether a pattern can be asked for a set, or for a set turned around. -/
def Manner.allowsNamed (manner : Manner) (others : Bool) : Bool :=
  if manner.scripts then !manner.caseless else !others

/-- How many hyphens begin a text, and what follows them. -/
def hyphens (manner : Manner) (fuel : Nat) (text : List Char) : Nat × List Char :=
  match fuel, manner.skip text with
  | fuel + 1, '-' :: rest =>
    let (count, rest) := hyphens manner fuel rest
    (count + 1, rest)
  | _, rest => (0, rest)

/-- The depths of the members that a set begins with, and what follows them. At the
front hyphens stand for themselves, and so does a closing bracket. -/
def setFront? (manner : Manner) (text : List Char) : Option (List Nat × List Char) :=
  let whole := manner.skip text
  let inside := manner.skip ((skip? '^' whole).getD whole)
  if !manner.scripts && (skip? '^' whole).isSome then none
  else
    match inside with
    | ']' :: rest => if manner.allowsMember ']' then some ([0], rest) else none
    | _ =>
      let (count, rest) := hyphens manner inside.length inside
      if count = 0 || manner.allowsMember '-' then some (List.replicate count 0, rest) else none

/-- How deep the inside of a set is nested, and what follows the set. Given are the
depth of what stands in front of the last operator, if there is one, and the depths of
the members behind it. -/
def setRest? (manner : Manner) (fuel : Nat) (front : Option Nat) (members : List Nat)
    (text : List Char) : Option (Nat × List Char) :=
  let depth := match front with
    | none => sideBySide members
    | some front => max front (sideBySide members) + 1
  match fuel, manner.skip text with
  | _ + 1, ']' :: rest => some (depth, rest)
  | fuel + 1, '&' :: '&' :: rest | fuel + 1, '-' :: '-' :: rest | fuel + 1, '~' :: '~' :: rest =>
    setRest? manner fuel (some depth) [] rest
  | fuel + 1, '[' :: rest =>
    match namedSet? rest with
    | some (others, rest) =>
      if manner.allowsNamed others then setRest? manner fuel front (0 :: members) rest else none
    | none => do
      let (begun, rest) ← setFront? manner rest
      let (inner, rest) ← setRest? manner fuel none begun rest
      setRest? manner fuel front ((inner + 1) :: members) rest
  | fuel + 1, text => do
    let rest ← memberRest? manner text
    setRest? manner fuel front (0 :: members) rest
  | 0, _ => none

/-! ## Groups -/

/-- Whether the name of a group is one. -/
def isGroupName : List Char → Bool
  | [] => false
  | first :: rest =>
    (first == '_' || isLetter first) && rest.all fun c => isLetterOrNumeral c || "_.[]".contains c

/-- The manner after switches, which are turned on, or off behind a hyphen. -/
def Manner.turn? (manner : Manner) (on : Bool) : List Char → Option Manner
  | [] => some manner
  | '-' :: rest => turn? manner false rest
  | 'u' :: rest => turn? { manner with scripts := on } on rest
  | 'i' :: rest => turn? { manner with caseless := on } on rest
  | 'x' :: rest => turn? { manner with spaced := on } on rest
  | c :: rest => if "msUR".contains c then turn? manner on rest else none

/-- The manner after all switches of a group. None comes twice, and a hyphen has a
switch behind it. -/
def Manner.switch? (manner : Manner) (switches : List Char) : Option Manner :=
  if (switches.all fun c => switches.count c = 1) && switches.getLast? != some '-' then
    manner.turn? true switches
  else none

/-- What the front of a group does. -/
inductive Opening where
  /-- It opens a group that is meant in some manner, perhaps under a name. -/
  | group (inside : Manner) (name : Option (List Char))
  /-- It changes the manner of what follows, and there is no group. -/
  | switches (behind : Manner)

/-- What the front of a group does, and what follows it. -/
def opening? (manner : Manner) (text : List Char) : Option (Opening × List Char) :=
  match manner.skip text with
  | '?' :: 'P' :: '<' :: rest | '?' :: '<' :: rest =>
    let name := rest.takeWhile (· != '>')
    match rest.drop name.length with
    | _ :: rest => if isGroupName name then some (.group manner (some name), rest) else none
    | [] => none
  | '?' :: rest => do
    let switches := rest.takeWhile fun c => c != ':' && c != ')'
    let inside ← manner.switch? switches
    match rest.drop switches.length with
    | ':' :: rest => some (.group inside none, rest)
    | ')' :: rest => if switches.isEmpty then none else some (.switches inside, rest)
    | _ => none
  | rest => some (.group manner none, rest)

/-- What is known of the part of a group that has been read. -/
structure Progress where
  /-- The names of all groups so far. -/
  names : List (List Char) := []
  /-- The depths of the alternatives before the present one. -/
  alternatives : List Nat := []
  /-- The parts of the present alternative, the last one first, with their depths.
  Switches are a part that has none. -/
  parts : List (Option Nat) := []

namespace Progress

/-- After one more part. -/
def add (progress : Progress) (part : Option Nat) : Progress :=
  { progress with parts := part :: progress.parts }

/-- The depth of the present alternative. -/
def alternative (progress : Progress) : Nat :=
  sideBySide (progress.parts.map fun part => part.getD 0)

/-- The depth of the group. -/
def depth (progress : Progress) : Nat :=
  sideBySide (progress.alternative :: progress.alternatives)

/-- After the last part has become a repetition. Nothing and switches do not repeat. -/
def repeat? (progress : Progress) : Option Progress :=
  match progress.parts with
  | some depth :: others => some { progress with parts := some (depth + 1) :: others }
  | _ => none

/-- After a mark that separates alternatives. -/
def next (progress : Progress) : Progress :=
  { progress with
    alternatives := progress.alternative :: progress.alternatives
    parts := [] }

/-- At the beginning of a group inside this one. -/
def inner? (progress : Progress) : Option (List Char) → Option Progress
  | none => some { names := progress.names }
  | some name =>
    if progress.names.contains name then none else some { names := name :: progress.names }

/-- After a group inside this one. -/
def after (progress inside : Progress) : Progress :=
  { progress.add (some (inside.depth + 1)) with names := inside.names }

end Progress

/-- What follows a part that has no other parts inside. Nothing can be repeated a
given number of times. -/
def plainRest? (manner : Manner) : List Char → Option (List Char)
  | '\\' :: rest => do
    let (escape, rest) ← escape? manner rest
    if manner.allows escape then some rest else none
  | '.' :: rest => if manner.scripts then some rest else none
  | '^' :: rest | '$' :: rest => some rest
  | '\x7b' :: _ => none
  | c :: rest => if manner.allows (.char c false) then some rest else none
  | [] => none

/-- What is known of a group once it has been read up to its end, and what follows,
beginning with its closing parenthesis if there is one. -/
def group? (fuel : Nat) (manner : Manner) (progress : Progress) (text : List Char) :
    Option (Progress × List Char) :=
  match fuel, manner.skip text with
  | _, [] => some (progress, [])
  | _, ')' :: rest => some (progress, ')' :: rest)
  | fuel + 1, '|' :: rest => group? fuel manner progress.next rest
  | fuel + 1, '(' :: rest => do
    match ← opening? manner rest with
    | (.switches behind, rest) => group? fuel behind (progress.add none) rest
    | (.group inside name, rest) =>
      match ← group? fuel inside (← progress.inner? name) rest with
      | (inner, _ :: rest) => group? fuel manner (progress.after inner) rest
      | _ => none
  | fuel + 1, '[' :: rest => do
    let (begun, rest) ← setFront? manner rest
    let (depth, rest) ← setRest? manner fuel none begun rest
    group? fuel manner (progress.add (some (depth + 1))) rest
  | fuel + 1, '*' :: rest | fuel + 1, '+' :: rest | fuel + 1, '?' :: rest => do
    group? fuel manner (← progress.repeat?) ((skip? '?' rest).getD rest)
  | fuel + 1, text => do
    group? fuel manner (progress.add (some 0)) (← plainRest? manner text)
  | 0, _ => none

/-- How deep a pattern may be nested. -/
def depthLimit : Nat := 250

/-- Whether a text is a pattern. -/
def isValid (text : List Char) : Bool :=
  match group? text.length {} {} text with
  | some (progress, []) => progress.depth ≤ depthLimit
  | _ => false

end Fusebox.Text.Pattern
