import Fusebox.Decimal.Nearest
import Fusebox.Document.Tree
import Fusebox.Text.Front

/-! JSON read into trees.

Some texts are correct JSON and still stand for no value: half of a surrogate pair,
or a number beyond the range of floats. They become the unusable value, so that
they do no harm where nobody looks at them. The same goes for a whole table one of
whose keys is such a text. -/
namespace Fusebox.Document.Json

open Fusebox.Text (isDigit valueOf word?)

/-- The text behind any blanks. -/
def skipBlanks (text : List Char) : List Char :=
  text.dropWhile fun c => c == ' ' || c == '\n' || c == '\t' || c == '\r'

/-- The code unit that four hexadecimal digits stand for, and what follows them. -/
def unit? : List Char → Option (Nat × List Char)
  | a :: b :: c :: d :: rest =>
    if [a, b, c, d].all (isDigit 16) then some (valueOf 16 [a, b, c, d], rest) else none
  | _ => none

/-- What the character behind a backslash stands for. -/
def escape? : Char → Option Char
  | '"' => some '"'
  | '\\' => some '\\'
  | '/' => some '/'
  | 'b' => some '\x08'
  | 'f' => some '\x0c'
  | 'n' => some '\n'
  | 'r' => some '\r'
  | 't' => some '\t'
  | _ => none

/-- One piece of a string. -/
inductive Piece where
  | char (c : Char)
  /-- A code unit given by number; two of them may form one character. -/
  | unit (code : Nat)

/-- The pieces of a string up to its closing quote, and what follows it. -/
def pieces? (fuel : Nat) (text : List Char) : Option (List Piece × List Char) :=
  match fuel, text with
  | _ + 1, '"' :: rest => some ([], rest)
  | fuel + 1, '\\' :: 'u' :: rest => do
    let (code, rest) ← unit? rest
    let (more, rest) ← pieces? fuel rest
    return (.unit code :: more, rest)
  | fuel + 1, '\\' :: c :: rest => do
    let c ← escape? c
    let (more, rest) ← pieces? fuel rest
    return (.char c :: more, rest)
  | fuel + 1, c :: rest =>
    if c.toNat < 0x20 then none
    else do
      let (more, rest) ← pieces? fuel rest
      return (.char c :: more, rest)
  | _, _ => none

/-- The characters of a string. A high surrogate needs a low one right behind it,
and the low one never stands alone. -/
def join? : List Piece → Option (List Char)
  | [] => some []
  | .char c :: rest => (join? rest).map (c :: ·)
  | .unit high :: .unit low :: rest =>
    if 0xD800 ≤ high ∧ high < 0xDC00 then
      if 0xDC00 ≤ low ∧ low < 0xE000 then
        (join? rest).map (Char.ofNat (0x10000 + (high - 0xD800) * 0x400 + (low - 0xDC00)) :: ·)
      else none
    else if 0xDC00 ≤ high ∧ high < 0xE000 then none
    else (join? (.unit low :: rest)).map (Char.ofNat high :: ·)
  | .unit code :: rest =>
    if 0xD800 ≤ code ∧ code < 0xE000 then none else (join? rest).map (Char.ofNat code :: ·)

/-- A string behind its opening quote. One whose pieces form no characters is unusable. -/
def string? (fuel : Nat) (text : List Char) : Option (Option String × List Char) := do
  let (pieces, rest) ← pieces? fuel text
  return ((join? pieces).map String.ofList, rest)

/-- The digits at the front of a text, and what follows them. -/
def digits (text : List Char) : List Char × List Char :=
  (text.takeWhile Char.isDigit, text.dropWhile Char.isDigit)

/-- A point and at least one digit, if there is a point. -/
def fraction? (text : List Char) : Option (Option (List Char) × List Char) :=
  match text with
  | '.' :: rest =>
    let (found, rest) := digits rest
    if found.isEmpty then none else some (some found, rest)
  | _ => some (none, text)

/-- An exponent with at least one digit, if there is one. -/
def exponent? (text : List Char) : Option (Option Int × List Char) :=
  match text with
  | mark :: rest =>
    if mark = 'e' ∨ mark = 'E' then
      let (sign, rest) :=
        match rest with
        | '-' :: rest => ((-1 : Int), rest)
        | '+' :: rest => (1, rest)
        | _ => (1, rest)
      let (found, rest) := digits rest
      if found.isEmpty then none
      else some (some (sign * (valueOf 10 found : Nat)), rest)
    else some (none, text)
  | [] => some (none, text)

/-- A number that has a fraction or an exponent, or that is too long for 64 bits. -/
def realValue (negative : Bool) (whole fraction : List Char) (exponent : Int) : Tree :=
  let value :=
    Decimal.signedNearest negative (valueOf 10 (whole ++ fraction))
      (exponent - fraction.length)
  if value.isInf then .unusable else .real value

/-- A number without fraction and exponent. Zero with a minus is not a whole number. -/
def wholeValue (negative : Bool) (whole : List Char) : Tree :=
  let value := valueOf 10 whole
  if negative then
    if value = 0 ∨ 0x8000000000000000 < value then realValue negative whole [] 0
    else .whole (-value)
  else if value < UInt64.size then .whole value
  else realValue negative whole [] 0

/-- A number behind its sign. Its whole part starts with zero only if it is zero. -/
def unsigned? (negative : Bool) (text : List Char) : Option (Tree × List Char) := do
  let (whole, rest) := digits text
  match whole with
  | [] => none
  | '0' :: _ :: _ => none
  | _ =>
    let (fraction, rest) ← fraction? rest
    let (exponent, rest) ← exponent? rest
    match fraction, exponent with
    | none, none => return (wholeValue negative whole, rest)
    | _, _ => return (realValue negative whole (fraction.getD []) (exponent.getD 0), rest)

/-- A number. -/
def number? (text : List Char) : Option (Tree × List Char) :=
  match text with
  | '-' :: rest => unsigned? true rest
  | _ => unsigned? false text

/-- A table, unless one of its keys is unusable. -/
def tableOf (entries : List (Option String × Tree)) : Tree :=
  match entries.mapM fun (key, value) => key.map (·, value) with
  | some entries => .table entries
  | none => .unusable

mutual

/-- A value at the front of a text, with no blanks before it. -/
def value? (fuel : Nat) (text : List Char) : Option (Tree × List Char) :=
  match fuel, text with
  | 0, _ => none
  | fuel + 1, '"' :: rest => do
    let (string, rest) ← string? fuel rest
    return (string.elim .unusable .text, rest)
  | fuel + 1, '[' :: rest =>
    match skipBlanks rest with
    | ']' :: rest => some (.list [], rest)
    | rest => do
      let (items, rest) ← items? fuel rest
      return (.list items, rest)
  | fuel + 1, '\x7b' :: rest =>
    match skipBlanks rest with
    | '\x7d' :: rest => some (.table [], rest)
    | rest => do
      let (entries, rest) ← entries? fuel rest
      return (tableOf entries, rest)
  | _ + 1, text =>
    ((word? ['n', 'u', 'l', 'l'] text).map (Tree.null, ·)) <|>
      ((word? ['t', 'r', 'u', 'e'] text).map (Tree.flag true, ·)) <|>
      ((word? ['f', 'a', 'l', 's', 'e'] text).map (Tree.flag false, ·)) <|>
      number? text

/-- The items of a list up to its closing bracket. -/
def items? (fuel : Nat) (text : List Char) : Option (List Tree × List Char) :=
  match fuel with
  | 0 => none
  | fuel + 1 => do
    let (item, rest) ← value? fuel text
    match skipBlanks rest with
    | ',' :: rest =>
      let (more, rest) ← items? fuel (skipBlanks rest)
      return (item :: more, rest)
    | ']' :: rest => return ([item], rest)
    | _ => none

/-- The entries of a table up to its closing brace. -/
def entries? (fuel : Nat) (text : List Char) :
    Option (List (Option String × Tree) × List Char) :=
  match fuel, text with
  | fuel + 1, '"' :: rest => do
    let (key, rest) ← string? fuel rest
    match skipBlanks rest with
    | ':' :: rest =>
      let (value, rest) ← value? fuel (skipBlanks rest)
      match skipBlanks rest with
      | ',' :: rest =>
        let (more, rest) ← entries? fuel (skipBlanks rest)
        return ((key, value) :: more, rest)
      | '\x7d' :: rest => return ([(key, value)], rest)
      | _ => none
    | _ => none
  | _, _ => none

end

/-- The value that a text is, with nothing but blanks around it. -/
def parse? (text : String) : Option Tree := do
  let chars := text.toList
  -- No step goes more than two levels deeper for each character that it takes.
  let (value, rest) ← value? (2 * chars.length + 2) (skipBlanks chars)
  if (skipBlanks rest).isEmpty then some value else none

end Fusebox.Document.Json
