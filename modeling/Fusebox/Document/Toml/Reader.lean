import Fusebox.Document.Toml.Draft
import Fusebox.Document.Toml.Scalar

/-! TOML documents read into trees. Values nest less than eighty deep, and keys have
less than eighty parts. -/
namespace Fusebox.Document.Toml

open Fusebox.Text (skip? word?)

/-- Where nesting ends. -/
def depthLimit : Nat := 80

/-- Characters of a key without quotes. -/
def isBare (c : Char) : Bool := c.isAlphanum || c == '-' || c == '_'

/-- One part of a key. -/
def part? (text : List Char) : Option (String × List Char) :=
  match text with
  | '"' :: _ | '\'' :: _ => shortString? text
  | _ =>
    let found := text.takeWhile isBare
    if found.isEmpty then none else some (String.ofList found, text.dropWhile isBare)

/-- The parts of a key with dots and blanks between them. -/
def parts? (fuel : Nat) (text : List Char) : Option (List String × List Char) :=
  match fuel with
  | 0 => none
  | fuel + 1 => do
    let (part, rest) ← part? (skipBlanks text)
    match skipBlanks rest with
    | '.' :: rest =>
      let (more, rest) ← parts? fuel rest
      return (part :: more, rest)
    | rest => return ([part], rest)

/-- A key, with the blanks around it. -/
def key? (text : List Char) : Option (List String × List Char) := do
  let (parts, rest) ← parts? depthLimit text
  if parts.length < depthLimit then some (parts, rest) else none

/-- A value that holds no other values. -/
def scalar? (text : List Char) : Option (Tree × List Char) :=
  match text with
  | '"' :: _ | '\'' :: _ => (string? text).map fun (found, rest) => (.text found, rest)
  | 't' :: _ => (word? ['t', 'r', 'u', 'e'] text).map (Tree.flag true, ·)
  | 'f' :: _ => (word? ['f', 'a', 'l', 's', 'e'] text).map (Tree.flag false, ·)
  | _ => moment? text <|> real? text <|> special? text <|> integer? text

mutual

/-- A value at the front of a text, `depth` levels down. -/
def value? (fuel depth : Nat) (text : List Char) : Option (Tree × List Char) :=
  match fuel, text with
  | 0, _ => none
  | fuel + 1, '[' :: rest =>
    if depth + 1 < depthLimit then do
      let (items, rest) ← items? fuel (depth + 1) rest
      return (.list items, rest)
    else none
  | fuel + 1, '\x7b' :: rest =>
    if depth + 1 < depthLimit then
      match skipBlanks rest with
      | '\x7d' :: rest => some (.table [], rest)
      | rest => do
        let (pairs, rest) ← pairs? fuel (depth + 1) rest
        return (← inlineTable pairs, rest)
    else none
  | _ + 1, text => scalar? text

/-- The items of a list up to its closing bracket. They may stand on several lines,
and a comma may follow the last one. -/
def items? (fuel depth : Nat) (text : List Char) : Option (List Tree × List Char) :=
  match fuel with
  | 0 => none
  | fuel + 1 =>
    match skipLines text.length text with
    | ']' :: rest => some ([], rest)
    | text => do
      let (item, rest) ← value? fuel depth text
      match skipLines rest.length rest with
      | ',' :: rest =>
        let (more, rest) ← items? fuel depth rest
        return (item :: more, rest)
      | ']' :: rest => return ([item], rest)
      | _ => none

/-- The keys and values of an inline table up to its closing brace. They stand on
one line, and no comma follows the last one. -/
def pairs? (fuel depth : Nat) (text : List Char) :
    Option (List (List String × String × Tree) × List Char) :=
  match fuel with
  | 0 => none
  | fuel + 1 => do
    let (parts, rest) ← key? text
    let rest ← skip? '=' rest
    let (value, rest) ← value? fuel depth (skipBlanks rest)
    let pair := (parts.dropLast, ← parts.getLast?, value)
    match skipBlanks rest with
    | ',' :: rest =>
      let (more, rest) ← pairs? fuel depth rest
      return (pair :: more, rest)
    | '\x7d' :: rest => return ([pair], rest)
    | _ => none

end

/-- Reads one line that gives a value to a key; the value may go on over several. -/
def assignment? (draft : Draft) (text : List Char) : Option (Draft × List Char) := do
  let (parts, rest) ← key? text
  let rest ← skip? '=' rest
  let (value, rest) ← value? (2 * text.length + 2) 0 (skipBlanks rest)
  let rest ← lineEnd? rest
  let current ← assign parts.dropLast (← parts.getLast?) value draft.current
  return ({ draft with current }, rest)

/-- Reads the header of a table. -/
def header? (draft : Draft) (text : List Char) : Option (Draft × List Char) := do
  let (parts, rest) ← key? text
  let rest ← lineEnd? (← skip? ']' rest)
  return (← draft.beginTable parts, rest)

/-- Reads the header of one of several tables with the same name. -/
def repeatedHeader? (draft : Draft) (text : List Char) : Option (Draft × List Char) := do
  let (parts, rest) ← key? text
  let rest ← lineEnd? (← skip? ']' (← skip? ']' rest))
  return (← draft.beginRepeated parts, rest)

/-- Reads one line of a document. -/
def line (draft : Draft) (text : List Char) : Option (Draft × List Char) :=
  match text with
  | '[' :: '[' :: rest => repeatedHeader? draft rest
  | '[' :: rest => header? draft rest
  | '#' :: _ | '\n' :: _ | '\r' :: _ => (lineEnd? text).map (draft, ·)
  | _ => assignment? draft text

/-- Reads lines until there are none left. -/
def lines? (fuel : Nat) (draft : Draft) (text : List Char) : Option Draft :=
  match fuel, skipBlanks text with
  | _, [] => some draft
  | 0, _ => none
  | fuel + 1, text => do
    let (draft, rest) ← line draft text
    lines? fuel draft rest

/-- The document that a text is. A byte order mark in front is skipped. -/
def parse? (text : String) : Option Tree := do
  let chars :=
    match text.toList with
    | '\uFEFF' :: rest => rest
    | chars => chars
  let draft ← lines? chars.length {} chars
  return .table (entryTrees (← draft.close))

end Fusebox.Document.Toml
