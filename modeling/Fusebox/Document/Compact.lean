import Fusebox.Decimal.Layout
import Fusebox.Document.Tree

/-! Trees written as JSON on one line, without any blanks. -/
namespace Fusebox.Document

/-- One character of a JSON string. Only quotes, backslashes and the 32 control
characters are escaped, five of them by a letter. -/
def jsonChar (c : Char) : List Char :=
  match c with
  | '"' => ['\\', '"']
  | '\\' => ['\\', '\\']
  | '\n' => ['\\', 'n']
  | '\r' => ['\\', 'r']
  | '\t' => ['\\', 't']
  | '\x08' => ['\\', 'b']
  | '\x0c' => ['\\', 'f']
  | _ =>
    if c.toNat < 0x20 then
      ['\\', 'u', '0', '0', Nat.digitChar (c.toNat / 16), Nat.digitChar (c.toNat % 16)]
    else [c]

/-- A JSON string. -/
def jsonText (text : String) : String :=
  String.ofList ('"' :: text.toList.flatMap jsonChar ++ ['"'])

mutual

/-- A tree on one line. What JSON has no value for is written as null. -/
def compact : Tree → String
  | .null | .unusable => "null"
  | .flag value => if value then "true" else "false"
  | .whole number => toString number
  | .real number =>
    if number.isNaN || number.isInf then "null" else Decimal.Layout.tagged.float number
  | .text text | .moment text => jsonText text
  | .list items => "[" ++ ",".intercalate (compactItems items) ++ "]"
  | .table entries => "\x7b" ++ ",".intercalate (compactEntries entries) ++ "\x7d"

/-- The items of a list, each on its own. -/
def compactItems : List Tree → List String
  | [] => []
  | item :: rest => compact item :: compactItems rest

/-- The entries of a table, each with its key. -/
def compactEntries : List (String × Tree) → List String
  | [] => []
  | (key, value) :: rest => (jsonText key ++ ":" ++ compact value) :: compactEntries rest

end

end Fusebox.Document
