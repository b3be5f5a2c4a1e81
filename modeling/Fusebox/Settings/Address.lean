import Fusebox.Text.Front

/-! Network addresses with a port, in the two numeric forms: four decimal octets, or
eight groups of hexadecimal digits in brackets, of which one run of zero groups may
be left out. Names of hosts are not addresses, and nothing around an address is
skipped. -/
namespace Fusebox

/-- An address that can be listened on. -/
inductive SocketAddress where
  | four (octets : List Nat) (port : Nat)
  | six (groups : List Nat) (scope port : Nat)
deriving DecidableEq

namespace SocketAddress

open Fusebox.Text (isDigit valueOf skip?)

/-- A number from the front of a text, below `limit` and of at most `width` digits. -/
def number? (radix width limit : Nat) (text : List Char) : Option (Nat × List Char) :=
  let found := text.takeWhile (isDigit radix)
  let value := valueOf radix found
  if found.isEmpty || width < found.length || limit ≤ value then none
  else some (value, text.dropWhile (isDigit radix))

/-- One octet. A zero stands in front of nothing. -/
def octet? (text : List Char) : Option (Nat × List Char) :=
  match text with
  | '0' :: next :: _ => if isDigit 10 next then none else number? 10 3 256 text
  | _ => number? 10 3 256 text

/-- Four octets with dots between them. -/
def octets? (text : List Char) : Option (List Nat × List Char) := do
  let (first, rest) ← octet? text
  let (second, rest) ← octet? (← skip? '.' rest)
  let (third, rest) ← octet? (← skip? '.' rest)
  let (fourth, rest) ← octet? (← skip? '.' rest)
  return ([first, second, third, fourth], rest)

/-- A number of any length below `limit`. -/
def longNumber? (limit : Nat) (text : List Char) : Option (Nat × List Char) :=
  number? 10 text.length limit text

/-- A colon and the port behind it. -/
def port? (text : List Char) : Option (Nat × List Char) := do
  longNumber? UInt16.size (← skip? ':' text)

/-- Up to `left` groups with colons between them. The last two may be written as
four octets instead, which is told in the second part of the answer. -/
def groups (left : Nat) (first : Bool) (text : List Char) : List Nat × Bool × List Char :=
  match left with
  | 0 => ([], false, text)
  | left + 1 =>
    let here := if first then some text else skip? ':' text
    let dotted := if left = 0 then none else here.bind octets?
    match dotted with
    | some ([a, b, c, d], rest) => ([a * 256 + b, c * 256 + d], true, rest)
    | _ =>
      match here.bind (number? 16 4 UInt16.size) with
      | none => ([], false, text)
      | some (group, rest) =>
        let (more, ended, rest) := groups left false rest
        (group :: more, ended, rest)

/-- Eight groups. Two colons stand for one or more groups of zero. -/
def eightGroups? (text : List Char) : Option (List Nat × List Char) := do
  let (head, dotted, rest) := groups 8 true text
  if head.length = 8 then return (head, rest)
  if dotted then none
  let rest ← skip? ':' (← skip? ':' rest)
  let (tail, _, rest) := groups (7 - head.length) true rest
  return (head ++ List.replicate (8 - head.length - tail.length) 0 ++ tail, rest)

/-- A percent sign and the number of a scope behind it; none means zero. -/
def scope (text : List Char) : Nat × List Char :=
  ((skip? '%' text).bind (longNumber? UInt32.size)).getD (0, text)

/-- Four octets and a port. -/
def four? (text : List Char) : Option (SocketAddress × List Char) := do
  let (octets, rest) ← octets? text
  let (port, rest) ← port? rest
  return (.four octets port, rest)

/-- Eight groups in brackets, perhaps with a scope, and a port. -/
def six? (text : List Char) : Option (SocketAddress × List Char) := do
  let (groups, rest) ← eightGroups? (← skip? '[' text)
  let (scope, rest) := scope rest
  let (port, rest) ← port? (← skip? ']' rest)
  return (.six groups scope port, rest)

/-- The address that a text is, if it is one from its first to its last character. -/
def parse? (text : String) : Option SocketAddress :=
  match four? text.toList <|> six? text.toList with
  | some (address, []) => some address
  | _ => none

end SocketAddress
end Fusebox
