import Fusebox.Decimal.Nearest
import Fusebox.Document.Tree
import Fusebox.Text.Front

/-! The smallest parts of a TOML document: blanks and comments, strings, numbers and
dates. Every reader looks at the front of a text and gives back what follows. -/
namespace Fusebox.Document.Toml

open Fusebox.Text (isDigit valueOf skip?)

/-- The text behind blanks on the same line. -/
def skipBlanks (text : List Char) : List Char := text.dropWhile fun c => c == ' ' || c == '\t'

/-- The text behind the end of a line. -/
def newline? : List Char → Option (List Char)
  | '\n' :: rest => some rest
  | '\r' :: '\n' :: rest => some rest
  | _ => none

/-- The text behind blanks and ends of lines. -/
def skipBreaks : List Char → List Char
  | ' ' :: rest | '\t' :: rest | '\n' :: rest | '\r' :: '\n' :: rest => skipBreaks rest
  | text => text

/-- Characters that may stand in comments and strings: all but the controls, of which
only the tab is allowed. -/
def isPrintable (c : Char) : Bool := c == '\t' || (0x20 ≤ c.toNat && c.toNat != 0x7F)

/-- The text behind a comment, if there is one. -/
def skipComment (text : List Char) : List Char :=
  match text with
  | '#' :: rest => rest.dropWhile isPrintable
  | _ => text

/-- The text behind the rest of a line, which holds nothing but blanks and a comment. -/
def lineEnd? (text : List Char) : Option (List Char) :=
  match skipComment (skipBlanks text) with
  | [] => some []
  | rest => newline? rest

/-- The text behind blanks, comments and ends of lines. -/
def skipLines (fuel : Nat) (text : List Char) : List Char :=
  match fuel with
  | 0 => text
  | fuel + 1 =>
    match newline? (skipComment (skipBlanks text)) with
    | some rest => skipLines fuel rest
    | none => skipBlanks text

/-! ### Strings -/

/-- The character with the number that `count` hexadecimal digits give. -/
def numbered? (count : Nat) (text : List Char) : Option (Char × List Char) := do
  let digits := text.take count
  if digits.length ≠ count || !digits.all (isDigit 16) then none
  let code := valueOf 16 digits
  if code.isValidChar then some (Char.ofNat code, text.drop count) else none

/-- The character that an escape stands for, behind its backslash. -/
def escape? (text : List Char) : Option (Char × List Char) :=
  match text with
  | 'b' :: rest => some ('\x08', rest)
  | 't' :: rest => some ('\t', rest)
  | 'n' :: rest => some ('\n', rest)
  | 'f' :: rest => some ('\x0c', rest)
  | 'r' :: rest => some ('\r', rest)
  | '"' :: rest => some ('"', rest)
  | '\\' :: rest => some ('\\', rest)
  | 'u' :: rest => numbered? 4 rest
  | 'U' :: rest => numbered? 8 rest
  | _ => none

/-- The characters of a string up to its closing quote, `escapes` telling whether
backslashes are special. -/
def line? (quote : Char) (escapes : Bool) (fuel : Nat) (text : List Char) :
    Option (List Char × List Char) :=
  match fuel, text with
  | fuel + 1, c :: rest =>
    if c = quote then some ([], rest)
    else if escapes && c == '\\' then do
      let (c, rest) ← escape? rest
      let (more, rest) ← line? quote escapes fuel rest
      return (c :: more, rest)
    else if isPrintable c then do
      let (more, rest) ← line? quote escapes fuel rest
      return (c :: more, rest)
    else none
  | _, _ => none

/-- The characters of a string over several lines up to its three closing quotes. Up
to two more quotes in front of those belong to the string. A backslash at the end of
a line takes away all blanks and ends of lines that follow. -/
def block? (quote : Char) (escapes : Bool) (fuel : Nat) (text : List Char) :
    Option (List Char × List Char) :=
  match fuel, text with
  | fuel + 1, c :: rest =>
    if c = quote then
      let run := (text.takeWhile (· == quote)).length
      if run < 3 then do
        let (more, rest) ← block? quote escapes fuel (text.drop run)
        return (List.replicate run quote ++ more, rest)
      else
        let inside := min (run - 3) 2
        some (List.replicate inside quote, text.drop (inside + 3))
    else if escapes && c == '\\' then
      match newline? (skipBlanks rest) with
      | some rest => block? quote escapes fuel (skipBreaks rest)
      | none => do
        let (c, rest) ← escape? rest
        let (more, rest) ← block? quote escapes fuel rest
        return (c :: more, rest)
    else
      match newline? text with
      | some rest => do
        let (more, rest) ← block? quote escapes fuel rest
        return ('\n' :: more, rest)
      | none =>
        if isPrintable c then do
          let (more, rest) ← block? quote escapes fuel rest
          return (c :: more, rest)
        else none
  | _, _ => none

/-- A string on one line, if the text starts with a quote. -/
def shortString? (text : List Char) : Option (String × List Char) := do
  let (chars, rest) ←
    match text with
    | '"' :: rest => line? '"' true text.length rest
    | '\'' :: rest => line? '\'' false text.length rest
    | _ => none
  return (String.ofList chars, rest)

/-- Any string. An end of line right behind three opening quotes is dropped. -/
def string? (text : List Char) : Option (String × List Char) :=
  let body (rest : List Char) := (newline? rest).getD rest
  match text with
  | '"' :: '"' :: '"' :: rest => do
    let (chars, rest) ← block? '"' true text.length (body rest)
    return (String.ofList chars, rest)
  | '\'' :: '\'' :: '\'' :: rest => do
    let (chars, rest) ← block? '\'' false text.length (body rest)
    return (String.ofList chars, rest)
  | _ => shortString? text

/-! ### Numbers -/

/-- Digits with single underscores between them, the underscores left out. -/
def digits (base : Nat) (fuel : Nat) (text : List Char) : List Char × List Char :=
  match fuel, text with
  | fuel + 1, '_' :: c :: rest =>
    if isDigit base c then
      let (more, rest) := digits base fuel rest
      (c :: more, rest)
    else ([], text)
  | fuel + 1, c :: rest =>
    if isDigit base c then
      let (more, rest) := digits base fuel rest
      (c :: more, rest)
    else ([], text)
  | _, _ => ([], text)

/-- Digits of which the first stands alone in front. -/
def someDigits? (base : Nat) (text : List Char) : Option (List Char × List Char) :=
  match text with
  | c :: _ =>
    if isDigit base c then some (digits base text.length text) else none
  | [] => none

/-- A sign, if there is one, and whether it is a minus. -/
def sign (text : List Char) : Bool × List Char :=
  match text with
  | '+' :: rest => (false, rest)
  | '-' :: rest => (true, rest)
  | _ => (false, text)

/-- Decimal digits that start with zero only if they are zero. -/
def whole? (text : List Char) : Option (List Char × List Char) :=
  match text with
  | '0' :: rest => some (['0'], rest)
  | _ => someDigits? 10 text

/-- How many numbers of 64 bits with a sign are not negative. -/
def signedSize : Nat := 0x8000000000000000

/-- A whole number in the range of 64 bits with a sign. -/
def integer? (text : List Char) : Option (Tree × List Char) :=
  let based (base : Nat) (rest : List Char) : Option (Tree × List Char) := do
    let (found, rest) ← someDigits? base rest
    let value := valueOf base found
    if value < signedSize then some (.whole value, rest) else none
  match text with
  | '0' :: 'x' :: rest => based 16 rest
  | '0' :: 'o' :: rest => based 8 rest
  | '0' :: 'b' :: rest => based 2 rest
  | _ => do
    let (negative, rest) := sign text
    let (found, rest) ← whole? rest
    let value := valueOf 10 found
    if negative then if value ≤ signedSize then some (.whole (-value), rest) else none
    else if value < signedSize then some (.whole value, rest)
    else none

/-- A point and digits behind it. -/
def fraction? : List Char → Option (List Char × List Char)
  | '.' :: rest => someDigits? 10 rest
  | _ => none

/-- The mark of an exponent and the exponent behind it. -/
def exponent? : List Char → Option (Int × List Char)
  | mark :: rest =>
    if mark = 'e' ∨ mark = 'E' then do
      let (negative, rest) := sign rest
      let (found, rest) ← someDigits? 10 rest
      let value : Int := valueOf 10 found
      return (if negative then -value else value, rest)
    else none
  | [] => none

/-- A number with a fraction, an exponent, or both. Numbers too large for a float are
refused; those too far below zero are taken for minus infinity. -/
def real? (text : List Char) : Option (Tree × List Char) := do
  let (negative, rest) := sign text
  let (whole, rest) ← whole? rest
  let (fraction, rest) := (fraction? rest).getD ([], rest)
  let (exponent, rest) ←
    match exponent? rest with
    | some found => some found
    | none => if fraction.isEmpty then none else some (0, rest)
  let value :=
    Decimal.signedNearest negative (valueOf 10 (whole ++ fraction)) (exponent - fraction.length)
  if value.isInf && !negative then none else some (.real value, rest)

/-- Infinity, or what is not a number. -/
def special? (text : List Char) : Option (Tree × List Char) :=
  let (negative, rest) := sign text
  match rest with
  | 'i' :: 'n' :: 'f' :: rest => some (.real (if negative then -1 / 0 else 1 / 0), rest)
  | 'n' :: 'a' :: 'n' :: rest => some (.real (0 / 0), rest)
  | _ => none

/-! ### Dates and times -/

/-- A number of exactly `count` digits within bounds. -/
def field? (count least most : Nat) (text : List Char) : Option (Nat × List Char) :=
  let found := text.take count
  let value := valueOf 10 found
  if found.length = count && found.all Char.isDigit && least ≤ value && value ≤ most then
    some (value, text.drop count)
  else none

/-- How many days a month has. -/
def daysIn (year month : Nat) : Nat :=
  if month = 2 then if year % 4 = 0 && (year % 100 != 0 || year % 400 = 0) then 29 else 28
  else if month = 4 || month = 6 || month = 9 || month = 11 then 30
  else 31

/-- The text behind a day of the calendar. -/
def date? (text : List Char) : Option (List Char) := do
  let (year, rest) ← field? 4 0 9999 text
  let (month, rest) ← field? 2 1 12 (← skip? '-' rest)
  let (_, rest) ← field? 2 1 (daysIn year month) (← skip? '-' rest)
  return rest

/-- The text behind a time of day. The seconds may have a fraction, and a minute may
have a leap second. -/
def time? (text : List Char) : Option (List Char) := do
  let (_, rest) ← field? 2 0 23 text
  let (_, rest) ← field? 2 0 59 (← skip? ':' rest)
  let (_, rest) ← field? 2 0 60 (← skip? ':' rest)
  match rest with
  | '.' :: c :: more => return if c.isDigit then more.dropWhile Char.isDigit else rest
  | _ => return rest

/-- The text behind the distance from universal time. -/
def zone? (text : List Char) : Option (List Char) := do
  match text with
  | 'Z' :: rest | 'z' :: rest => return rest
  | '+' :: rest | '-' :: rest =>
    let (_, rest) ← field? 2 0 23 rest
    let (_, rest) ← field? 2 0 59 (← skip? ':' rest)
    return rest
  | _ => none

/-- A date, a time of day, or a date with a time of day and perhaps a zone. -/
def moment? (text : List Char) : Option (Tree × List Char) := do
  let timed (rest : List Char) : List Char := (zone? rest).getD rest
  let rest ←
    match date? text with
    | some rest =>
      match rest with
      | 'T' :: more | 't' :: more | ' ' :: more => some (((time? more).map timed).getD rest)
      | _ => some rest
    | none => time? text
  return (.moment (String.ofList (text.take (text.length - rest.length))), rest)

end Fusebox.Document.Toml
