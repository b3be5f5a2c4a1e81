import Fusebox.Journal.Event
import Fusebox.Text.Front

/-! How much of the log is shown. A verbosity is written as a word, in capitals or
not, or as its number. -/
namespace Fusebox

/-- How talkative a target may be, from nothing at all to everything. -/
inductive Verbosity where
  | off
  | upTo (level : Level)
deriving DecidableEq

namespace Verbosity

/-- Whether events of a level are shown. -/
def shows : Verbosity → Level → Bool
  | .off, _ => false
  | .upTo least, level => decide (least.severity ≤ level.severity)

/-- The verbosity that a number stands for. -/
def ofNumber? : Nat → Option Verbosity
  | 0 => some .off
  | 1 => some (.upTo .error)
  | 2 => some (.upTo .warn)
  | 3 => some (.upTo .info)
  | 4 => some (.upTo .debug)
  | 5 => some (.upTo .trace)
  | _ => none

/-- The verbosity that a word stands for, in capitals or not. -/
def ofWord? (word : List Char) : Option Verbosity :=
  [("off", 0), ("error", 1), ("warn", 2), ("info", 3), ("debug", 4), ("trace", 5)].findSome?
    fun (known, number) =>
      if known.toList == word.map Char.toLower then ofNumber? number else none

/-- The number that digits stand for, a plus in front being allowed. -/
def number? (text : List Char) : Option Nat :=
  let digits := match text with
    | '+' :: rest => rest
    | _ => text
  if digits.isEmpty || !digits.all Char.isDigit then none
  else some (Text.valueOf 10 digits)

/-- The verbosity that a text stands for, which is a number or a word. -/
def parse? (text : List Char) : Option Verbosity :=
  match number? text with
  | some number => ofNumber? number
  | none => ofWord? text

end Verbosity
end Fusebox
