/-! Abrupt endings. An operation that cannot go on ends with a cause, and the
cause has one fixed text. -/
namespace Fusebox

/-- Why an operation ended without an answer. -/
inductive Crash where
  /-- Two durations add up to more than the longest one. -/
  | durationRange
  /-- A monotonic clock would have to show an instant after the last one. -/
  | instantRange
  /-- A wall clock would have to show an instant after the last one. -/
  | wallRange
  /-- A wall clock would have to show an instant before the first one. -/
  | wallFloor
  /-- A text would have to be cut inside a character. -/
  | tornText
  /-- The guarded operation itself crashed with this text. -/
  | operation (text : String)
deriving DecidableEq

/-- The text an abrupt ending is reported with. -/
def Crash.message : Crash → String
  | .durationRange => "overflow when adding durations"
  | .instantRange => "overflow when adding duration to instant"
  | .wallRange => "overflow when adding duration to \x60SystemTime\x60"
  | .wallFloor => "overflow when subtracting duration from \x60SystemTime\x60"
  | .tornText => "position is not between two characters"
  | .operation text => text

end Fusebox
