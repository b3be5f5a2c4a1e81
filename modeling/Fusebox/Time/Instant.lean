import Fusebox.Time.Duration

/-! Points in time on one clock. An instant counts nanoseconds from the clock's
reference point and reaches 2^63 seconds to either side of it; moving an instant
past that range has no answer. -/
namespace Fusebox

/-- A point in time, in nanoseconds from the clock's reference point. -/
structure Instant where
  nanos : Int
  in_range : -(0x8000000000000000 * 1000000000) ≤ nanos ∧ nanos < 0x8000000000000000 * 1000000000
deriving DecidableEq

namespace Instant

/-- The reference point itself; for wall clocks, the epoch. -/
def reference : Instant := ⟨0, by decide⟩

instance : Inhabited Instant := ⟨reference⟩

instance : LE Instant := ⟨fun earlier later => earlier.nanos ≤ later.nanos⟩
instance : LT Instant := ⟨fun earlier later => earlier.nanos < later.nanos⟩
instance (earlier later : Instant) : Decidable (earlier ≤ later) :=
  inferInstanceAs (Decidable (earlier.nanos ≤ later.nanos))
instance (earlier later : Instant) : Decidable (earlier < later) :=
  inferInstanceAs (Decidable (earlier.nanos < later.nanos))

/-- Two instants are equal as soon as their nanoseconds are. -/
theorem eq_of_nanos : ∀ {first second : Instant}, first.nanos = second.nanos → first = second
  | ⟨_, _⟩, ⟨_, _⟩, rfl => rfl

/-- The instant that many nanoseconds from the reference point, if it is in range. -/
def ofNanos? (nanos : Int) : Option Instant :=
  if fits : -(0x8000000000000000 * 1000000000) ≤ nanos ∧
      nanos < 0x8000000000000000 * 1000000000 then some ⟨nanos, fits⟩
  else none

/-- Later by a duration, if that is still in range. -/
def add? (at_ : Instant) (by_ : Duration) : Option Instant := ofNanos? (at_.nanos + by_.nanos)

/-- Earlier by a duration, if that is still in range. -/
def sub? (at_ : Instant) (by_ : Duration) : Option Instant := ofNanos? (at_.nanos - by_.nanos)

/-- An instant is found exactly where its own nanoseconds point. -/
theorem ofNanos?_eq_some_iff {nanos : Int} {found : Instant} :
    ofNanos? nanos = some found ↔ found.nanos = nanos := by
  unfold ofNanos?
  split
  · constructor
    · intro same
      cases same
      rfl
    · intro same
      exact congrArg some (eq_of_nanos same.symm)
  · constructor
    · intro same
      cases same
    · intro same
      have := found.in_range
      omega

/-- Whole milliseconds since the epoch (`unix_millis`): zero before it, and only the lowest
64 bits. -/
def unixMillis (wall : Instant) : UInt64 := (wall.nanos.toNat / 1000000).toUInt64

end Instant
end Fusebox
