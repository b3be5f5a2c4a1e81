/-! Lengths of time, kept as one exact number of nanoseconds below 2^64 seconds.
Addition either gives the exact sum or refuses; it never wraps or rounds. The
split into whole seconds and a rest below one second is a view of that number. -/
namespace Fusebox

/-- A length of time in whole nanoseconds. The largest one is a nanosecond short
of 2^64 seconds. -/
structure Duration where
  nanos : Nat
  nanos_lt : nanos < 0x10000000000000000 * 1000000000
deriving DecidableEq

namespace Duration

/-- No time at all. -/
def zero : Duration := ⟨0, by decide⟩

instance : Inhabited Duration := ⟨zero⟩

instance : LE Duration := ⟨fun shorter longer => shorter.nanos ≤ longer.nanos⟩
instance : LT Duration := ⟨fun shorter longer => shorter.nanos < longer.nanos⟩
instance (shorter longer : Duration) : Decidable (shorter ≤ longer) :=
  inferInstanceAs (Decidable (shorter.nanos ≤ longer.nanos))
instance (shorter longer : Duration) : Decidable (shorter < longer) :=
  inferInstanceAs (Decidable (shorter.nanos < longer.nanos))

/-- Two durations are equal as soon as their nanoseconds are. -/
theorem eq_of_nanos : ∀ {first second : Duration}, first.nanos = second.nanos → first = second
  | ⟨_, _⟩, ⟨_, _⟩, rfl => rfl

/-- Whether no time passes. -/
def isZero (d : Duration) : Bool := d.nanos == 0

/-- Whole seconds. -/
def seconds (d : Duration) : Nat := d.nanos / 1000000000

/-- Nanoseconds past the last whole second. -/
def subsecond (d : Duration) : Nat := d.nanos % 1000000000

/-- Whole milliseconds, the rest dropped. -/
def millis (d : Duration) : Nat := d.nanos / 1000000

/-- Any 64-bit number of seconds is a duration. -/
def ofSeconds (seconds : UInt64) : Duration :=
  ⟨seconds.toNat * 1000000000, by have := seconds.toNat_lt; omega⟩

/-- Any 64-bit number of milliseconds is a duration. -/
def ofMillis (millis : UInt64) : Duration :=
  ⟨millis.toNat * 1000000, by have := millis.toNat_lt; omega⟩

/-- Seconds and a rest of less than one second. -/
def ofParts? (seconds : UInt64) (rest : Nat) : Option Duration :=
  if small : rest < 1000000000 then
    some ⟨seconds.toNat * 1000000000 + rest, by have := seconds.toNat_lt; omega⟩
  else none

/-- The exact sum, unless it passes the longest duration. -/
def add? (first second : Duration) : Option Duration :=
  if fits : first.nanos + second.nanos < 0x10000000000000000 * 1000000000 then
    some ⟨first.nanos + second.nanos, fits⟩
  else none

/-- What addition returns is the exact sum, and it refuses only sums that do not fit. -/
theorem add?_eq_some_iff {first second sum : Duration} :
    first.add? second = some sum ↔ sum.nanos = first.nanos + second.nanos := by
  unfold add?
  split
  · constructor
    · intro same
      cases same
      rfl
    · intro same
      exact congrArg some (eq_of_nanos same.symm)
  · constructor
    · intro same
      cases same
    · intro same
      have := sum.nanos_lt
      omega

/-- Millisecond settings survive the way into a duration and back. -/
theorem millis_ofMillis (millis : UInt64) : (ofMillis millis).millis = millis.toNat := by
  simp [ofMillis, Duration.millis]

/-- `value` with at least `width` digits, zeros in front. -/
def padded (width value : Nat) : List Char :=
  let digits := Nat.toDigits 10 value
  List.replicate (width - digits.length) '0' ++ digits

/-- A whole part and a fraction of `width` digits whose trailing zeros are cut;
without a fraction there is no point either. -/
def fractional (whole rest width : Nat) : List Char :=
  let fraction := ((padded width rest).reverse.dropWhile (· == '0')).reverse
  Nat.toDigits 10 whole ++ if fraction.isEmpty then [] else '.' :: fraction

/-- Durations are written in the largest of s, ms, µs and ns that leaves a whole
part above zero, with as many fraction digits as needed. -/
def text (d : Duration) : String :=
  let (digits, unit) :=
    if d.seconds > 0 then (fractional d.seconds d.subsecond 9, "s")
    else if d.nanos ≥ 1000000 then (fractional (d.nanos / 1000000) (d.nanos % 1000000) 6, "ms")
    else if d.nanos ≥ 1000 then (fractional (d.nanos / 1000) (d.nanos % 1000) 3, "µs")
    else (fractional d.nanos 0 0, "ns")
  String.ofList digits ++ unit

end Duration
end Fusebox
