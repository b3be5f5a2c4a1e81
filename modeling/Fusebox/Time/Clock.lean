import Fusebox.Crash
import Fusebox.Time.Instant

/-! Clocks and what they show. A manual clock stands still until it is advanced;
its monotonic and its wall time move together by the same offset. Each of the two
is readable only while it stays in range, and they may leave their range at
different offsets. -/
namespace Fusebox

/-- What an operation sees of the clocks: `Clock::now` and `Clock::system_now` at one moment.
A clock past its range shows nothing. -/
structure Reading where
  now : Option Instant
  wall : Option Instant
deriving DecidableEq

/-- A clock that only moves when told to (`ManualClock`). -/
structure ManualClock where
  /-- Where monotonic time starts. -/
  start : Instant
  /-- Where wall time starts. -/
  wallStart : Instant
  /-- How far both have moved since. -/
  offset : Duration
deriving DecidableEq

namespace ManualClock

/-- A clock frozen at its two starting points (`ManualClock::new`). -/
def frozenAt (start wallStart : Instant) : ManualClock := ⟨start, wallStart, .zero⟩

/-- Moves both times forward (`ManualClock::advance`). An offset too long for a duration
changes nothing. -/
def advance (clock : ManualClock) (by_ : Duration) : Except Crash ManualClock :=
  match clock.offset.add? by_ with
  | some offset => .ok { clock with offset }
  | none => .error .durationRange

/-- What both times show at present (`ManualClock::now`, `ManualClock::system_now`). -/
def reading (clock : ManualClock) : Reading :=
  ⟨clock.start.add? clock.offset, clock.wallStart.add? clock.offset⟩

end ManualClock
end Fusebox
