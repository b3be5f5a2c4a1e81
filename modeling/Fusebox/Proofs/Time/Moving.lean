import Fusebox.Time.Clock
import Mathlib.Algebra.GroupWithZero.Nat

/-! How far a clock has been moved. Durations add up exactly, with the carry from the nanoseconds to
the seconds, until the sum passes the longest one. The two times of a clock are its starting points
moved by the same offset, so each of them shows how much was added to it since it was last read,
and neither goes back. -/
namespace Fusebox

namespace Duration

/-- The largest number of seconds, and a nanosecond less than another one. -/
def longest : Duration := ⟨0xFFFFFFFFFFFFFFFF * 1000000000 + 999999999, by decide⟩

/-- The nanoseconds of durations that follow each other. -/
def total (moves : List Duration) : Nat := (moves.map nanos).sum

/-- Nanoseconds are added to nanoseconds, and a second that they make is carried over. -/
structure Carries (first second sum : Duration) : Prop where
  seconds : sum.seconds =
    first.seconds + second.seconds + (first.subsecond + second.subsecond) / 1000000000
  subsecond : sum.subsecond = (first.subsecond + second.subsecond) % 1000000000

variable {first second sum : Duration}

/-- To carry is no more than to add. -/
theorem carries_iff : Carries first second sum ↔ sum.nanos = first.nanos + second.nanos := by
  constructor
  · rintro ⟨whole, rest⟩
    simp only [seconds, subsecond] at whole rest
    omega
  · intro same
    constructor
    · simp only [seconds, subsecond]
      omega
    · simp only [subsecond]
      omega

/-- Only sums past the longest duration are refused. -/
theorem add?_eq_none_iff :
    first.add? second = none ↔ longest.nanos < first.nanos + second.nanos := by
  unfold add?
  split
  · exact iff_of_false (by simp) (by simp only [longest]; omega)
  · exact iff_of_true rfl (by simp only [longest]; omega)

end Duration

namespace Instant

variable {at_ : Instant} {early late : Duration} {moved : Nat}

/-- Moving an instant forward fails for one reason only. -/
theorem add?_eq_none_iff {by_ : Duration} :
    at_.add? by_ = none ↔ 0x8000000000000000 * 1000000000 ≤ at_.nanos + by_.nanos := by
  have low := at_.in_range.1
  unfold add? ofNanos?
  split
  · rename_i fits
    exact iff_of_false (by simp) (by omega)
  · rename_i beyond
    exact iff_of_true rfl (by omega)

theorem add?_zero (at_ : Instant) : at_.add? .zero = some at_ :=
  ofNanos?_eq_some_iff.mpr (Int.add_zero _).symm

/-- What is shown after a move is what was shown before, moved as far. -/
theorem add?_moved (sum : late.nanos = early.nanos + moved) :
    at_.add? late = (at_.add? early).bind fun first => ofNanos? (first.nanos + moved) := by
  cases shown : at_.add? early with
  | none =>
    rw [add?_eq_none_iff] at shown
    refine add?_eq_none_iff.mpr ?_
    omega
  | some first =>
    have same := ofNanos?_eq_some_iff.mp shown
    rw [Option.bind_some, same, add?, sum]
    congr 1
    omega

/-- What is shown last is what was shown first, moved by so many nanoseconds, unless that is out of
range. -/
structure Advances (first last : Option Instant) (moved : Nat) : Prop where
  shown : last = first.bind fun since => ofNanos? (since.nanos + moved)
  elapsed : ∀ since now, first = some since → last = some now → now.nanos - since.nanos = moved
  forward : ∀ since now, first = some since → last = some now → since ≤ now

/-- The distance of two readings is that of the offsets. -/
theorem advances (sum : late.nanos = early.nanos + moved) :
    Advances (at_.add? early) (at_.add? late) moved := by
  have elapsed (since now : Instant) (first : at_.add? early = some since)
      (last : at_.add? late = some now) : now.nanos - since.nanos = moved := by
    have before := ofNanos?_eq_some_iff.mp first
    have after := ofNanos?_eq_some_iff.mp last
    omega
  refine ⟨add?_moved sum, elapsed, fun since now first last => ?_⟩
  have far := elapsed since now first last
  show since.nanos ≤ now.nanos
  omega

end Instant

namespace ManualClock

variable {before between after : ManualClock} {moves more : List Duration}

/-- A clock was moved by some durations and is the same otherwise. -/
structure Moved (before : ManualClock) (moves : List Duration) (after : ManualClock) : Prop where
  start : after.start = before.start
  wallStart : after.wallStart = before.wallStart
  offset : after.offset.nanos = before.offset.nanos + Duration.total moves

/-- What a clock shows after it was moved by some durations. -/
structure Accumulated (before : ManualClock) (moves : List Duration) (after : ManualClock) :
    Prop where
  offset : after.offset.nanos = before.offset.nanos + Duration.total moves
  now : Instant.Advances before.reading.now after.reading.now (Duration.total moves)
  wall : Instant.Advances before.reading.wall after.reading.wall (Duration.total moves)
  /-- The two times keep their distance. -/
  together : ∀ first firstWall now wall, before.reading = ⟨some first, some firstWall⟩ →
    after.reading = ⟨some now, some wall⟩ →
    now.nanos - first.nanos = wall.nanos - firstWall.nanos

/-- Both times are read at the same offset, so they come as far. -/
theorem Moved.accumulated (moved : before.Moved moves after) : before.Accumulated moves after := by
  have now : Instant.Advances before.reading.now after.reading.now (Duration.total moves) := by
    simp only [reading, moved.start]
    exact Instant.advances moved.offset
  have wall : Instant.Advances before.reading.wall after.reading.wall (Duration.total moves) := by
    simp only [reading, moved.wallStart]
    exact Instant.advances moved.offset
  refine ⟨moved.offset, now, wall, fun first firstWall last lastWall early late => ?_⟩
  rw [early, late] at now wall
  exact (now.elapsed _ _ rfl rfl).trans (wall.elapsed _ _ rfl rfl).symm

theorem Moved.still (clock : ManualClock) : clock.Moved [] clock := ⟨rfl, rfl, rfl⟩

theorem Moved.append (first : before.Moved moves between) (second : between.Moved more after) :
    before.Moved (moves ++ more) after := by
  refine ⟨second.start.trans first.start, second.wallStart.trans first.wallStart, ?_⟩
  rw [second.offset, first.offset, Duration.total, Duration.total, Duration.total,
    List.map_append, List.sum_append, Nat.add_assoc]

/-- The order of the moves makes no difference. -/
theorem Moved.unique (moved : before.Moved moves after) {other : ManualClock}
    (too : before.Moved more other) (same : moves.Perm more) : after = other := by
  have offset : after.offset = other.offset := by
    apply Duration.eq_of_nanos
    rw [moved.offset, too.offset, Duration.total, Duration.total, (same.map _).sum_nat]
  have start := moved.start.trans too.start.symm
  have wallStart := moved.wallStart.trans too.wallStart.symm
  cases after
  cases other
  cases start
  cases wallStart
  cases offset
  rfl

end ManualClock
end Fusebox
