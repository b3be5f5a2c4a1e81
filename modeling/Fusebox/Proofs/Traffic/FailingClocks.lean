import Fusebox.Proofs.Breaker.Interruption
import Fusebox.Proofs.Time.Moving
import Fusebox.Proofs.Traffic.Sequence
import Fusebox.Proofs.Traffic.Story

/-! Breakers on a clock that leaves its range. A manual clock shows two times that move together,
and it depends on where they start which one can be read for longer. As long as that is the wall
time, an operation that fails has done nothing. Where it is the monotonic time, there are offsets
at which every change of mode is made and not announced. -/
namespace Fusebox

variable {start wallStart : Instant}

/-- Wall time that starts earlier does not leave its range first. -/
theorem ManualClock.unseen_of_le {clock : ManualClock} (earlier : clock.wallStart ≤ clock.start)
    (unseen : clock.reading.wall = none) : clock.reading.now = none := by
  have order : clock.wallStart.nanos ≤ clock.start.nanos := earlier
  have beyond := Instant.add?_eq_none_iff.mp unseen
  apply Instant.add?_eq_none_iff.mpr
  omega

/-- An offset that takes a later wall time just out of its range leaves the monotonic time in. -/
theorem ManualClock.exists_unseen (later : start < wallStart) :
    ∃ offset now, reading ⟨start, wallStart, offset⟩ = ⟨some now, none⟩ := by
  have order : start.nanos < wallStart.nanos := later
  have low := start.in_range
  have high := wallStart.in_range
  let offset : Duration := ⟨(0x8000000000000000 * 1000000000 - wallStart.nanos).toNat, by omega⟩
  let now : Instant := ⟨start.nanos + offset.nanos, by
    simp only [offset]
    omega⟩
  refine ⟨offset, now, ?_⟩
  have seen : start.add? offset = some now := Instant.ofNanos?_eq_some_iff.mpr rfl
  have unseen : wallStart.add? offset = none := by
    apply Instant.add?_eq_none_iff.mpr
    simp only [offset]
    omega
  rw [reading, seen, unseen]

/-- A clock that stands at its starting points can be moved by any offset. -/
theorem ManualClock.advance_frozen (start wallStart : Instant) (offset : Duration) :
    (frozenAt start wallStart).advance offset = .ok ⟨start, wallStart, offset⟩ := by
  have sum : Duration.zero.add? offset = some offset :=
    Duration.add?_eq_some_iff.mpr (Nat.zero_add _).symm
  rw [advance, frozenAt, sum]

namespace Traffic

/-- What a move that fails has done. -/
inductive Interrupted (t : Traffic) (move : Move) : Prop where
  /-- The monotonic clock cannot be read. -/
  | before (unseen : move.reading.now = none) (still : (t.perform move).breaker = t.breaker)
      (untold : (t.reports move).filter Effect.isModal = [])
  /-- The wall clock cannot be read. -/
  | within (read : move.reading = ⟨some now, none⟩)
      (torn : Breaker.Torn t.breaker now (t.reports move) (t.perform move).breaker)

variable {t : Traffic} {now : Instant} {wall : Option Instant}

/-- A move at an instant can fail at a change of mode only. -/
theorem interrupted_within (t : Traffic) (move : Move) (read : move.reading = ⟨some now, wall⟩) :
    (t.served move = false →
      wall = none ∧ Breaker.Torn t.breaker now (t.reports move) (t.perform move).breaker) ∧
    (t.served move = true → wall = none → (t.perform move).breaker.mode = t.breaker.mode) := by
  cases move with
  | look reading =>
    cases read
    have tears := t.breaker.read_tears now wall
    exact ⟨tears.torn, tears.whole⟩
  | ask operation reading =>
    cases read
    have tears := t.breaker.ask_tears operation now wall
    rw [ask_breaker]
    exact ⟨tears.torn, tears.whole⟩
  | finish number ending reading =>
    cases read
    cases found : t.call? number with
    | none => simp [served, perform, found]
    | some call =>
      have tears := t.breaker.conclude_tears call.ticket ending now wall
      rw [finish_breaker found, ← Breaker.conclude_state]
      simp only [served, reports, found]
      exact ⟨tears.torn, tears.whole⟩

/-- Without the monotonic clock a move does nothing but count that a call has ended. -/
theorem interrupted_before (t : Traffic) (move : Move) (unseen : move.reading.now = none) :
    (t.perform move).breaker = t.breaker ∧ (t.reports move).filter Effect.isModal = [] := by
  cases move with
  | look reading =>
    obtain ⟨_, wall⟩ := reading
    cases unseen
    exact ⟨rfl, rfl⟩
  | ask operation reading =>
    obtain ⟨_, wall⟩ := reading
    cases unseen
    rw [ask_breaker]
    exact ⟨rfl, rfl⟩
  | finish number ending reading =>
    obtain ⟨_, wall⟩ := reading
    cases unseen
    cases found : t.call? number with
    | none => simp [perform, reports, found]
    | some call =>
      rw [finish_breaker found]
      simp only [reports, found, Breaker.conclude_completes]
      refine ⟨rfl, ?_⟩
      cases ending <;> rfl

theorem interrupted {move : Move} (failed : t.served move = false) : t.Interrupted move := by
  cases seen : move.reading.now with
  | none =>
    obtain ⟨still, untold⟩ := t.interrupted_before move seen
    exact .before seen still untold
  | some now =>
    have read : move.reading = ⟨some now, move.reading.wall⟩ := by rw [← seen]
    obtain ⟨unseen, torn⟩ := (t.interrupted_within move read).1 failed
    rw [unseen] at read
    exact .within read torn

/-- The wall clock is missed just where the mode changes. -/
theorem fails_iff_mode_changes {move : Move} (read : move.reading = ⟨some now, none⟩) :
    t.served move = false ↔ (t.perform move).breaker.mode ≠ t.breaker.mode := by
  obtain ⟨torn, whole⟩ := t.interrupted_within move read
  constructor
  · intro failed
    exact (torn failed).2.mode
  · intro other
    by_contra fine
    exact other (whole (by simpa using fine) rfl)

/-- A first failure opens the breaker, whatever the wall clock shows. -/
theorem touchy_opens (created : Breaker.create name .touchy reading = .ok b)
    (now : Instant) (wall : Option Instant) :
    let t := (fresh b).perform (.ask "first" ⟨some now, wall⟩)
    t.breaker.mode = .closed ∧
      (t.perform (.finish 0 .failed ⟨some now, wall⟩)).breaker.mode = .opened := by
  have calm : Calm .touchy now [] ((fresh b).elapse now wall) := calm_of_created created
  obtain ⟨performed, -⟩ := ask_closed (fresh b) "first" calm.closed
  intro t
  have boarded : t = ((fresh b).elapse now wall).accept now := performed
  rw [boarded]
  refine ⟨calm.closed, ?_⟩
  have trips : Policy.touchy.TripsAt [.failed] := by decide
  have ended : _ ∧ Shut now ((((fresh b).elapse now wall).accept now).perform
      (.finish 0 .failed ⟨some now, wall⟩)) ∨ _ := calm.ended (by decide) .failed
  rcases ended with ⟨-, shut⟩ | calmer
  · exact shut.opened
  · exact absurd trips (calmer.untripped [.failed] List.prefix_rfl)

end Traffic

/-- An operation on a breaker, before the clocks are looked at. -/
inductive Operation where
  | ask (operation : String)
  | finish (number : Nat) (ending : Ending)
  | look

/-- The move that an operation is at a reading of the clocks. -/
def Operation.move (reading : Reading) : Operation → Move
  | .ask operation => .ask operation reading
  | .finish number ending => .finish number ending reading
  | .look => .look reading

/-- A breaker with its calls, and the clock that all its operations look at. -/
structure Driven where
  clock : ManualClock
  traffic : Traffic

/-- One thing that happens to a breaker on a manual clock. -/
inductive Push where
  | advance (by_ : Duration)
  | operate (operation : Operation)

namespace Driven

/-- Moves the clock, or makes a move at what it shows. A clock that cannot be moved so far stays
where it is. -/
def push (d : Driven) : Push → Driven
  | .advance by_ =>
    match d.clock.advance by_ with
    | .ok clock => { d with clock }
    | .error _ => d
  | .operate operation =>
    { d with traffic := d.traffic.perform (operation.move d.clock.reading) }

/-- Does one thing after the other. -/
def run (d : Driven) (script : List Push) : Driven := script.foldl push d

/-- The next operation fails. -/
def Fails (d : Driven) (operation : Operation) : Prop :=
  d.traffic.served (operation.move d.clock.reading) = false

variable {d : Driven}

theorem move_reading (operation : Operation) (reading : Reading) :
    (operation.move reading).reading = reading := by
  cases operation <;> rfl

/-- The clock keeps its starting points. -/
theorem push_bases (d : Driven) (push : Push) :
    (d.push push).clock.start = d.clock.start ∧
      (d.push push).clock.wallStart = d.clock.wallStart := by
  cases push with
  | operate operation => exact ⟨rfl, rfl⟩
  | advance by_ =>
    simp only [Driven.push, ManualClock.advance]
    cases d.clock.offset.add? by_ <;> exact ⟨rfl, rfl⟩

theorem run_bases (d : Driven) (script : List Push) :
    (d.run script).clock.start = d.clock.start ∧
      (d.run script).clock.wallStart = d.clock.wallStart := by
  induction script generalizing d with
  | nil => exact ⟨rfl, rfl⟩
  | cons push rest ih =>
    obtain ⟨start, wallStart⟩ := d.push_bases push
    obtain ⟨first, second⟩ := ih (d.push push)
    exact ⟨first.trans start, second.trans wallStart⟩

end Driven

/-- No operation that fails changes a breaker, whatever is done to it on a clock that starts at
these points. -/
def FailuresAreWhole (start wallStart : Instant) : Prop :=
  ∀ offset name policy b script operation,
    let clock : ManualClock := ⟨start, wallStart, offset⟩
    let d := Driven.run ⟨clock, .fresh b⟩ script
    Breaker.create name policy clock.reading = .ok b → d.Fails operation →
      (d.push (.operate operation)).traffic.breaker = d.traffic.breaker

theorem failuresAreWhole_of_le (earlier : wallStart ≤ start) :
    FailuresAreWhole start wallStart := by
  intro offset name policy b script operation clock d _ failed
  obtain ⟨starts, wallStarts⟩ := Driven.run_bases ⟨clock, .fresh b⟩ script
  cases d.traffic.interrupted failed with
  | before _ still _ => exact still
  | within read torn =>
    rw [Driven.move_reading] at read
    have unseen : d.clock.reading.now = none := by
      apply ManualClock.unseen_of_le
      · rw [starts, wallStarts]
        exact earlier
      · rw [read]
    rw [read] at unseen
    cases unseen

/-- The clock is moved between the making of a breaker and its first call, and the failure of that
call opens the breaker without a word. -/
theorem le_of_failuresAreWhole (whole : FailuresAreWhole start wallStart) : wallStart ≤ start := by
  by_contra behind
  obtain ⟨offset, now, read⟩ := ManualClock.exists_unseen (Int.not_le.mp behind)
  have first : (ManualClock.frozenAt start wallStart).reading = ⟨some start, some wallStart⟩ := by
    rw [ManualClock.reading, ManualClock.frozenAt, start.add?_zero, wallStart.add?_zero]
  obtain ⟨b, created⟩ : ∃ b, Breaker.create "touchy" .touchy
      (ManualClock.frozenAt start wallStart).reading = .ok b := by
    rw [first]
    exact ⟨_, rfl⟩
  let t := (Traffic.fresh b).perform (.ask "first" ⟨some now, none⟩)
  let script : List Push := [.advance offset, .operate (.ask "first")]
  let d := Driven.run ⟨.frozenAt start wallStart, .fresh b⟩ script
  have reached : d = ⟨⟨start, wallStart, offset⟩, t⟩ := by
    simp only [script, Driven.run, List.foldl_cons, List.foldl_nil, Driven.push,
      ManualClock.advance_frozen, Operation.move, read, t, d]
  obtain ⟨closed, opened⟩ := Traffic.touchy_opens created now none
  have still : d.Fails (.finish 0 .failed) →
      (d.push (.operate (.finish 0 .failed))).traffic.breaker = d.traffic.breaker :=
    whole .zero "touchy" .touchy b script (.finish 0 .failed) created
  rw [reached] at still
  simp only [Driven.Fails, Driven.push, Operation.move, read] at still
  have changes :
      (t.perform (.finish 0 .failed ⟨some now, none⟩)).breaker.mode ≠ t.breaker.mode := by
    rw [opened, closed]
    decide
  have fails := (Traffic.fails_iff_mode_changes rfl).mpr changes
  exact changes (congrArg Breaker.mode (still fails))

/-- An operation that fails has done nothing if there is no monotonic time, and otherwise it has
changed the mode without a word; that is so wherever the mode changes at an instant that has no
wall time. It never happens on a clock whose wall time does not start later than its monotonic time,
and on every other clock it does. -/
theorem failing_clocks_tear_transitions (t : Traffic) (move : Move) (start wallStart : Instant) :
    (t.served move = false → t.Interrupted move ∧
      ((t.perform move).breaker = t.breaker ↔ move.reading.now = none)) ∧
    (∀ now, move.reading = ⟨some now, none⟩ →
      (t.served move = false ↔ (t.perform move).breaker.mode ≠ t.breaker.mode)) ∧
    (FailuresAreWhole start wallStart ↔ wallStart ≤ start) := by
  refine ⟨fun failed => ⟨Traffic.interrupted failed, ?_⟩,
    fun now => Traffic.fails_iff_mode_changes, le_of_failuresAreWhole, failuresAreWhole_of_le⟩
  cases Traffic.interrupted failed with
  | before unseen still untold => exact iff_of_true still unseen
  | within read torn =>
    refine iff_of_false (fun still => torn.mode ?_) (by simp [read])
    rw [still]

/-- A clock whose wall time starts near the end of its range has been moved past that end. A call
fails at this instant, and whoever looks at the breaker afterwards finds it open. -/
theorem failed_completion_leaves_breaker_open :
    let wallStart : Instant := ⟨9223372036854775807 * 1000000, by decide⟩
    let clock := ManualClock.frozenAt .reference wallStart
    let b := { Breaker.touchy with changedAt := wallStart }
    let before := Driven.run ⟨clock, .fresh b⟩ [
      .advance (.ofSeconds 9218372036854775808),
      .operate (.ask "execute")]
    let after := before.push (.operate (.finish 0 .failed))
    let failing := Operation.move before.clock.reading (.finish 0 .failed)
    let shown := after.traffic.breaker.read after.clock.reading
    Breaker.create "touchy" .touchy clock.reading = .ok b ∧ before.Fails (.finish 0 .failed) ∧
      before.traffic.breaker.snapshot = ⟨.closed, 0, Tally.empty.admitted, wallStart⟩ ∧
      after.traffic.breaker.snapshot = ⟨.opened, 1, .empty, wallStart⟩ ∧
      (before.traffic.reports failing).filter Effect.isModal = [] ∧
      shown.result = .ok ⟨.opened, 1, .empty, wallStart⟩ := by
  intro wallStart clock b before after failing shown
  have first : clock.reading = ⟨some .reference, some wallStart⟩ := by decide
  refine ⟨by rw [first]; rfl, ?_, ?_, ?_, ?_, ?_⟩
  · unfold Driven.Fails
    decide
  · decide
  · decide
  · exact List.isEmpty_iff.mp (by decide)
  · decide

end Fusebox
