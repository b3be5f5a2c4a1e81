import Fusebox.Breaker.Snapshot
import Fusebox.Journal.Effect
import Fusebox.Step
import Fusebox.Time.Clock

/-! A circuit breaker as a machine that moves one operation at a time.

Time is only looked at when an operation happens: it brings a reading of the
clocks, a deadline that has passed is applied first, and then the operation runs.
Every change of generation clears the counts, so a call that was admitted in an
earlier generation can be told from one that still counts.

Here and in the other modules, a name in brackets is that of the function or type of the
service which a definition describes. -/
namespace Fusebox

/-- A breaker: its name, its tunables (`CircuitBreaker`), and what changes as it is used
(`BreakerInner`). -/
structure Breaker where
  name : String
  policy : Policy
  mode : Mode
  /-- Goes up by one at every transition, and starts over after the last number. -/
  generation : UInt64
  tally : Tally
  /-- When the present generation ends by itself; none if it does not. -/
  deadline : Option Instant
  /-- The wall time of the last change of mode. -/
  changedAt : Instant

/-- An admitted call remembers the generation it was admitted in (`InFlight`). -/
structure Ticket where
  generation : UInt64
deriving DecidableEq

/-- When a generation that begins now ends by itself: the expiry that `new_generation`
sets, with `closed_expiry` for a closed one. A deadline past the range of the clock
never comes, and a half-open generation has none. -/
def Policy.deadline (p : Policy) (mode : Mode) (now : Instant) : Option Instant :=
  match mode with
  | .closed => if p.resetInterval.isZero then none else now.add? p.resetInterval
  | .opened => now.add? p.openTimeout
  | .halfOpen => none

namespace Breaker

/-- A fresh breaker is closed (`CircuitBreaker::with_clock`). Its first generation is zero. -/
def create (name : String) (policy : Policy) (reading : Reading) : Except Crash Breaker :=
  match reading.now, reading.wall with
  | some now, some wall => .ok {
      name
      policy := policy.normalized
      mode := .closed
      generation := 0
      tally := .empty
      deadline := policy.normalized.deadline .closed now
      changedAt := wall }
  | none, _ => .error .instantRange
  | _, none => .error .wallRange

/-- What the breaker shows at present (`BreakerInner::snapshot`). -/
def snapshot (b : Breaker) : Snapshot := ⟨b.mode, b.generation, b.tally, b.changedAt⟩

/-- Whether the deadline of the present generation has been reached
(`BreakerInner::transition_due`). -/
def due (b : Breaker) (now : Instant) : Bool :=
  match b.mode, b.deadline with
  | .halfOpen, _ | _, none => false
  | _, some deadline => decide (deadline ≤ now)

/-- Begins the next generation in the present mode (`CircuitBreaker::new_generation`). -/
def renew (b : Breaker) (now : Instant) : Breaker :=
  { b with
    generation := b.generation + 1
    tally := .empty
    deadline := b.policy.deadline b.mode now }

/-- Changes the mode, which also begins a new generation (`CircuitBreaker::set_state`). The
wall clock is read only after that: if it shows nothing the new mode stays, unreported. -/
def switch (b : Breaker) (target : Mode) (now : Instant) (wall : Option Instant) :
    Step Effect Breaker Unit :=
  if b.mode = target then .pure b ()
  else
    let entered := { b with mode := target }.renew now
    match wall with
    | none => .crash entered .wallRange
    | some wall => {
        state := { entered with changedAt := wall }
        effects := [
          .event (.changed b.name b.mode target entered.generation),
          .count (.transitions b.name b.mode target),
          .gauge b.name target]
        result := .ok () }

/-- Applies a deadline that has passed (`CircuitBreaker::current_state`). A closed generation
is followed by another one; an open breaker becomes half-open. -/
def refresh (b : Breaker) (now : Instant) (wall : Option Instant) : Step Effect Breaker Unit :=
  if b.due now then
    match b.mode with
    | .closed => .pure (b.renew now) ()
    | .opened => b.switch .halfOpen now wall
    | .halfOpen => .pure b ()
  else .pure b ()

/-- What the breaker shows, provided that no deadline has passed: the first half of
`CircuitBreaker::stats`, which only reads. -/
def peek (b : Breaker) (now : Instant) : Option Snapshot :=
  if b.due now then none else some b.snapshot

/-- Shows the breaker as it is now (`CircuitBreaker::stats`, and from it `state` and
`counts`). Looking first leaves a breaker alone that has nothing due. -/
def read (b : Breaker) (reading : Reading) : Step Effect Breaker Snapshot :=
  match reading.now with
  | none => .crash b .instantRange
  | some now =>
    match b.peek now with
    | some shown => .pure b shown
    | none => (b.refresh now reading.wall).bind fun b _ => .pure b b.snapshot

/-- Why a request would be turned away in the present generation, if at all: the decision
in `CircuitBreaker::admit`. -/
def rejection? (b : Breaker) : Option Rejection :=
  match b.mode with
  | .closed => none
  | .opened => some .opened
  | .halfOpen => if b.policy.maxProbes ≤ b.tally.requests then some .tooManyRequests else none

/-- Asks to run an operation (`CircuitBreaker::admit`). An admitted request is counted and
gets a ticket. -/
def ask (b : Breaker) (operation : String) (reading : Reading) :
    Step Effect Breaker (Except Rejection Ticket) :=
  match reading.now with
  | none => .crash b .instantRange
  | some now =>
    (b.refresh now reading.wall).bind fun b _ =>
      match b.rejection? with
      | some reason => {
          state := b
          effects := [
            .event (.rejected b.name operation b.mode),
            .count (.rejections b.name reason)]
          result := .ok (.error reason) }
      | none => .pure { b with tally := b.tally.admitted } (.ok ⟨b.generation⟩)

/-- A call of the present generation ended well (`CircuitBreaker::on_success`). Enough
successes in a row close a half-open breaker. -/
def noteSuccess (b : Breaker) (now : Instant) (wall : Option Instant) :
    Step Effect Breaker Unit :=
  match b.mode with
  | .closed => .pure { b with tally := b.tally.succeeded } ()
  | .halfOpen =>
    let counted := { b with tally := b.tally.succeeded }
    if b.policy.maxProbes ≤ counted.tally.successRun then counted.switch .closed now wall
    else .pure counted ()
  | .opened => .pure b ()

/-- A call of the present generation ended badly (`CircuitBreaker::on_failure`). A closed
breaker opens once its counts call for it; a half-open one opens at once. -/
def noteFailure (b : Breaker) (now : Instant) (wall : Option Instant) :
    Step Effect Breaker Unit :=
  match b.mode with
  | .closed =>
    let counted := { b with tally := b.tally.failed }
    if b.policy.readyToTrip counted.tally then
      (counted.switch .opened now wall).after [
        .event (.tripped b.name counted.tally.requests counted.tally.failures
          b.policy.failureThreshold)]
    else .pure counted ()
  | .halfOpen => (b.switch .opened now wall).after [.event (.probeFailed b.name)]
  | .opened => .pure b ()

/-- Records the end of an admitted call (`CircuitBreaker::complete`). Metrics count it in any
case; the breaker counts it only if the generation it was admitted in still lasts. -/
def complete (b : Breaker) (ticket : Ticket) (success : Bool) (reading : Reading) :
    Step Effect Breaker Unit :=
  Step.after [.count (.calls b.name success)] <|
    match reading.now with
    | none => .crash b .instantRange
    | some now =>
      (b.refresh now reading.wall).bind fun b _ =>
        if b.generation ≠ ticket.generation then {
          state := b
          effects := [
            .event (.staleCompletion b.name ticket.generation b.generation success)]
          result := .ok () }
        else if success then b.noteSuccess now reading.wall
        else b.noteFailure now reading.wall

/-- An admitted call came back with a value or with an error (`InFlight::settle`). -/
def settle (b : Breaker) (ticket : Ticket) (success : Bool) (reading : Reading) :
    Step Effect Breaker Unit :=
  if success then b.complete ticket true reading
  else (b.complete ticket false reading).after [.event (.operationFailed b.name)]

/-- An admitted call will never come back: it crashed, or it was dropped
(`InFlight::drop`). Either way it counts as a failure. -/
def abandon (b : Breaker) (ticket : Ticket) (crashed : Bool) (reading : Reading) :
    Step Effect Breaker Unit :=
  (b.complete ticket false reading).after [
    .event (if crashed then .operationCrashed b.name else .operationDropped b.name)]

/-- A breaker in one line (`CircuitBreaker::fmt`); what changes as it is used is left out. -/
def text (b : Breaker) : String :=
  "CircuitBreaker \x7b name: " ++ Text.quoted b.name ++ ", config: " ++ b.policy.text ++ ", .. \x7d"

end Breaker
end Fusebox
