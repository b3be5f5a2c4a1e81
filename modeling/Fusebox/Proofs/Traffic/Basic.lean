import Fusebox.Breaker.Basic

/-! One breaker under traffic: calls ask for admission, end in any order or never, and
somebody may look at the breaker in between. A script of moves says who does what at
which reading of the clocks; nothing is assumed about the readings, which may go back
or may not be readable at all. Beside the breaker the state keeps what no breaker
knows of itself: every call that was admitted, and what has become of it. -/
namespace Fusebox

/-- How an admitted call comes to its end. -/
inductive Ending where
  | succeeded
  | failed
  /-- The operation crashed. -/
  | crashed
  /-- The call was dropped before it had a result. -/
  | dropped
deriving DecidableEq

/-- Every end but a success counts as a failure. -/
def Ending.success : Ending → Bool
  | .succeeded => true
  | .failed | .crashed | .dropped => false

/-- Reports the end of an admitted call. -/
def Breaker.conclude (b : Breaker) (ticket : Ticket) (ending : Ending) (reading : Reading) :
    Step Effect Breaker Unit :=
  match ending with
  | .succeeded => b.settle ticket true reading
  | .failed => b.settle ticket false reading
  | .crashed => b.abandon ticket true reading
  | .dropped => b.abandon ticket false reading

/-- A call as it was admitted. -/
structure Call where
  /-- How many calls were admitted before it. -/
  number : Nat
  ticket : Ticket
  /-- How many generations had come to an end when it was admitted. -/
  era : Nat
  /-- The mode it was admitted under. -/
  mode : Mode
  /-- The reading it was admitted at. -/
  admittedAt : Instant
deriving DecidableEq

/-- One move in the traffic on a breaker. -/
inductive Move where
  /-- A call asks for admission. -/
  | ask (operation : String) (reading : Reading)
  /-- The call of that number ends. -/
  | finish (number : Nat) (ending : Ending) (reading : Reading)
  /-- Somebody looks at the breaker. -/
  | look (reading : Reading)
deriving DecidableEq

/-- What the clocks show to a move. -/
def Move.reading : Move → Reading
  | .ask _ reading | .finish _ _ reading | .look reading => reading

/-- A breaker and the calls it admitted. -/
structure Traffic where
  breaker : Breaker
  /-- How many generations have come to an end; unlike the breaker's own number this
  one never starts over. -/
  era : Nat := 0
  /-- All calls that were ever admitted, the oldest first. -/
  admitted : List Call := []
  /-- Those that have not ended. -/
  underway : List Call := []
  /-- Those that have ended, in the order in which they did. -/
  ended : List (Call × Ending) := []
  /-- Those that ended when the monotonic clock was not readable. The breaker never
  heard of their end. -/
  lost : List Call := []

namespace Traffic

/-- A breaker that has seen no traffic. -/
def fresh (b : Breaker) : Traffic := { breaker := b }

/-- The same calls on the breaker as an operation left it. The generation numbers say
how many generations have ended in between. -/
def onto (t : Traffic) (next : Breaker) : Traffic :=
  { t with
    breaker := next
    era := t.era + (next.generation - t.breaker.generation).toNat }

/-- A call was admitted with a ticket. -/
def board (t : Traffic) (ticket : Ticket) (now : Instant) : Traffic :=
  let call : Call := ⟨t.admitted.length, ticket, t.era, t.breaker.mode, now⟩
  { t with admitted := t.admitted ++ [call], underway := t.underway ++ [call] }

/-- A call has ended. -/
def land (t : Traffic) (call : Call) (ending : Ending) : Traffic :=
  { t with underway := t.underway.erase call, ended := t.ended ++ [(call, ending)] }

/-- A call has ended unheard. -/
def lose (t : Traffic) (call : Call) : Traffic :=
  { t with underway := t.underway.erase call, lost := t.lost ++ [call] }

/-- The call of a number, if it is under way. -/
def call? (t : Traffic) (number : Nat) : Option Call :=
  t.underway.find? (·.number == number)

/-- Makes one move. Only calls that are under way can end. -/
def perform (t : Traffic) : Move → Traffic
  | .look reading => t.onto (t.breaker.read reading).state
  | .ask operation reading =>
    let step := t.breaker.ask operation reading
    match step.result, reading.now with
    | .ok (.ok ticket), some now => (t.onto step.state).board ticket now
    | _, _ => t.onto step.state
  | .finish number ending reading =>
    match t.call? number with
    | none => t
    | some call =>
      let next := t.onto (t.breaker.conclude call.ticket ending reading).state
      match reading.now with
      | none => next.lose call
      | some _ => next.land call ending

/-- Makes moves one after the other. -/
def run (t : Traffic) (script : List Move) : Traffic := script.foldl perform t

theorem run_append (t : Traffic) (first second : List Move) :
    t.run (first ++ second) = (t.run first).run second := List.foldl_append

/-- The calls admitted since the present generation began. -/
def admittedNow (t : Traffic) : List Call := t.admitted.filter (·.era == t.era)

/-- How those of them that have ended did so, in the order in which they ended. -/
def outcomesNow (t : Traffic) : List Bool :=
  (t.ended.filter (·.1.era == t.era)).map (·.2.success)

end Traffic

/-- Both clocks, so many nanoseconds past their reference points. -/
def Reading.past (nanos : UInt32) : Reading :=
  let moment : Instant := ⟨nanos.toNat, by have := nanos.toNat_lt; omega⟩
  ⟨some moment, some moment⟩

/-- A policy under which the first failure opens the breaker and one probe closes it. -/
def Policy.touchy : Policy where
  maxProbes := 1
  resetInterval := .zero
  openTimeout := ⟨10, by decide⟩
  failureThreshold := 0.5
  minimumRequests := 1

/-- A new breaker with that policy. -/
def Breaker.touchy : Breaker where
  name := "touchy"
  policy := .touchy
  mode := .closed
  generation := 0
  tally := .empty
  deadline := none
  changedAt := .reference

theorem Breaker.touchy_created :
    create "touchy" .touchy (.past 0) = .ok touchy := rfl

/-- The same policy, but it takes two probes to close the breaker. -/
def Policy.wary : Policy := { Policy.touchy with maxProbes := 2 }

/-- A new breaker with that policy. -/
def Breaker.wary : Breaker := { Breaker.touchy with name := "wary", policy := .wary }

theorem Breaker.wary_created :
    create "wary" .wary (.past 0) = .ok wary := rfl

/-- A policy that forgets what has happened in a closed generation after 10 ns, and under which
it takes two calls to open the breaker. -/
def Policy.forgetful : Policy :=
  { Policy.touchy with
    resetInterval := ⟨10, by decide⟩
    minimumRequests := 2 }

/-- A new breaker with that policy. -/
def Breaker.forgetful : Breaker :=
  { Breaker.touchy with
    name := "forgetful"
    policy := .forgetful
    deadline := some ⟨10, by decide⟩ }

theorem Breaker.forgetful_created :
    create "forgetful" .forgetful ⟨some .reference, some .reference⟩ = .ok forgetful := by
  have deadline : Policy.forgetful.normalized.deadline .closed .reference =
      some ⟨10, by decide⟩ := by decide
  simp only [create, deadline]
  rfl

end Fusebox
