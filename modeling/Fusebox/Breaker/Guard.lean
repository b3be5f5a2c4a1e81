import Fusebox.Breaker.Basic

/-! Operations run under the protection of a breaker.

There are two ways to run one. A blocking call (`CircuitBreaker::execute`) holds its
place in the log from admission to completion. A pending call (`CircuitBreaker::call`) is
polled: it is admitted at its first poll, it may stay unfinished for any number of polls,
and it may be dropped; only its admission, and the polls of the operation itself, are
logged under its name. For the breaker both are the same sequence of steps. -/
namespace Fusebox

/-- How an operation ends. -/
inductive Outcome (ε α : Type) where
  | value (value : α)
  | failure (error : ε)
  | crash (text : String)

/-- Why a guarded operation has no value (`BreakerError`). -/
inductive CallError (ε : Type) where
  /-- The breaker turned the request away, and the operation never ran. -/
  | rejected (breaker : String) (reason : Rejection)
  /-- The operation's own error, unchanged. -/
  | dependency (error : ε)

namespace CallError

variable {ε : Type}

/-- The sentence for an error; an operation's error speaks for itself. -/
def message (show_ : ε → String) : CallError ε → String
  | .rejected breaker .opened => "circuit breaker '" ++ breaker ++ "' is open"
  | .rejected breaker .tooManyRequests =>
    "circuit breaker '" ++ breaker ++ "' is half-open and its probe slots are taken"
  | .dependency error => show_ error

/-- Whether the operation was refused before it was reached (`BreakerError::is_rejection`). -/
def isRejection : CallError ε → Bool
  | .rejected .. => true
  | .dependency _ => false

/-- The operation's own error, if that is what this is (`BreakerError::into_dependency`). -/
def dependency? : CallError ε → Option ε
  | .rejected .. => none
  | .dependency error => some error

end CallError

/-- What the caller of a guarded operation gets. -/
abbrev Reply (ε α : Type) := Except (CallError ε) α

/-- An effect, and the guarded operation it is logged under if that is not simply
the surrounding one. -/
structure Report where
  span : Option Span
  effect : Effect

/-- The same report, seen from inside a surrounding operation. -/
def Report.inside (surrounding : Option Span) (report : Report) : Report :=
  { report with span := report.span <|> surrounding }

/-- An effect that is logged under whatever surrounds it. -/
def Effect.bare (effect : Effect) : Report := ⟨none, effect⟩

/-- An effect that is logged under an operation of its own. -/
def Effect.under (span : Span) (effect : Effect) : Report := ⟨some span, effect⟩

namespace Breaker

variable {ε α : Type}

/-- Records how an admitted operation ended and hands its result on: what is left of
`CircuitBreaker::execute` and `CircuitBreaker::call` once the operation is over. A crash of
the operation goes on to its caller. It does so here even if the clocks cannot be read at
that time; a service in which an operation crashes and `InFlight::drop` crashes as well
would stop altogether, and nobody would get anything. -/
def finish (b : Breaker) (ticket : Ticket) (outcome : Outcome ε α) (reading : Reading) :
    Step Effect Breaker (Reply ε α) :=
  match outcome with
  | .value value => (b.settle ticket true reading).map fun _ => .ok value
  | .failure error => (b.settle ticket false reading).map fun _ => .error (.dependency error)
  | .crash text => { b.abandon ticket true reading with result := .error (.operation text) }

end Breaker

/-- How far a pending call has come. -/
inductive CallPhase where
  /-- Not polled yet; nothing has been admitted. -/
  | waiting
  /-- Admitted, and its operation has been started. -/
  | running (ticket : Ticket)
deriving DecidableEq

/-- A call that is driven by polling, as `CircuitBreaker::call` makes it. -/
structure PendingCall where
  breaker : String
  operation : String
  phase : CallPhase
deriving DecidableEq

/-- What a poll of the operation itself finds. -/
inductive Progress (ε α : Type) where
  | pending
  | done (outcome : Outcome ε α)

/-- What a poll of a guarded call finds. -/
inductive Polled (ε α : Type) where
  /-- The operation has not finished. -/
  | pending (call : PendingCall)
  | ready (reply : Reply ε α)

namespace PendingCall

variable {ε α : Type}

/-- The place of a call in the log. -/
def span (call : PendingCall) : Span := ⟨call.breaker, call.operation⟩

/-- Whether the operation has been started. -/
def invoked (call : PendingCall) : Bool := call.phase != .waiting

/-- Goes on with an admitted call after its operation was polled. -/
def proceed (call : PendingCall) (b : Breaker) (ticket : Ticket) (progress : Progress ε α)
    (reading : Reading) : Step Report Breaker (Polled ε α) :=
  match progress with
  | .pending => .pure b (.pending { call with phase := .running ticket })
  | .done outcome => ((b.finish ticket outcome reading).relabel Effect.bare).map .ready

/-- Polls a call once. The first poll asks for admission before it starts the
operation; `progress` is what the operation does when it is polled. The clocks are
read as the call enters, and again as its operation ends, which may be in one poll. -/
def poll (call : PendingCall) (b : Breaker) (progress : Progress ε α) (entry exit : Reading) :
    Step Report Breaker (Polled ε α) :=
  match call.phase with
  | .running ticket => call.proceed b ticket progress exit
  | .waiting =>
    ((b.ask call.operation entry).relabel (Effect.under call.span)).bind fun b admission =>
      match admission with
      | .error reason => .pure b (.ready (.error (.rejected b.name reason)))
      | .ok ticket => call.proceed b ticket progress exit

/-- Drops a call, which is `InFlight::drop` for one that was admitted. One that was never
admitted leaves no trace. -/
def cancel (call : PendingCall) (b : Breaker) (reading : Reading) : Step Report Breaker Unit :=
  match call.phase with
  | .waiting => .pure b ()
  | .running ticket => (b.abandon ticket false reading).relabel Effect.bare

end PendingCall
end Fusebox
