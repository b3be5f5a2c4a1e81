import Fusebox.Admin.Interface
import Fusebox.Forecast

/-! Rehearsals: a registry on a clock that only moves when told to, driven command by
command. A command may run others inside a guarded operation, calls may be started,
polled and dropped in any order, and every reaction comes with the log entries that
were written since the reaction before it. -/
namespace Fusebox

/-- A call that has been started, with what its operation will do. -/
structure StartedCall (α : Type) where
  call : PendingCall
  /-- The operation crashes with this text as soon as it is started. -/
  crashText : Option String
  /-- How the operation ends when it is polled next; it does not end while there is
  nothing here. -/
  outcome : Option (Outcome String α)

/-- What the operation of a call does at its next poll. -/
def StartedCall.progress {α : Type} (started : StartedCall α) : Progress String α :=
  match started.crashText, started.outcome with
  | some text, _ => .done (.crash text)
  | none, some outcome => .done outcome
  | none, none => .pending

/-- What can be done in a rehearsal. -/
inductive Command (α : Type) where
  | advance (by_ : Duration)
  | clock
  | register (name : String) (policy : Policy)
  | find (name : String)
  | names
  | size
  | isEmpty
  | openNames
  | snapshots
  | meters
  | mode (name : String)
  | tally (name : String)
  | snapshot (name : String)
  | describe (name : String)
  /-- Runs an operation to its end; other commands are run inside it first. -/
  | execute (name operation : String) (outcome : Outcome String α) (inside : List (Command α))
  | start (id name operation : String) (crashText : Option String)
  | resolve (id : String) (outcome : Outcome String α)
  | poll (id : String)
  | cancel (id : String)
  | newClient (id : String) (policy : Policy)
  | forecast (id : String) (point : Coordinates) (outcome : Outcome String Forecast)
  | request (key : String) (request : Admin.Request)

/-- What a command has to look for. -/
inductive Missing where
  | breaker
  | call
  | client
deriving DecidableEq

/-- What a command answers. -/
inductive Answer (α : Type) where
  | done
  | crashed (cause : Crash)
  | missing (what : Missing)
  | flag (value : Bool)
  | count (number : Nat)
  | text (text : String)
  | names (names : List String)
  | time (elapsed : Duration) (wall : Instant)
  | breaker (b : Breaker)
  | mode (mode : Mode)
  | tally (tally : Tally)
  | snapshot (snapshot : Snapshot)
  | snapshots (all : List (String × Snapshot))
  | meters (meters : Meters)
  /-- The operation was turned away, or could not even be asked for. -/
  | refused (result : Except Crash (Reply String α))
  /-- The operation was run, and so were the commands inside it, each with its
  answer and the log entries it came with. -/
  | executed (result : Except Crash (Reply String α)) (inside : List (Answer α × List Entry))
  | polled (result : Except Crash (Option (Reply String α))) (invoked : Bool)
  | forecast (result : Except Crash (Reply String Forecast)) (client : ForecastClient)
  | response (response : Admin.Response)

/-- The answer to a command, with the log entries since the one before. -/
abbrev Reaction (α : Type) := Answer α × List Entry

/-- Everything there is in a rehearsal. -/
structure Rehearsal (α : Type) where
  clock : ManualClock
  registry : Registry := {}
  meters : Meters := {}
  /-- Log entries that have not been handed out yet, the oldest first. -/
  journal : List Entry := []
  calls : List (String × StartedCall α) := []
  clients : List (String × ForecastClient) := []
  /-- The innermost guarded operation under way. -/
  surrounding : Option Span := none

namespace Rehearsal

variable {α β : Type}

/-- A rehearsal on a clock that has not moved yet. -/
def onClock (clock : ManualClock) : Rehearsal α := { clock }

/-- What the clock shows. -/
def reading (r : Rehearsal α) : Reading := r.clock.reading

/-- Takes in one report: events go to the log, the rest to the metrics. -/
def note (r : Rehearsal α) (report : Report) : Rehearsal α :=
  match report.effect with
  | .event event =>
    { r with journal := r.journal ++ [⟨report.span <|> r.surrounding, event⟩] }
  | effect => { r with meters := r.meters.record effect }

/-- Takes in what a step on the registry leaves behind. -/
def absorb (r : Rehearsal α) (step : Step Report Registry β) :
    Rehearsal α × Except Crash β :=
  (step.effects.foldl note { r with registry := step.state }, step.result)

/-- The same for a step whose reports all belong to what is under way. -/
def absorbBare (r : Rehearsal α) (step : Step Effect Registry β) :
    Rehearsal α × Except Crash β :=
  r.absorb (step.relabel Effect.bare)

/-- Gives a value to a name that may have one already. -/
def assign {ν : Type} (key : String) (value : ν) (entries : List (String × ν)) :
    List (String × ν) :=
  (key, value) :: entries.filter fun entry => entry.1 != key

/-- Takes a name with its value away. -/
def remove {ν : Type} (key : String) (entries : List (String × ν)) : List (String × ν) :=
  entries.filter fun entry => entry.1 != key

/-- Turns the end of a step into an answer. -/
def answer (make : β → Answer α) : Rehearsal α × Except Crash β → Rehearsal α × Answer α
  | (r, .ok value) => (r, make value)
  | (r, .error cause) => (r, .crashed cause)

/-- Does something with a breaker, if there is one of that name. -/
def withBreaker (r : Rehearsal α) (name : String)
    (act : Breaker → Rehearsal α × Answer α) : Rehearsal α × Answer α :=
  match r.registry.find? name with
  | none => (r, .missing .breaker)
  | some b => act b

/-- Shows a breaker in some way. -/
def shown (r : Rehearsal α) (name : String) (make : Snapshot → Answer α) :
    Rehearsal α × Answer α :=
  r.withBreaker name fun b =>
    answer make (r.absorbBare (r.registry.run b (·.read r.reading)))

/-- Runs an operation under the protection of a breaker (`CircuitBreaker::execute`). Whatever
`inside` does happens between admission and completion, and the completion finds the breaker and
the clock as `inside` leaves them. -/
def guard (r : Rehearsal α) (b : Breaker) (operation : String) (outcome : Outcome String α)
    (inside : Rehearsal α → Rehearsal α × List (Reaction α)) : Rehearsal α × Answer α :=
  let entered := { r with surrounding := some ⟨b.name, operation⟩ }
  let leave (r' : Rehearsal α) : Rehearsal α := { r' with surrounding := r.surrounding }
  match entered.absorbBare (entered.registry.run b (·.ask operation entered.reading)) with
  | (after, .error cause) => (leave after, .refused (.error cause))
  | (after, .ok (.error reason)) =>
    (leave after, .refused (.ok (.error (.rejected b.name reason))))
  | (after, .ok (.ok ticket)) =>
    let (after, reactions) := inside after
    match after.registry.find? b.name with
    | none => (leave after, .missing .breaker)
    | some b =>
      let (final, result) :=
        after.absorbBare (after.registry.run b (·.finish ticket outcome after.reading))
      (leave final, .executed result reactions)

/-- Drops a call. -/
def dropCall (r : Rehearsal α) (id : String) (started : StartedCall α) :
    Rehearsal α × Except Crash Unit :=
  let r := { r with calls := remove id r.calls }
  match r.registry.find? started.call.breaker with
  | none => (r, .ok ())
  | some b => r.absorb (r.registry.run b (started.call.cancel · r.reading))

/-- Starts a call without polling it. One that goes by the same name is dropped. -/
def startCall (r : Rehearsal α) (id : String) (started : StartedCall α) :
    Rehearsal α × Answer α :=
  let (r, dropped) : Rehearsal α × Except Crash Unit :=
    match r.calls.lookup id with
    | none => (r, .ok ())
    | some old => r.dropCall id old
  match dropped with
  | .error cause => (r, .crashed cause)
  | .ok () => ({ r with calls := assign id started r.calls }, .done)

/-- Whether the operation of a call has been started by the end of a poll that begins
now. -/
def startsNow (call : PendingCall) (b : Breaker) (reading : Reading) : Bool :=
  call.invoked ||
    match (b.ask call.operation reading).result with
    | .ok (.ok _) => true
    | _ => false

/-- Polls a call. One that is not pending any more is forgotten. -/
def pollCall (r : Rehearsal α) (id : String) (started : StartedCall α) :
    Rehearsal α × Answer α :=
  match r.registry.find? started.call.breaker with
  | none => (r, .missing .breaker)
  | some b =>
    let invoked := startsNow started.call b r.reading
    let step := r.registry.run b (started.call.poll · started.progress r.reading r.reading)
    match r.absorb step with
    | (r, .ok (.pending call)) =>
      ({ r with calls := assign id { started with call } r.calls }, .polled (.ok none) invoked)
    | (r, .ok (.ready reply)) =>
      ({ r with calls := remove id r.calls }, .polled (.ok (some reply)) invoked)
    | (r, .error cause) => ({ r with calls := remove id r.calls }, .polled (.error cause) invoked)

/-- Looks up a forecast through a client (`GuardedForecastClient::get_forecast`); the provider
answers at once. -/
def lookUp (r : Rehearsal α) (id : String) (client : ForecastClient) (point : Coordinates)
    (outcome : Outcome String Forecast) : Rehearsal α × Answer α :=
  match r.registry.find? forecastBreaker with
  | none => (r, .missing .breaker)
  | some b =>
    let client :=
      if startsNow forecastCall b r.reading then client.reached point else client
    let r := { r with clients := assign id client r.clients }
    let (r, result) :=
      r.absorb (r.registry.run b (forecastCall.poll · (.done outcome) r.reading r.reading))
    let result := result.bind fun polled =>
      match polled with
      | .ready reply => .ok reply
      | .pending _ => .error .instantRange
    (r, .forecast result client)

/-- Shows the clock. -/
def showTime (r : Rehearsal α) : Answer α :=
  match r.reading.now, r.reading.wall with
  | some _, some wall => .time r.clock.offset wall
  | none, _ => .crashed .instantRange
  | _, none => .crashed .wallRange

/-- Hands out the log entries that have come together. -/
def drain : Rehearsal α × Answer α → Rehearsal α × Reaction α
  | (r, answer) => ({ r with journal := [] }, answer, r.journal)

mutual

/-- Does what a command says. -/
def perform (r : Rehearsal α) : Command α → Rehearsal α × Answer α
  | .advance by_ =>
    match r.clock.advance by_ with
    | .ok clock => ({ r with clock }, .done)
    | .error cause => (r, .crashed cause)
  | .clock => (r, r.showTime)
  | .register name policy =>
    answer .breaker (r.absorbBare (r.registry.register name policy r.reading))
  | .find name => (r, ((r.registry.find? name).map .breaker).getD .done)
  | .names => (r, .names r.registry.names)
  | .size => (r, .count r.registry.size)
  | .isEmpty => (r, .flag r.registry.isEmpty)
  | .openNames => answer .names (r.absorbBare (r.registry.openNames r.reading))
  | .snapshots => answer .snapshots (r.absorbBare (r.registry.readAll r.reading))
  | .meters => (r, .meters r.meters)
  | .mode name => r.shown name fun snapshot => .mode snapshot.mode
  | .tally name => r.shown name fun snapshot => .tally snapshot.tally
  | .snapshot name => r.shown name .snapshot
  | .describe name => r.withBreaker name fun b => (r, .text b.text)
  | .execute name operation outcome inside =>
    r.withBreaker name fun b => r.guard b operation outcome fun r => r.performAll inside
  | .start id name operation crashText =>
    r.withBreaker name fun b => r.startCall id ⟨⟨b.name, operation, .waiting⟩, crashText, none⟩
  | .resolve id outcome =>
    match r.calls.lookup id with
    | none => (r, .missing .call)
    | some started =>
      ({ r with calls := assign id { started with outcome := some outcome } r.calls }, .done)
  | .poll id =>
    match r.calls.lookup id with
    | none => (r, .missing .call)
    | some started => r.pollCall id started
  | .cancel id =>
    match r.calls.lookup id with
    | none => (r, .flag false)
    | some started => answer (fun _ => .flag true) (r.dropCall id started)
  | .newClient id policy =>
    match r.absorbBare (r.registry.register forecastBreaker policy r.reading) with
    | (r, .error cause) => (r, .crashed cause)
    | (r, .ok b) => ({ r with clients := assign id {} r.clients }, .breaker b)
  | .forecast id point outcome =>
    match r.clients.lookup id with
    | none => (r, .missing .client)
    | some client => r.lookUp id client point outcome
  | .request key request =>
    answer .response (r.absorbBare (Admin.respond r.registry key request r.reading))

/-- Does what commands say, one after the other. -/
def performAll (r : Rehearsal α) : List (Command α) → Rehearsal α × List (Reaction α)
  | [] => (r, [])
  | command :: rest =>
    let (r, reaction) := drain (r.perform command)
    let (r, reactions) := r.performAll rest
    (r, reaction :: reactions)

end

end Rehearsal
end Fusebox
