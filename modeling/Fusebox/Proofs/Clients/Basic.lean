import Fusebox.Proofs.Breaker.Refusal
import Fusebox.Proofs.Breaker.Reports

/-! The clients of one breaker. Each has an operation that it wants to run, and either waits for
the answer or polls for it; clients come and go in any order, and the acts of one of them fall
between those of the others. The books of the clientele keep what the breaker forgets: what it
said to whom, whose operation was started, how it ended, and what was reported on the way. -/
namespace Fusebox

/-- How an operation ended, as far as its breaker is concerned. -/
def Outcome.ending : Outcome ε α → Ending
  | .value _ => .succeeded
  | .failure _ => .failed
  | .crash _ => .crashed

/-- What the caller of an operation should get once it has ended. -/
def Outcome.answer : Outcome ε α → Except Crash (Reply ε α)
  | .value given => .ok (.ok given)
  | .failure error => .ok (.error (.dependency error))
  | .crash text => .error (.operation text)

/-- How an operation ended, if a poll of it found that it had. -/
def Progress.outcome? : Progress ε α → Option (Outcome ε α)
  | .pending => none
  | .done outcome => some outcome

/-- Whether it was a clock that made an end of something. -/
def Crash.ofClock : Crash → Bool
  | .instantRange | .wallRange | .wallFloor => true
  | .durationRange | .tornText | .operation _ => false

/-- One who wants an operation to be run, and what has come of it. -/
structure Client (ε α : Type) where
  operation : String
  /-- Whether it waits until there is an answer. Otherwise it polls. -/
  blocking : Bool
  phase : CallPhase := .waiting
  /-- What the breaker said when it was asked. -/
  admission : Option (Except Rejection Ticket) := none
  /-- How often the operation was started. -/
  starts : Nat := 0
  /-- How the operation ended. -/
  outcome : Option (Outcome ε α) := none
  /-- Whether the call was dropped. -/
  dropped : Bool := false
  /-- What the client got. -/
  answer : Option (Except Crash (Reply ε α)) := none

namespace Client

/-- Whether nothing more can come of it. -/
def closed (client : Client ε α) : Bool := client.answer.isSome || client.dropped

/-- The call that it polls. -/
def call (client : Client ε α) (breaker : String) : PendingCall :=
  ⟨breaker, client.operation, client.phase⟩

/-- The place of a client that waits in the log. -/
def span (client : Client ε α) (breaker : String) : Span := ⟨breaker, client.operation⟩

/-- The ticket that it has. -/
def ticket? (client : Client ε α) : Option Ticket :=
  match client.phase with
  | .waiting => none
  | .running ticket => some ticket

/-- A client that waits has asked. Its operation is started at once if it may be. -/
def asked (client : Client ε α) (b : Breaker) (reading : Reading) : Client ε α :=
  match (b.ask client.operation reading).result with
  | .error cause => { client with answer := some (.error cause) }
  | .ok (.error reason) =>
    { client with
      admission := some (.error reason)
      answer := some (.ok (.error (.rejected b.name reason))) }
  | .ok (.ok ticket) =>
    { client with
      admission := some (.ok ticket)
      phase := .running ticket
      starts := client.starts + 1 }

/-- The operation of a client that waits has ended. -/
def finished (client : Client ε α) (b : Breaker) (ticket : Ticket) (outcome : Outcome ε α)
    (reading : Reading) : Client ε α :=
  { client with
    outcome := some outcome
    answer := some (b.finish ticket outcome reading).result }

/-- The client knows what a poll of its call has found. -/
def heard (client : Client ε α) : Except Crash (Polled ε α) → Client ε α
  | .ok (.pending call) => { client with phase := call.phase }
  | .ok (.ready reply) => { client with answer := some (.ok reply) }
  | .error cause => { client with answer := some (.error cause) }

/-- The client has polled its call. The operation was started by then or it was not, and it
can only have ended if it was. -/
def polled (client : Client ε α) (b : Breaker) (progress : Progress ε α) (entry exit : Reading) :
    Client ε α :=
  let call := client.call b.name
  let started := Rehearsal.startsNow call b entry
  heard { client with
    admission := match client.phase with
      | .waiting => (b.ask client.operation entry).result.toOption
      | .running _ => client.admission
    starts := if started && !call.invoked then client.starts + 1 else client.starts
    outcome := if started then progress.outcome? <|> client.outcome else client.outcome }
    (call.poll b progress entry exit).result

end Client

/-- A breaker, all its clients, numbered as they come, and everything that was reported. -/
structure Clientele (ε α : Type) where
  breaker : Breaker
  clients : List (Client ε α) := []
  reports : List Report := []

/-- What may happen next. -/
inductive Act (ε α : Type) where
  /-- A client comes that waits for its answer. -/
  | enter (operation : String) (reading : Reading)
  /-- The operation of such a client ends. -/
  | leave (number : Nat) (outcome : Outcome ε α) (reading : Reading)
  /-- A client comes that will poll. -/
  | start (operation : String)
  /-- It does. The clocks are read as it enters, if it does so now, and as its operation ends. -/
  | poll (number : Nat) (progress : Progress ε α) (entry exit : Reading)
  /-- A call that was to be polled is dropped. -/
  | drop (number : Nat) (reading : Reading)
  /-- Somebody looks at the breaker. -/
  | look (reading : Reading)

/-- Whether it is something that one of the clients does which are there already. -/
def Act.concerns (number : Nat) : Act ε α → Bool
  | .leave other _ _ | .poll other _ _ _ | .drop other _ => other == number
  | .enter .. | .start _ | .look _ => false

namespace Clientele

/-- A breaker without clients. -/
def fresh (b : Breaker) : Clientele ε α := { breaker := b }

/-- All effects, without their places in the log. -/
def effects (t : Clientele ε α) : List Effect := t.reports.map (·.effect)

/-- What the metrics show that know of nothing else. -/
def meters (t : Clientele ε α) : Meters := Meters.recordAll {} t.effects

/-- The client of a number if something can still come of it. -/
def client? (t : Clientele ε α) (number : Nat) (blocking : Bool) : Option (Client ε α) :=
  t.clients[number]?.filter fun client => client.blocking == blocking && !client.closed

/-- A step of the breaker has been made. -/
def follow (t : Clientele ε α) (step : Step Report Breaker β) : Clientele ε α :=
  { t with breaker := step.state, reports := t.reports ++ step.effects }

/-- A client joins. -/
def join (t : Clientele ε α) (client : Client ε α) : Clientele ε α :=
  { t with clients := t.clients ++ [client] }

/-- A client has come further. -/
def put (t : Clientele ε α) (number : Nat) (client : Client ε α) : Clientele ε α :=
  { t with clients := t.clients.set number client }

/-- Lets one thing happen. A client that is through with its call does nothing any more. -/
def perform (t : Clientele ε α) : Act ε α → Clientele ε α
  | .enter operation reading =>
    let client : Client ε α := { operation, blocking := true }
    (t.follow ((t.breaker.ask operation reading).relabel
      (Effect.under (client.span t.breaker.name)))).join (client.asked t.breaker reading)
  | .leave number outcome reading =>
    match t.client? number true with
    | none => t
    | some client =>
      match client.ticket? with
      | none => t
      | some ticket =>
        (t.follow ((t.breaker.finish ticket outcome reading).relabel
          (Effect.under (client.span t.breaker.name)))).put number
            (client.finished t.breaker ticket outcome reading)
  | .start operation => t.join { operation, blocking := false }
  | .poll number progress entry exit =>
    match t.client? number false with
    | none => t
    | some client =>
      (t.follow ((client.call t.breaker.name).poll t.breaker progress entry exit)).put number
        (client.polled t.breaker progress entry exit)
  | .drop number reading =>
    match t.client? number false with
    | none => t
    | some client =>
      (t.follow ((client.call t.breaker.name).cancel t.breaker reading)).put number
        { client with dropped := true }
  | .look reading => t.follow ((t.breaker.read reading).relabel Effect.bare)

/-- Lets one thing happen after the other. -/
def run (t : Clientele ε α) (script : List (Act ε α)) : Clientele ε α := script.foldl perform t

end Clientele

namespace Breaker

variable {b : Breaker} {ticket : Ticket} {outcome : Outcome ε α} {reading : Reading}

/-- The end of an operation, as a step of the breaker, is what its outcome makes it. -/
theorem finish_state (b : Breaker) (ticket : Ticket) (outcome : Outcome ε α) (reading : Reading) :
    (b.finish ticket outcome reading).state = (b.conclude ticket outcome.ending reading).state := by
  cases outcome <;> rfl

theorem finish_effects (b : Breaker) (ticket : Ticket) (outcome : Outcome ε α)
    (reading : Reading) :
    (b.finish ticket outcome reading).effects =
      (b.conclude ticket outcome.ending reading).effects := by
  cases outcome <;> rfl

/-- Unless a clock fails, the one who is answered hears of the outcome, and of nothing else. -/
theorem finish_result (b : Breaker) (ticket : Ticket) (outcome : Outcome ε α) (reading : Reading) :
    (b.finish ticket outcome reading).result = outcome.answer ∨
      ∃ cause, (b.conclude ticket outcome.ending reading).result = .error cause ∧
        (b.finish ticket outcome reading).result = .error cause := by
  cases outcome with
  | crash text => exact .inl rfl
  | value value =>
    simp only [finish, Step.map, Outcome.answer, Outcome.ending, conclude]
    cases (b.settle ticket true reading).result with
    | ok _ => exact .inl rfl
    | error cause => exact .inr ⟨cause, rfl, rfl⟩
  | failure error =>
    simp only [finish, Step.map, Outcome.answer, Outcome.ending, conclude]
    cases (b.settle ticket false reading).result with
    | ok _ => exact .inl rfl
    | error cause => exact .inr ⟨cause, rfl, rfl⟩

end Breaker

namespace PendingCall

variable {call : PendingCall} {b : Breaker} {progress : Progress ε α} {entry exit : Reading}

theorem poll_running (running : call.phase = .running ticket) :
    call.poll b progress entry exit = call.proceed b ticket progress exit := by
  simp only [poll, running]

/-- A first poll asks, and goes on if it may. -/
theorem poll_admitted (waiting : call.phase = .waiting)
    (admitted : (b.ask call.operation entry).result = .ok (.ok ticket)) :
    call.poll b progress entry exit =
      (call.proceed (b.ask call.operation entry).state ticket progress exit).after
        ((b.ask call.operation entry).effects.map (Effect.under call.span)) := by
  simp only [poll, waiting, Step.bind, Step.relabel, admitted, Step.after]

theorem poll_crashed (waiting : call.phase = .waiting)
    (crashed : (b.ask call.operation entry).result = .error cause) :
    call.poll b progress entry exit = {
      (b.ask call.operation entry).relabel (Effect.under call.span) with
      result := .error cause } := by
  simp only [poll, waiting, Step.bind, Step.relabel, crashed]

end PendingCall

namespace Rehearsal

variable {r : Rehearsal α} {b : Breaker}

/-- What is reported inside an operation is reported under its name. -/
theorem absorb_under {span : Span} (surrounded : r.surrounding = some span)
    (step : Step Effect Registry β) :
    r.absorbBare step = r.absorb (step.relabel (Effect.under span)) := by
  have told (effects : List Effect) (r : Rehearsal α) (surrounded : r.surrounding = some span) :
      (effects.map Effect.bare).foldl note r = (effects.map (Effect.under span)).foldl note r := by
    induction effects generalizing r with
    | nil => rfl
    | cons effect rest ih =>
      have same : r.note effect.bare = r.note (effect.under span) := by
        cases effect with
        | event event =>
          simp only [note, Effect.bare, Effect.under, surrounded]
          rfl
        | count counter => rfl
        | gauge breaker mode => rfl
      have stays : (r.note (effect.under span)).surrounding = some span := by
        cases effect <;> exact surrounded
      rw [List.map_cons, List.map_cons, List.foldl_cons, List.foldl_cons, same, ih _ stays]
  exact congrArg (·, step.result) (told step.effects _ surrounded)

/-- A blocking call enters: it asks, and what it reports is under its name. -/
def entering (r : Rehearsal α) (b : Breaker) (operation : String) :
    Rehearsal α × Except Crash (Except Rejection Ticket) :=
  absorb { r with surrounding := some ⟨b.name, operation⟩ }
    ((r.registry.run b (·.ask operation r.reading)).relabel (Effect.under ⟨b.name, operation⟩))

/-- It leaves after what was done inside, and hands on how its operation ended. -/
def leaving (outer : Option Span) (name : String) (ticket : Ticket) (outcome : Outcome String α)
    (inner : Rehearsal α × List (Reaction α)) : Rehearsal α × Answer α :=
  match inner.1.registry.find? name with
  | none => ({ inner.1 with surrounding := outer }, .missing .breaker)
  | some b =>
    let left := inner.1.absorbBare
      (inner.1.registry.run b (·.finish ticket outcome inner.1.reading))
    ({ left.1 with surrounding := outer }, .executed left.2 inner.2)

/-- A blocking call is its entering, what is inside of it, and its leaving. -/
theorem guard_eq (r : Rehearsal α) (b : Breaker) (operation : String) (outcome : Outcome String α)
    (inside : Rehearsal α → Rehearsal α × List (Reaction α)) :
    r.guard b operation outcome inside =
      let entered := (r.entering b operation).1
      match (b.ask operation r.reading).result with
      | .error cause => ({ entered with surrounding := r.surrounding }, .refused (.error cause))
      | .ok (.error reason) =>
        ({ entered with surrounding := r.surrounding },
          .refused (.ok (.error (.rejected b.name reason))))
      | .ok (.ok ticket) => leaving r.surrounding b.name ticket outcome (inside entered) := by
  have begun : absorbBare { r with surrounding := some ⟨b.name, operation⟩ }
      (r.registry.run b (·.ask operation r.reading)) =
      ((r.entering b operation).1, (b.ask operation r.reading).result) := absorb_under rfl _
  have told : reading { r with surrounding := some ⟨b.name, operation⟩ } = r.reading := rfl
  unfold guard
  dsimp only
  rw [told, begun]
  cases (b.ask operation r.reading).result with
  | error cause => rfl
  | ok admission =>
    cases admission with
    | error reason => rfl
    | ok ticket => rfl

end Rehearsal
end Fusebox
