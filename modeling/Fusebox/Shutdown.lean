/-! The signal to shut down, sent to any number of receivers. Only the newest of the
messages sent is kept. A receiver that missed some is told how many, and then gets
the newest; messages sent before it subscribed are not meant for it. Once the sender
is gone nothing can be sent and nobody can subscribe, but what was sent can still be
received. -/
namespace Fusebox

/-- What a receiver finds when it looks for a message. -/
inductive Received where
  | message
  /-- Nothing new, and more may come. -/
  | empty
  /-- Nothing new, and nothing will come. -/
  | closed
  /-- That many messages are gone for good. -/
  | lagged (missed : Nat)
deriving DecidableEq

/-- The sender and its receivers (`Shutdown`). -/
structure ShutdownSignal where
  /-- How often it was triggered so far. -/
  sent : Nat := 0
  /-- Whether the sender is still there. -/
  alive : Bool := true
  /-- For every receiver, by name, how many messages it is done with. -/
  receivers : List (String × Nat) := []
deriving DecidableEq

namespace ShutdownSignal

/-- Adds a receiver for all messages from now on (`Shutdown::subscribe`). One of the same
name is dropped. -/
def subscribe (signal : ShutdownSignal) (id : String) : ShutdownSignal :=
  { signal with
    receivers := (id, signal.sent) :: signal.receivers.filter fun entry => entry.1 != id }

/-- Sends a message (`Shutdown::trigger`). -/
def trigger (signal : ShutdownSignal) : ShutdownSignal := { signal with sent := signal.sent + 1 }

/-- How many receivers there are (`Shutdown::receiver_count`). -/
def receiverCount (signal : ShutdownSignal) : Nat := signal.receivers.length

/-- Removes a receiver and tells whether it was there. -/
def drop (signal : ShutdownSignal) (id : String) : ShutdownSignal × Bool :=
  ({ signal with receivers := signal.receivers.filter fun entry => entry.1 != id },
    (signal.receivers.lookup id).isSome)

/-- Removes the sender. Messages that were sent stay available. -/
def destroy (signal : ShutdownSignal) : ShutdownSignal := { signal with alive := false }

/-- What a receiver finds that is done with `seen` messages, and how many it is done
with after that. -/
def look (signal : ShutdownSignal) (seen : Nat) : Nat × Received :=
  if signal.sent ≤ seen then (seen, if signal.alive then .empty else .closed)
  else if signal.sent = seen + 1 then (signal.sent, .message)
  else (signal.sent - 1, .lagged (signal.sent - 1 - seen))

/-- Looks for a message without waiting. -/
def receive? (signal : ShutdownSignal) (id : String) : Option (ShutdownSignal × Received) :=
  (signal.receivers.lookup id).map fun seen =>
    let (seen, found) := signal.look seen
    ({ signal with
      receivers := signal.receivers.map fun entry =>
        if entry.1 == id then (id, seen) else entry }, found)

/-- What can be done with a signal. -/
inductive Command where
  | subscribe (id : String)
  | trigger
  | receiverCount
  | drop (id : String)
  | destroy
  | receive (id : String)
deriving DecidableEq

/-- What comes of it. -/
inductive Answer where
  | done
  | count (receivers : Nat)
  /-- Whether there was a receiver to drop. -/
  | dropped (found : Bool)
  | received (what : Received)
  | noReceiver
  /-- The sender is gone, and this would have needed it. -/
  | destroyed
deriving DecidableEq

/-- Does one thing with a signal. -/
def perform (signal : ShutdownSignal) : Command → ShutdownSignal × Answer
  | .subscribe id => if signal.alive then (signal.subscribe id, .done) else (signal, .destroyed)
  | .trigger => if signal.alive then (signal.trigger, .done) else (signal, .destroyed)
  | .receiverCount => (signal, if signal.alive then .count signal.receiverCount else .destroyed)
  | .drop id =>
    let (signal, found) := signal.drop id
    (signal, .dropped found)
  | .destroy => (signal.destroy, .done)
  | .receive id =>
    match signal.receive? id with
    | none => (signal, .noReceiver)
    | some (signal, found) => (signal, .received found)

/-- Does one thing after the other. -/
def performAll (signal : ShutdownSignal) : List Command → ShutdownSignal × List Answer
  | [] => (signal, [])
  | command :: rest =>
    let (signal, answer) := signal.perform command
    let (signal, answers) := signal.performAll rest
    (signal, answer :: answers)

end ShutdownSignal
end Fusebox
