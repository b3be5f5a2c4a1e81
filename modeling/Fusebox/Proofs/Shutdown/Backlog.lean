import Fusebox.Shutdown
import Mathlib.Algebra.GroupWithZero.Nat
import Mathlib.Data.List.Basic

/-! What waits for a receiver of the signal. Only the newest message is kept, but the count of the
messages that a receiver has not been told of is kept for it whatever the others do, and whatever
becomes of the sender. A look tells it of some of them: it gets the message if there is one, and
otherwise it learns how many are lost and leaves the newest for the next look. So nothing that
waits is ever gone without a word. -/
namespace Fusebox.ShutdownSignal

variable {signal : ShutdownSignal} {id other : String} {owed : Nat}

/-- One thing that was done with a signal, and what came of it. -/
structure Record where
  command : Command
  answer : Answer
deriving DecidableEq

/-- What is recorded of a command. -/
def record (signal : ShutdownSignal) (command : Command) : Record :=
  ⟨command, (signal.perform command).2⟩

/-- A receiver is there, and that many messages wait for it. -/
def Owes (signal : ShutdownSignal) (id : String) (owed : Nat) : Prop :=
  ∃ seen, signal.receivers.lookup id = some seen ∧ signal.sent = seen + owed

/-- How many messages still wait after a look. -/
def left : Nat → Nat
  | 0 | 1 => 0
  | _ + 2 => 1

/-- What a receiver finds for which that many messages wait. -/
def found (signal : ShutdownSignal) : Nat → Received
  | 0 => if signal.alive then .empty else .closed
  | 1 => .message
  | owed + 2 => .lagged (owed + 1)

/-- A look leaves no more than the newest message. -/
theorem left_le_one (owed : Nat) : left owed ≤ 1 := by
  unfold left
  split <;> omega

theorem left_le (owed : Nat) : left owed ≤ owed := by
  unfold left
  split <;> omega

theorem left_eq_zero (few : owed ≤ 1) : left owed = 0 := by
  unfold left
  split <;> omega

namespace Record

/-- A receiver is no more: it is dropped, or another one takes its name. -/
def Ends (id : String) (record : Record) : Prop :=
  record.command = .drop id ∨ record = ⟨.subscribe id, .done⟩

instance (id : String) (record : Record) : Decidable (record.Ends id) :=
  inferInstanceAs (Decidable (_ ∨ _))

/-- How many messages a receiver is told that it has lost. -/
def missed (id : String) : Record → Nat
  | ⟨.receive other, .received (.lagged missed)⟩ => if other = id then missed else 0
  | _ => 0

/-- How many messages wait for a receiver after something was done, if so many did before. -/
def waiting (id : String) (owed : Nat) (record : Record) : Nat :=
  if record = ⟨.trigger, .done⟩ then owed + 1
  else if record.command = .receive id then left owed
  else owed

end Record

/-- How many messages a receiver has got. -/
def delivered (id : String) (since : List Record) : Nat :=
  since.count ⟨.receive id, .received .message⟩

/-- How many messages a receiver was told that it has lost. -/
def lost (id : String) (since : List Record) : Nat := (since.map (Record.missed id)).sum

/-- How often the signal was triggered. -/
def triggered (since : List Record) : Nat := since.count ⟨.trigger, .done⟩

/-- How many messages wait for a receiver after all that was done since it subscribed. -/
def waiting (id : String) (since : List Record) : Nat := since.foldl (Record.waiting id) 0

/-- Whoever else is taken away, a receiver is where it was. -/
theorem lookup_without (receivers : List (String × Nat)) (apart : id ≠ other) :
    (receivers.filter fun entry => entry.1 != other).lookup id = receivers.lookup id := by
  induction receivers with
  | nil => rfl
  | cons entry rest ih =>
    obtain ⟨name, seen⟩ := entry
    by_cases gone : name = other
    · rw [List.filter_cons_of_neg (by simpa using gone), ih, List.lookup_cons, gone,
        beq_false_of_ne apart]
    · rw [List.filter_cons_of_pos (by simpa using gone), List.lookup_cons, List.lookup_cons, ih]

theorem lookup_gone (receivers : List (String × Nat)) (id : String) :
    (receivers.filter fun entry => entry.1 != id).lookup id = none := by
  rw [List.lookup_eq_none_iff]
  intro entry member
  rw [bne_comm]
  exact (List.mem_filter.mp member).2

/-- A receiver is moved on, and the others stay where they are. -/
theorem lookup_updated (receivers : List (String × Nat)) (id other : String) (seen : Nat) :
    (receivers.map fun entry => if entry.1 == other then (other, seen) else entry).lookup id =
      (receivers.lookup id).map fun old => if id = other then seen else old := by
  induction receivers with
  | nil => rfl
  | cons entry rest ih =>
    obtain ⟨name, old⟩ := entry
    by_cases moved : name = other
    · rw [List.map_cons, if_pos (by simpa using moved), List.lookup_cons, List.lookup_cons, ih,
        moved]
      by_cases here : id = other
      · simp [here]
      · simp [here, beq_false_of_ne here]
    · rw [List.map_cons, if_neg (by simpa using moved), List.lookup_cons, List.lookup_cons, ih]
      by_cases here : id = name
      · simp [here, moved]
      · simp [beq_false_of_ne here]

theorem names_updated (receivers : List (String × Nat)) (id : String) (seen : Nat) :
    (receivers.map fun entry => if entry.1 == id then (id, seen) else entry).map Prod.fst =
      receivers.map Prod.fst := by
  rw [List.map_map]
  refine List.map_congr_left fun entry _ => ?_
  by_cases here : entry.1 = id <;> simp [here]

/-- A look finds what waits, whoever else has looked. -/
theorem look_eq {seen : Nat} (sent : signal.sent = seen + owed) :
    signal.look seen = (signal.sent - left owed, signal.found owed) := by
  unfold look
  match owed with
  | 0 => simp [sent, left, found]
  | 1 => simp [sent, left, found]
  | more + 2 =>
    rw [if_neg (by omega), if_neg (by omega), left, found]
    congr 2
    omega

/-- What a look finds and what it leaves is all that waited. -/
theorem perform_receive (owes : signal.Owes id owed) :
    (signal.perform (.receive id)).2 = .received (signal.found owed) ∧
      (signal.perform (.receive id)).1.Owes id (left owed) := by
  obtain ⟨seen, there, sent⟩ := owes
  have few := left_le owed
  simp only [perform, receive?, there, Option.map_some, look_eq sent]
  refine ⟨trivial, signal.sent - left owed, ?_, ?_⟩
  · rw [lookup_updated, there]
    simp
  · show signal.sent = _
    omega

/-- A receiver has nothing to do with the looks of the others. -/
theorem perform_receive_other (signal : ShutdownSignal) (apart : id ≠ other) :
    (signal.perform (.receive other)).1.receivers.lookup id = signal.receivers.lookup id ∧
      (signal.perform (.receive other)).1.sent = signal.sent := by
  simp only [perform, receive?]
  cases signal.receivers.lookup other with
  | none => exact ⟨rfl, rfl⟩
  | some seen =>
    refine ⟨?_, rfl⟩
    simp only [Option.map_some, lookup_updated, if_neg apart, Option.map_id']

/-- What waits for a receiver depends on what is sent and on the receiver. -/
theorem Owes.congr (owes : signal.Owes id owed) {next : ShutdownSignal}
    (there : next.receivers.lookup id = signal.receivers.lookup id)
    (sent : next.sent = signal.sent) : next.Owes id owed := by
  rw [Owes, there, sent]
  exact owes

/-- Whatever is done, as many messages wait for a receiver afterwards as the record of it says. -/
theorem perform_owes (owes : signal.Owes id owed) {command : Command}
    (stays : ¬(signal.record command).Ends id) :
    (signal.perform command).1.Owes id ((signal.record command).waiting id owed) := by
  cases command with
  | subscribe other =>
    have same : (signal.record (.subscribe other)).waiting id owed = owed := by
      simp [record, Record.waiting]
    rw [same]
    cases alive : signal.alive with
    | false => simpa [perform, alive] using owes
    | true =>
      have apart : id ≠ other := by
        rintro rfl
        exact stays (.inr (by simp [record, perform, alive]))
      refine owes.congr ?_ (by simp [perform, alive, subscribe])
      simp only [perform, alive, ↓reduceIte, subscribe, List.lookup_cons, beq_false_of_ne apart]
      exact lookup_without _ apart
  | trigger =>
    cases alive : signal.alive with
    | false => simpa [record, perform, alive, Record.waiting] using owes
    | true =>
      obtain ⟨seen, there, sent⟩ := owes
      simp only [record, perform, alive, ↓reduceIte, Record.waiting]
      exact ⟨seen, there, congrArg (· + 1) sent⟩
  | receiverCount => exact owes
  | drop other =>
    have apart : id ≠ other := by
      rintro rfl
      exact stays (.inl rfl)
    exact owes.congr (lookup_without _ apart) rfl
  | destroy => exact owes
  | receive other =>
    by_cases same : id = other
    · subst same
      simpa [record, Record.waiting] using (perform_receive owes).2
    · obtain ⟨there, sent⟩ := signal.perform_receive_other same
      simpa [record, Record.waiting, Ne.symm same] using owes.congr there sent

/-- A look tells of all that does not wait any longer. -/
theorem told_found (signal : ShutdownSignal) (id : String) (owed : Nat) :
    delivered id [⟨.receive id, .received (signal.found owed)⟩] +
        lost id [⟨.receive id, .received (signal.found owed)⟩] + left owed = owed := by
  match owed with
  | 0 => cases alive : signal.alive <;> simp [found, alive, delivered, lost, Record.missed, left]
  | 1 => simp [found, delivered, lost, Record.missed, left]
  | more + 2 => simp [found, delivered, lost, Record.missed, left]

/-- A receiver is told nothing by the looks of the others. -/
theorem Record.missed_other (apart : id ≠ other) (answer : Answer) :
    missed id ⟨.receive other, answer⟩ = 0 := by
  unfold missed
  split
  · rename_i looked
    cases looked
    exact if_neg apart.symm
  · rfl

/-- No message is gone without a word: a receiver gets it, learns that it is lost, or still has it
to wait for. -/
theorem perform_accounts (owes : signal.Owes id owed) (command : Command) :
    delivered id [signal.record command] + lost id [signal.record command] +
        (signal.record command).waiting id owed =
      owed + triggered [signal.record command] := by
  cases command with
  | trigger =>
    cases alive : signal.alive <;>
      simp [record, perform, alive, delivered, lost, Record.missed, Record.waiting, triggered]
  | receive other =>
    by_cases same : id = other
    · subst same
      have told := signal.told_found id owed
      rw [record, (perform_receive owes).1]
      simpa [Record.waiting, triggered] using told
    · simp [record, delivered, lost, Record.missed_other same, Record.waiting, triggered,
        Ne.symm same]
  | _ => simp [record, delivered, lost, Record.missed, Record.waiting, triggered]

end Fusebox.ShutdownSignal
