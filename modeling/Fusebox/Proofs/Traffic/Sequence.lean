import Fusebox.Proofs.Traffic.Admission
import Fusebox.Proofs.Traffic.Tripping

/-! Calls one after the other. If every call ends before the next one asks, and the clock
stands still, the history of the only closed generation is the list of their ends. The
breaker opens at the first failure that this list warrants, and none of the calls after
that comes through. -/
namespace Fusebox

/-- Whether the last of these ends is a failure that they warrant to open a breaker at. -/
def Policy.TripsAt (p : Policy) (endings : List Ending) : Prop :=
  endings.getLast?.map Ending.success = some false ∧
    p.Warranted endings.length ((endings.map Ending.success).count false)

instance (p : Policy) (endings : List Ending) : Decidable (p.TripsAt endings) :=
  inferInstanceAs (Decidable (_ ∧ _))

theorem Policy.not_tripsAt_nil (p : Policy) : ¬p.TripsAt [] := by
  simp [TripsAt]

theorem Policy.tripsAt_append_iff (p : Policy) (done : List Ending) (ending : Ending) :
    p.TripsAt (done ++ [ending]) ↔ ending.success = false ∧
      p.Warranted (done.length + 1) ((done.map Ending.success).count false + 1) := by
  cases success : ending.success <;> simp [TripsAt, success]

namespace Traffic

/-- Calls that are made one after the other at one reading, the first of them under a
number. A call that is turned away has no end. -/
def sequence (operation : String) (moment : Reading) : Nat → List Ending → List Move
  | _, [] => []
  | number, ending :: rest =>
    .ask operation moment :: .finish number ending moment ::
      sequence operation moment (number + 1) rest

/-- Why the requests of a script were turned away, if they were. -/
def refusals (t : Traffic) (script : List Move) : List (Option Rejection) :=
  (t.hearings script).map (·.refusal)

variable {t : Traffic} {policy : Policy} {now : Instant} {wall : Option Instant}

/-- A request and the end of the call that comes of it, if one does. -/
theorem run_sequence (t : Traffic) (operation : String) (moment : Reading) (number : Nat)
    (ending : Ending) (rest : List Ending) :
    t.run (sequence operation moment number (ending :: rest)) =
      ((t.perform (.ask operation moment)).perform (.finish number ending moment)).run
        (sequence operation moment (number + 1) rest) := rfl

theorem refusals_sequence (t : Traffic) (operation : String) (moment : Reading) (number : Nat)
    (ending : Ending) (rest : List Ending) :
    t.refusals (sequence operation moment number (ending :: rest)) =
      (t.hearing? (.ask operation moment)).toList.map (·.refusal) ++
        ((t.perform (.ask operation moment)).perform (.finish number ending moment)).refusals
          (sequence operation moment (number + 1) rest) := by
  simp [refusals, sequence, hearings, hearing?]

/-- A breaker that is closed once the timer has acted admits. -/
theorem ask_closed (t : Traffic) (operation : String)
    (closed : (t.elapse now wall).breaker.mode = .closed) :
    t.perform (.ask operation ⟨some now, wall⟩) = (t.elapse now wall).accept now ∧
      (t.hearing? (.ask operation ⟨some now, wall⟩)).toList.map (·.refusal) = [none] := by
  have heard := ask_heard t operation now wall
  simp only [hearing?]
  generalize (t.breaker.ask operation ⟨some now, wall⟩).result = result at heard ⊢
  generalize t.perform (.ask operation ⟨some now, wall⟩) = next at heard ⊢
  cases heard with
  | crashed cause =>
    have crash : (t.breaker.refresh now wall).result ≠ .ok () := by simp [cause]
    rw [elapse, Breaker.refresh_crashed_state crash] at closed
    cases closed
  | refused fine refused => simp [Breaker.rejection?, closed] at refused
  | admitted fine free => exact ⟨rfl, rfl⟩

/-- An open breaker turns requests away until the timer acts. -/
theorem ask_opened (t : Traffic) (operation : String) (opened : t.breaker.mode = .opened)
    (early : t.breaker.due now = false) (wall : Option Instant) :
    t.perform (.ask operation ⟨some now, wall⟩) = t ∧
      (t.hearing? (.ask operation ⟨some now, wall⟩)).toList.map (·.refusal) = [some .opened] := by
  have refused := Breaker.ask_refused_of_opened opened early operation wall
  have untimed : t.breaker.Untimed ⟨some now, wall⟩ := by
    intro _ seen
    cases seen
    exact early
  have still := Breaker.ask_state_of_opened opened untimed operation
  constructor
  · simp only [perform, refused, still]
    exact onto_same t
  · simp [hearing?, refused]

/-- A call of the present generation counts when it ends before the deadline. -/
theorem finish_counted (early : t.breaker.due now = false) (found : t.call? number = some call)
    (same : t.breaker.generation = call.ticket.generation) (ending : Ending) :
    ∃ next, Breaker.Noted t.breaker now wall ending.success next ∧
      t.perform (.finish number ending ⟨some now, wall⟩) = (t.onto next).land call ending := by
  have completed := Breaker.complete_completed t.breaker call.ticket ending.success now wall
  simp only [perform, found, Breaker.conclude_state]
  rw [Breaker.refresh_early early] at completed
  generalize (t.breaker.complete call.ticket ending.success ⟨some now, wall⟩).state = next
    at completed ⊢
  cases completed with
  | crashed cause => exact absurd rfl cause
  | stale other => exact absurd same other
  | counted _ noted => exact ⟨next, noted, rfl⟩

/-- Between two calls in a sequence: those before have ended as `done` says, none of them
has opened the breaker, and the clock has no work. -/
structure Calm (policy : Policy) (now : Instant) (done : List Ending) (t : Traffic) : Prop where
  lawful : Lawful policy t
  closed : t.breaker.mode = .closed
  early : t.breaker.due now = false
  underway : t.underway = []
  admitted : t.admitted.length = done.length
  asked : t.admittedNow.length = done.length
  outcomes : t.outcomesNow = done.map Ending.success
  untripped : ∀ part, part <+: done → ¬policy.TripsAt part

/-- After a call in a sequence has opened the breaker. -/
structure Shut (now : Instant) (t : Traffic) : Prop where
  opened : t.breaker.mode = .opened
  early : t.breaker.due now = false
  underway : t.underway = []

/-- The only call under way is the one that has just been admitted. -/
theorem Calm.boarded (calm : Calm policy now done t) :
    ∃ call, (t.accept now).underway = [call] ∧ (t.accept now).call? done.length = some call ∧
      call.era = (t.accept now).era ∧
      (t.accept now).breaker.generation = call.ticket.generation := by
  let call : Call := ⟨t.admitted.length, ⟨t.breaker.generation⟩, t.era, t.breaker.mode, now⟩
  have underway : (t.accept now).underway = [call] := by simp [accept, board, calm.underway, call]
  have found : (t.accept now).call? done.length = some call := by
    simp [call?, underway, call, calm.admitted]
  exact ⟨call, underway, found, rfl, rfl⟩

/-- The end of a call opens the breaker, or the sequence goes on as before. -/
theorem Calm.ended (calm : Calm policy now done t) (room : done.length + 1 < UInt32.size)
    (ending : Ending) :
    policy.TripsAt (done ++ [ending]) ∧
        Shut now ((t.accept now).perform (.finish done.length ending ⟨some now, wall⟩)) ∨
      Calm policy now (done ++ [ending])
        ((t.accept now).perform (.finish done.length ending ⟨some now, wall⟩)) := by
  have lawful : Lawful policy (t.accept now) :=
    calm.lawful.admitted (by simp [Breaker.rejection?, calm.closed])
  have closed : (t.accept now).breaker.mode = .closed := calm.closed
  have early : (t.accept now).breaker.due now = false := calm.early
  have asked : (t.accept now).admittedNow.length = done.length + 1 := by
    rw [accept_admittedNow, calm.asked]
  have outcomes : (t.accept now).outcomesNow = done.map Ending.success := calm.outcomes
  obtain ⟨call, underway, found, current, tag⟩ := calm.boarded
  have member : call ∈ (t.accept now).underway := by simp [underway]
  obtain ⟨next, noted, performed⟩ := finish_counted early found tag ending
  have trips : next.mode = .opened ↔ policy.TripsAt (done ++ [ending]) := by
    rw [lawful.noted_opens_iff closed (asked ▸ room) member current noted, asked, outcomes,
      policy.tripsAt_append_iff]
  have landed : (((t.accept now).onto next).land call ending).underway = [] := by
    show (t.accept now).underway.erase call = []
    rw [underway, List.erase_cons_head]
  rw [performed]
  rcases noted.joins_or_opens closed with joined | opened
  · have same : next.generation = (t.accept now).breaker.generation := by rw [joined]
    have shut : next.mode = .closed := by rw [joined]; exact closed
    have early : next.due now = false := by rw [joined]; exact early
    obtain ⟨calls, ends⟩ := counted_history current same ending
    refine .inr ⟨lawful.counted member current noted, shut, early, landed, ?_, ?_, ?_, ?_⟩
    · simp [land, accept, board, onto, calm.admitted]
    · rw [calls, asked, List.length_append, List.length_singleton]
    · rw [ends, outcomes, List.map_append, List.map_singleton]
    · intro part shorter
      rcases List.prefix_concat_iff.mp shorter with rfl | older
      · rw [← trips, shut]
        exact Mode.noConfusion
      · exact calm.untripped part older
  · have begun : next.due now = false := by
      rw [opened]
      exact Breaker.due_of_begun lawful.openTimeout_pos rfl
    have opened : next.mode = .opened := by rw [opened]; rfl
    exact .inl ⟨trips.mp opened, opened, begun, landed⟩

/-- Once the breaker is open, no call of the sequence comes through. -/
theorem Shut.run (shut : Shut now t) (operation : String) (number : Nat) (endings : List Ending) :
    Shut now (t.run (sequence operation ⟨some now, wall⟩ number endings)) ∧
      t.refusals (sequence operation ⟨some now, wall⟩ number endings) =
        List.replicate endings.length (some .opened) := by
  induction endings generalizing number with
  | nil => exact ⟨shut, rfl⟩
  | cons ending rest ih =>
    obtain ⟨performed, refused⟩ := ask_opened t operation shut.opened shut.early wall
    have missing : t.perform (.finish number ending ⟨some now, wall⟩) = t := by
      simp [perform, call?, shut.underway]
    obtain ⟨still, later⟩ := ih (number + 1)
    rw [run_sequence, refusals_sequence, refused, performed, missing, later]
    exact ⟨still, rfl⟩

/-- What a sequence of calls comes to, and what they were told. Either no call has opened
the breaker and all have been admitted, or one has, the first that could, and it is the last
to be admitted. -/
inductive Sequel (policy : Policy) (now : Instant) (done endings : List Ending) (t : Traffic) :
    List (Option Rejection) → Prop where
  | calm (calm : Calm policy now (done ++ endings) t) :
      Sequel policy now done endings t (.replicate endings.length none)
  | tripped {part : List Ending} (shape : endings = part ++ rest)
      (trips : policy.TripsAt (done ++ part))
      (first : ∀ shorter, shorter <+: done ++ part → policy.TripsAt shorter →
        shorter = done ++ part)
      (shut : Shut now t) :
      Sequel policy now done endings t
        (.replicate part.length none ++ .replicate rest.length (some .opened))

/-- A call that is admitted and ends without harm is one more that has. -/
theorem Sequel.before (sequel : Sequel policy now (done ++ [ending]) rest t answers) :
    Sequel policy now done (ending :: rest) t (none :: answers) := by
  have shift (later : List Ending) : done ++ [ending] ++ later = done ++ ending :: later := by
    simp
  cases sequel with
  | calm calm =>
    rw [shift] at calm
    exact .calm calm
  | tripped shape trips first shut =>
    rw [shift] at trips first
    exact .tripped (congrArg (ending :: ·) shape) trips first shut

/-- By induction on the calls still to come; `done` grows as they are made. -/
theorem Calm.run (calm : Calm policy now done t) (operation : String) (endings : List Ending)
    (calls : (t.run (sequence operation ⟨some now, wall⟩ done.length endings)).admitted.length <
      UInt32.size) :
    Sequel policy now done endings
      (t.run (sequence operation ⟨some now, wall⟩ done.length endings))
      (t.refusals (sequence operation ⟨some now, wall⟩ done.length endings)) := by
  induction endings generalizing t done with
  | nil => exact .calm (by rwa [List.append_nil])
  | cons ending rest ih =>
    have still : t.elapse now wall = t := elapse_early calm.early
    obtain ⟨performed, admitted⟩ := ask_closed t operation (still ▸ calm.closed)
    rw [still] at performed
    rw [run_sequence, performed] at calls
    rw [run_sequence, refusals_sequence, admitted, performed]
    have room : done.length + 1 < UInt32.size := by
      have one : (t.accept now).admitted.length = done.length + 1 := by
        simp [accept, board, calm.admitted]
      have grown := (perform_grows (t.accept now)
        (.finish done.length ending ⟨some now, wall⟩)).trans
        (run_grows _ (sequence operation ⟨some now, wall⟩ (done.length + 1) rest))
      exact one ▸ Nat.lt_of_le_of_lt grown.admitted.length_le calls
    have number : done.length + 1 = (done ++ [ending]).length := by simp
    rcases calm.ended room ending with ⟨trips, shut⟩ | calmer
    · obtain ⟨still, later⟩ := shut.run operation (done.length + 1) rest
      rw [later]
      have shape : ending :: rest = [ending] ++ rest := rfl
      refine .tripped shape trips ?_ still
      intro shorter shape now_
      rcases List.prefix_concat_iff.mp shape with same | older
      · exact same
      · exact absurd now_ (calm.untripped shorter older)
    · rw [number] at calls ⊢
      exact (ih calmer calls).before

/-- A new breaker is calm once the timer has acted. -/
theorem calm_of_created (created : Breaker.create name policy reading = .ok b) :
    Calm policy now [] ((fresh b).elapse now wall) := by
  have elapsed := Breaker.refresh_elapsed b now wall
  have lawful : Lawful policy (fresh b) := .fresh created
  obtain ⟨-, closed, -, -⟩ := Breaker.create_eq created
  refine ⟨lawful.timed elapsed, ?_, elapsed.settled lawful.openTimeout_pos, rfl, rfl, rfl, rfl, ?_⟩
  · show (b.refresh now wall).state.mode = .closed
    generalize (b.refresh now wall).state = next at elapsed
    cases elapsed with
    | early _ => exact closed
    | renewed _ _ => exact closed
    | probing _ opened => cases closed.symm.trans opened
  · intro part shape
    rw [List.prefix_nil.mp shape]
    exact policy.not_tripsAt_nil

/-- What a sequence of calls on a new breaker comes to, by how they end. -/
structure Sequenced (policy : Policy) (endings : List Ending) (mode : Mode)
    (answers : List (Option Rejection)) : Prop where
  opened : mode = .opened ↔ ∃ part, part <+: endings ∧ policy.TripsAt part
  untripped : (∀ part, part <+: endings → ¬policy.TripsAt part) →
    answers = .replicate endings.length none
  /-- The shortest part that trips the breaker is admitted, and nothing after it. -/
  tripped : ∀ part rest, endings = part ++ rest → policy.TripsAt part →
    (∀ shorter, shorter <+: part → policy.TripsAt shorter → shorter = part) →
    answers = .replicate part.length none ++ .replicate rest.length (some .opened)

theorem Sequel.sequenced (sequel : Sequel policy now [] endings t answers) :
    Sequenced policy endings t.breaker.mode answers := by
  cases sequel with
  | calm calm =>
    refine ⟨iff_of_false (by simp [calm.closed]) ?_, fun _ => rfl, ?_⟩
    · rintro ⟨part, shape, trips⟩
      exact calm.untripped part shape trips
    · intro part rest shape trips _
      exact absurd trips (calm.untripped part (shape ▸ List.prefix_append part rest))
  | @tripped rest part shape trips first shut =>
    have shorter : part <+: endings := shape ▸ List.prefix_append part rest
    refine ⟨iff_of_true shut.opened ⟨part, shorter, trips⟩, ?_, ?_⟩
    · intro none_
      exact absurd trips (none_ part shorter)
    · intro other later shape' trips' first'
      have same : other = part := by
        rcases List.prefix_or_prefix_of_prefix shorter (shape' ▸ List.prefix_append other later)
          with before | after
        · exact (first' part before trips).symm
        · exact first other after trips'
      subst same
      rw [List.append_cancel_left (shape.symm.trans shape')]

/-- Whether the timer acts with the first request or before it makes no difference. -/
theorem Calm.elapsed (calm : Calm policy now done (t.elapse now wall)) (operation : String)
    (number : Nat) (ending : Ending) (rest : List Ending) :
    t.run (sequence operation ⟨some now, wall⟩ number (ending :: rest)) =
        (t.elapse now wall).run (sequence operation ⟨some now, wall⟩ number (ending :: rest)) ∧
      t.refusals (sequence operation ⟨some now, wall⟩ number (ending :: rest)) =
        (t.elapse now wall).refusals
          (sequence operation ⟨some now, wall⟩ number (ending :: rest)) := by
  have still : (t.elapse now wall).elapse now wall = t.elapse now wall := elapse_early calm.early
  obtain ⟨performed, told⟩ := ask_closed t operation calm.closed
  obtain ⟨same, sameTold⟩ := ask_closed (t.elapse now wall) operation (still ▸ calm.closed)
  rw [still] at same
  constructor
  · rw [run_sequence, run_sequence, performed, same]
  · rw [refusals_sequence, refusals_sequence, performed, same, told, sameTold]

/-- Calls made one after the other on a new breaker at one reading. -/
theorem sequence_sequenced (created : Breaker.create name policy reading = .ok b)
    (operation : String) (now : Instant) (wall : Option Instant) (endings : List Ending)
    (calls : ((fresh b).run (sequence operation ⟨some now, wall⟩ 0 endings)).admitted.length <
      UInt32.size) :
    Sequenced policy endings
      ((fresh b).run (sequence operation ⟨some now, wall⟩ 0 endings)).breaker.mode
      ((fresh b).refusals (sequence operation ⟨some now, wall⟩ 0 endings)) := by
  have calm : Calm policy now [] ((fresh b).elapse now wall) := calm_of_created created
  cases endings with
  | nil =>
    have closed : (fresh b).breaker.mode = ((fresh b).elapse now wall).breaker.mode :=
      (Breaker.create_eq created).2.1.trans calm.closed.symm
    rw [show (fresh b).run (sequence operation ⟨some now, wall⟩ 0 []) = fresh b from rfl, closed]
    exact (Sequel.calm calm).sequenced
  | cons ending rest =>
    obtain ⟨same, sameTold⟩ := calm.elapsed operation 0 ending rest
    rw [same] at calls
    rw [same, sameTold]
    exact (calm.run operation (ending :: rest) calls).sequenced

/-- A closed breaker opens exactly at the failure of a call of its present generation that
the history of that generation warrants. On a new breaker whose calls come one after the
other, that history is the list of their ends. -/
theorem trips_iff_history_warrants (created : Breaker.create name policy reading = .ok b) :
    (∀ script move, ((fresh b).run script).breaker.mode = .closed →
      (((fresh b).run script).perform move).era < UInt64.size →
      ((fresh b).run script).admittedNow.length < UInt32.size →
      ((((fresh b).run script).perform move).breaker.mode = .opened ↔
        Trips policy ((fresh b).run script) move)) ∧
    ∀ operation now wall endings,
      ((fresh b).run (sequence operation ⟨some now, wall⟩ 0 endings)).admitted.length <
        UInt32.size →
      Sequenced policy endings
        ((fresh b).run (sequence operation ⟨some now, wall⟩ 0 endings)).breaker.mode
        ((fresh b).refusals (sequence operation ⟨some now, wall⟩ 0 endings)) := by
  refine ⟨?_, sequence_sequenced created⟩
  intro script move closed eras calls
  have lawful := run_lawful (.fresh created)
    (Nat.lt_of_le_of_lt (perform_grows ((fresh b).run script) move).era eras)
  exact (perform_shift lawful.booked move eras).opens_iff lawful closed calls

/-- A second call is under way when the first one fails and opens the breaker. In a
sequence the first failure does so too, and the call after it is turned away. -/
theorem trips_iff_history_warrants_at_first_failure :
    let script : List Move := [
      .ask "first" (.past 0),
      .ask "second" (.past 1)]
    let move : Move := .finish 0 .failed (.past 2)
    let calls := sequence "call" ⟨some .reference, none⟩ 0 [.succeeded, .dropped, .succeeded]
    ((fresh .touchy).run script).breaker.mode = .closed ∧
      (((fresh .touchy).run script).perform move).era < UInt64.size ∧
      ((fresh .touchy).run script).admittedNow.length < UInt32.size ∧
      (((fresh .touchy).run script).perform move).breaker.mode = .opened ∧
      Trips .touchy ((fresh .touchy).run script) move ∧
      ((fresh .touchy).run calls).admitted.length < UInt32.size ∧
      Policy.touchy.TripsAt [.succeeded, .dropped] ∧
      (fresh .touchy).refusals calls = [none, none, some .opened] ∧
      Sequenced .touchy [.succeeded, .dropped, .succeeded] ((fresh .touchy).run calls).breaker.mode
        ((fresh .touchy).refusals calls) :=
  ⟨by decide, by decide, by decide, by decide,
    ((trips_iff_history_warrants Breaker.touchy_created).1 _ _ (by decide) (by decide)
      (by decide)).mp (by decide),
    by decide, by decide, by decide,
    (trips_iff_history_warrants Breaker.touchy_created).2 _ _ _ _ (by decide)⟩

end Traffic
end Fusebox
