import Fusebox.Proofs.Breaker.Reports

/-! Operations that a clock brings to an early end. The monotonic clock is read before anything is
done. The wall clock is read in the middle of a change of mode, when the new generation has begun
and nothing has been said of it, so an operation fails for want of a wall clock just where it
changes the mode, and the change stays. -/
namespace Fusebox.Breaker

/-- A change of mode that nobody was told of. The new generation has begun, with empty counts and
a deadline of its own, but the time of the last change is that of an earlier one. -/
structure Torn (before : Breaker) (now : Instant) (effects : List Effect) (after : Breaker) :
    Prop where
  mode : after.mode ≠ before.mode
  generation : after.generation ≠ before.generation
  tally : after.tally = .empty
  deadline : after.deadline = before.policy.deadline after.mode now
  changedAt : after.changedAt = before.changedAt
  untold : effects.filter Effect.isModal = []

/-- An operation that fails leaves a torn breaker. Without a wall clock an operation that does not
fail leaves the mode alone. -/
structure Tears {α : Type} (b : Breaker) (now : Instant) (wall : Option Instant)
    (step : Step Effect Breaker α) : Prop where
  torn : step.result.isOk = false → wall = none ∧ Torn b now step.effects step.state
  whole : step.result.isOk = true → wall = none → step.state.mode = b.mode

variable {α : Type} {b : Breaker} {now : Instant} {wall : Option Instant}
  {step : Step Effect Breaker Unit}

theorem Announced.tears (announced : Announced b now wall step) : Tears b now wall step := by
  cases announced with
  | silent name mode changedAt => exact ⟨nofun, fun _ _ => mode⟩
  | changed other remark => exact ⟨nofun, nofun⟩
  | torn other remark =>
    refine ⟨fun _ => ⟨rfl, other.symm, ?_, rfl, rfl, rfl, ?_⟩, nofun⟩
    · rw [entered_generation]
      grind
    · cases remark <;> rfl

theorem Announced.next_of_failure (announced : Announced b now wall step)
    (failed : step.result.isOk = false) : step.state.generation = b.generation + 1 := by
  cases announced with
  | silent name mode changedAt => cases failed
  | changed other remark => cases failed
  | torn other remark => rfl

/-- What was reported before the operation makes no difference, unless it tells of a mode. -/
theorem Tears.after {step : Step Effect Breaker α} (tears : Tears b now wall step)
    (silent : remarks.filter Effect.isModal = []) : Tears b now wall (step.after remarks) := by
  refine ⟨fun failed => ?_, tears.whole⟩
  obtain ⟨unseen, torn⟩ := tears.torn failed
  refine ⟨unseen, { torn with untold := ?_ }⟩
  rw [Step.after, List.filter_append, silent, torn.untold]
  rfl

/-- An operation goes on with something that cannot fail and has no part in the mode. -/
theorem Tears.bind {next : Breaker → Unit → Step Effect Breaker α} (tears : Tears b now wall step)
    (fine : ∀ state value, (next state value).result.isOk = true)
    (keeps : ∀ state value, (next state value).state.mode = state.mode) :
    Tears b now wall (step.bind next) := by
  unfold Step.bind
  split
  · rename_i cause crashed
    exact ⟨fun _ => tears.torn (by rw [crashed]; rfl), nofun⟩
  · rename_i value acted
    constructor
    · intro failed
      exact absurd (fine step.state value) (by simpa using failed)
    · intro _ unseen
      exact (keeps step.state value).trans (tears.whole (by rw [acted]; rfl) unseen)

theorem read_tears (b : Breaker) (now : Instant) (wall : Option Instant) :
    Tears b now wall (b.read ⟨some now, wall⟩) := by
  simp only [read]
  split
  · exact ⟨nofun, fun _ _ => rfl⟩
  · exact (refresh_announced b now wall).tears.bind (fun _ _ => rfl) (fun _ _ => rfl)

theorem ask_tears (b : Breaker) (operation : String) (now : Instant) (wall : Option Instant) :
    Tears b now wall (b.ask operation ⟨some now, wall⟩) := by
  simp only [ask]
  refine (refresh_announced b now wall).tears.bind (fun timed _ => ?_) (fun timed _ => ?_)
  · cases timed.rejection? <;> rfl
  · cases timed.rejection? <;> rfl

/-- Without a wall clock the timer can do no more than begin a closed generation after another. -/
theorem refresh_unseen (fine : (b.refresh now none).result = .ok ()) :
    (b.refresh now none).effects = [] ∧
      (b.refresh now none).state.policy = b.policy ∧
      (b.refresh now none).state.mode = b.mode ∧
      (b.refresh now none).state.changedAt = b.changedAt := by
  have announced := refresh_announced b now none
  have policy := (refresh_elapsed b now none).policy
  generalize b.refresh now none = step at fine announced policy
  cases announced with
  | silent name mode changedAt => exact ⟨rfl, policy, mode, changedAt⟩
  | torn other remark => cases fine

/-- A change of mode that is torn right after the timer has acted is torn as seen from before. -/
theorem Torn.of_refresh {effects : List Effect} {next : Breaker}
    (fine : (b.refresh now none).result = .ok ())
    (torn : Torn (b.refresh now none).state now effects next)
    (number : next.generation = (b.refresh now none).state.generation + 1) :
    Torn b now ((b.refresh now none).effects ++ effects) next := by
  obtain ⟨silent, policy, mode, changedAt⟩ := refresh_unseen fine
  refine ⟨mode ▸ torn.mode, ?_, torn.tally, policy ▸ torn.deadline,
    torn.changedAt.trans changedAt, by simpa [silent] using torn.untold⟩
  rw [number, (refresh_elapsed b now none).generation]
  split <;> grind

theorem complete_tears (b : Breaker) (ticket : Ticket) (success : Bool) (now : Instant)
    (wall : Option Instant) : Tears b now wall (b.complete ticket success ⟨some now, wall⟩) := by
  rw [complete_received]
  refine Tears.after ?_ rfl
  have timer := (refresh_announced b now wall).tears
  unfold Step.bind
  split
  · rename_i cause crashed
    exact ⟨fun _ => timer.torn (by rw [crashed]; rfl), nofun⟩
  · rename_i fine
    have still := timer.whole (by rw [fine]; rfl)
    dsimp only
    split
    · exact ⟨nofun, fun _ unseen => still unseen⟩
    · have noted := note_announced (b.refresh now wall).state success now wall
      constructor
      · intro failed
        obtain ⟨rfl, torn⟩ := noted.tears.torn failed
        exact ⟨rfl, torn.of_refresh fine (noted.next_of_failure failed)⟩
      · intro done unseen
        exact (noted.tears.whole done unseen).trans (still unseen)

theorem conclude_tears (b : Breaker) (ticket : Ticket) (ending : Ending) (now : Instant)
    (wall : Option Instant) : Tears b now wall (b.conclude ticket ending ⟨some now, wall⟩) := by
  rw [conclude_completes]
  apply (complete_tears b ticket ending.success now wall).after
  cases ending <;> rfl

end Fusebox.Breaker
