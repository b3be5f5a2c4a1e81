import Fusebox.Proofs.Breaker.Sight
import Fusebox.Proofs.Journal.Metering

/-! What the operations of a breaker report. The timer and the end of a call that counts say
nothing, or they announce one change of mode, to the log and to the metrics at once; if the wall
clock cannot be read the change is made and not announced. Around that an operation reports on
the call that it is for. No operation moves a series of another breaker. -/
namespace Fusebox

/-- What is reported of a change of mode. -/
def changeReport (name : String) (source target : Mode) (generation : UInt64) : List Effect := [
  .event (.changed name source target generation),
  .count (.transitions name source target),
  .gauge name target]

/-- Whether a counter is about calls, not about changes of mode. -/
def Counter.ofCalls : Counter → Bool
  | .transitions .. => false
  | .rejections .. | .calls .. => true

namespace Effect

/-- Whether an effect tells of the mode of a breaker. -/
def isModal : Effect → Bool
  | .event (.changed ..) | .count (.transitions ..) | .gauge .. => true
  | _ => false

/-- The counters about calls that go up, in order. -/
def callsIn (effects : List Effect) : List Counter :=
  (effects.filterMap counter?).filter Counter.ofCalls

theorem callsIn_append (first second : List Effect) :
    callsIn (first ++ second) = callsIn first ++ callsIn second := by
  simp [callsIn]

/-- All that goes up of the counters about calls is among these. -/
theorem count_callsIn {counter : Counter} (ofCalls : counter.ofCalls = true)
    (effects : List Effect) :
    (callsIn effects).count counter = (effects.filterMap counter?).count counter :=
  List.count_filter ofCalls

end Effect

/-- What goes on after a step is answered only if the step itself was. -/
theorem Step.bind_isOk {first : Step ε σ α} {next : σ → α → Step ε σ β}
    (fine : (first.bind next).result.isOk = true) :
    ∃ value, first.result = .ok value ∧
      first.bind next = (next first.state value).after first.effects := by
  unfold bind at fine ⊢
  cases found : first.result with
  | error cause => simp [found, Except.isOk, Except.toBool] at fine
  | ok value => exact ⟨value, rfl, rfl⟩

namespace Breaker

/-- What is said before a failure changes the mode, and nothing before any other change. -/
inductive Remark (name : String) : List Effect → Prop where
  | nothing : Remark name []
  | tripped (requests failures : UInt32) (threshold : Float) :
      Remark name [.event (.tripped name requests failures threshold)]
  | probeFailed : Remark name [.event (.probeFailed name)]

/-- What the timer and a completion that counts do to the mode of a breaker, and say of it. -/
inductive Announced (b : Breaker) (now : Instant) :
    Option Instant → Step Effect Breaker Unit → Prop where
  | silent (name : next.name = b.name) (mode : next.mode = b.mode)
      (changedAt : next.changedAt = b.changedAt) : Announced b now wall ⟨next, [], .ok ()⟩
  | changed (other : b.mode ≠ target) (remark : Remark b.name remarks) :
      Announced b now (some wall) ⟨b.entered target now (some wall),
        remarks ++ changeReport b.name b.mode target (b.generation + 1), .ok ()⟩
  /-- The wall clock cannot be read. -/
  | torn (other : b.mode ≠ target) (remark : Remark b.name remarks) :
      Announced b now none ⟨b.entered target now none, remarks, .error .wallRange⟩

variable {b : Breaker} {now : Instant} {wall : Option Instant}
  {step : Step Effect Breaker Unit}

theorem switch_announced (other : b.mode ≠ target) (remark : Remark b.name remarks)
    (wall : Option Instant) : Announced b now wall ((b.switch target now wall).after remarks) := by
  unfold switch
  rw [if_neg other]
  cases wall with
  | none =>
    have torn : Announced b now none ⟨b.entered target now none, remarks, .error .wallRange⟩ :=
      .torn other remark
    rw [← List.append_nil remarks] at torn
    exact torn
  | some wall => exact .changed other remark

theorem refresh_announced (b : Breaker) (now : Instant) (wall : Option Instant) :
    Announced b now wall (b.refresh now wall) := by
  unfold refresh
  split
  · split
    · exact .silent rfl rfl rfl
    · rename_i opened
      exact switch_announced (by simp [opened]) .nothing wall
    · exact .silent rfl rfl rfl
  · exact .silent rfl rfl rfl

/-- Counting a call first makes no difference: a change of mode begins with empty counts. -/
theorem announced_of_counted (counts : Tally)
    (announced : Announced { b with tally := counts } now wall step) :
    Announced b now wall step := by
  cases announced with
  | silent name mode changedAt => exact .silent name mode changedAt
  | changed other remark => exact .changed (b := b) other remark
  | torn other remark => exact .torn (b := b) other remark

theorem note_announced (b : Breaker) (success : Bool) (now : Instant) (wall : Option Instant) :
    Announced b now wall (b.note success now wall) := by
  cases success with
  | true =>
    simp only [note, noteSuccess, ↓reduceIte]
    split
    · exact .silent rfl rfl rfl
    · rename_i half
      split
      · refine announced_of_counted b.tally.succeeded ?_
        exact switch_announced (by simp [half]) .nothing wall
      · exact .silent rfl rfl rfl
    · exact .silent rfl rfl rfl
  | false =>
    simp only [note, noteFailure, Bool.false_eq_true, ↓reduceIte]
    split
    · rename_i closed
      split
      · refine announced_of_counted b.tally.failed ?_
        exact switch_announced (by simp [closed]) (.tripped _ _ _) wall
      · exact .silent rfl rfl rfl
    · rename_i half
      exact switch_announced (by simp [half]) .probeFailed wall
    · exact .silent rfl rfl rfl

/-- No call is counted in what is said of the mode. -/
theorem Announced.callsIn (announced : Announced b now wall step) :
    Effect.callsIn step.effects = [] := by
  cases announced with
  | silent name mode changedAt => rfl
  | changed other remark => cases remark <;> rfl
  | torn other remark => cases remark <;> rfl

/-- If the clocks can be read, what is said of the mode is nothing where it stays, and the whole
report of the change where it does not. -/
inductive Voiced (b : Breaker) (wall : Option Instant) (effects : List Effect) (next : Breaker) :
    Prop where
  | silent (untold : effects.filter Effect.isModal = []) (mode : next.mode = b.mode)
      (changedAt : next.changedAt = b.changedAt)
  | changed (told : effects.filter Effect.isModal =
        changeReport b.name b.mode next.mode next.generation)
      (other : b.mode ≠ next.mode) (generation : next.generation = b.generation + 1)
      (dated : wall = some next.changedAt)

theorem Announced.voiced (announced : Announced b now wall step) (fine : step.result = .ok ()) :
    Voiced b wall step.effects step.state := by
  cases announced with
  | silent name mode changedAt => exact .silent rfl mode changedAt
  | changed other remark =>
    refine .changed ?_ other rfl rfl
    cases remark <;> rfl
  | torn other remark => cases fine

/-- What is said besides makes no difference, nor what is counted. -/
theorem Voiced.congr (voiced : Voiced b wall effects middle)
    (same : others.filter Effect.isModal = effects.filter Effect.isModal)
    (mode : next.mode = middle.mode) (generation : next.generation = middle.generation)
    (changedAt : next.changedAt = middle.changedAt) : Voiced b wall others next := by
  cases voiced with
  | silent untold stays dated =>
    exact .silent (same.trans untold) (mode.trans stays) (changedAt.trans dated)
  | changed told other number dated =>
    refine .changed ?_ (mode ▸ other) (generation.trans number) (changedAt ▸ dated)
    rw [same, mode, generation]
    exact told

/-- An operation on a breaker that moves no series but those of this breaker. -/
structure Discreet {α : Type} (b : Breaker) (step : Step Effect Breaker α) : Prop where
  name : step.state.name = b.name
  own : ∀ effect ∈ step.effects, ∀ other, effect.meters other = true → other = b.name

variable {α β : Type}

theorem Discreet.pure (b : Breaker) (value : α) : Discreet b (.pure b value) where
  name := rfl
  own := nofun

theorem Discreet.crash (b : Breaker) (cause : Crash) :
    Discreet b (.crash b cause : Step Effect Breaker α) where
  name := rfl
  own := nofun

theorem Announced.discreet (announced : Announced b now wall step) : Discreet b step := by
  have quiet {remarks : List Effect} (remark : Remark b.name remarks) :
      ∀ effect ∈ remarks, ∀ other, effect.meters other = true → other = b.name := by
    intro effect member other moved
    cases remark with
    | nothing => cases member
    | tripped requests failures threshold =>
      cases List.mem_singleton.mp member
      cases moved
    | probeFailed =>
      cases List.mem_singleton.mp member
      cases moved
  cases announced with
  | silent name mode changedAt => exact ⟨name, nofun⟩
  | torn other remark => exact ⟨rfl, quiet remark⟩
  | changed other remark =>
    refine ⟨rfl, fun effect member => ?_⟩
    rcases List.mem_append.mp member with said | reported
    · exact quiet remark effect said
    · intro name moved
      simp only [changeReport, List.mem_cons, List.not_mem_nil, or_false] at reported
      obtain rfl | rfl | rfl := reported
      · cases moved
      · exact (beq_iff_eq.mp moved).symm
      · exact (beq_iff_eq.mp moved).symm

theorem Discreet.bind {first : Step Effect Breaker α} {next : Breaker → α → Step Effect Breaker β}
    (discreet : Discreet b first) (later : ∀ value, Discreet first.state (next first.state value)) :
    Discreet b (first.bind next) := by
  unfold Step.bind
  split
  · exact ⟨discreet.name, discreet.own⟩
  · rename_i value _
    have next := later value
    refine ⟨next.name.trans discreet.name, fun effect member => ?_⟩
    rcases List.mem_append.mp member with before | after
    · exact discreet.own effect before
    · intro other moved
      exact (next.own effect after other moved).trans discreet.name

theorem Discreet.after {step : Step Effect Breaker α} (discreet : Discreet b step)
    (own : ∀ effect ∈ effects, ∀ other, effect.meters other = true → other = b.name) :
    Discreet b (step.after effects) := by
  refine ⟨discreet.name, fun effect member => ?_⟩
  rcases List.mem_append.mp member with before | rest
  · exact own effect before
  · exact discreet.own effect rest

theorem read_discreet (b : Breaker) (reading : Reading) : Discreet b (b.read reading) := by
  unfold read
  split
  · exact .crash b _
  · split
    · exact .pure b _
    · exact (refresh_announced b _ _).discreet.bind fun _ => .pure _ _

theorem ask_discreet (b : Breaker) (operation : String) (reading : Reading) :
    Discreet b (b.ask operation reading) := by
  unfold ask
  split
  · exact .crash b _
  · refine (refresh_announced b _ _).discreet.bind fun _ => ?_
    split
    · rename_i reason _
      refine ⟨rfl, fun effect member other moved => ?_⟩
      simp only [List.mem_cons, List.not_mem_nil, or_false] at member
      obtain rfl | rfl := member
      · cases moved
      · exact (beq_iff_eq.mp moved).symm
    · exact ⟨rfl, nofun⟩

/-- The end of a call as the timer leaves the breaker: it comes too late, or it counts. -/
theorem complete_received (b : Breaker) (ticket : Ticket) (success : Bool) (now : Instant)
    (wall : Option Instant) :
    b.complete ticket success ⟨some now, wall⟩ =
      ((b.refresh now wall).bind fun timed _ =>
        if timed.generation ≠ ticket.generation then
          ⟨timed, [.event (.staleCompletion timed.name ticket.generation timed.generation success)],
            .ok ()⟩
        else timed.note success now wall).after [.count (.calls b.name success)] := rfl

theorem complete_discreet (b : Breaker) (ticket : Ticket) (success : Bool) (reading : Reading) :
    Discreet b (b.complete ticket success reading) := by
  have counted : ∀ effect ∈ [Effect.count (.calls b.name success)], ∀ other,
      effect.meters other = true → other = b.name := by
    intro effect member other moved
    cases List.mem_singleton.mp member
    exact (beq_iff_eq.mp moved).symm
  obtain ⟨now, wall⟩ := reading
  cases now with
  | none => exact (Discreet.crash b _).after counted
  | some now =>
    rw [complete_received]
    refine ((refresh_announced b now wall).discreet.bind fun _ => ?_).after counted
    split
    · refine ⟨rfl, fun effect member other moved => ?_⟩
      cases List.mem_singleton.mp member
      cases moved
    · exact (note_announced _ success now wall).discreet

/-- A look that is answered says what the timer says. -/
theorem read_voiced (fine : (b.read ⟨some now, wall⟩).result.isOk = true) :
    Voiced b wall (b.read ⟨some now, wall⟩).effects (b.read ⟨some now, wall⟩).state := by
  unfold read at fine ⊢
  dsimp only at fine ⊢
  split
  · exact .silent rfl rfl rfl
  · rename_i unseen
    simp only [unseen] at fine
    obtain ⟨_, acted, whole⟩ := Step.bind_isOk fine
    rw [whole]
    refine ((refresh_announced b now wall).voiced acted).congr ?_ rfl rfl rfl
    simp [Step.after, Step.pure]

/-- So does a request that is answered, one way or the other. -/
theorem ask_voiced (fine : (b.ask operation ⟨some now, wall⟩).result.isOk = true) :
    Voiced b wall (b.ask operation ⟨some now, wall⟩).effects
      (b.ask operation ⟨some now, wall⟩).state := by
  unfold ask at fine ⊢
  dsimp only at fine ⊢
  obtain ⟨_, acted, whole⟩ := Step.bind_isOk fine
  have voiced := (refresh_announced b now wall).voiced acted
  rw [whole]
  dsimp only [Step.after]
  split
  · refine voiced.congr ?_ rfl rfl rfl
    simp [Effect.isModal]
  · refine voiced.congr ?_ rfl rfl rfl
    simp [Step.pure]

/-- The end of a call says what the timer says or what the breaker says to the end itself,
provided that a call which still counts finds nothing due. -/
theorem complete_voiced {success : Bool}
    (fine : (b.complete ticket success ⟨some now, wall⟩).result.isOk = true)
    (timely : (b.refresh now wall).state.generation = ticket.generation → b.due now = false) :
    Voiced b wall (b.complete ticket success ⟨some now, wall⟩).effects
      (b.complete ticket success ⟨some now, wall⟩).state := by
  rw [complete_received] at fine ⊢
  obtain ⟨_, acted, whole⟩ := Step.bind_isOk fine
  rw [whole]
  by_cases same : (b.refresh now wall).state.generation = ticket.generation
  · rw [whole] at fine
    simp only [same, ne_eq, not_true_eq_false, ↓reduceIte, Step.after] at fine ⊢
    rw [refresh_early (timely same)] at fine ⊢
    have noted := note_announced b success now wall
    have done : (b.note success now wall).result = .ok () := by
      cases found : (b.note success now wall).result with
      | ok _ => rfl
      | error cause => simp [Step.pure, found, Except.isOk, Except.toBool] at fine
    refine (noted.voiced done).congr ?_ rfl rfl rfl
    simp [Effect.isModal, Step.pure]
  · rw [if_pos same]
    refine ((refresh_announced b now wall).voiced acted).congr ?_ rfl rfl rfl
    simp [Step.after, Effect.isModal]

/-- An end is reported to the log before the breaker hears of it, unless it is a success. -/
def farewell (b : Breaker) : Ending → List Effect
  | .succeeded => []
  | .failed => [.event (.operationFailed b.name)]
  | .crashed => [.event (.operationCrashed b.name)]
  | .dropped => [.event (.operationDropped b.name)]

theorem conclude_completes (b : Breaker) (ticket : Ticket) (ending : Ending) (reading : Reading) :
    b.conclude ticket ending reading =
      (b.complete ticket ending.success reading).after (b.farewell ending) := by
  cases ending <;> rfl

theorem conclude_voiced
    (fine : (b.conclude ticket ending ⟨some now, wall⟩).result.isOk = true)
    (timely : (b.refresh now wall).state.generation = ticket.generation → b.due now = false) :
    Voiced b wall (b.conclude ticket ending ⟨some now, wall⟩).effects
      (b.conclude ticket ending ⟨some now, wall⟩).state := by
  rw [conclude_completes] at fine ⊢
  refine (complete_voiced fine timely).congr ?_ rfl rfl rfl
  cases ending <;> simp [Step.after, farewell, Effect.isModal]

theorem conclude_discreet (b : Breaker) (ticket : Ticket) (ending : Ending) (reading : Reading) :
    Discreet b (b.conclude ticket ending reading) := by
  rw [conclude_completes]
  have completes := complete_discreet b ticket ending.success reading
  refine completes.after fun effect member other moved => ?_
  cases ending with
  | succeeded => cases member
  | failed => cases List.mem_singleton.mp member; cases moved
  | crashed => cases List.mem_singleton.mp member; cases moved
  | dropped => cases List.mem_singleton.mp member; cases moved

/-- Looking counts no call. -/
theorem read_callsIn (b : Breaker) (reading : Reading) :
    Effect.callsIn (b.read reading).effects = [] := by
  have timer (now : Instant) := (refresh_announced b now reading.wall).callsIn
  unfold read
  split
  · rfl
  · rename_i now _
    split
    · rfl
    · simp only [Step.bind]
      split
      · exact timer now
      · simpa [Step.pure] using timer now

/-- A request that is turned away is counted as that, and no other request is counted. -/
theorem ask_callsIn (b : Breaker) (operation : String) (reading : Reading) :
    Effect.callsIn (b.ask operation reading).effects =
      match (b.ask operation reading).result with
      | .ok (.error reason) => [.rejections b.name reason]
      | _ => [] := by
  obtain ⟨now, wall⟩ := reading
  cases now with
  | none => rfl
  | some now =>
    have announced := refresh_announced b now wall
    have name := announced.discreet.name
    simp only [ask, Step.bind]
    split
    · exact announced.callsIn
    · dsimp only
      split
      · rename_i reason _
        rw [Effect.callsIn_append, announced.callsIn, name]
        rfl
      · simpa [Step.pure] using announced.callsIn

/-- The end of an admitted call is counted once, whether or not it comes too late, and even if
the clocks cannot be read. -/
theorem complete_callsIn (b : Breaker) (ticket : Ticket) (success : Bool) (reading : Reading) :
    Effect.callsIn (b.complete ticket success reading).effects = [.calls b.name success] := by
  obtain ⟨now, wall⟩ := reading
  cases now with
  | none => rfl
  | some now =>
    have timer := (refresh_announced b now wall).callsIn
    rw [complete_received]
    simp only [Step.after, Effect.callsIn_append, Step.bind]
    split
    · rw [timer]
      rfl
    · dsimp only
      split
      · rw [Effect.callsIn_append, timer]
        rfl
      · have counts := (note_announced (b.refresh now wall).state success now wall).callsIn
        rw [Effect.callsIn_append, timer, counts]
        rfl

theorem conclude_callsIn (b : Breaker) (ticket : Ticket) (ending : Ending) (reading : Reading) :
    Effect.callsIn (b.conclude ticket ending reading).effects =
      [.calls b.name ending.success] := by
  rw [conclude_completes]
  simp only [Step.after, Effect.callsIn_append, complete_callsIn]
  cases ending <;> rfl

end Breaker
end Fusebox
