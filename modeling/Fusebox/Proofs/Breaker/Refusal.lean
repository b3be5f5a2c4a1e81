import Fusebox.Proofs.Breaker.Transition
import Fusebox.Rehearsal

/-! Requests that are turned away. Such a request moves the breaker no further than a
look at it would have done, and the operation it was made for is never reached: what
comes of it is the same whatever the operation would have done. -/
namespace Fusebox

/-- Whether a breaker has nothing due at a reading. A clock that cannot be read shows
nothing that is due. -/
def Breaker.Untimed (b : Breaker) (reading : Reading) : Prop :=
  ∀ now, reading.now = some now → b.due now = false

namespace Breaker

variable {b : Breaker} {reading : Reading}

theorem read_untimed (untimed : b.Untimed reading) : (b.read reading).state = b := by
  obtain ⟨now, wall⟩ := reading
  cases now with
  | none => rfl
  | some now => rw [read_state, refresh_early (untimed now rfl)]; rfl

/-- A request that gets no ticket leaves the breaker as a look at it does. -/
theorem ask_state_of_unadmitted
    (unadmitted : ∀ ticket, (b.ask operation reading).result ≠ .ok (.ok ticket)) :
    (b.ask operation reading).state = (b.read reading).state := by
  obtain ⟨now, wall⟩ := reading
  cases now with
  | none => rfl
  | some now =>
    have asked := ask_asked b operation now wall
    rw [read_state]
    generalize b.ask operation ⟨some now, wall⟩ = step at asked unadmitted ⊢
    obtain ⟨state, effects, result⟩ := step
    cases asked with
    | crashed cause => rfl
    | rejected fine refused => rfl
    | admitted fine free => exact absurd rfl (unadmitted _)

/-- Until its deadline an open breaker turns every request away. -/
theorem ask_refused_of_opened (opened : b.mode = .opened) (early : b.due now = false)
    (operation : String) (wall : Option Instant) :
    (b.ask operation ⟨some now, wall⟩).result = .ok (.error .opened) := by
  simp [ask, refresh_early early, Step.bind, Step.pure, rejection?, opened]

theorem ask_state_of_opened (opened : b.mode = .opened) (untimed : b.Untimed reading)
    (operation : String) : (b.ask operation reading).state = b := by
  obtain ⟨now, wall⟩ := reading
  cases now with
  | none => rfl
  | some now =>
    have refused := ask_refused_of_opened opened (untimed now rfl) operation wall
    rw [ask_state_of_unadmitted (by simp [refused]), read_untimed untimed]

theorem Elapsed.name (elapsed : Elapsed b now wall next) : next.name = b.name := by
  cases elapsed <;> rfl

theorem ask_name (b : Breaker) (operation : String) (reading : Reading) :
    (b.ask operation reading).state.name = b.name := by
  obtain ⟨now, wall⟩ := reading
  cases now with
  | none => rfl
  | some now =>
    have asked := ask_asked b operation now wall
    have timed := (refresh_elapsed b now wall).name
    generalize b.ask operation ⟨some now, wall⟩ = step at asked ⊢
    obtain ⟨state, effects, result⟩ := step
    cases asked with
    | crashed cause => exact timed
    | rejected fine refused => exact timed
    | admitted fine free => exact timed

/-- What a request that is turned away comes to, whichever way its operation would have
been run. The same answer, log and state result whatever the operation is. -/
structure TurnedAway (b : Breaker) (operation : String) (reading : Reading)
    (reason : Rejection) : Prop where
  polled : ∀ {ε α : Type} (call : PendingCall), call.phase = .waiting →
    call.operation = operation →
    ∃ refusal : Step Report Breaker (Polled ε α),
      refusal.result = .ok (.ready (.error (.rejected b.name reason))) ∧
      ∀ progress exit, call.poll b progress reading exit = refusal
  /-- Nothing that a blocking call would have done inside is done either. -/
  guarded : ∀ {α : Type} (r : Rehearsal α), r.reading = reading →
    ∃ after, ∀ outcome inside, r.guard b operation outcome inside =
      (after, .refused (.ok (.error (.rejected b.name reason))))
  unstarted : ∀ call : PendingCall, call.phase = .waiting → call.operation = operation →
    Rehearsal.startsNow call b reading = false

variable {ε α : Type}

theorem poll_refused {call : PendingCall} (waiting : call.phase = .waiting)
    (refused : (b.ask call.operation reading).result = .ok (.error reason))
    (progress : Progress ε α) (exit : Reading) :
    call.poll b progress reading exit = {
      (b.ask call.operation reading).relabel (Effect.under call.span) with
      result := .ok (.ready (.error (.rejected b.name reason))) } := by
  simp only [PendingCall.poll, waiting, Step.bind, Step.relabel, refused, Step.pure, ask_name,
    List.append_nil]

theorem guard_refused {r : Rehearsal α}
    (refused : (b.ask operation r.reading).result = .ok (.error reason))
    (outcome : Outcome String α)
    (inside : Rehearsal α → Rehearsal α × List (Reaction α)) :
    r.guard b operation outcome inside =
      ({ (Rehearsal.absorbBare { r with surrounding := some ⟨b.name, operation⟩ }
          (r.registry.run b (·.ask operation r.reading))).1 with surrounding := r.surrounding },
        .refused (.ok (.error (.rejected b.name reason)))) := by
  have told : ({ r with surrounding := some ⟨b.name, operation⟩ } : Rehearsal α).reading =
      r.reading := rfl
  simp only [Rehearsal.guard, told, Rehearsal.absorbBare, Rehearsal.absorb, Registry.run,
    Step.within, Step.relabel, refused]

theorem turnedAway_of_refused
    (refused : (b.ask operation reading).result = .ok (.error reason)) :
    TurnedAway b operation reading reason where
  polled := by
    intro ε α call waiting same
    rw [← same] at refused
    exact ⟨_, rfl, poll_refused waiting refused⟩
  guarded := by
    intro α r same
    rw [← same] at refused
    exact ⟨_, guard_refused refused⟩
  unstarted := by
    intro call waiting same
    rw [← same] at refused
    simp [Rehearsal.startsNow, PendingCall.invoked, waiting, refused]

end Breaker
end Fusebox
