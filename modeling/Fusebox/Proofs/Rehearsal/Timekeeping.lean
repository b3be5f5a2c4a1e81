import Fusebox.Proofs.Registry.Query
import Fusebox.Proofs.Time.Moving
import Fusebox.Rehearsal

/-! The clock of a rehearsal. Breakers are asked, calls are polled, requests are answered, and an
operation may run commands of its own, to any depth. Nothing of that touches the clock: it moves by
the attempts to move it that succeed, wherever they are made, and an attempt that fails has done
nothing at all. -/
namespace Fusebox

mutual

/-- By what a command has moved the clock, as its answer tells. What is run inside an operation
counts. -/
def Command.moves {α : Type} : Command α → Answer α → List Duration
  | .advance by_, .done => [by_]
  | .execute _ _ _ inside, .executed _ reactions => Command.movesAll inside reactions
  | _, _ => []

/-- The same for commands that were run one after the other. -/
def Command.movesAll {α : Type} : List (Command α) → List (Reaction α) → List Duration
  | command :: rest, reaction :: reactions =>
    command.moves reaction.1 ++ Command.movesAll rest reactions
  | _, _ => []

end

namespace Rehearsal

variable {α β : Type} {r before between after : Rehearsal α} {moves more : List Duration}

/-- The clock was moved by some durations, and no breaker is gone. The second part is needed for an
operation: what it does to the clock counts once its end is answered, and the end is told to the
breaker that let it in. -/
structure Onward (before : Rehearsal α) (moves : List Duration) (after : Rehearsal α) : Prop where
  clock : before.clock.Moved moves after.clock
  names : before.registry.names ⊆ after.registry.names

theorem Onward.append (first : before.Onward moves between) (second : between.Onward more after) :
    before.Onward (moves ++ more) after :=
  ⟨first.clock.append second.clock, List.Subset.trans first.names second.names⟩

/-- Where nothing is done to the clock, it is enough that the breakers are still there. -/
theorem Onward.of_names (clock : after.clock = before.clock)
    (names : before.registry.names ⊆ after.registry.names) : before.Onward [] after :=
  ⟨clock ▸ .still _, names⟩

theorem Onward.still (clock : after.clock = before.clock)
    (registry : after.registry = before.registry) : before.Onward [] after :=
  .of_names clock (by rw [registry]; exact List.Subset.refl _)

theorem note_still (r : Rehearsal α) (report : Report) :
    (r.note report).clock = r.clock ∧ (r.note report).registry = r.registry := by
  unfold note
  split <;> exact ⟨rfl, rfl⟩

theorem foldl_note (r : Rehearsal α) (reports : List Report) :
    (reports.foldl note r).clock = r.clock ∧ (reports.foldl note r).registry = r.registry := by
  induction reports generalizing r with
  | nil => exact ⟨rfl, rfl⟩
  | cons report rest ih =>
    obtain ⟨clock, registry⟩ := r.note_still report
    obtain ⟨clock', registry'⟩ := ih (r.note report)
    exact ⟨clock'.trans clock, registry'.trans registry⟩

/-- A step on the registry that loses no breaker has nothing to do with the clock. -/
theorem absorb_onward {step : Step Report Registry β} (clock : between.clock = before.clock)
    (names : before.registry.names ⊆ step.state.names) :
    before.Onward [] (between.absorb step).1 := by
  obtain ⟨same, registry⟩ := foldl_note { between with registry := step.state } step.effects
  refine .of_names (same.trans clock) ?_
  rw [absorb, registry]
  exact names

theorem absorbBare_onward {step : Step Effect Registry β} (clock : between.clock = before.clock)
    (names : before.registry.names ⊆ step.state.names) :
    before.Onward [] (between.absorbBare step).1 :=
  absorb_onward clock names

theorem run_names {ε : Type} (registry : Registry) (b : Breaker)
    (operation : Breaker → Step ε Breaker β) :
    registry.names ⊆ (registry.run b operation).state.names := by
  rw [Registry.run, Step.within, Registry.store_names]
  exact List.Subset.refl _

theorem readAll_names (registry : Registry) (reading : Reading) :
    registry.names ⊆ (registry.readAll reading).state.names := by
  have same : (registry.readAll reading).state.names = registry.names :=
    Registry.readEach_names registry.breakers reading
  rw [same]
  exact List.Subset.refl _

theorem register_names (registry : Registry) (name : String) (policy : Policy)
    (reading : Reading) :
    registry.names ⊆ (registry.register name policy reading).state.names := by
  intro known
  rw [Registry.mem_names_iff, Registry.mem_names_iff, Registry.register_find?]
  intro there
  obtain ⟨b, found⟩ := Option.isSome_iff_exists.mp there
  rw [found]
  rfl

theorem respond_names (registry : Registry) (key : String) (request : Admin.Request)
    (reading : Reading) :
    registry.names ⊆ (Admin.respond registry key request reading).state.names := by
  have answers := Admin.respond_answers key request reading
  unfold Admin.Answers at answers
  split at answers
  · rw [answers, Step.map, Query.run_names]
    exact List.Subset.refl _
  · obtain ⟨effects, response, same⟩ := answers
    rw [same]
    exact List.Subset.refl _

/-- To put an answer into words changes nothing. -/
theorem answer_onward {make : β → Answer α} {done : Rehearsal α × Except Crash β}
    (onward : before.Onward moves done.1) : before.Onward moves (answer make done).1 := by
  obtain ⟨r, result⟩ := done
  cases result <;> exact onward

/-- Something is done with a breaker only if it is there. -/
theorem withBreaker_onward {name : String} {act : Breaker → Rehearsal α × Answer α}
    (acts : ∀ b, r.registry.find? name = some b → r.Onward [] (act b).1) :
    r.Onward [] (r.withBreaker name act).1 := by
  unfold withBreaker
  split
  · exact .still rfl rfl
  · rename_i b found
    exact acts b found

theorem shown_onward (r : Rehearsal α) (name : String) (make : Snapshot → Answer α) :
    r.Onward [] (r.shown name make).1 := by
  refine withBreaker_onward fun b _ => answer_onward ?_
  exact absorbBare_onward rfl (run_names r.registry b _)

theorem dropCall_onward (r : Rehearsal α) (id : String) (started : StartedCall α) :
    r.Onward [] (r.dropCall id started).1 := by
  unfold dropCall
  dsimp only
  split
  · exact .still rfl rfl
  · exact absorb_onward rfl (run_names r.registry _ _)

theorem startCall_onward (r : Rehearsal α) (id : String) (started : StartedCall α) :
    r.Onward [] (r.startCall id started).1 := by
  unfold startCall
  cases r.calls.lookup id with
  | none => exact .still rfl rfl
  | some old =>
    have dropped := r.dropCall_onward id old
    dsimp only
    split
    · exact dropped
    · exact ⟨dropped.clock, dropped.names⟩

theorem pollCall_onward (r : Rehearsal α) (id : String) (started : StartedCall α) :
    r.Onward [] (r.pollCall id started).1 := by
  unfold pollCall
  split
  · exact .still rfl rfl
  · rename_i b found
    have polled : r.Onward [] (r.absorb (r.registry.run b
        (started.call.poll · started.progress r.reading r.reading))).1 :=
      absorb_onward rfl (run_names ..)
    dsimp only
    split <;> rename_i shown <;> rw [shown] at polled <;> exact ⟨polled.clock, polled.names⟩

theorem lookUp_onward (r : Rehearsal α) (id : String) (client : ForecastClient)
    (point : Coordinates) (outcome : Outcome String Forecast) :
    r.Onward [] (r.lookUp id client point outcome).1 := by
  unfold lookUp
  split
  · exact .still rfl rfl
  · exact absorb_onward rfl (run_names r.registry _ _)

theorem advance_onward (r : Rehearsal α) (by_ : Duration) :
    r.Onward (Command.moves (.advance by_) (r.perform (.advance by_)).2)
      (r.perform (.advance by_)).1 := by
  simp only [perform, ManualClock.advance]
  cases sum : r.clock.offset.add? by_ with
  | none => exact .still rfl rfl
  | some offset =>
    refine ⟨⟨rfl, rfl, ?_⟩, List.Subset.refl _⟩
    exact Duration.add?_eq_some_iff.mp sum

/-- An operation that is let in moves the clock as much as what is run inside it. -/
theorem guard_onward {b : Breaker} (there : b.name ∈ r.registry.names) (name operation : String)
    (outcome : Outcome String α) {inside : List (Command α)}
    (acts : ∀ entered : Rehearsal α, entered.Onward
      (Command.movesAll inside (entered.performAll inside).2) (entered.performAll inside).1) :
    let done := r.guard b operation outcome fun entered => entered.performAll inside
    r.Onward (Command.moves (.execute name operation outcome inside) done.2) done.1 := by
  let inner : Rehearsal α := { r with surrounding := some ⟨b.name, operation⟩ }
  have asked : r.Onward [] (inner.absorbBare
      (inner.registry.run b (·.ask operation inner.reading))).1 :=
    absorbBare_onward rfl (run_names ..)
  simp only [inner] at asked
  unfold guard
  dsimp only
  split
  · rename_i entered cause shown
    rw [shown] at asked
    exact ⟨asked.clock, asked.names⟩
  · rename_i entered reason shown
    rw [shown] at asked
    exact ⟨asked.clock, asked.names⟩
  · rename_i entered ticket shown
    rw [shown] at asked
    have ran := asked.append (acts entered)
    split
    · -- Breakers are never removed, so the one that let the operation in is still there.
      rename_i gone
      have still := Registry.mem_names_iff.mp (ran.names there)
      rw [gone] at still
      cases still
    · rename_i found _
      have left := ran.append (absorbBare_onward rfl (run_names _ found
        (·.finish ticket outcome (entered.performAll inside).1.reading)))
      rw [List.append_nil] at left
      exact ⟨left.clock, left.names⟩

mutual

/-- Whatever a command does, the clock has moved by what its answer tells. An operation is the only
command with commands inside it, and hands over to the statement on lists. -/
theorem perform_onward (r : Rehearsal α) (command : Command α) :
    r.Onward (command.moves (r.perform command).2) (r.perform command).1 := by
  match command with
  | .advance by_ => exact r.advance_onward by_
  | .register name policy =>
    exact answer_onward (absorbBare_onward rfl (register_names ..))
  | .openNames => exact answer_onward (absorbBare_onward rfl (readAll_names ..))
  | .snapshots => exact answer_onward (absorbBare_onward rfl (readAll_names ..))
  | .mode name => exact shown_onward ..
  | .tally name => exact shown_onward ..
  | .snapshot name => exact shown_onward ..
  | .describe name => exact withBreaker_onward fun b _ => .still rfl rfl
  | .execute name operation outcome inside =>
    simp only [perform, withBreaker]
    split
    · exact .still rfl rfl
    · rename_i b found
      have there : b.name ∈ r.registry.names := by
        rw [Registry.find?_name found, Registry.mem_names_iff, found]
        rfl
      exact guard_onward there name operation outcome fun entered =>
        performAll_onward entered inside
  | .start id name operation crashText =>
    exact withBreaker_onward fun b _ => startCall_onward ..
  | .resolve id outcome =>
    simp only [perform]
    split <;> exact .still rfl rfl
  | .poll id =>
    simp only [perform]
    split
    · exact .still rfl rfl
    · exact pollCall_onward ..
  | .cancel id =>
    simp only [perform]
    split
    · exact .still rfl rfl
    · exact answer_onward (dropCall_onward ..)
  | .newClient id policy =>
    have registered : r.Onward [] (r.absorbBare
        (r.registry.register forecastBreaker policy r.reading)).1 :=
      absorbBare_onward rfl (register_names ..)
    simp only [perform]
    split <;> rename_i shown <;> rw [shown] at registered <;>
      exact ⟨registered.clock, registered.names⟩
  | .forecast id point outcome =>
    simp only [perform]
    split
    · exact .still rfl rfl
    · exact lookUp_onward ..
  | .request key request =>
    exact answer_onward (absorbBare_onward rfl (respond_names ..))
  | .clock | .find _ | .names | .size | .isEmpty | .meters => exact .still rfl rfl

/-- A run has moved the clock by what all its answers tell. -/
theorem performAll_onward (r : Rehearsal α) (script : List (Command α)) :
    r.Onward (Command.movesAll script (r.performAll script).2) (r.performAll script).1 := by
  match script with
  | [] => exact .still rfl rfl
  | command :: rest =>
    have first := r.perform_onward command
    have drained : r.Onward (command.moves (r.perform command).2) (drain (r.perform command)).1 :=
      ⟨first.clock, first.names⟩
    exact drained.append (performAll_onward (drain (r.perform command)).1 rest)

end

/-- What comes of an attempt to move the clock. -/
structure AttemptsMove (r : Rehearsal α) (by_ : Duration) : Prop where
  /-- Past the longest duration it fails, and everything is as it was. -/
  fails : Duration.longest.nanos < r.clock.offset.nanos + by_.nanos →
    r.perform (.advance by_) = (r, .crashed .durationRange)
  /-- Up to there the offset becomes the sum, and everything else is as it was. -/
  succeeds : r.clock.offset.nanos + by_.nanos ≤ Duration.longest.nanos →
    ∃ offset, Duration.Carries r.clock.offset by_ offset ∧
      r.perform (.advance by_) = ({ r with clock := { r.clock with offset } }, .done)

theorem attemptsMove (r : Rehearsal α) (by_ : Duration) : r.AttemptsMove by_ := by
  constructor
  · intro beyond
    simp only [perform, ManualClock.advance, Duration.add?_eq_none_iff.mpr beyond]
  · intro within
    obtain ⟨offset, sum⟩ : ∃ offset, r.clock.offset.add? by_ = some offset := by
      apply Option.ne_none_iff_exists'.mp
      rw [Ne, Duration.add?_eq_none_iff]
      omega
    refine ⟨offset, Duration.carries_iff.mpr (Duration.add?_eq_some_iff.mp sum), ?_⟩
    simp only [perform, ManualClock.advance, sum]

/-- From any point of a rehearsal on, and whatever is done in it, the clock has moved by the sum of
the moves that have succeeded, in whatever order they came. -/
theorem clock_adds_up_moves (r : Rehearsal α) (script : List (Command α)) :
    (∀ by_, r.AttemptsMove by_) ∧
      r.clock.Accumulated (Command.movesAll script (r.performAll script).2)
        (r.performAll script).1.clock ∧
      ∀ (s : Rehearsal α) (other : List (Command α)), s.clock = r.clock →
        (Command.movesAll other (s.performAll other).2).Perm
          (Command.movesAll script (r.performAll script).2) →
        (s.performAll other).1.clock = (r.performAll script).1.clock := by
  have moved := (r.performAll_onward script).clock
  refine ⟨r.attemptsMove, moved.accumulated, fun s other same order => ?_⟩
  have too := (s.performAll_onward other).clock
  rw [same] at too
  exact too.unique moved order

/-- An operation moves the clock while it runs, and then tries to move it too far. -/
theorem clock_adds_up_moves_of_operation :
    let r : Rehearsal Unit := .onClock (.frozenAt .reference ⟨-1, by decide⟩)
    let most : Duration := ⟨600000000, by decide⟩
    let rest : Duration := ⟨1, by decide⟩
    let script : List (Command Unit) := [
      .advance most,
      .register "nws-api" .standard,
      .execute "nws-api" "lookup" (.value ()) [.advance most, .advance .longest, .clock],
      .advance rest]
    let done := r.performAll script
    Command.movesAll script done.2 = [most, most, rest] ∧
      done.1.clock.offset.seconds = 1 ∧ done.1.clock.offset.subsecond = 200000001 ∧
      done.1.reading.now.map Instant.nanos = some 1200000001 ∧
      done.1.reading.wall.map Instant.nanos = some 1200000000 ∧
      done.1.perform (.advance .longest) = (done.1, .crashed .durationRange) := by
  intro r most rest script done
  have moves : Command.movesAll script done.2 = [most, most, rest] := by decide +kernel
  have accumulated := (clock_adds_up_moves r script).2.1
  rw [show r.performAll script = done from rfl, moves] at accumulated
  clear_value done
  have attempts := (clock_adds_up_moves done.1 []).1
  have offset : done.1.clock.offset.nanos = 1200000001 :=
    accumulated.offset.trans (by decide)
  refine ⟨moves, ?_, ?_, ?_, ?_, (attempts .longest).fails ?_⟩
  · rw [Duration.seconds, offset]
  · rw [Duration.subsecond, offset]
  · rw [reading, accumulated.now.shown]
    decide
  · rw [reading, accumulated.wall.shown]
    decide
  · rw [offset]
    decide

end Rehearsal
end Fusebox
