import Fusebox.Proofs.Breaker.Counting
import Fusebox.Breaker.Basic

/-! What an operation does to a breaker, apart from what it reports. An operation
first lets the timer act and then does its own part; each of the two has one short
list of possible ends. Everything that is said about runs of a breaker goes through
these lists, so a later proof need not look into an operation again. -/
namespace Fusebox.Breaker

variable {b : Breaker} {now : Instant} {wall : Option Instant}

/-- The breaker as a change of mode leaves it, reported or not. A wall clock that
shows nothing leaves the time of the last change as it was. -/
def entered (b : Breaker) (target : Mode) (now : Instant) (wall : Option Instant) : Breaker :=
  { { b with mode := target }.renew now with changedAt := wall.getD b.changedAt }

@[simp] theorem renew_generation : (b.renew now).generation = b.generation + 1 := rfl

@[simp] theorem entered_generation :
    (b.entered target now wall).generation = b.generation + 1 := rfl

theorem switch_enters (other : b.mode ≠ target) :
    (b.switch target now wall).state = b.entered target now wall := by
  unfold switch
  rw [if_neg other]
  cases wall <;> rfl

/-- What the timer can do: nothing before the deadline; at the deadline, begin the
next closed generation or let an open breaker probe. -/
inductive Elapsed (b : Breaker) (now : Instant) (wall : Option Instant) : Breaker → Prop where
  | early (early : b.due now = false) : Elapsed b now wall b
  | renewed (due : b.due now = true) (mode : b.mode = .closed) : Elapsed b now wall (b.renew now)
  | probing (due : b.due now = true) (mode : b.mode = .opened) :
      Elapsed b now wall (b.entered .halfOpen now wall)

/-- A half-open breaker has no deadline. -/
theorem due_halfOpen (mode : b.mode = .halfOpen) : b.due now = false := by
  simp [due, mode]

theorem refresh_elapsed (b : Breaker) (now : Instant) (wall : Option Instant) :
    Elapsed b now wall (b.refresh now wall).state := by
  unfold refresh
  split
  · rename_i due
    split
    · rename_i mode
      exact .renewed due mode
    · rename_i mode
      rw [switch_enters (by simp [mode])]
      exact .probing due mode
    · rename_i mode
      simp [due_halfOpen mode] at due
  · rename_i early
    exact .early (by simpa using early)

/-- Before its deadline a breaker is left alone. -/
theorem refresh_early (early : b.due now = false) : b.refresh now wall = .pure b () := by
  simp [refresh, early]

/-- Only an unreadable wall clock at the end of an outage keeps the timer from its work. -/
theorem refresh_crashed (crash : (b.refresh now wall).result ≠ .ok ()) :
    b.due now = true ∧ b.mode = .opened ∧ wall = none := by
  unfold refresh at crash
  split at crash
  · rename_i due
    split at crash
    · simp [Step.pure] at crash
    · rename_i mode
      cases wall with
      | none => exact ⟨due, mode, rfl⟩
      | some wall => simp [switch, mode] at crash
    · simp [Step.pure] at crash
  · simp [Step.pure] at crash

/-- The breaker is half-open all the same. -/
theorem refresh_crashed_state (crash : (b.refresh now wall).result ≠ .ok ()) :
    (b.refresh now wall).state = b.entered .halfOpen now wall := by
  obtain ⟨due, mode, -⟩ := refresh_crashed crash
  have elapsed := refresh_elapsed b now wall
  generalize (b.refresh now wall).state = next at elapsed
  cases elapsed with
  | early early => cases early.symm.trans due
  | renewed _ closed => cases closed.symm.trans mode
  | probing _ _ => rfl

theorem Elapsed.policy (elapsed : Elapsed b now wall next) : next.policy = b.policy := by
  cases elapsed <;> rfl

/-- Before the deadline the timer does nothing. -/
theorem Elapsed.eq_of_early (elapsed : Elapsed b now wall next) (early : b.due now = false) :
    next = b := by
  cases elapsed with
  | early _ => rfl
  | renewed due _ => cases early.symm.trans due
  | probing due _ => cases early.symm.trans due

/-- The clocks leave the timer no choice. -/
theorem Elapsed.eq_refresh (elapsed : Elapsed b now wall next) :
    next = (b.refresh now wall).state := by
  have timed := refresh_elapsed b now wall
  cases elapsed with
  | early early => exact (timed.eq_of_early early).symm
  | renewed due mode => simp [refresh, due, mode, Step.pure]
  | probing due mode =>
    simp only [refresh, due, ↓reduceIte, mode]
    exact (switch_enters (by simp [mode])).symm

/-- The timer leaves a breaker as it is or begins the next generation. -/
theorem Elapsed.same_or_begun (elapsed : Elapsed b now wall next) :
    next = b ∨ next.generation = b.generation + 1 ∧ next.tally = .empty := by
  cases elapsed with
  | early early => exact .inl rfl
  | renewed due mode => exact .inr ⟨rfl, rfl⟩
  | probing due mode => exact .inr ⟨rfl, rfl⟩

/-- The timer begins exactly one generation when the deadline has come. -/
theorem Elapsed.generation (elapsed : Elapsed b now wall next) :
    next.generation = if b.due now then b.generation + 1 else b.generation := by
  cases elapsed with
  | early early => simp [early]
  | renewed due mode => simp [due]
  | probing due mode => simp [due]

/-- A deadline that is set now lies ahead, provided that the open timeout is not zero. -/
theorem deadline_ahead {p : Policy} {mode : Mode} {deadline : Instant}
    (positive : 0 < p.openTimeout.nanos) (found : p.deadline mode now = some deadline) :
    now.nanos < deadline.nanos := by
  cases mode with
  | closed =>
    simp only [Policy.deadline] at found
    split at found
    · cases found
    · rename_i nonzero
      have sum := Instant.ofNanos?_eq_some_iff.mp found
      simp only [Duration.isZero, beq_iff_eq] at nonzero
      omega
  | opened =>
    have sum := Instant.ofNanos?_eq_some_iff.mp found
    omega
  | halfOpen => cases found

/-- What is due has a deadline that has come. -/
theorem deadline_of_due (due : b.due now = true) :
    ∃ deadline, b.deadline = some deadline ∧ deadline ≤ now := by
  unfold Breaker.due at due
  split at due
  · cases due
  · cases due
  · rename_i deadline found _
    exact ⟨deadline, found, of_decide_eq_true due⟩

/-- What is due stays due. -/
theorem due_later (due : b.due now = true) (later : now ≤ after) : b.due after = true := by
  unfold Breaker.due at due ⊢
  split at due
  · cases due
  · cases due
  · exact decide_eq_true (Int.le_trans (of_decide_eq_true due) later)

/-- A breaker that waits from an instant on is due when it has waited long enough. A deadline
that the clock cannot reach makes no difference: no reading is that late. -/
theorem due_iff_waited {start : Instant} {wait : Duration} (waits : b.mode ≠ .halfOpen)
    (deadline : b.deadline = start.add? wait) (now : Instant) :
    b.due now = true ↔ start.nanos + wait.nanos ≤ now.nanos := by
  unfold due
  split
  · rename_i half
    exact absurd half waits
  · rename_i unset _
    refine iff_of_false (by simp) ?_
    have low := start.in_range
    have high := now.in_range
    have beyond := deadline.symm.trans unset
    simp only [Instant.add?, Instant.ofNanos?, dite_eq_right_iff, reduceCtorEq, imp_false] at beyond
    omega
  · rename_i point found _
    have sum := Instant.ofNanos?_eq_some_iff.mp (deadline.symm.trans found)
    rw [decide_eq_true_eq, ← sum]
    exact Iff.rfl

/-- Nothing is due in a generation that begins now. -/
theorem due_of_begun (positive : 0 < b.policy.openTimeout.nanos)
    (begun : b.deadline = b.policy.deadline b.mode now) : b.due now = false := by
  unfold due
  split
  · rfl
  · rfl
  · rename_i deadline found _
    have ahead := deadline_ahead positive (begun.symm.trans found)
    exact decide_eq_false (Int.not_le.mpr ahead)

/-- The timer never opens a breaker. -/
theorem Elapsed.shut (elapsed : Elapsed b now wall next) (shut : b.mode ≠ .opened) :
    next.mode ≠ .opened := by
  cases elapsed with
  | early early => exact shut
  | renewed due mode => exact shut
  | probing due mode => exact absurd mode shut

/-- The timer does not act twice: right after it has acted nothing is due. -/
theorem Elapsed.settled (elapsed : Elapsed b now wall next)
    (positive : 0 < b.policy.openTimeout.nanos) : next.due now = false := by
  cases elapsed with
  | early early => exact early
  | renewed due mode => exact due_of_begun positive rfl
  | probing due mode => exact due_of_begun positive rfl

/-- What a completion that counts can do. -/
inductive Noted (b : Breaker) (now : Instant) (wall : Option Instant) : Bool → Breaker → Prop where
  | success (mode : b.mode = .closed) :
      Noted b now wall true { b with tally := b.tally.succeeded }
  | probe (mode : b.mode = .halfOpen)
      (few : b.tally.succeeded.successRun < b.policy.maxProbes) :
      Noted b now wall true { b with tally := b.tally.succeeded }
  | close (mode : b.mode = .halfOpen)
      (enough : b.policy.maxProbes ≤ b.tally.succeeded.successRun) :
      Noted b now wall true (b.entered .closed now wall)
  | failure (mode : b.mode = .closed) (calm : b.policy.readyToTrip b.tally.failed = false) :
      Noted b now wall false { b with tally := b.tally.failed }
  | trip (mode : b.mode = .closed) (ready : b.policy.readyToTrip b.tally.failed = true) :
      Noted b now wall false (b.entered .opened now wall)
  | reopen (mode : b.mode = .halfOpen) : Noted b now wall false (b.entered .opened now wall)
  | ignored (mode : b.mode = .opened) : Noted b now wall success b

theorem Noted.policy {success : Bool} (noted : Noted b now wall success next) :
    next.policy = b.policy := by
  cases noted <;> rfl

/-- A completion joins the counts of the present generation, or it ends the generation;
an open breaker ignores it. -/
theorem Noted.joins_or_begins {success : Bool} (noted : Noted b now wall success next) :
    b.mode ≠ .opened ∧ next = { b with tally := b.tally.noted success } ∨
      (∃ target, next = b.entered target now wall) ∨ b.mode = .opened ∧ next = b := by
  cases noted with
  | success mode => exact .inl ⟨by simp [mode], rfl⟩
  | probe mode few => exact .inl ⟨by simp [mode], rfl⟩
  | close mode enough => exact .inr (.inl ⟨_, rfl⟩)
  | failure mode calm => exact .inl ⟨by simp [mode], rfl⟩
  | trip mode ready => exact .inr (.inl ⟨_, rfl⟩)
  | reopen mode => exact .inr (.inl ⟨_, rfl⟩)
  | ignored mode => exact .inr (.inr ⟨mode, rfl⟩)

/-- A completion ends at most one generation. -/
theorem Noted.generation {success : Bool} (noted : Noted b now wall success next) :
    next.generation = b.generation ∨ next.generation = b.generation + 1 := by
  obtain ⟨_, rfl⟩ | ⟨target, rfl⟩ | ⟨_, rfl⟩ := noted.joins_or_begins
  · exact .inl rfl
  · exact .inr rfl
  · exact .inl rfl

/-- What counts in a closed generation joins it or opens the breaker. -/
theorem Noted.joins_or_opens {success : Bool} (noted : Noted b now wall success next)
    (closed : b.mode = .closed) :
    next = { b with tally := b.tally.noted success } ∨ next = b.entered .opened now wall := by
  cases noted with
  | success _ => exact .inl rfl
  | failure _ _ => exact .inl rfl
  | trip _ _ => exact .inr rfl
  | probe half _ => cases closed.symm.trans half
  | close half _ => cases closed.symm.trans half
  | reopen half => cases closed.symm.trans half
  | ignored opened => cases closed.symm.trans opened

theorem Noted.eq_of_opened {success : Bool} (noted : Noted b now wall success next)
    (opened : b.mode = .opened) : next = b := by
  cases noted with
  | success closed => cases opened.symm.trans closed
  | failure closed _ => cases opened.symm.trans closed
  | trip closed _ => cases opened.symm.trans closed
  | probe half _ => cases opened.symm.trans half
  | close half _ => cases opened.symm.trans half
  | reopen half => cases opened.symm.trans half
  | ignored _ => rfl

/-- Counts a completion, well or badly ended. -/
def note (b : Breaker) (success : Bool) (now : Instant) (wall : Option Instant) :
    Step Effect Breaker Unit :=
  if success then b.noteSuccess now wall else b.noteFailure now wall

theorem note_noted (b : Breaker) (success : Bool) (now : Instant) (wall : Option Instant) :
    Noted b now wall success (b.note success now wall).state := by
  cases success with
  | true =>
    simp only [note, noteSuccess, ↓reduceIte]
    split
    · rename_i mode
      exact .success mode
    · rename_i mode
      split
      · rename_i enough
        rw [switch_enters (by simp [mode])]
        exact .close mode enough
      · rename_i few
        exact .probe mode (UInt32.not_le.mp few)
    · rename_i mode
      exact .ignored mode
  | false =>
    simp only [note, noteFailure, Bool.false_eq_true, ↓reduceIte]
    split
    · rename_i mode
      split
      · rename_i ready
        simp only [Step.after]
        rw [switch_enters (by simp [mode])]
        exact .trip mode ready
      · rename_i calm
        exact .failure mode (by simpa using calm)
    · rename_i mode
      simp only [Step.after]
      rw [switch_enters (by simp [mode])]
      exact .reopen mode
    · rename_i mode
      exact .ignored mode

/-- What a request for admission can come to, once the timer has acted in `timed`. -/
inductive Asked (timed : Step Effect Breaker Unit) :
    Breaker → Except Crash (Except Rejection Ticket) → Prop where
  | crashed (cause : timed.result = .error crash) : Asked timed timed.state (.error crash)
  | rejected (fine : timed.result = .ok ()) (refused : timed.state.rejection? = some reason) :
      Asked timed timed.state (.ok (.error reason))
  | admitted (fine : timed.result = .ok ()) (free : timed.state.rejection? = none) :
      Asked timed { timed.state with tally := timed.state.tally.admitted }
        (.ok (.ok ⟨timed.state.generation⟩))

theorem ask_asked (b : Breaker) (operation : String) (now : Instant) (wall : Option Instant) :
    Asked (b.refresh now wall) (b.ask operation ⟨some now, wall⟩).state
      (b.ask operation ⟨some now, wall⟩).result := by
  simp only [ask, Step.bind]
  split
  · rename_i cause
    exact .crashed cause
  · rename_i fine
    dsimp only
    split
    · rename_i refused
      exact .rejected fine refused
    · rename_i free
      exact .admitted fine free

/-- What the end of a call can do, once the timer has acted in `timed`. -/
inductive Completed (timed : Step Effect Breaker Unit) (ticket : Ticket) (success : Bool)
    (now : Instant) (wall : Option Instant) : Breaker → Prop where
  | crashed (cause : timed.result ≠ .ok ()) : Completed timed ticket success now wall timed.state
  | stale (other : timed.state.generation ≠ ticket.generation) :
      Completed timed ticket success now wall timed.state
  | counted (same : timed.state.generation = ticket.generation)
      (noted : Noted timed.state now wall success next) :
      Completed timed ticket success now wall next

theorem complete_completed (b : Breaker) (ticket : Ticket) (success : Bool) (now : Instant)
    (wall : Option Instant) :
    Completed (b.refresh now wall) ticket success now wall
      (b.complete ticket success ⟨some now, wall⟩).state := by
  simp only [complete, Step.after, Step.bind]
  split
  · rename_i cause
    exact .crashed (by simp [cause])
  · dsimp only
    split
    · rename_i other
      exact .stale other
    · rename_i same
      have noted := note_noted (b.refresh now wall).state success now wall
      simp only [note] at noted
      refine .counted (by simpa using same) ?_
      split
      · rename_i well
        simpa [well] using noted
      · rename_i badly
        simpa [badly] using noted

/-- A reading lets the timer act and does nothing else. -/
theorem read_state (b : Breaker) (now : Instant) (wall : Option Instant) :
    (b.read ⟨some now, wall⟩).state = (b.refresh now wall).state := by
  unfold read peek
  dsimp only
  by_cases due : b.due now = true
  · simp only [due, ↓reduceIte, Step.bind]
    split <;> rfl
  · rw [refresh_early (by simpa using due)]
    simp [due, Step.pure]

end Fusebox.Breaker
