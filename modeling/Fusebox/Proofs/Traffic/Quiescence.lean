import Fusebox.Proofs.Traffic.Freshness
import Fusebox.Proofs.Traffic.Story

/-! Every operation leaves its breaker quiet. The timer acts before the operation does, and a
deadline that either of them sets lies ahead; so nothing is left to be done at the same reading,
and whoever looks once more sees the breaker as it is. What is needed of a deadline is known at
any time: it was set when the present generation began, from the reading at which it did. -/
namespace Fusebox

namespace Breaker

variable {b next : Breaker} {now : Instant} {wall : Option Instant}

/-- Nothing is left to be done for a breaker at a reading of the clock. A look at that reading
shows it as it is; nothing else happens, and nothing is reported. -/
structure Quiet (b : Breaker) (now : Instant) : Prop where
  early : b.due now = false
  still : ∀ wall, b.read ⟨some now, wall⟩ = .pure b b.snapshot

theorem quiet_of_early (early : b.due now = false) : b.Quiet now := by
  refine ⟨early, fun wall => ?_⟩
  simp only [read, peek, early, Bool.false_eq_true, ↓reduceIte]

/-- The deadline of a generation that began at a reading of the clock, under a policy as it was
asked for. A sum beyond the range of the clock is no instant, and then there is no deadline. -/
structure Scheduled (p : Policy) (start : Instant) (b : Breaker) : Prop where
  halfOpen : b.mode = .halfOpen → b.deadline = none
  closed : b.mode = .closed → ∀ point, b.deadline = some point ↔
    p.resetInterval.isZero = false ∧ point.nanos = start.nanos + p.resetInterval.nanos
  opened : b.mode = .opened → ∀ point, b.deadline = some point ↔
    point.nanos = start.nanos + p.normalized.openTimeout.nanos

theorem scheduled_of_deadline {p : Policy} {start : Instant} (policy : b.policy = p.normalized)
    (deadline : b.deadline = b.policy.deadline b.mode start) : Scheduled p start b := by
  rw [policy] at deadline
  constructor
  · intro half
    rw [deadline, half]
    rfl
  · intro closed point
    rw [deadline, closed]
    have interval : p.normalized.resetInterval = p.resetInterval := rfl
    simp only [Policy.deadline, interval]
    by_cases never : p.resetInterval.isZero = true
    · simp [never]
    · rw [if_neg never]
      simp only [Instant.add?, Instant.ofNanos?_eq_some_iff]
      simp [never]
  · intro opened point
    rw [deadline, opened]
    exact Instant.ofNanos?_eq_some_iff

/-- The whole of a look: the timer acts, and then the breaker is shown. -/
def survey (b : Breaker) (now : Instant) (wall : Option Instant) : Step Effect Breaker Snapshot :=
  (b.refresh now wall).bind fun timed _ => .pure timed timed.snapshot

/-- Looking first whether anything is due makes no difference. -/
theorem read_survey (b : Breaker) (now : Instant) (wall : Option Instant) :
    b.read ⟨some now, wall⟩ = b.survey now wall := by
  by_cases due : b.due now = true
  · simp only [read, peek, due, ↓reduceIte]
    rfl
  · have early : b.due now = false := by simpa using due
    rw [(quiet_of_early early).still, survey, refresh_early early]
    rfl

theorem survey_state (b : Breaker) (now : Instant) (wall : Option Instant) :
    (b.survey now wall).state = (b.refresh now wall).state := by
  rw [← read_survey, read_state]

/-- A look that is answered shows the breaker as it leaves it. -/
theorem survey_answer {shown : Snapshot} (answered : (b.survey now wall).result = .ok shown) :
    shown = (b.survey now wall).state.snapshot := by
  have fine : (b.survey now wall).result.isOk = true := by
    rw [answered]
    rfl
  unfold survey at answered fine ⊢
  obtain ⟨_, _, whole⟩ := Step.bind_isOk fine
  rw [whole] at answered ⊢
  cases answered
  rfl

theorem create_settles {p : Policy} (created : create label p ⟨some now, wall⟩ = .ok b) :
    b.due now = false := by
  cases wall with
  | none => cases created
  | some wall =>
    cases created
    exact due_of_begun p.normalized_openTimeout_pos rfl

/-- An operation goes on with the present generation of a breaker, in which nothing is due, or it
leaves a generation that began when it was done. -/
inductive Follows (b : Breaker) (now : Instant) (next : Breaker) : Prop where
  | same (early : b.due now = false) (stayed : Stayed b next)
  | begun (generation : next.generation ≠ b.generation)
      (deadline : next.deadline = next.policy.deadline next.mode now)

theorem Follows.settled (follows : Follows b now next)
    (positive : 0 < next.policy.openTimeout.nanos) : next.due now = false := by
  cases follows with
  | same early stayed => exact (due_congr stayed.mode stayed.deadline).trans early
  | begun generation deadline => exact due_of_begun positive deadline

/-- What is counted makes no difference. -/
theorem Follows.counted (follows : Follows b now next) (counts : Tally) :
    Follows b now { next with tally := counts } := by
  cases follows with
  | same early stayed => exact .same early ⟨stayed.generation, stayed.mode, stayed.deadline⟩
  | begun generation deadline => exact .begun generation deadline

theorem Elapsed.follows (elapsed : Elapsed b now wall next) : Follows b now next := by
  cases elapsed with
  | early early => exact .same early (.refl b)
  | renewed due mode => exact .begun (by simp) rfl
  | probing due mode => exact .begun (by simp) rfl

/-- The timer may have begun a generation, and the completion after it another one. -/
theorem Noted.follows {timed : Breaker} {success : Bool} (elapsed : Elapsed b now wall timed)
    (noted : Noted timed now wall success next) : Follows b now next := by
  rcases noted.joins_or_begins with ⟨_, rfl⟩ | ⟨target, rfl⟩ | ⟨_, rfl⟩
  · exact elapsed.follows.counted _
  · refine .begun ?_ rfl
    -- One generation later or two, the number is not the old one again.
    rcases elapsed.same_or_begun with rfl | ⟨number, _⟩
    · simp
    · rw [entered_generation, number]
      grind
  · exact elapsed.follows

theorem ask_follows (b : Breaker) (operation : String) (now : Instant) (wall : Option Instant) :
    Follows b now (b.ask operation ⟨some now, wall⟩).state := by
  have timed := (refresh_elapsed b now wall).follows
  have asked := ask_asked b operation now wall
  generalize b.ask operation ⟨some now, wall⟩ = step at asked ⊢
  obtain ⟨state, effects, result⟩ := step
  cases asked with
  | crashed cause => exact timed
  | rejected fine refused => exact timed
  | admitted fine free => exact timed.counted _

theorem complete_follows (b : Breaker) (ticket : Ticket) (success : Bool) (now : Instant)
    (wall : Option Instant) :
    Follows b now (b.complete ticket success ⟨some now, wall⟩).state := by
  have elapsed := refresh_elapsed b now wall
  have completed := complete_completed b ticket success now wall
  generalize (b.complete ticket success ⟨some now, wall⟩).state = next at completed ⊢
  cases completed with
  | crashed cause => exact elapsed.follows
  | stale other => exact elapsed.follows
  | counted same noted => exact noted.follows elapsed

end Breaker

namespace Traffic

variable {t next : Traffic} {policy : Policy} {now first start : Instant} {move : Move}
  {wall : Option Instant}

/-- A move that is something to the breaker: an end is one if it is that of a call under way. -/
def Touches (t : Traffic) (move : Move) : Prop :=
  ∀ number ending reading, move = .finish number ending reading → (t.call? number).isSome

/-- Looks while the monotonic clock stands still, whatever the wall clock shows to them. -/
def looksAt (now : Instant) (walls : List (Option Instant)) : List Move :=
  walls.map fun wall => .look ⟨some now, wall⟩

/-- Looks while the monotonic clock stands still. The first one leaves nothing to the others. -/
structure LooksOnce (t : Traffic) (now : Instant) (wall : Option Instant)
    (walls : List (Option Instant)) : Prop where
  /-- They do what the first one does, -/
  run : t.run (looksAt now (wall :: walls)) = t.perform (.look ⟨some now, wall⟩)
  /-- report what it reports, -/
  story : t.story (looksAt now (wall :: walls)) = t.story [.look ⟨some now, wall⟩]
  /-- and if it is answered, as it is whenever the wall clock can be read, -/
  answered : ∀ time, wall = some time → ∃ shown,
    (t.breaker.read ⟨some now, wall⟩).result = .ok shown
  /-- they are given the same answer. -/
  answers : ∀ shown, (t.breaker.read ⟨some now, wall⟩).result = .ok shown →
    ∀ later ∈ walls,
      ((t.run (looksAt now (wall :: walls))).breaker.read ⟨some now, later⟩).result = .ok shown
  /-- Together they end one generation at most. -/
  once : (t.run (looksAt now (wall :: walls))).breaker = t.breaker ∨
    (t.run (looksAt now (wall :: walls))).breaker.generation = t.breaker.generation + 1

/-- A move that brings no reading is not heard. -/
theorem perform_unread (unread : move.reading.now = none) :
    (t.perform move).breaker = t.breaker := by
  cases move with
  | look reading =>
    obtain ⟨_, wall⟩ := reading
    cases unread
    rfl
  | ask operation reading =>
    obtain ⟨_, wall⟩ := reading
    cases unread
    rfl
  | finish number ending reading =>
    obtain ⟨_, wall⟩ := reading
    cases unread
    cases found : t.call? number with
    | none => simp only [perform, found]
    | some call =>
      rw [finish_breaker found]
      rfl

/-- Nobody hears of the end of a call that is not under way. -/
theorem perform_untouched (untouched : ¬ t.Touches move) : t.perform move = t := by
  cases move with
  | look reading =>
    refine absurd ?_ untouched
    intro number ending other same
    cases same
  | ask operation reading =>
    refine absurd ?_ untouched
    intro number ending other same
    cases same
  | finish number ending reading =>
    cases found : t.call? number with
    | none => simp only [perform, found]
    | some call =>
      refine absurd ?_ untouched
      intro other ending reading same
      cases same
      rw [found]
      rfl

theorem Touches.follows (touches : t.Touches move) (seen : move.reading.now = some now) :
    Breaker.Follows t.breaker now (t.perform move).breaker := by
  cases move with
  | look reading =>
    obtain ⟨_, wall⟩ := reading
    cases seen
    simp only [perform, Breaker.read_state, onto_breaker]
    exact (Breaker.refresh_elapsed t.breaker now wall).follows
  | ask operation reading =>
    obtain ⟨_, wall⟩ := reading
    cases seen
    rw [ask_breaker]
    exact Breaker.ask_follows t.breaker operation now wall
  | finish number ending reading =>
    obtain ⟨_, wall⟩ := reading
    cases seen
    obtain ⟨call, found⟩ := Option.isSome_iff_exists.mp (touches number ending _ rfl)
    rw [finish_breaker found]
    exact Breaker.complete_follows t.breaker call.ticket ending.success now wall

theorem Reached.openTimeout_pos (reached : Reached policy t) :
    0 < t.breaker.policy.openTimeout.nanos := by
  rw [reached.keeps_policy]
  exact policy.normalized_openTimeout_pos

theorem Reached.settles (reached : Reached policy t) (touches : t.Touches move)
    (seen : move.reading.now = some now) : (t.perform move).breaker.due now = false :=
  (touches.follows seen).settled (perform_reached reached move).openTimeout_pos

/-- A generation that goes on keeps the deadline that it was given when it began. -/
theorem Reached.deadline_stays (reached : Reached policy t) (move : Move)
    (stayed : Breaker.Stayed t.breaker (t.perform move).breaker)
    (deadline : t.breaker.deadline = t.breaker.policy.deadline t.breaker.mode first) :
    (t.perform move).breaker.deadline =
      (t.perform move).breaker.policy.deadline (t.perform move).breaker.mode
        (beganBy first t (t.perform move) move.reading.now) := by
  have kept := (perform_reached reached move).keeps_policy.trans reached.keeps_policy.symm
  have era := (perform_era_eq_iff t move).mpr stayed.generation
  rw [beganBy_same era, stayed.deadline, kept, stayed.mode]
  exact deadline

/-- The deadline is that of a generation which began at a reading, before a move and after it. -/
theorem perform_deadline (reached : Reached policy t) (move : Move)
    (deadline : t.breaker.deadline = t.breaker.policy.deadline t.breaker.mode first) :
    (t.perform move).breaker.deadline =
      (t.perform move).breaker.policy.deadline (t.perform move).breaker.mode
        (beganBy first t (t.perform move) move.reading.now) := by
  have unmoved (still : (t.perform move).breaker = t.breaker) :=
    reached.deadline_stays move (still.symm ▸ .refl _) deadline
  by_cases touches : t.Touches move
  · cases seen : move.reading.now with
    | none => exact seen ▸ unmoved (perform_unread seen)
    | some now =>
      cases touches.follows seen with
      | same early stayed => exact seen ▸ reached.deadline_stays move stayed deadline
      | begun generation begun =>
        have moved : (t.perform move).era ≠ t.era := by
          intro same
          exact generation ((perform_era_eq_iff t move).mp same)
        rw [beganBy, if_neg moved]
        exact begun
  · exact unmoved (congrArg Traffic.breaker (perform_untouched touches))

theorem run_deadline (reached : Reached policy t) (script : List Move)
    (deadline : t.breaker.deadline = t.breaker.policy.deadline t.breaker.mode first) :
    (t.run script).breaker.deadline =
      (t.run script).breaker.policy.deadline (t.run script).breaker.mode
        (t.began first script) := by
  induction script generalizing t first with
  | nil => exact deadline
  | cons move rest ih =>
    exact ih (perform_reached reached move) (perform_deadline reached move deadline)

/-- A look at a quiet breaker is none. -/
theorem look_quietly (quiet : t.breaker.Quiet now) (wall : Option Instant) :
    t.perform (.look ⟨some now, wall⟩) = t ∧ t.reports (.look ⟨some now, wall⟩) = [] := by
  simp only [perform, reports, quiet.still]
  exact ⟨onto_same t, rfl⟩

theorem looks_quietly (quiet : t.breaker.Quiet now) (walls : List (Option Instant)) :
    t.run (looksAt now walls) = t ∧ t.story (looksAt now walls) = [] := by
  induction walls with
  | nil => exact ⟨rfl, rfl⟩
  | cons wall walls ih =>
    obtain ⟨same, untold⟩ := look_quietly quiet wall
    constructor
    · show (t.perform (.look ⟨some now, wall⟩)).run (looksAt now walls) = t
      rw [same]
      exact ih.1
    · show (t.reports _).map _ ++
        (t.perform (.look ⟨some now, wall⟩)).story (looksAt now walls) = []
      rw [same, untold, ih.2]
      rfl

theorem Reached.looksOnce (reached : Reached policy t) (now : Instant) (wall : Option Instant)
    (walls : List (Option Instant)) : LooksOnce t now wall walls := by
  have elapsed := Breaker.refresh_elapsed t.breaker now wall
  have state := Breaker.read_state t.breaker now wall
  have quiet : (t.perform (.look ⟨some now, wall⟩)).breaker.Quiet now := by
    refine Breaker.quiet_of_early ?_
    simp only [perform, state, onto_breaker]
    exact elapsed.settled reached.openTimeout_pos
  obtain ⟨same, untold⟩ := looks_quietly quiet walls
  have run : t.run (looksAt now (wall :: walls)) = t.perform (.look ⟨some now, wall⟩) := same
  refine ⟨run, ?_, ?_, ?_, ?_⟩
  · show _ ++ (t.perform (.look ⟨some now, wall⟩)).story (looksAt now walls) = _ ++ []
    rw [untold]
  · rintro time rfl
    exact ⟨_, t.breaker.read_result now time⟩
  · intro shown answered later _
    rw [Breaker.read_survey] at answered
    rw [run, quiet.still, Breaker.survey_answer answered, Breaker.survey_state]
    simp only [perform, state, onto_breaker]
    rfl
  · rw [run]
    simp only [perform, state, onto_breaker]
    exact elapsed.same_or_begun.imp_right And.left

/-- Whatever a policy asks for and whatever has happened, an operation leaves nothing due at its
own reading. Looks while the clock stands still agree and make one turn at most. The deadline is
that of a generation which began when the present one did. -/
theorem operations_leave_nothing_due
    (created : Breaker.create name policy ⟨some start, wall⟩ = .ok b) (script : List Move) :
    b.Quiet start ∧
      (∀ move now, ((fresh b).run script).Touches move → move.reading.now = some now →
        (((fresh b).run script).perform move).breaker.Quiet now) ∧
      (∀ now wall walls, LooksOnce ((fresh b).run script) now wall walls) ∧
      Breaker.Scheduled policy ((fresh b).began start script) ((fresh b).run script).breaker := by
  have first : Reached policy (fresh b) := .fresh created
  have reached := run_reached first script
  refine ⟨Breaker.quiet_of_early (Breaker.create_settles created), ?_, ?_, ?_⟩
  · intro move now touches seen
    exact Breaker.quiet_of_early (reached.settles touches seen)
  · intro now wall walls
    exact reached.looksOnce now wall walls
  · apply Breaker.scheduled_of_deadline reached.keeps_policy
    exact run_deadline first script (Dated.fresh created).deadline

/-- The breaker has opened at 2 ns. When it is due, 10 ns later, it may be asked or looked at
three times; it turns half-open once. -/
theorem operations_leave_nothing_due_at_end_of_outage :
    let script : List Move := [.ask "first" (.past 0), .finish 0 .failed (.past 2)]
    let t := (fresh .touchy).run script
    let moment : Instant := ⟨12, by decide⟩
    t.breaker.due moment = true ∧
      (t.perform (.ask "probe" (.past 12))).breaker.Quiet moment ∧
      LooksOnce t moment (some moment) [none, some moment] ∧
      (t.run (looksAt moment [some moment, none, some moment])).breaker.generation = 2 ∧
      t.breaker.deadline = some moment := by
  intro script t moment
  obtain ⟨-, quiet, once, scheduled⟩ :=
    operations_leave_nothing_due Breaker.touchy_created script
  have asked : t.Touches (.ask "probe" (.past 12)) := by
    intro number ending reading other
    cases other
  have opened : t.breaker.mode = .opened := by decide
  refine ⟨by decide, quiet _ moment asked rfl, once moment _ _, by decide, ?_⟩
  exact (scheduled.opened opened moment).mpr (by decide)

end Traffic
end Fusebox
