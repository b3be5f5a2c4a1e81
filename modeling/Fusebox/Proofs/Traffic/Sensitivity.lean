import Fusebox.Proofs.Breaker.Reports
import Fusebox.Proofs.Traffic.Course

/-! How soon a breaker opens. One policy is quicker than another one if it is content with all the
counts that the other one is content with. Two breakers are sent the same moves: as long as the
quicker one has not opened the two go abreast, and nothing but their policies tells them apart. So
the quicker one is the first to open. -/
namespace Fusebox

/-- A policy that opens a breaker on all the counts on which another one does. -/
def Policy.Quicker (quick slow : Policy) : Prop :=
  ∀ counts, slow.readyToTrip counts = true → quick.readyToTrip counts = true

/-- Of two policies with the same threshold the one that needs fewer requests is quicker. -/
theorem Policy.quicker_of_fewer {quick slow : Policy}
    (threshold : quick.failureThreshold = slow.failureThreshold)
    (fewer : quick.minimumRequests ≤ slow.minimumRequests) : quick.Quicker slow := by
  intro counts ready
  simp only [readyToTrip, Bool.and_eq_true, decide_eq_true_eq] at ready ⊢
  rw [threshold]
  exact ⟨UInt32.le_trans fewer ready.1, ready.2⟩

/-- A closed generation lasts as long as the reset interval says. -/
theorem Policy.deadline_closed {first second : Policy}
    (interval : first.resetInterval = second.resetInterval) (now : Instant) :
    first.deadline .closed now = second.deadline .closed now := by
  unfold deadline
  rw [interval]

namespace Breaker

/-- What the timer makes of a closed breaker. -/
def lapse (b : Breaker) (now : Instant) : Breaker := if b.due now then b.renew now else b

/-- Two closed breakers in the same state. The policy of the first one is quicker. -/
structure Abreast (quick slow : Breaker) : Prop where
  closed : quick.mode = .closed
  mode : slow.mode = quick.mode
  generation : slow.generation = quick.generation
  tally : slow.tally = quick.tally
  deadline : slow.deadline = quick.deadline
  changedAt : slow.changedAt = quick.changedAt
  interval : slow.policy.resetInterval = quick.policy.resetInterval
  quicker : quick.policy.Quicker slow.policy

variable {b quick slow : Breaker} {now : Instant} {wall : Option Instant}

theorem lapse_mode : (b.lapse now).mode = b.mode := by
  unfold lapse
  split <;> rfl

theorem refresh_closed (closed : b.mode = .closed) :
    b.refresh now wall = .pure (b.lapse now) () := by
  simp only [refresh, lapse, closed]
  split <;> rfl

/-- A closed breaker admits every request. -/
theorem ask_closed (closed : b.mode = .closed) (operation : String) (now : Instant)
    (wall : Option Instant) :
    b.ask operation ⟨some now, wall⟩ =
      .pure { b.lapse now with tally := (b.lapse now).tally.admitted }
        (.ok ⟨(b.lapse now).generation⟩) := by
  have free : (b.lapse now).rejection? = none := by
    simp only [rejection?, lapse_mode, closed]
  simp only [ask, refresh_closed closed, Step.bind, Step.pure, free, List.append_nil]

theorem read_closed (closed : b.mode = .closed) :
    (b.read ⟨some now, wall⟩).state = b.lapse now := by
  rw [read_state, refresh_closed closed]
  rfl

/-- A closed breaker counts what it is told, or it opens. -/
theorem note_closed (closed : b.mode = .closed) (success : Bool) :
    (b.note success now wall).state =
      if success = false ∧ b.policy.readyToTrip b.tally.failed = true then
        b.entered .opened now wall
      else { b with tally := b.tally.noted success } := by
  have noted := note_noted b success now wall
  generalize (b.note success now wall).state = next at noted
  cases noted with
  | success _ => simp [Tally.noted]
  | failure _ calm => simp [Tally.noted, calm]
  | trip _ ready => simp [ready]
  | probe half _ => cases closed.symm.trans half
  | close half _ => cases closed.symm.trans half
  | reopen half => cases closed.symm.trans half
  | ignored opened => cases closed.symm.trans opened

theorem complete_closed (closed : b.mode = .closed) (ticket : Ticket) (success : Bool) :
    (b.complete ticket success ⟨some now, wall⟩).state =
      (b.lapse now).receive ticket success now wall := by
  simp only [complete_received, refresh_closed closed, Step.after, Step.bind, Step.pure, receive,
    ite_not]
  split <;> rfl

theorem Abreast.due (abreast : Abreast quick slow) : slow.due now = quick.due now := by
  simp only [Breaker.due, abreast.mode, abreast.deadline]

theorem Abreast.lapse (abreast : Abreast quick slow) (now : Instant) :
    Abreast (quick.lapse now) (slow.lapse now) := by
  simp only [Breaker.lapse, abreast.due]
  split
  · refine { abreast with generation := ?_, tally := rfl, deadline := ?_ }
    · simp only [renew_generation, abreast.generation]
    · simp only [renew, abreast.mode, abreast.closed]
      exact Policy.deadline_closed abreast.interval now
  · exact abreast

theorem Abreast.counted (abreast : Abreast quick slow) (count : Tally → Tally) :
    Abreast { quick with tally := count quick.tally } { slow with tally := count slow.tally } :=
  { abreast with tally := congrArg count abreast.tally }

/-- A completion that does not open the quicker breaker does not open the other one. -/
theorem Abreast.receive (abreast : Abreast quick slow) (ticket : Ticket) (success : Bool)
    (now : Instant) (wall : Option Instant) :
    (quick.receive ticket success now wall).mode = .opened ∨
      Abreast (quick.receive ticket success now wall) (slow.receive ticket success now wall) := by
  simp only [Breaker.receive, abreast.generation]
  split
  · rw [note_closed abreast.closed, note_closed (abreast.mode.trans abreast.closed)]
    by_cases trips : success = false ∧ quick.policy.readyToTrip quick.tally.failed = true
    · rw [if_pos trips]
      exact .inl rfl
    · have stays : ¬(success = false ∧ slow.policy.readyToTrip slow.tally.failed = true) := by
        rintro ⟨failed, ready⟩
        rw [abreast.tally] at ready
        exact trips ⟨failed, abreast.quicker _ ready⟩
      rw [if_neg trips, if_neg stays]
      exact .inr (abreast.counted (·.noted success))
  · exact .inr abreast

theorem create_abreast {first second : String} {quickly slowly : Policy}
    (made : create first quickly reading = .ok quick)
    (other : create second slowly reading = .ok slow)
    (interval : quickly.resetInterval = slowly.resetInterval) (quicker : quickly.Quicker slowly) :
    Abreast quick slow := by
  obtain ⟨_ | now, _ | wall⟩ := reading
  · cases made
  · cases made
  · cases made
  · cases made
    cases other
    exact ⟨rfl, rfl, rfl, rfl, Policy.deadline_closed interval.symm now, rfl, interval.symm,
      quicker⟩

end Breaker

namespace Traffic

/-- The calls on two breakers that go abreast have fared alike. -/
structure Abreast (quick slow : Traffic) : Prop where
  breaker : Breaker.Abreast quick.breaker slow.breaker
  era : slow.era = quick.era
  admitted : slow.admitted = quick.admitted
  underway : slow.underway = quick.underway
  ended : slow.ended = quick.ended
  lost : slow.lost = quick.lost

/-- The breaker is open after the move at an index of a script, and was not before. -/
def OpensAt (t : Traffic) (script : List Move) (index : Nat) : Prop :=
  (t.run (script.take (index + 1))).breaker.mode = .opened ∧
    ∀ earlier ≤ index, (t.run (script.take earlier)).breaker.mode ≠ .opened

variable {quick slow : Traffic} {move : Move}

theorem Abreast.onto (abreast : Abreast quick slow) {next after : Breaker}
    (breaker : Breaker.Abreast next after) : Abreast (quick.onto next) (slow.onto after) := by
  refine ⟨breaker, ?_, abreast.admitted, abreast.underway, abreast.ended, abreast.lost⟩
  simp only [Traffic.onto, abreast.era, abreast.breaker.generation, breaker.generation]

theorem Abreast.board (abreast : Abreast quick slow) (ticket : Ticket) (now : Instant) :
    Abreast (quick.board ticket now) (slow.board ticket now) := by
  simp only [Traffic.board, abreast.admitted, abreast.underway, abreast.era, abreast.breaker.mode]
  exact ⟨abreast.breaker, rfl, rfl, rfl, abreast.ended, abreast.lost⟩

theorem Abreast.land (abreast : Abreast quick slow) (call : Call) (ending : Ending) :
    Abreast (quick.land call ending) (slow.land call ending) := by
  simp only [Traffic.land, abreast.underway, abreast.ended]
  exact ⟨abreast.breaker, abreast.era, abreast.admitted, rfl, rfl, abreast.lost⟩

theorem Abreast.lose (abreast : Abreast quick slow) (call : Call) :
    Abreast (quick.lose call) (slow.lose call) := by
  simp only [Traffic.lose, abreast.underway, abreast.lost]
  exact ⟨abreast.breaker, abreast.era, abreast.admitted, rfl, abreast.ended, rfl⟩

theorem Abreast.call? (abreast : Abreast quick slow) (number : Nat) :
    slow.call? number = quick.call? number := by
  simp only [Traffic.call?, abreast.underway]

theorem Abreast.finish (abreast : Abreast quick slow) (number : Nat) (ending : Ending)
    (reading : Reading) :
    (quick.perform (.finish number ending reading)).breaker.mode = .opened ∨
      Abreast (quick.perform (.finish number ending reading))
        (slow.perform (.finish number ending reading)) := by
  obtain ⟨now, wall⟩ := reading
  simp only [perform, abreast.call?]
  cases quick.call? number with
  | none => exact .inr abreast
  | some call =>
    simp only [Breaker.conclude_state]
    cases now with
    | none => exact .inr ((abreast.onto abreast.breaker).lose call)
    | some now =>
      have closed := abreast.breaker.closed
      have shut := abreast.breaker.mode.trans closed
      simp only [Breaker.complete_closed closed, Breaker.complete_closed shut]
      have received := (abreast.breaker.lapse now).receive call.ticket ending.success now wall
      exact received.imp id fun next => (abreast.onto next).land call ending

/-- A move opens the quicker breaker, or the two go on abreast. -/
theorem Abreast.perform (abreast : Abreast quick slow) (move : Move) :
    (quick.perform move).breaker.mode = .opened ∨
      Abreast (quick.perform move) (slow.perform move) := by
  have closed := abreast.breaker.closed
  have shut := abreast.breaker.mode.trans closed
  cases move with
  | look reading =>
    obtain ⟨now, wall⟩ := reading
    right
    cases now with
    | none => exact abreast.onto abreast.breaker
    | some now =>
      simp only [Traffic.perform, Breaker.read_closed closed, Breaker.read_closed shut]
      exact abreast.onto (abreast.breaker.lapse now)
  | ask operation reading =>
    obtain ⟨now, wall⟩ := reading
    right
    cases now with
    | none => exact abreast.onto abreast.breaker
    | some now =>
      have lapsed := abreast.breaker.lapse now
      have admitted := abreast.onto (lapsed.counted (·.admitted))
      simp only [Traffic.perform, Breaker.ask_closed closed, Breaker.ask_closed shut, Step.pure]
      have ticket : (⟨(slow.breaker.lapse now).generation⟩ : Ticket) =
          ⟨(quick.breaker.lapse now).generation⟩ := congrArg Ticket.mk lapsed.generation
      rw [ticket]
      exact admitted.board _ now
  | finish number ending reading => exact abreast.finish number ending reading

theorem run_take_succ (t : Traffic) (script : List Move) (index : Nat) :
    t.run (script.take (index + 1)) =
      (t.run (script.take index)).run script[index]?.toList := by
  rw [List.take_add_one, run_append]

/-- As far as a script has been run, the quicker breaker has opened, and up to then the two went
abreast; or it has not, and they still do. -/
theorem Abreast.run (abreast : Abreast quick slow) (script : List Move) (length : Nat) :
    (∃ first < length, quick.OpensAt script first ∧ ∀ earlier ≤ first,
      Abreast (quick.run (script.take earlier)) (slow.run (script.take earlier))) ∨
    ∀ earlier ≤ length,
      Abreast (quick.run (script.take earlier)) (slow.run (script.take earlier)) := by
  -- Nothing is said of the script after the move that opens the quicker breaker.
  induction length with
  | zero =>
    right
    intro earlier order
    cases Nat.le_zero.mp order
    exact abreast
  | succ length ih =>
    obtain ⟨first, before, opens, beside⟩ | beside := ih
    · exact .inl ⟨first, Nat.lt_succ_of_lt before, opens, beside⟩
    · have here := beside length (Nat.le_refl _)
      have next : (quick.run (script.take (length + 1))).breaker.mode = .opened ∨
          Abreast (quick.run (script.take (length + 1))) (slow.run (script.take (length + 1))) := by
        rw [run_take_succ, run_take_succ]
        cases script[length]? with
        | none => exact .inr here
        | some move => exact here.perform move
      rcases next with opened | next
      · refine .inl ⟨length, Nat.lt_succ_self _, ⟨opened, ?_⟩, beside⟩
        intro earlier order
        simp [(beside earlier order).breaker.closed]
      · right
        intro earlier order
        rcases Nat.le_succ_iff.mp order with older | rfl
        · exact beside earlier older
        · exact next

/-- Whatever moves are made, a breaker with a quicker policy opens no later than one with the same
reset interval, and until it does the two are in the same state and have admitted the same
calls. -/
theorem quicker_policy_opens_no_later
    (made : Breaker.create first quickly reading = .ok a)
    (other : Breaker.create second slowly reading = .ok b)
    (interval : quickly.resetInterval = slowly.resetInterval) (quicker : quickly.Quicker slowly)
    (script : List Move) (index : Nat) (opens : (fresh b).OpensAt script index) :
    ∃ sooner ≤ index, (fresh a).OpensAt script sooner ∧ ∀ earlier ≤ sooner,
      Abreast ((fresh a).run (script.take earlier)) ((fresh b).run (script.take earlier)) := by
  have start : Abreast (fresh a) (fresh b) :=
    ⟨Breaker.create_abreast made other interval quicker, rfl, rfl, rfl, rfl, rfl⟩
  obtain ⟨sooner, order, opened, beside⟩ | beside := start.run script (index + 1)
  · exact ⟨sooner, Nat.le_of_lt_succ order, opened, beside⟩
  · have last := (beside (index + 1) (Nat.le_refl _)).breaker
    cases (last.mode.trans last.closed).symm.trans opens.1

/-- Two calls fail. One breaker opens with the first of them, one that needs two requests opens with
the second. -/
theorem quicker_policy_opens_no_later_by_one_failure :
    let patient : Policy := { Policy.touchy with minimumRequests := 2, openTimeout := .zero }
    let slow : Breaker := { Breaker.touchy with policy := patient.normalized }
    let script : List Move := [
      .ask "first" (.past 0),
      .finish 0 .failed (.past 1),
      .look (.past 1),
      .ask "second" (.past 2),
      .finish 1 .failed (.past 3)]
    Policy.touchy.Quicker patient ∧ (fresh slow).OpensAt script 4 ∧
      (fresh .touchy).OpensAt script 1 ∧
      ∃ sooner ≤ 4, (fresh .touchy).OpensAt script sooner ∧ ∀ earlier ≤ sooner,
        Abreast ((fresh .touchy).run (script.take earlier))
          ((fresh slow).run (script.take earlier)) := by
  intro patient slow script
  have quicker : Policy.touchy.Quicker patient := Policy.quicker_of_fewer rfl (by decide)
  have created : Breaker.create "touchy" patient (.past 0) = .ok slow := rfl
  have opens : (fresh slow).OpensAt script 4 := ⟨by decide, by decide⟩
  exact ⟨quicker, opens, ⟨by decide, by decide⟩,
    quicker_policy_opens_no_later Breaker.touchy_created created rfl quicker script 4 opens⟩

end Traffic
end Fusebox
