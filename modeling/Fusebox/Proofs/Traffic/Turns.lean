import Fusebox.Proofs.Traffic.Tags

/-! Turns: one generation comes to an end and the next one begins. There are five ways in
which that happens, two of them by the timer and three by the end of a call. However many
calls there are and whatever the clocks show, no move makes more than one turn, because the
end of a call that finds a new generation belongs to an older one. -/
namespace Fusebox

/-- The ways in which one generation follows another. -/
inductive Turn where
  /-- The deadline of a closed generation has come. -/
  | renewed
  /-- A failure opens a closed breaker. -/
  | tripped
  /-- The deadline of an open generation has come. -/
  | probing
  /-- A success closes a half-open breaker. -/
  | recovered
  /-- A failure opens a half-open breaker again. -/
  | relapsed
deriving DecidableEq

namespace Turn

/-- The mode a turn leaves. -/
def source : Turn → Mode
  | .renewed | .tripped => .closed
  | .probing => .opened
  | .recovered | .relapsed => .halfOpen

/-- The mode a turn enters. -/
def target : Turn → Mode
  | .renewed | .recovered => .closed
  | .tripped | .relapsed => .opened
  | .probing => .halfOpen

end Turn

namespace Breaker

variable {b next : Breaker} {now : Instant} {wall : Option Instant}

/-- A breaker has taken a turn: its mode is another one, or the same with a new deadline, and
nothing has been counted since. -/
structure Took (turn : Turn) (b next : Breaker) : Prop where
  source : b.mode = turn.source
  target : next.mode = turn.target
  generation : next.generation = b.generation + 1
  cleared : next.tally = .empty
  shows : next.mode ≠ b.mode ∨ next.deadline ≠ b.deadline

/-- A breaker is in the same generation as before. -/
structure Stayed (b next : Breaker) : Prop where
  generation : next.generation = b.generation
  mode : next.mode = b.mode
  deadline : next.deadline = b.deadline

theorem Stayed.refl (b : Breaker) : Stayed b b := ⟨rfl, rfl, rfl⟩

theorem Stayed.trans {last : Breaker} (here : Stayed b next) (later : Stayed next last) :
    Stayed b last :=
  ⟨later.generation.trans here.generation, later.mode.trans here.mode,
    later.deadline.trans here.deadline⟩

/-- Whether something is due is a matter of the mode and the deadline alone. -/
theorem due_congr (mode : next.mode = b.mode) (deadline : next.deadline = b.deadline) :
    next.due now = b.due now := by
  simp only [due, mode, deadline]

/-- The timer makes no turn before the deadline, and at the deadline one of its two. -/
theorem Elapsed.turn (elapsed : Elapsed b now wall next)
    (positive : 0 < b.policy.openTimeout.nanos) :
    next = b ∧ b.due now = false ∨
      b.due now = true ∧ ∃ turn, (turn = .renewed ∨ turn = .probing) ∧ Took turn b next := by
  have settled := elapsed.settled positive
  cases elapsed with
  | early early => exact .inl ⟨rfl, early⟩
  | renewed due closed =>
    -- With the old deadline the new generation would be over as well.
    have moved : (b.renew now).deadline ≠ b.deadline := by
      intro same
      have still : (b.renew now).due now = b.due now := due_congr rfl same
      cases settled.symm.trans (still.trans due)
    exact .inr ⟨due, .renewed, .inl rfl, closed, closed, rfl, rfl, .inr moved⟩
  | probing due opened =>
    have other : (b.entered .halfOpen now wall).mode ≠ b.mode := by
      rw [opened]
      exact nofun
    exact .inr ⟨due, .probing, .inr rfl, opened, rfl, rfl, rfl, .inl other⟩

/-- The end of a call that counts makes a turn of its kind, or none. -/
theorem Noted.turn {success : Bool} (noted : Noted b now wall success next) :
    Stayed b next ∨ ∃ turn, (turn = .recovered ∧ success = true ∨
      (turn = .tripped ∨ turn = .relapsed) ∧ success = false) ∧ Took turn b next := by
  have enters {target : Mode} (other : b.mode ≠ target) :
      (b.entered target now wall).mode ≠ b.mode := fun same => other same.symm
  cases noted with
  | success closed => exact .inl ⟨rfl, rfl, rfl⟩
  | probe half few => exact .inl ⟨rfl, rfl, rfl⟩
  | failure closed calm => exact .inl ⟨rfl, rfl, rfl⟩
  | ignored opened => exact .inl ⟨rfl, rfl, rfl⟩
  | close half enough =>
    exact .inr ⟨.recovered, .inl ⟨rfl, rfl⟩, half, rfl, rfl, rfl, .inl (enters (by simp [half]))⟩
  | trip closed ready =>
    exact .inr ⟨.tripped, .inr ⟨.inl rfl, rfl⟩, closed, rfl, rfl, rfl,
      .inl (enters (by simp [closed]))⟩
  | reopen half =>
    exact .inr ⟨.relapsed, .inr ⟨.inr rfl, rfl⟩, half, rfl, rfl, rfl,
      .inl (enters (by simp [half]))⟩

end Breaker

namespace Traffic

variable {t next : Traffic} {move : Move}

/-- The deadline of the present generation has come by the reading of a move. -/
def Overdue (t : Traffic) (move : Move) : Prop :=
  ∃ now deadline, move.reading.now = some now ∧ t.breaker.deadline = some deadline ∧
    deadline ≤ now

/-- A move by which a call of the present generation ends, well or badly. -/
def Ends (t : Traffic) (move : Move) (success : Bool) : Prop :=
  ∃ number ending reading call, move = .finish number ending reading ∧
    t.call? number = some call ∧ call.era = t.era ∧ ending.success = success

/-- What it takes for a turn. -/
def Occasion (t : Traffic) (move : Move) : Turn → Prop
  | .renewed | .probing => t.Overdue move
  | .tripped | .relapsed => t.Ends move false
  | .recovered => t.Ends move true

/-- What a move does to the generation of a breaker: nothing, or one turn for which there is
occasion. If the move is the admission of a call it is counted after the turn. -/
inductive Turns (t : Traffic) (move : Move) (next : Traffic) : Prop where
  | stayed (stayed : Breaker.Stayed t.breaker next.breaker)
  | turned (turn : Turn) (occasion : t.Occasion move turn)
      (took : Breaker.Took turn t.breaker next.breaker)
  | admitting (turn : Turn) (occasion : t.Occasion move turn)
      (took : Breaker.Took turn t.breaker begun)
      (admitted : ∃ call, next.admitted = t.admitted ++ [call])
      (counted : next.breaker = { begun with tally := begun.tally.admitted })

/-- Whether a move makes a turn. A turn shows in the mode or in the deadline. -/
def isTurn (t : Traffic) (move : Move) : Bool :=
  decide ((t.perform move).breaker.mode ≠ t.breaker.mode ∨
    (t.perform move).breaker.deadline ≠ t.breaker.deadline)

/-- How many turns a script makes. -/
def turnCount (t : Traffic) : List Move → Nat
  | [] => 0
  | move :: rest => (t.isTurn move).toNat + (t.perform move).turnCount rest

/-- The timer makes one of its turns, with occasion, or none. -/
theorem Lawful.timer_turn {after : Breaker} (lawful : Lawful policy t)
    (shown : move.reading.now = some now) (elapsed : Breaker.Elapsed t.breaker now wall after) :
    after = t.breaker ∨ ∃ turn, t.Occasion move turn ∧ Breaker.Took turn t.breaker after := by
  obtain ⟨same, -⟩ | ⟨due, turn, timers, took⟩ := elapsed.turn lawful.openTimeout_pos
  · exact .inl same
  · obtain ⟨deadline, found, come⟩ := Breaker.deadline_of_due due
    have overdue : t.Overdue move := ⟨now, deadline, shown, found, come⟩
    refine .inr ⟨turn, ?_, took⟩
    obtain rfl | rfl := timers
    · exact overdue
    · exact overdue

/-- A move that has no effect but that of the timer. -/
theorem Lawful.timer_turns {after : Breaker} (lawful : Lawful policy t)
    (shown : move.reading.now = some now) (elapsed : Breaker.Elapsed t.breaker now wall after)
    (same : next.breaker = after) :
    Turns t move next := by
  obtain rfl | ⟨turn, occasion, took⟩ := lawful.timer_turn shown elapsed
  · exact .stayed (by rw [same]; exact .refl _)
  · exact .turned turn occasion (same ▸ took)

/-- Every shift makes at most one turn. -/
theorem Shift.turns (shift : Shift t move next) (lawful : Lawful policy t) :
    Turns t move next := by
  cases shift with
  | deaf unseen => exact .stayed (.refl _)
  | missing unknown => exact .stayed (.refl _)
  | lost unseen found => exact .stayed ⟨rfl, rfl, rfl⟩
  | looked elapsed => exact lawful.timer_turns rfl elapsed rfl
  | crashed elapsed probing => exact lawful.timer_turns rfl elapsed rfl
  | refused elapsed refused => exact lawful.timer_turns rfl elapsed rfl
  | stale elapsed found older => exact lawful.timer_turns rfl elapsed rfl
  | @admitted now wall timed operation elapsed free =>
    have shown : (Move.ask operation ⟨some now, wall⟩).reading.now = some now := rfl
    obtain rfl | ⟨turn, occasion, took⟩ := lawful.timer_turn shown elapsed
    · exact .stayed ⟨rfl, rfl, rfl⟩
    · exact .admitting turn occasion took ⟨_, rfl⟩ rfl
  | counted early found current noted =>
    obtain stayed | ⟨turn, kind, took⟩ := noted.turn
    · exact .stayed stayed
    · refine .turned turn ?_ took
      obtain ⟨rfl, success⟩ | ⟨rfl | rfl, success⟩ := kind
      · exact ⟨_, _, _, _, rfl, found, current, success⟩
      · exact ⟨_, _, _, _, rfl, found, current, success⟩
      · exact ⟨_, _, _, _, rfl, found, current, success⟩

/-- From one mode to another, or to itself, there is one kind of turn at most. -/
theorem Turns.taken (turns : Turns t move next) :
    Breaker.Stayed t.breaker next.breaker ∨ ∃ turn, t.Occasion move turn ∧
      t.breaker.mode = turn.source ∧ next.breaker.mode = turn.target := by
  cases turns with
  | stayed stayed => exact .inl stayed
  | turned turn occasion took => exact .inr ⟨turn, occasion, took.source, took.target⟩
  | admitting turn occasion took admitted counted =>
    refine .inr ⟨turn, occasion, took.source, ?_⟩
    rw [counted]
    exact took.target

/-- The number of generations that have ended follows the numbers of the generations. -/
theorem perform_era (t : Traffic) (move : Move) :
    (t.perform move).era =
      t.era + ((t.perform move).breaker.generation - t.breaker.generation).toNat := by
  cases move with
  | look reading => rfl
  | ask operation reading =>
    simp only [perform]
    split <;> rfl
  | finish number ending reading =>
    simp only [perform]
    split
    · simp
    · split <;> rfl

theorem perform_era_eq_iff (t : Traffic) (move : Move) :
    (t.perform move).era = t.era ↔
      (t.perform move).breaker.generation = t.breaker.generation := by
  rw [perform_era]
  constructor
  · intro same
    have unmoved : (t.perform move).breaker.generation - t.breaker.generation = 0 :=
      UInt64.toNat_inj.mp (by simpa using same)
    grind
  · intro same
    simp [same]

/-- The timer moves the number of the generation by one at most. -/
theorem elapse_generation (t : Traffic) (now : Instant) (wall : Option Instant) :
    (t.elapse now wall).breaker.generation = t.breaker.generation ∨
      (t.elapse now wall).breaker.generation = t.breaker.generation + 1 := by
  obtain same | ⟨number, _⟩ := (Breaker.refresh_elapsed t.breaker now wall).same_or_begun
  · exact .inl (congrArg Breaker.generation same)
  · exact .inr number

/-- So does the end of a call that has not the number of the generation to come. -/
theorem complete_generation (t : Traffic) {ticket : Ticket}
    (present : ticket.generation ≠ t.breaker.generation + 1) (success : Bool) (now : Instant)
    (wall : Option Instant) :
    (t.breaker.complete ticket success ⟨some now, wall⟩).state.generation =
        t.breaker.generation ∨
      (t.breaker.complete ticket success ⟨some now, wall⟩).state.generation =
        t.breaker.generation + 1 := by
  have completed := Breaker.complete_completed t.breaker ticket success now wall
  have timer := elapse_generation t now wall
  generalize (t.breaker.complete ticket success ⟨some now, wall⟩).state = next at completed ⊢
  cases completed with
  | crashed cause => exact timer
  | stale other => exact timer
  | counted same noted =>
    obtain still | ⟨begun, _⟩ := (Breaker.refresh_elapsed t.breaker now wall).same_or_begun
    · rw [still] at noted
      exact noted.generation
    · exact absurd (same.symm.trans begun) present

/-- Neither a look nor a request ends more than one generation. -/
theorem look_generation (t : Traffic) (reading : Reading) :
    (t.perform (.look reading)).breaker.generation = t.breaker.generation ∨
      (t.perform (.look reading)).breaker.generation = t.breaker.generation + 1 := by
  obtain ⟨now, wall⟩ := reading
  cases now with
  | none => exact .inl rfl
  | some now =>
    simp only [perform, Breaker.read_state]
    exact elapse_generation t now wall

theorem ask_generation (t : Traffic) (operation : String) (reading : Reading) :
    (t.perform (.ask operation reading)).breaker.generation = t.breaker.generation ∨
      (t.perform (.ask operation reading)).breaker.generation = t.breaker.generation + 1 := by
  obtain ⟨now, wall⟩ := reading
  cases now with
  | none => exact .inl rfl
  | some now =>
    have heard := ask_heard t operation now wall
    have timer := elapse_generation t now wall
    generalize (t.breaker.ask operation ⟨some now, wall⟩).result = told at heard
    generalize t.perform (.ask operation ⟨some now, wall⟩) = next at heard ⊢
    cases heard with
    | crashed cause => exact timer
    | refused fine refused => exact timer
    | admitted fine free => exact timer

/-- A move ends a call that was admitted in the present generation or in an earlier one, if it ends
any: the call has not the number of the generation to come. -/
def NotAhead (t : Traffic) (move : Move) : Prop :=
  ∀ number ending reading call, move = .finish number ending reading →
    t.call? number = some call → call.ticket.generation ≠ t.breaker.generation + 1

/-- No such move ends more than one generation. -/
theorem NotAhead.generation (notAhead : t.NotAhead move) :
    (t.perform move).breaker.generation = t.breaker.generation ∨
      (t.perform move).breaker.generation = t.breaker.generation + 1 := by
  cases move with
  | look reading => exact look_generation t reading
  | ask operation reading => exact ask_generation t operation reading
  | finish number ending reading =>
    obtain ⟨now, wall⟩ := reading
    cases found : t.call? number with
    | none => exact .inl (by simp only [perform, found])
    | some call =>
      have present := notAhead number ending _ call rfl found
      simp only [perform, found, Breaker.conclude_state]
      cases now with
      | none => exact .inl rfl
      | some now => exact t.complete_generation present ending.success now wall

/-- While there is a number left for one more generation, no move is ahead. -/
theorem Booked.notAhead (booked : Booked t) (room : t.era + 1 < UInt64.size) (move : Move) :
    t.NotAhead move := by
  intro number ending reading call _ found ahead
  have member := booked.underway (mem_of_call? found)
  have older := booked.era call member
  rw [booked.ticket call member, booked.generation] at ahead
  have next : UInt64.ofNat (t.era + 1) = UInt64.ofNat t.era + 1 := UInt64.ofNat_add _ _
  have same := ofNat_inj_below (by omega) room (ahead.trans next.symm)
  omega

/-- While there is a number left for one more generation, a move is a shift. -/
theorem Booked.shift (booked : Booked t) (room : t.era + 1 < UInt64.size) (move : Move) :
    Shift t move (t.perform move) := by
  refine perform_shift booked move ?_
  obtain same | next := (booked.notAhead room move).generation
  · rw [perform_era, same]
    simp
    omega
  · have one : t.breaker.generation + 1 - t.breaker.generation = 1 := by grind
    rw [perform_era, next, one]
    exact room

/-- A turn shows, and nothing else does. -/
theorem Turns.era (turns : Turns t move (t.perform move)) :
    (t.perform move).era = t.era + (t.isTurn move).toNat := by
  have one : (t.breaker.generation + 1 - t.breaker.generation).toNat = 1 := by
    rw [show t.breaker.generation + 1 - t.breaker.generation = 1 by grind]
    rfl
  rw [perform_era, isTurn]
  cases turns with
  | stayed stayed => simp [stayed.generation, stayed.mode, stayed.deadline]
  | turned turn occasion took =>
    rw [took.generation, one, decide_eq_true took.shows]
    rfl
  | admitting turn occasion took admitted counted =>
    rw [counted, took.generation, one, decide_eq_true took.shows]
    rfl

/-- A script that makes few turns leads to lawful traffic, in which as many generations
have ended. -/
theorem Lawful.run_turns (lawful : Lawful policy t)
    (few : t.era + t.turnCount script + 1 < UInt64.size) :
    Lawful policy (t.run script) ∧ (t.run script).era = t.era + t.turnCount script := by
  induction script generalizing t with
  | nil => exact ⟨lawful, rfl⟩
  | cons move rest ih =>
    simp only [turnCount] at few ⊢
    have shift := lawful.booked.shift (by omega) move
    have era := (shift.turns lawful).era
    obtain ⟨later, count⟩ := ih (shift.lawful lawful) (by omega)
    refine ⟨later, ?_⟩
    rw [show t.run (move :: rest) = (t.perform move).run rest from rfl, count, era, Nat.add_assoc]

/-- The end of a call does no more than a look, unless it counts: then the call is of the
present generation, and its deadline has not come. -/
theorem Shift.finish_counts_or_looks (shift : Shift t (.finish number ending reading) next)
    (found : t.call? number = some call) :
    next.breaker = (t.perform (.look reading)).breaker ∨
      call.era = t.era ∧ ∃ now, reading.now = some now ∧ t.breaker.due now = false := by
  obtain ⟨now, wall⟩ := reading
  cases shift with
  | deaf unseen =>
    cases unseen
    exact .inl rfl
  | missing unknown => cases unknown.symm.trans found
  | lost unseen known =>
    cases unseen
    exact .inl rfl
  | stale elapsed known older =>
    simp only [perform, Breaker.read_state, onto_breaker, land_breaker]
    exact .inl elapsed.eq_refresh
  | counted early known current noted =>
    cases known.symm.trans found
    exact .inr ⟨current, _, rfl, early⟩

/-- Where the timer makes a turn, the end of a call does no more than a look. -/
theorem Shift.finish_only_looks (shift : Shift t (.finish number ending reading) next)
    (known : (t.call? number).isSome)
    (due : (t.perform (.look reading)).breaker.generation ≠ t.breaker.generation) :
    next.breaker = (t.perform (.look reading)).breaker := by
  obtain ⟨call, found⟩ := Option.isSome_iff_exists.mp known
  obtain looks | ⟨_, now, shown, early⟩ := shift.finish_counts_or_looks found
  · exact looks
  · obtain ⟨_, wall⟩ := reading
    cases shown
    simp only [perform, Breaker.read_state, Breaker.refresh_early early] at due
    exact absurd rfl due

/-- Whatever moves are made, each of them makes one turn at most, for which there is
occasion, and the number of the generation is the number of turns. The end of a call that
comes with a turn of the timer makes no turn of its own. -/
theorem turns_come_one_at_a_time (created : Breaker.create name policy reading = .ok b)
    (script : List Move) (few : (fresh b).turnCount script + 1 < UInt64.size) :
    (∀ move, Turns ((fresh b).run script) move (((fresh b).run script).perform move)) ∧
      (∀ number ending reading, (((fresh b).run script).call? number).isSome →
        (((fresh b).run script).perform (.look reading)).breaker.generation ≠
          ((fresh b).run script).breaker.generation →
        (((fresh b).run script).perform (.finish number ending reading)).breaker =
          (((fresh b).run script).perform (.look reading)).breaker) ∧
      ((fresh b).run script).breaker.generation.toNat = (fresh b).turnCount script := by
  have first : Lawful policy (fresh b) := .fresh created
  have start : (fresh b).era = 0 := rfl
  have room : (fresh b).era + (fresh b).turnCount script + 1 < UInt64.size := by omega
  obtain ⟨lawful, era⟩ := first.run_turns room
  rw [start, Nat.zero_add] at era
  have shift := lawful.booked.shift (by omega)
  refine ⟨fun move => (shift move).turns lawful, ?_, ?_⟩
  · intro number ending reading known due
    exact (shift _).finish_only_looks known due
  · rw [lawful.booked.generation, era, UInt64.toNat_ofNat_of_lt' (by omega)]

/-- The clock goes back before a probe is dropped. When the second outage is over, the end of
a call that was admitted before the first one lets the breaker probe, and does no more. -/
theorem turns_come_one_at_a_time_at_end_of_outage :
    let script : List Move := [
      .ask "first" (.past 0),
      .ask "slow" (.past 0),
      .finish 0 .failed (.past 0),
      .ask "probe" (.past 10),
      .finish 2 .dropped (.past 3)]
    let t := (fresh .touchy).run script
    (fresh .touchy).turnCount script + 1 < UInt64.size ∧
      (t.call? 1).isSome ∧
      (t.perform (.look (.past 13))).breaker.generation ≠ t.breaker.generation ∧
      (t.perform (.finish 1 .failed (.past 13))).breaker =
        (t.perform (.look (.past 13))).breaker ∧
      (∀ move, Turns t move (t.perform move)) ∧
      t.breaker.generation.toNat = 3 ∧
      (fresh .touchy).turnCount script = 3 := by
  intro script t
  have few : (fresh .touchy).turnCount script + 1 < UInt64.size := by decide
  obtain ⟨turns, looks, count⟩ := turns_come_one_at_a_time Breaker.touchy_created script few
  exact ⟨few, by decide, by decide, looks 1 .failed (.past 13) (by decide) (by decide), turns,
    by decide, by decide⟩

end Traffic
end Fusebox
