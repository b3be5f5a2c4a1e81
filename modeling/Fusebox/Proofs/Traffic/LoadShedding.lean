import Fusebox.Proofs.Traffic.Probes
import Mathlib.Data.List.Infix

/-! An outage. A breaker that has opened lets time pass before it probes; as long as
no probe ends well it opens again, and again the whole open timeout has to pass. An
open generation and the half-open one after it are a round. The rounds are paced by
the clock, and each of them admits a limited number of calls. -/
namespace Fusebox.Traffic

/-- What the monotonic clock showed to these moves, where it showed anything. -/
def readings (moves : List Move) : List Instant := moves.filterMap (·.reading.now)

/-- The calls admitted after an earlier state of the same traffic. -/
def admittedSince (earlier t : Traffic) : List Call := t.admitted.drop earlier.admitted.length

/-- None of the calls admitted since has ended well. -/
def Fruitless (earlier t : Traffic) : Prop :=
  ∀ call ∈ admittedSince earlier t, (call, .succeeded) ∉ t.ended

instance (earlier t : Traffic) : Decidable (Fruitless earlier t) :=
  inferInstanceAs (Decidable (∀ call ∈ admittedSince earlier t, (call, .succeeded) ∉ t.ended))

/-- A move opens the breaker at a reading of the clock. From there on the clock does not
go back, and no call that is admitted ends well. -/
structure Outage (t : Traffic) (trip : Move) (after : List Move) (start : Instant) : Prop where
  shown : trip.reading.now = some start
  shut : t.breaker.mode ≠ .opened
  opened : (t.perform trip).breaker.mode = .opened
  steady : (readings (trip :: after)).Pairwise (· ≤ ·)
  fruitless : Fruitless (t.perform trip) ((t.perform trip).run after)

/-- Where an outage stands: in a round that waits for its deadline, or in one that
probes. No deadline comes before the open timeout has passed once more, counted from
the start of the outage and not from the latest failure. -/
inductive Phase (wait : Nat) (start : Instant) (origin : Nat) (latest : Instant) (t : Traffic) :
    Prop where
  | waiting (round : Nat) (mode : t.breaker.mode = .opened) (era : t.era = origin + 2 * round)
      (far : ∀ deadline, t.breaker.deadline = some deadline →
        start.nanos + ((round + 1) * wait : Nat) ≤ deadline.nanos)
  | probing (round : Nat) (mode : t.breaker.mode = .halfOpen)
      (era : t.era = origin + 2 * round + 1)
      (late : start.nanos + ((round + 1) * wait : Nat) ≤ latest.nanos)

/-- A call that was admitted as a probe of some round, and not before its time. -/
def Timely (wait : Nat) (start : Instant) (origin : Nat) (call : Call) : Prop :=
  ∃ round, call.era = origin + 2 * round + 1 ∧ call.mode = .halfOpen ∧
    start.nanos + ((round + 1) * wait : Nat) ≤ call.admittedAt.nanos

/-- The pace an outage keeps. -/
structure Paced (wait : Nat) (start : Instant) (origin : Traffic) (latest : Instant)
    (t : Traffic) : Prop where
  grows : Grows origin t
  phase : Phase wait start origin.era latest t
  calls : ∀ call ∈ admittedSince origin t, Timely wait start origin.era call

variable {t next : Traffic} {wait : Nat} {start latest now : Instant} {wall : Option Instant}
  {origin : Traffic}

theorem readings_append (first second : List Move) :
    readings (first ++ second) = readings first ++ readings second :=
  List.filterMap_append

theorem readings_cons_shown (shown : move.reading.now = some now) (script : List Move) :
    readings (move :: script) = now :: readings script := by
  simp [readings, shown]

theorem readings_cons_unseen (unseen : move.reading.now = none) (script : List Move) :
    readings (move :: script) = readings script := by
  simp [readings, unseen]

/-- What every move keeps at its own reading, and what stays right as time passes, holds after
a script during which the clock does not go back. It may depend on the moves still to come. -/
theorem Lawful.run_steadily (holds : List Move → Instant → Traffic → Prop)
    (lawful : Lawful policy t) (first : holds script latest t)
    (eras : (t.run script).era < UInt64.size)
    (steady : (latest :: readings script).Pairwise (· ≤ ·))
    (later : ∀ {rest latest now t}, holds rest latest t → latest ≤ now → holds rest now t)
    (step : ∀ {move rest latest before}, holds (move :: rest) latest before →
      Lawful policy before → Shift before move (before.perform move) → move ∈ script →
      Grows (before.perform move) (t.run script) →
      (∀ now, move.reading.now = some now → now = latest) →
      holds rest latest (before.perform move)) :
    ∃ last ∈ latest :: readings script, holds [] last (t.run script) := by
  induction script generalizing t latest with
  | nil => exact ⟨latest, List.mem_cons_self, first⟩
  | cons move script ih =>
    have shift := run_shift lawful eras
    have grows := run_grows (t.perform move) script
    have rest : ∀ {move' rest latest before}, holds (move' :: rest) latest before →
        Lawful policy before → Shift before move' (before.perform move') → move' ∈ script →
        Grows (before.perform move') ((t.perform move).run script) →
        (∀ now, move'.reading.now = some now → now = latest) →
        holds rest latest (before.perform move') :=
      fun holds lawful shift member => step holds lawful shift (List.mem_cons_of_mem _ member)
    cases shown : move.reading.now with
    | none =>
      rw [readings_cons_unseen shown] at steady ⊢
      have onward := step first lawful shift List.mem_cons_self grows (by simp [shown])
      exact ih (shift.lawful lawful) onward eras steady rest
    | some now =>
      rw [readings_cons_shown shown] at steady ⊢
      obtain ⟨passed, steady⟩ := List.pairwise_cons.mp steady
      have moved := later first (passed now List.mem_cons_self)
      have onward := step moved lawful shift List.mem_cons_self grows (by simp [shown])
      obtain ⟨last, member, holds⟩ := ih (shift.lawful lawful) onward eras steady rest
      exact ⟨last, List.mem_cons_of_mem _ member, holds⟩

theorem Grows.since (grows : Grows origin t) :
    t.admitted = origin.admitted ++ admittedSince origin t := by
  obtain ⟨rest, shape⟩ := grows.admitted
  rw [admittedSince, ← shape, List.drop_left]

theorem Fruitless.earlier (fruitless : Fruitless origin next) (grows : Grows t next) :
    Fruitless origin t := by
  intro call member well
  exact fruitless call ((grows.admitted.drop _).subset member) (grows.ended.subset well)

theorem Phase.mode_ne_closed {origin : Nat} (phase : Phase wait start origin latest t) :
    t.breaker.mode ≠ .closed := by
  cases phase with
  | waiting _ mode _ _ => simp [mode]
  | probing _ mode _ _ => simp [mode]

theorem Phase.later {origin : Nat} (phase : Phase wait start origin latest t)
    (later : latest ≤ now) : Phase wait start origin now t := by
  cases phase with
  | waiting round mode era far => exact .waiting round mode era far
  | probing round mode era late => exact .probing round mode era (Int.le_trans late later)

theorem Phase.congr {origin : Nat} (phase : Phase wait start origin latest t)
    (mode : next.breaker.mode = t.breaker.mode)
    (deadline : next.breaker.deadline = t.breaker.deadline) (era : next.era = t.era) :
    Phase wait start origin latest next := by
  cases phase with
  | waiting round opened number far =>
    exact .waiting round (mode.trans opened) (era.trans number) (by rwa [deadline])
  | probing round half number late =>
    exact .probing round (mode.trans half) (era.trans number) late

theorem Paced.later (paced : Paced wait start origin latest t) (later : latest ≤ now) :
    Paced wait start origin now t :=
  ⟨paced.grows, paced.phase.later later, paced.calls⟩

/-- The timer lets a round probe, and not too early. -/
theorem Phase.elapsed {next : Breaker} {origin : Nat} (phase : Phase wait start origin now t)
    (elapsed : Breaker.Elapsed t.breaker now wall next) :
    Phase wait start origin now (t.onto next) := by
  cases elapsed with
  | early early => rwa [onto_same]
  | renewed due mode => exact absurd mode phase.mode_ne_closed
  | probing due mode =>
    cases phase with
    | probing _ half _ _ => cases mode.symm.trans half
    | waiting round _ era far =>
      refine .probing round rfl ?_ ?_
      · rw [onto_era_next rfl, era]
      · simp only [Breaker.due, mode] at due
        split at due
        · cases due
        · cases due
        · rename_i deadline found _
          exact Int.le_trans (far deadline found) (of_decide_eq_true due)

/-- The end of a call keeps the pace if it is not the success of a probe. -/
theorem Phase.counted {next : Breaker} {origin : Nat} {success : Bool}
    (phase : Phase t.breaker.policy.openTimeout.nanos start origin now t)
    (noted : Breaker.Noted t.breaker now wall success next)
    (fails : t.breaker.mode = .halfOpen → success = false) :
    Phase t.breaker.policy.openTimeout.nanos start origin now (t.onto next) := by
  cases noted with
  | success mode => exact absurd mode phase.mode_ne_closed
  | probe mode few => cases fails mode
  | close mode enough => cases fails mode
  | failure mode calm => exact absurd mode phase.mode_ne_closed
  | trip mode ready => exact absurd mode phase.mode_ne_closed
  | ignored mode => rwa [onto_same]
  | reopen mode =>
    cases phase with
    | waiting _ opened _ _ => cases mode.symm.trans opened
    | probing round _ era late =>
      refine .waiting (round + 1) rfl ?_ ?_
      · rw [onto_era_next rfl, era]
        omega
      · intro deadline found
        have sum : deadline.nanos = now.nanos + t.breaker.policy.openTimeout.nanos :=
          Instant.ofNanos?_eq_some_iff.mp found
        rw [Nat.succ_mul]
        omega

/-- While no call of the outage ends well, none can be the success that closes. -/
theorem Paced.fails {next : Breaker} (paced : Paced wait start origin latest t)
    (booked : Booked origin) (lawful : Lawful policy t) (member : call ∈ t.underway)
    (current : call.era = t.era)
    (fruitless : Fruitless origin ((t.onto next).land call ending)) :
    t.breaker.mode = .halfOpen → ending.success = false := by
  intro half
  have newer : origin.era < call.era := by
    rw [current]
    cases paced.phase with
    | waiting _ opened _ _ => cases half.symm.trans opened
    | probing round _ era _ => omega
  have since : call ∈ admittedSince origin t := by
    have known := lawful.booked.underway member
    rw [paced.grows.since] at known
    refine (List.mem_append.mp known).resolve_left ?_
    intro old
    exact absurd (booked.era call old) (Nat.not_le.mpr newer)
  have other : ending ≠ .succeeded := by
    rintro rfl
    exact fruitless call since (List.mem_append_right _ List.mem_cons_self)
  cases ending with
  | succeeded => exact absurd rfl other
  | failed => rfl
  | crashed => rfl
  | dropped => rfl

/-- The calls since the outage began are the same after a move that admits none. -/
theorem Paced.onward (paced : Paced wait start origin latest t) (grows : Grows t next)
    (phase : Phase wait start origin.era latest next) (same : next.admitted = t.admitted) :
    Paced wait start origin latest next := by
  refine ⟨paced.grows.trans grows, phase, ?_⟩
  intro call member
  rw [admittedSince, same] at member
  exact paced.calls call member

/-- An admission belongs to a round that probes. -/
theorem Paced.accept (paced : Paced wait start origin now t) (free : t.breaker.rejection? = none) :
    Paced wait start origin now (t.accept now) := by
  refine ⟨paced.grows.trans (grows_accept t now), paced.phase.congr rfl rfl rfl, ?_⟩
  intro call member
  rw [admittedSince, Traffic.accept, board,
    List.drop_append_of_le_length paced.grows.admitted.length_le] at member
  rcases List.mem_append.mp member with old | new
  · exact paced.calls call old
  · cases List.mem_singleton.mp new
    cases paced.phase with
    | waiting _ opened _ _ => simp [Breaker.rejection?, opened] at free
    | probing round mode era late => exact ⟨round, era, mode, late⟩

/-- No move breaks the pace. -/
theorem Paced.step (paced : Paced policy.normalized.openTimeout.nanos start origin latest t)
    (booked : Booked origin) (lawful : Lawful policy t) (shift : Shift t move next)
    (shown : ∀ now, move.reading.now = some now → now = latest)
    (fruitless : Fruitless origin next) :
    Paced policy.normalized.openTimeout.nanos start origin latest next := by
  cases shift with
  | deaf unseen => exact paced
  | missing unknown => exact paced
  | lost unseen found => exact paced.onward (grows_lose _ _) (paced.phase.congr rfl rfl rfl) rfl
  | looked elapsed =>
    cases shown _ rfl
    exact paced.onward (grows_onto _ _) (paced.phase.elapsed elapsed) rfl
  | crashed elapsed probing =>
    cases shown _ rfl
    exact paced.onward (grows_onto _ _) (paced.phase.elapsed elapsed) rfl
  | refused elapsed refused =>
    cases shown _ rfl
    exact paced.onward (grows_onto _ _) (paced.phase.elapsed elapsed) rfl
  | admitted elapsed free =>
    cases shown _ rfl
    exact (paced.onward (grows_onto _ _) (paced.phase.elapsed elapsed) rfl).accept free
  | stale elapsed found older =>
    cases shown _ rfl
    have phase := paced.phase.elapsed elapsed
    exact paced.onward (grows_land t _ _ _) (phase.congr rfl rfl rfl) rfl
  | counted early found current noted =>
    cases shown _ rfl
    have fails := paced.fails booked lawful (mem_of_call? found) current fruitless
    rw [← lawful.keeps_policy] at paced ⊢
    have phase := paced.phase.counted noted fails
    exact paced.onward (grows_land t _ _ _) (phase.congr rfl rfl rfl) rfl

/-- The pace holds as long as the clock does not go back. -/
theorem Paced.run (paced : Paced policy.normalized.openTimeout.nanos start origin latest t)
    (booked : Booked origin) (lawful : Lawful policy t)
    (eras : (t.run script).era < UInt64.size)
    (steady : (latest :: readings script).Pairwise (· ≤ ·))
    (fruitless : Fruitless origin (t.run script)) :
    ∃ latest, Paced policy.normalized.openTimeout.nanos start origin latest (t.run script) := by
  obtain ⟨last, _, paced⟩ := lawful.run_steadily
    (fun _ => Paced policy.normalized.openTimeout.nanos start origin) paced eras steady Paced.later
    fun paced lawful shift _ grows shown =>
      paced.step booked lawful shift shown (fruitless.earlier grows)
  exact ⟨last, paced⟩

/-- A move that opens a breaker sets the deadline of the first round. -/
theorem Shift.opens (shift : Shift t move next) (shut : t.breaker.mode ≠ .opened)
    (opened : next.breaker.mode = .opened) (shown : move.reading.now = some now) :
    next.breaker.deadline = now.add? t.breaker.policy.openTimeout := by
  cases shift with
  | deaf unseen => exact absurd opened shut
  | missing unknown => exact absurd opened shut
  | lost unseen found => exact absurd opened shut
  | looked elapsed => exact absurd opened (elapsed.shut shut)
  | crashed elapsed probing => exact absurd opened (elapsed.shut shut)
  | refused elapsed refused => exact absurd opened (elapsed.shut shut)
  | admitted elapsed free => exact absurd opened (elapsed.shut shut)
  | stale elapsed found older => exact absurd opened (elapsed.shut shut)
  | counted early found current noted =>
    cases shown
    generalize Ending.success _ = success at noted
    cases noted with
    | trip mode ready => rfl
    | reopen mode => rfl
    | close mode enough => cases opened
    | success _ => exact absurd opened shut
    | probe _ _ => exact absurd opened shut
    | failure _ _ => exact absurd opened shut
    | ignored _ => exact absurd opened shut

/-- The outage begins with a round that waits. -/
theorem Shift.paced (shift : Shift t move next) (lawful : Lawful policy t)
    (shut : t.breaker.mode ≠ .opened) (opened : next.breaker.mode = .opened)
    (shown : move.reading.now = some start) :
    Paced policy.normalized.openTimeout.nanos start next start next := by
  refine ⟨.refl next, .waiting 0 opened rfl ?_, ?_⟩
  · intro deadline found
    rw [shift.opens shut opened shown, lawful.keeps_policy] at found
    have sum := Instant.ofNanos?_eq_some_iff.mp found
    omega
  · simp [admittedSince]

/-- What is covered by a number of kinds, each of them rare, is rare. -/
theorem countP_le_of_cover (kind : Nat → α → Bool) {covered : α → Bool} (number most : Nat)
    (items : List α) (rare : ∀ index < number, items.countP (kind index) ≤ most)
    (cover : ∀ item ∈ items, covered item → ∃ index < number, kind index item) :
    items.countP covered ≤ most * number := by
  -- The items of the last kind are set apart; fewer kinds cover the others.
  induction number generalizing items with
  | zero =>
    refine Nat.le_of_eq (List.countP_eq_zero.mpr ?_)
    intro item member holds
    obtain ⟨_, below, _⟩ := cover item member holds
    omega
  | succ number ih =>
    have last := rare number (Nat.lt_succ_self _)
    have others := ih (items.filter (!kind number ·)) ?_ ?_
    · have split := items.countP_eq_countP_filter_add covered (kind number)
      have within := List.countP_le_length (p := covered) (l := items.filter (kind number))
      rw [← List.countP_eq_length_filter] at within
      rw [Nat.mul_succ]
      omega
    · intro index below
      have fewer :
          (items.filter (!kind number ·)).countP (kind index) ≤ items.countP (kind index) :=
        List.filter_sublist.countP_le
      exact Nat.le_trans fewer (rare index (by omega))
    · intro item member holds
      obtain ⟨known, new⟩ := List.mem_filter.mp member
      obtain ⟨index, below, found⟩ := cover item known holds
      refine ⟨index, Nat.lt_of_le_of_ne (Nat.le_of_lt_succ below) ?_, found⟩
      rintro rfl
      simp [found] at new

/-- A round admits no more probes than the policy allows, and by any time no more rounds
have probed than the open timeout has passed. -/
theorem Paced.few (paced : Paced policy.normalized.openTimeout.nanos start origin latest t)
    (lawful : Lawful policy t) (span : Nat) :
    (admittedSince origin t).countP (·.admittedAt.nanos ≤ start.nanos + span) ≤
      policy.normalized.maxProbes.toNat * (span / policy.normalized.openTimeout.nanos) := by
  have positive := policy.normalized_openTimeout_pos
  let probe (round : Nat) (call : Call) : Bool :=
    call.era == origin.era + 2 * round + 1 && call.mode == .halfOpen
  refine countP_le_of_cover probe _ _ _ ?_ ?_
  · intro round _
    have among : (admittedSince origin t).countP (probe round) ≤ t.admitted.countP (probe round) :=
      (List.drop_sublist _ _).countP_le
    refine Nat.le_trans among ?_
    rw [List.countP_eq_length_filter]
    exact lawful.probes_le _
  · intro call member soon
    obtain ⟨round, era, mode, late⟩ := paced.calls call member
    have soon := of_decide_eq_true soon
    have fits : (round + 1) * policy.normalized.openTimeout.nanos ≤ span := by omega
    exact ⟨round, (Nat.le_div_iff_mul_le positive).mpr fits, by simp [probe, era, mode]⟩

/-- What comes through in an outage: a full set of probes for every open timeout that
has passed since it began. -/
structure Shed (policy : Policy) (start : Instant) (calls : List Call) : Prop where
  few : ∀ span : Nat, calls.countP (·.admittedAt.nanos ≤ start.nanos + span) ≤
    policy.maxProbes.toNat * (span / policy.openTimeout.nanos)
  /-- Nothing at all if the clock cannot reach the end of the first open timeout. -/
  never : start.add? policy.openTimeout = none → calls = []

theorem Paced.shed (paced : Paced policy.normalized.openTimeout.nanos start origin latest t)
    (lawful : Lawful policy t) : Shed policy.normalized start (admittedSince origin t) := by
  refine ⟨paced.few lawful, ?_⟩
  intro unreachable
  apply List.eq_nil_iff_forall_not_mem.mpr
  intro call member
  obtain ⟨round, _, _, late⟩ := paced.calls call member
  rw [Nat.succ_mul] at late
  simp only [Instant.add?, Instant.ofNanos?] at unreachable
  have range := call.admittedAt.in_range
  have range_ := start.in_range
  split at unreachable
  · cases unreachable
  · rename_i outside
    omega

/-- However many calls ask and whatever calls from before the outage do: while no call
that is let through ends well the breaker is never closed, and it lets through no more
than its probes. -/
theorem outage_sheds_load (created : Breaker.create name policy reading = .ok b)
    (before after : List Move) (outage : Outage ((fresh b).run before) trip after start)
    (eras : (((fresh b).run before).run (trip :: after)).era < UInt64.size) :
    0 < policy.normalized.maxProbes.toNat ∧ 0 < policy.normalized.openTimeout.nanos ∧
      Shed policy.normalized start
        (admittedSince (((fresh b).run before).perform trip)
          (((fresh b).run before).run (trip :: after))) ∧
      ∀ part, part <+: after →
        (((fresh b).run before).run (trip :: part)).breaker.mode ≠ .closed := by
  have lawful := run_lawful (.fresh created) (Nat.lt_of_le_of_lt (run_grows _ _).era eras)
  generalize (fresh b).run before = t at outage eras lawful ⊢
  have opening := run_shift lawful eras
  have begun := opening.lawful lawful
  have first := opening.paced lawful outage.shut outage.opened outage.shown
  have steady : (start :: readings after).Pairwise (· ≤ ·) := by
    have whole := outage.steady
    rwa [show readings (trip :: after) = start :: readings after by
      simp [readings, outage.shown]] at whole
  -- Every part of the outage satisfies what is assumed of the whole.
  have along : ∀ part, part <+: after → Lawful policy (t.run (trip :: part)) ∧
      ∃ latest, Paced policy.normalized.openTimeout.nanos start (t.perform trip) latest
        (t.run (trip :: part)) := by
    rintro part ⟨rest, rfl⟩
    have grows := run_grows ((t.perform trip).run part) rest
    rw [← run_append] at grows
    have partEras := Nat.lt_of_le_of_lt grows.era eras
    have shorter : (start :: readings part).Sublist (start :: readings (part ++ rest)) :=
      ((List.prefix_append part rest).sublist.filterMap _).cons_cons _
    have onward : Lawful policy ((t.perform trip).run part) := run_lawful begun partEras
    refine ⟨onward, ?_⟩
    exact first.run begun.booked begun partEras (steady.sublist shorter)
      (outage.fruitless.earlier grows)
  refine ⟨policy.normalized_maxProbes_pos, policy.normalized_openTimeout_pos, ?_, ?_⟩
  · obtain ⟨lawful, latest, paced⟩ := along after List.prefix_rfl
    exact paced.shed lawful
  · intro part within
    obtain ⟨_, latest, paced⟩ := along part within
    exact paced.phase.mode_ne_closed

/-- A failure opens the breaker. Two probes follow, each as soon as it may: one is
dropped, the other is still under way. -/
theorem outage_sheds_load_of_two_probes :
    let before : List Move := [.ask "first" (.past 0)]
    let trip : Move := .finish 0 .failed (.past 0)
    let after : List Move := [
      .ask "early" (.past 9),
      .ask "probe" (.past 10),
      .finish 1 .dropped (.past 12),
      .ask "early again" (.past 21),
      .ask "probe again" (.past 22)]
    Outage ((fresh .touchy).run before) trip after .reference ∧
      (((fresh .touchy).run before).run (trip :: after)).era < UInt64.size ∧
      (admittedSince (((fresh .touchy).run before).perform trip)
        (((fresh .touchy).run before).run (trip :: after))).length = 2 ∧
      Shed Policy.touchy.normalized .reference
        (admittedSince (((fresh .touchy).run before).perform trip)
          (((fresh .touchy).run before).run (trip :: after))) ∧
      ∀ part, part <+: after →
        (((fresh .touchy).run before).run (trip :: part)).breaker.mode ≠ .closed := by
  intro before trip after
  have outage : Outage ((fresh .touchy).run before) trip after .reference :=
    ⟨rfl, by decide, by decide, by decide, by decide⟩
  have eras : (((fresh .touchy).run before).run (trip :: after)).era < UInt64.size := by decide
  exact ⟨outage, eras, by decide,
    (outage_sheds_load Breaker.touchy_created before after outage eras).2.2⟩

end Fusebox.Traffic
