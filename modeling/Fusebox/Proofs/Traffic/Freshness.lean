import Fusebox.Proofs.Traffic.Lockout
import Fusebox.Proofs.Traffic.Turns

/-! The window of a closed generation. The timer acts only when somebody comes by, so a
closed generation can last much longer than the reset interval. But before anything counts the
deadline is looked at, and so whatever a closed breaker goes by has happened within the reset
interval. -/
namespace Fusebox.Traffic

/-- When the generation began that a move leaves behind: at the reading of the move, if it
has ended the one before. -/
def beganBy (first : Instant) (t next : Traffic) (now : Option Instant) : Instant :=
  if next.era = t.era then first else now.getD first

/-- When the generation began that a script leaves behind. -/
def began (first : Instant) (t : Traffic) : List Move → Instant
  | [] => first
  | move :: rest =>
    let next := t.perform move
    next.began (beganBy first t next move.reading.now) rest

/-- The present generation began at a reading of the clock: its deadline was set from there,
and its calls were admitted since. -/
structure Dated (first latest : Instant) (t : Traffic) : Prop where
  deadline : t.breaker.deadline = t.breaker.policy.deadline t.breaker.mode first
  begun : first ≤ latest
  past : ∀ call ∈ t.admitted, call.admittedAt ≤ latest
  present : ∀ call ∈ t.admitted, call.era = t.era → first ≤ call.admittedAt

/-- All that the present generation goes by is less than an interval old: the calls that
it counts, and the ends of those that have ended. -/
structure Recent (interval : Duration) (origin : Traffic) (script : List Move) (now : Instant) :
    Prop where
  requests : (origin.run script).breaker.tally.requests.toNat =
    min (origin.run script).admittedNow.length Tally.full
  admitted : ∀ call ∈ (origin.run script).admittedNow,
    now.nanos - interval.nanos < call.admittedAt.nanos
  ended : ∀ earlier number ending reading later call past,
    script = earlier ++ .finish number ending reading :: later →
    (origin.run earlier).call? number = some call → call.era = (origin.run script).era →
    reading.now = some past → now.nanos - interval.nanos < past.nanos

/-- What a move can do to a closed breaker. -/
structure Fresh (interval : Duration) (start : Instant) (origin : Traffic) (script : List Move)
    (move : Move) (now : Instant) : Prop where
  /-- The end of a call that does more than a look goes by recent things only. -/
  counted : ∀ number ending reading call, move = .finish number ending reading →
    (origin.run script).call? number = some call →
    ((origin.run script).perform move).breaker ≠
      ((origin.run script).perform (.look reading)).breaker →
    call ∈ (origin.run script).admittedNow ∧ Recent interval origin script now
  /-- A call that takes as long as the interval, or longer, does no more than a look. -/
  slow : ∀ number ending reading call, move = .finish number ending reading →
    (origin.run script).call? number = some call →
    call.admittedAt.nanos + interval.nanos ≤ now.nanos →
    ((origin.run script).perform move).breaker =
      ((origin.run script).perform (.look reading)).breaker
  /-- The breaker opens by the failure of a recent call, for recent reasons. -/
  trips : ((origin.run script).perform move).breaker.mode = .opened →
    (origin.run script).Ends move false ∧ Recent interval origin script now
  /-- A closed generation that another one follows has lasted the interval. -/
  renews : ((origin.run script).perform move).breaker.mode = .closed →
    ((origin.run script).perform move).era ≠ (origin.run script).era →
    (origin.began start script).nanos + interval.nanos ≤ now.nanos

variable {t next : Traffic} {move : Move} {first start latest now : Instant}
  {wall : Option Instant} {policy : Policy}

theorem lose_era : (t.lose call).era = t.era := rfl

theorem beganBy_same {now : Option Instant} (same : next.era = t.era) :
    beganBy first t next now = first :=
  if_pos same

theorem Dated.fresh (created : Breaker.create name policy ⟨some start, wall⟩ = .ok b) :
    Dated start start (fresh b) := by
  cases wall with
  | none => cases created
  | some wall =>
    cases created
    exact ⟨rfl, Int.le_refl _, by simp [Traffic.fresh], by simp [Traffic.fresh]⟩

theorem Dated.later (dated : Dated first latest t) (later : latest ≤ now) :
    Dated first now t :=
  ⟨dated.deadline, Int.le_trans dated.begun later,
    fun call member => Int.le_trans (dated.past call member) later, dated.present⟩

/-- An end that does not count, or is not heard of, changes no date. -/
theorem Dated.congr (dated : Dated first latest t) (breaker : next.breaker = t.breaker)
    (era : next.era = t.era) (admitted : next.admitted = t.admitted) :
    Dated first latest next := by
  refine ⟨?_, dated.begun, ?_, ?_⟩
  · rw [breaker]
    exact dated.deadline
  · rw [admitted]
    exact dated.past
  · rw [admitted, era]
    exact dated.present

/-- A generation begins at the present reading. -/
theorem Dated.begin {after : Breaker} (dated : Dated first now t) (booked : Booked t)
    (generation : after.generation = t.breaker.generation + 1)
    (deadline : after.deadline = after.policy.deadline after.mode now) :
    Dated (beganBy first t (t.onto after) (some now)) now (t.onto after) := by
  have era := onto_era_next generation
  rw [beganBy, if_neg (by omega)]
  refine ⟨deadline, Int.le_refl _, dated.past, ?_⟩
  intro call member current
  have older := booked.era call member
  omega

/-- The present generation goes on. -/
theorem Dated.keep {after : Breaker} (dated : Dated first now t)
    (policy : after.policy = t.breaker.policy) (mode : after.mode = t.breaker.mode)
    (generation : after.generation = t.breaker.generation)
    (deadline : after.deadline = t.breaker.deadline) :
    Dated (beganBy first t (t.onto after) (some now)) now (t.onto after) := by
  have era := onto_era_same generation
  rw [beganBy_same era]
  refine ⟨?_, dated.begun, dated.past, ?_⟩
  · rw [onto_breaker, deadline, policy, mode]
    exact dated.deadline
  · rw [era]
    exact dated.present

theorem Dated.elapsed {after : Breaker} (dated : Dated first now t) (booked : Booked t)
    (elapsed : Breaker.Elapsed t.breaker now wall after) :
    Dated (beganBy first t (t.onto after) (some now)) now (t.onto after) := by
  cases elapsed with
  | early early => exact dated.keep rfl rfl rfl rfl
  | renewed due mode => exact dated.begin booked rfl rfl
  | probing due mode => exact dated.begin booked rfl rfl

theorem Dated.noted {after : Breaker} {success : Bool} (dated : Dated first now t)
    (booked : Booked t) (noted : Breaker.Noted t.breaker now wall success after) :
    Dated (beganBy first t (t.onto after) (some now)) now (t.onto after) := by
  obtain ⟨_, rfl⟩ | ⟨target, rfl⟩ | ⟨_, rfl⟩ := noted.joins_or_begins
  · exact dated.keep rfl rfl rfl rfl
  · exact dated.begin booked rfl rfl
  · exact dated.keep rfl rfl rfl rfl

theorem Dated.accept (dated : Dated first now t) : Dated first now (t.accept now) := by
  refine ⟨dated.deadline, dated.begun, ?_, ?_⟩
  · intro call member
    rcases List.mem_append.mp member with old | new
    · exact dated.past call old
    · cases List.mem_singleton.mp new
      exact Int.le_refl _
  · intro call member current
    rcases List.mem_append.mp member with old | new
    · exact dated.present call old current
    · cases List.mem_singleton.mp new
      exact dated.begun

/-- Every move keeps the dates. -/
theorem Dated.step (dated : Dated first latest t) (booked : Booked t) (shift : Shift t move next)
    (shown : ∀ now, move.reading.now = some now → now = latest) :
    Dated (beganBy first t next move.reading.now) latest next := by
  cases shift with
  | deaf unseen =>
    rw [beganBy_same rfl]
    exact dated
  | missing unknown =>
    rw [beganBy_same rfl]
    exact dated
  | lost unseen found =>
    rw [beganBy_same lose_era]
    exact dated.congr rfl rfl rfl
  | looked elapsed =>
    cases shown _ rfl
    exact dated.elapsed booked elapsed
  | crashed elapsed probing =>
    cases shown _ rfl
    exact dated.elapsed booked elapsed
  | refused elapsed refused =>
    cases shown _ rfl
    exact dated.elapsed booked elapsed
  | admitted elapsed free =>
    cases shown _ rfl
    exact (dated.elapsed booked elapsed).accept
  | stale elapsed found older =>
    cases shown _ rfl
    exact (dated.elapsed booked elapsed).congr rfl rfl rfl
  | counted early found current noted =>
    cases shown _ rfl
    exact (dated.noted booked noted).congr rfl rfl rfl

/-- The dates of a script that is read steadily. -/
theorem Dated.run (dated : Dated start latest t) (lawful : Lawful policy t)
    (eras : (t.run script).era < UInt64.size)
    (steady : (latest :: readings script).Pairwise (· ≤ ·)) :
    ∃ last ∈ latest :: readings script, Dated (t.began start script) last (t.run script) := by
  obtain ⟨last, member, first, dated, same⟩ := lawful.run_steadily
    (fun rest latest now => ∃ first, Dated first latest now ∧
      now.began first rest = t.began start script)
    ⟨start, dated, rfl⟩ eras steady
    (fun ⟨first, dated, same⟩ later => ⟨first, dated.later later, same⟩)
    (fun ⟨first, dated, same⟩ lawful shift _ _ shown =>
      ⟨_, dated.step lawful.booked shift shown, same⟩)
  exact ⟨last, member, same ▸ dated⟩

/-- The deadline of a closed generation is its beginning and the reset interval. -/
theorem Dated.closes (dated : Dated first latest t) (closed : t.breaker.mode = .closed)
    (lasting : 0 < t.breaker.policy.resetInterval.nanos) :
    t.breaker.deadline = first.add? t.breaker.policy.resetInterval := by
  rw [dated.deadline, closed]
  refine if_neg ?_
  simp only [Duration.isZero, beq_iff_eq]
  omega

/-- The reset interval is the one that was asked for. -/
theorem Lawful.keeps_interval (lawful : Lawful policy t) :
    t.breaker.policy.resetInterval = policy.resetInterval := by
  rw [lawful.keeps_policy]
  rfl

/-- What counts while the breaker is closed comes within the reset interval of its generation. -/
theorem Dated.within (dated : Dated first latest t) (closed : t.breaker.mode = .closed)
    (lasting : 0 < t.breaker.policy.resetInterval.nanos) (early : t.breaker.due now = false) :
    now.nanos - t.breaker.policy.resetInterval.nanos < first.nanos := by
  have shut : t.breaker.mode ≠ .halfOpen := by simp [closed]
  have waited := Breaker.due_iff_waited shut (dated.closes closed lasting) now
  rw [early] at waited
  by_contra old
  cases waited.mpr (by omega)

/-- Nothing that a closed breaker goes by before its deadline is older than the interval. -/
theorem Dated.recent (dated : Dated start start t) (lawful : Lawful policy t)
    (eras : (t.run script).era < UInt64.size)
    (steady : (start :: readings script).Pairwise (· ≤ ·))
    (closed : (t.run script).breaker.mode = .closed) (lasting : 0 < policy.resetInterval.nanos)
    (early : (t.run script).breaker.due now = false) :
    Recent policy.resetInterval t script now := by
  have after := run_lawful lawful eras
  obtain ⟨_, _, present⟩ := dated.run lawful eras steady
  have window := present.within closed (after.keeps_interval ▸ lasting) early
  rw [after.keeps_interval] at window
  refine ⟨after.reached.requests, ?_, ?_⟩
  · intro call member
    obtain ⟨known, current⟩ := List.mem_filter.mp member
    have since := present.present call known (of_decide_eq_true current)
    exact Int.lt_of_lt_of_le window since
  · rintro earlier number ending reading later call past rfl found current ended
    rw [run_append] at eras present current
    have grown := run_grows (t.run earlier) (.finish number ending reading :: later)
    have soon := Nat.lt_of_le_of_lt grown.era eras
    have part := steady.sublist ((List.Sublist.filterMap _
      (List.sublist_append_left earlier _)).cons_cons start)
    obtain ⟨_, member, asked⟩ := dated.run lawful soon part
    -- The call was admitted before it ended, and since the generation began.
    have known := (run_lawful lawful soon).booked.underway (mem_of_call? found)
    have before := Int.le_trans (asked.past call known) (steady_le steady ended _ member)
    have since := present.present call (grown.admitted.subset known) current
    exact Int.lt_of_lt_of_le window (Int.le_trans since before)

/-- A closed generation that is overdue has lasted the interval. -/
theorem Dated.lasted (dated : Dated start start t) (lawful : Lawful policy t)
    (eras : (t.run script).era < UInt64.size)
    (steady : (start :: readings script).Pairwise (· ≤ ·))
    (closed : (t.run script).breaker.mode = .closed) (lasting : 0 < policy.resetInterval.nanos)
    (overdue : (t.run script).Overdue move) (shown : move.reading.now = some now) :
    (t.began start script).nanos + policy.resetInterval.nanos ≤ now.nanos := by
  obtain ⟨_, deadline, seen, found, come⟩ := overdue
  cases shown.symm.trans seen
  obtain ⟨_, _, present⟩ := dated.run lawful eras steady
  have interval := (run_lawful lawful eras).keeps_interval
  have set := present.closes closed (interval ▸ lasting)
  rw [found, interval] at set
  rw [← Instant.ofNanos?_eq_some_iff.mp set.symm]
  exact come

/-- A closed breaker opens by a failure. -/
theorem Turns.opens_by_failure (turns : Turns t move next) (closed : t.breaker.mode = .closed)
    (opened : next.breaker.mode = .opened) : t.Ends move false := by
  obtain stayed | ⟨turn, occasion, source, target⟩ := turns.taken
  · cases (opened.symm.trans stayed.mode).trans closed
  · cases turn with
    | tripped => exact occasion
    | renewed => cases opened.symm.trans target
    | probing => cases closed.symm.trans source
    | recovered => cases closed.symm.trans source
    | relapsed => cases closed.symm.trans source

/-- A closed generation follows another one at the deadline. -/
theorem Turns.renews_at_deadline (turns : Turns t move next)
    (closed : t.breaker.mode = .closed) (still : next.breaker.mode = .closed)
    (ended : next.breaker.generation ≠ t.breaker.generation) : t.Overdue move := by
  obtain stayed | ⟨turn, occasion, source, target⟩ := turns.taken
  · exact absurd stayed.generation ended
  · cases turn with
    | renewed => exact occasion
    | tripped => cases still.symm.trans target
    | probing => cases closed.symm.trans source
    | recovered => cases closed.symm.trans source
    | relapsed => cases closed.symm.trans source

/-- A look never opens a breaker. -/
theorem look_never_opens (shut : t.breaker.mode ≠ .opened) :
    (t.perform (.look reading)).breaker.mode ≠ .opened := by
  obtain ⟨now, wall⟩ := reading
  cases now with
  | none => exact shut
  | some now =>
    simp only [perform, Breaker.read_state, onto_breaker]
    exact (Breaker.refresh_elapsed t.breaker now wall).shut shut

/-- While the clock does not go back, a closed breaker goes by nothing that is older than its
reset interval, and no closed generation ends by its deadline sooner. -/
theorem closed_window_is_fresh
    (created : Breaker.create name policy ⟨some start, wall⟩ = .ok b)
    (lasting : 0 < policy.resetInterval.nanos) (script : List Move)
    (closed : ((fresh b).run script).breaker.mode = .closed) (move : Move)
    (shown : move.reading.now = some now)
    (steady : (start :: readings (script ++ [move])).Pairwise (· ≤ ·))
    (eras : ((fresh b).run (script ++ [move])).era < UInt64.size) :
    Fresh policy.resetInterval start (fresh b) script move now := by
  have first : Lawful policy (fresh b) := .fresh created
  obtain ⟨lawful, shift⟩ := first.within eras
  rw [run_append] at shift eras
  have within := Nat.lt_of_le_of_lt (run_grows ((fresh b).run script) [move]).era eras
  rw [readings_append] at steady
  have part := steady.sublist ((List.sublist_append_left (readings script) _).cons_cons start)
  have recent (early : ((fresh b).run script).breaker.due now = false) :
      Recent policy.resetInterval (fresh b) script now :=
    (Dated.fresh created).recent first within part closed lasting early
  have counted : ∀ number ending reading call, move = .finish number ending reading →
      ((fresh b).run script).call? number = some call →
      (((fresh b).run script).perform move).breaker ≠
        (((fresh b).run script).perform (.look reading)).breaker →
      call ∈ ((fresh b).run script).admittedNow ∧
        Recent policy.resetInterval (fresh b) script now := by
    rintro number ending reading call rfl found other
    obtain looks | ⟨current, _, seen, early⟩ := shift.finish_counts_or_looks found
    · exact absurd looks other
    · cases shown.symm.trans seen
      have known := lawful.booked.underway (mem_of_call? found)
      exact ⟨List.mem_filter.mpr ⟨known, decide_eq_true current⟩, recent early⟩
  refine ⟨counted, ?_, ?_, ?_⟩
  · intro number ending reading call same found slow
    by_contra other
    obtain ⟨member, recent⟩ := counted number ending reading call same found other
    have young := recent.admitted call member
    omega
  · intro opened
    have failed := (shift.turns lawful).opens_by_failure closed opened
    refine ⟨failed, ?_⟩
    obtain ⟨number, ending, reading, call, same, found, _, _⟩ := failed
    refine (counted number ending reading call same found ?_).2
    intro looks
    exact look_never_opens (by simp [closed]) (looks ▸ opened)
  · intro still ended
    have number : (((fresh b).run script).perform move).breaker.generation ≠
        ((fresh b).run script).breaker.generation := by
      intro same
      exact ended ((perform_era_eq_iff _ move).mpr same)
    have overdue := (shift.turns lawful).renews_at_deadline closed still number
    exact (Dated.fresh created).lasted first within part closed lasting overdue shown

/-- A look begins the second closed generation, in which one of two calls fails and opens the
breaker. The end of a call from the first generation would do nothing instead, and a little
later there would be a third one. -/
theorem closed_window_is_fresh_in_second_window :
    let script : List Move := [
      .ask "slow" (.past 0),
      .look (.past 12),
      .ask "first" (.past 14),
      .ask "second" (.past 15),
      .finish 1 .succeeded (.past 16)]
    let t := (fresh .forgetful).run script
    let interval := Policy.forgetful.resetInterval
    0 < interval.nanos ∧ t.breaker.mode = .closed ∧
      (Instant.reference :: readings (script ++ [.look (.past 22)])).Pairwise (· ≤ ·) ∧
      ((fresh .forgetful).run (script ++ [.look (.past 22)])).era < UInt64.size ∧
      (t.perform (.finish 2 .dropped (.past 21))).breaker.mode = .opened ∧
      (∃ now : Instant, now.nanos = 21 ∧ Recent interval (fresh .forgetful) script now) ∧
      (t.perform (.finish 0 .failed (.past 21))).breaker =
        (t.perform (.look (.past 21))).breaker ∧
      ((fresh .forgetful).began .reference script).nanos + interval.nanos ≤ 22 := by
  intro script t interval
  have lasting : 0 < interval.nanos := by decide
  have closed : t.breaker.mode = .closed := by decide
  have trip := closed_window_is_fresh Breaker.forgetful_created lasting script closed
    (.finish 2 .dropped (.past 21)) rfl (by decide) (by decide)
  have late := closed_window_is_fresh Breaker.forgetful_created lasting script closed
    (.finish 0 .failed (.past 21)) rfl (by decide) (by decide)
  have look := closed_window_is_fresh Breaker.forgetful_created lasting script closed
    (.look (.past 22)) rfl (by decide) (by decide)
  have only := late.slow 0 .failed (.past 21) ⟨0, ⟨0⟩, 0, .closed, .reference⟩ rfl
    (by decide) (by decide)
  refine ⟨lasting, closed, by decide, by decide, by decide, ⟨_, ?_, (trip.trips (by decide)).2⟩,
    only, look.renews (by decide) (by decide)⟩
  rfl

end Fusebox.Traffic
