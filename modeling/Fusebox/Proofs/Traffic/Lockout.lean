import Fusebox.Proofs.Traffic.Admission
import Fusebox.Proofs.Traffic.Idle
import Fusebox.Proofs.Traffic.LoadShedding

/-! The lockout. From the moment it opens until its open timeout has passed a breaker turns
every request away, and nothing that happens meanwhile moves its deadline. The deadline acts
on whatever comes first at or after it, and the first request from then on is a probe. -/
namespace Fusebox

/-- The open timeout has passed since a breaker opened. -/
def Policy.TimedOut (p : Policy) (start now : Instant) : Prop :=
  start.nanos + p.openTimeout.nanos ≤ now.nanos

instance (p : Policy) (start now : Instant) : Decidable (p.TimedOut start now) :=
  inferInstanceAs (Decidable (_ ≤ _))

namespace Breaker

variable {b next : Breaker} {p : Policy} {start now : Instant} {wall : Option Instant}

/-- A breaker as it is right after it has opened. -/
structure Locked (p : Policy) (start : Instant) (b : Breaker) : Prop where
  policy : b.policy = p
  opened : b.mode = .opened
  deadline : b.deadline = start.add? p.openTimeout

/-- It is due exactly when its open timeout has passed. -/
theorem Locked.due_iff (locked : Locked p start b) (now : Instant) :
    b.due now = true ↔ p.TimedOut start now :=
  due_iff_waited (by simp [locked.opened]) locked.deadline now

theorem Locked.early (locked : Locked p start b) (running : ¬p.TimedOut start now) :
    b.due now = false := by
  rw [← locked.due_iff] at running
  simpa using running

/-- Until the timeout has passed it turns requests away. -/
theorem Locked.refused (locked : Locked p start b) (running : ¬p.TimedOut start now)
    (operation : String) (wall : Option Instant) :
    (b.ask operation ⟨some now, wall⟩).result = .ok (.error .opened) ∧
      TurnedAway b operation ⟨some now, wall⟩ .opened := by
  have refused := ask_refused_of_opened locked.opened (locked.early running) operation wall
  exact ⟨refused, turnedAway_of_refused refused⟩

/-- When it has passed the timer lets the breaker probe. -/
theorem Locked.elapsed (locked : Locked p start b) (passed : p.TimedOut start now)
    (elapsed : Elapsed b now wall next) : next = b.entered .halfOpen now wall := by
  have due := (locked.due_iff now).mpr passed
  cases elapsed with
  | early early => cases early.symm.trans due
  | renewed _ closed => cases closed.symm.trans locked.opened
  | probing _ _ => rfl

end Breaker

namespace Traffic

open Breaker (Locked)

/-- A move opens the breaker at a reading of the clock, and from there on the clock does not
go back. -/
structure Opening (t : Traffic) (trip : Move) (start : Instant) (after : List Move) : Prop where
  shown : trip.reading.now = some start
  shut : t.breaker.mode ≠ .opened
  opened : (t.perform trip).breaker.mode = .opened
  steady : (start :: readings after).Pairwise (· ≤ ·)

/-- How a breaker that has just opened answers to the moves that follow. -/
structure Lockout (p : Policy) (start : Instant) (t : Traffic) (after : List Move) : Prop where
  /-- Nothing moves the breaker while the timeout runs. -/
  untouched : ∀ earlier, earlier <+: after →
    (∀ past ∈ readings earlier, ¬p.TimedOut start past) → (t.run earlier).breaker = t.breaker
  /-- Every request that comes meanwhile is turned away. -/
  refused : ∀ earlier operation reading now later,
    after = earlier ++ .ask operation reading :: later → reading.now = some now →
    ¬p.TimedOut start now →
    ((t.run earlier).breaker.ask operation reading).result = .ok (.error .opened) ∧
      Breaker.TurnedAway (t.run earlier).breaker operation reading .opened
  /-- The first move after it, of whatever kind, finds the breaker half-open. -/
  probes : ∀ earlier move now later, after = earlier ++ move :: later →
    (∀ past ∈ readings earlier, ¬p.TimedOut start past) →
    move.reading.now = some now → p.TimedOut start now →
    (∀ number ending reading, move = .finish number ending reading →
      ((t.run earlier).call? number).isSome) →
    (t.run (earlier ++ [move])).breaker.mode = .halfOpen ∧
      (t.run (earlier ++ [move])).breaker.generation = t.breaker.generation + 1
  /-- The first request after it is admitted as a probe. -/
  admitted : ∀ earlier operation now wall later,
    after = earlier ++ .ask operation ⟨some now, some wall⟩ :: later →
    (∀ operation reading past, .ask operation reading ∈ earlier → reading.now = some past →
      ¬p.TimedOut start past) →
    p.TimedOut start now →
    (t.run (earlier ++ [.ask operation ⟨some now, some wall⟩])).breaker.mode = .halfOpen ∧
      ((t.run earlier).breaker.ask operation ⟨some now, some wall⟩).result =
        .ok (.ok ⟨t.breaker.generation + 1⟩)
  /-- A timeout that ends beyond the range of the clock never passes. -/
  never : start.add? p.openTimeout = none → ∀ script operation now wall,
    ((t.run script).breaker.ask operation ⟨some now, wall⟩).result = .ok (.error .opened) ∧
      Breaker.TurnedAway (t.run script).breaker operation ⟨some now, wall⟩ .opened

variable {t next origin : Traffic} {move : Move} {policy p : Policy} {start latest now : Instant}
  {wall : Option Instant}

/-- While the timeout runs, nothing moves the breaker. -/
theorem locked_untouched (locked : Locked p start t.breaker) (script : List Move)
    (running : ∀ past ∈ readings script, ¬p.TimedOut start past) :
    (t.run script).breaker = t.breaker := by
  refine opened_unmoved_by_run locked.opened script fun move member now shown => ?_
  exact locked.early (running now (List.mem_filterMap.mpr ⟨move, member, shown⟩))

/-- Whatever move comes first at the end of the timeout leaves the breaker half-open. -/
theorem Shift.probes (shift : Shift t move next) (locked : Locked p start t.breaker)
    (shown : move.reading.now = some now) (passed : p.TimedOut start now)
    (known : ∀ number ending reading, move = .finish number ending reading →
      (t.call? number).isSome) :
    next.breaker.mode = .halfOpen ∧ next.breaker.generation = t.breaker.generation + 1 := by
  have timer {now : Instant} {wall : Option Instant} {after : Breaker}
      (passed : p.TimedOut start now) (elapsed : Breaker.Elapsed t.breaker now wall after) :
      after.mode = .halfOpen ∧ after.generation = t.breaker.generation + 1 := by
    rw [locked.elapsed passed elapsed]
    exact ⟨rfl, rfl⟩
  cases shift with
  | deaf unseen => cases unseen.symm.trans shown
  | lost unseen found => cases unseen.symm.trans shown
  | missing unknown =>
    have found := known _ _ _ rfl
    rw [unknown] at found
    cases found
  | looked elapsed => cases shown; exact timer passed elapsed
  | crashed elapsed probing => cases shown; exact timer passed elapsed
  | refused elapsed refused => cases shown; exact timer passed elapsed
  | admitted elapsed free =>
    cases shown
    obtain ⟨half, generation⟩ := timer passed elapsed
    exact ⟨half, generation⟩
  | stale elapsed found older => cases shown; exact timer passed elapsed
  | counted early found current noted =>
    cases shown
    cases early.symm.trans ((locked.due_iff _).mpr passed)

/-- Where a breaker stands while nobody has asked since the end of its lockout: as it was
when it opened, or half-open without a probe. -/
inductive Standing (p : Policy) (start : Instant) (origin : Traffic) (latest : Instant)
    (t : Traffic) : Prop where
  | locked (same : t.breaker = origin.breaker) (era : t.era = origin.era)
      (admitted : t.admitted = origin.admitted)
  | probing (half : t.breaker.mode = .halfOpen) (empty : t.breaker.tally = .empty)
      (generation : t.breaker.generation = origin.breaker.generation + 1)
      (era : t.era = origin.era + 1) (admitted : t.admitted = origin.admitted)
      (late : p.TimedOut start latest)

theorem Standing.later (standing : Standing p start origin latest t) (later : latest ≤ now) :
    Standing p start origin now t := by
  cases standing with
  | locked same era admitted => exact .locked same era admitted
  | probing half empty generation era admitted late =>
    exact .probing half empty generation era admitted (Int.le_trans late later)

theorem Standing.congr (standing : Standing p start origin latest t)
    (breaker : next.breaker = t.breaker) (era : next.era = t.era)
    (admitted : next.admitted = t.admitted) : Standing p start origin latest next := by
  cases standing with
  | locked same number calls =>
    exact .locked (breaker.trans same) (era.trans number) (admitted.trans calls)
  | probing half empty generation number calls late =>
    exact .probing (breaker ▸ half) (breaker ▸ empty) (breaker ▸ generation)
      (era.trans number) (admitted.trans calls) late

theorem Standing.elapsed {after : Breaker} (standing : Standing p start origin now t)
    (locked : Locked p start origin.breaker) (elapsed : Breaker.Elapsed t.breaker now wall after) :
    Standing p start origin now (t.onto after) := by
  cases standing with
  | probing half empty generation era admitted late =>
    cases elapsed.eq_of_early (Breaker.due_halfOpen half)
    rw [onto_same]
    exact .probing half empty generation era admitted late
  | locked same era admitted =>
    rw [← same] at locked
    by_cases passed : p.TimedOut start now
    · cases locked.elapsed passed elapsed
      refine .probing rfl rfl ?_ ?_ admitted passed
      · rw [← same]
        rfl
      · rw [onto_era_next rfl, era]
    · cases elapsed.eq_of_early (locked.early passed)
      rw [onto_same]
      exact .locked same era admitted

/-- A move that is no request after the timeout changes nothing of that. -/
theorem Standing.step (standing : Standing p start origin latest t)
    (locked : Locked p start origin.breaker) (before : Booked origin) (booked : Booked t)
    (shift : Shift t move next) (shown : ∀ now, move.reading.now = some now → now = latest)
    (quiet : ∀ operation reading now, move = .ask operation reading → reading.now = some now →
      ¬p.TimedOut start now) :
    Standing p start origin latest next := by
  cases shift with
  | deaf unseen => exact standing
  | missing unknown => exact standing
  | lost unseen found => exact standing.congr rfl rfl rfl
  | looked elapsed =>
    cases shown _ rfl
    exact standing.elapsed locked elapsed
  | crashed elapsed probing =>
    cases shown _ rfl
    exact standing.elapsed locked elapsed
  | refused elapsed refused =>
    cases shown _ rfl
    exact standing.elapsed locked elapsed
  | stale elapsed found older =>
    cases shown _ rfl
    exact (standing.elapsed locked elapsed).congr rfl rfl rfl
  | admitted elapsed free =>
    cases shown _ rfl
    have running := quiet _ _ _ rfl rfl
    cases standing with
    | probing half empty generation era admitted late => exact absurd late running
    | locked same era admitted =>
      rw [same] at elapsed
      cases elapsed.eq_of_early (locked.early running)
      simp [Breaker.rejection?, locked.opened] at free
  | counted early found current noted =>
    cases standing with
    | locked same era admitted =>
      rw [noted.eq_of_opened (by rw [same]; exact locked.opened), onto_same]
      exact .locked same era admitted
    | probing half empty generation era admitted late =>
      -- No call has been admitted since the breaker opened, so this one is too old to count.
      have known := booked.underway (mem_of_call? found)
      have older := before.era _ (admitted ▸ known)
      omega

/-- When the timer has acted after the timeout, there is a probe to be had. -/
theorem Standing.free (standing : Standing p start origin latest t)
    (locked : Locked p start origin.breaker) (passed : p.TimedOut start now)
    (wall : Option Instant) :
    (t.elapse now wall).breaker.mode = .halfOpen ∧ (t.elapse now wall).breaker.tally = .empty ∧
      (t.elapse now wall).breaker.generation = origin.breaker.generation + 1 := by
  cases standing with
  | probing half empty generation era admitted late =>
    rw [elapse_early (Breaker.due_halfOpen half)]
    exact ⟨half, empty, generation⟩
  | locked same era admitted =>
    have elapsed := Breaker.refresh_elapsed origin.breaker now wall
    rw [elapse, same, onto_breaker, locked.elapsed passed elapsed]
    exact ⟨rfl, rfl, rfl⟩

/-- A half-open generation has a probe for the first who asks. -/
theorem Lawful.free_of_empty (lawful : Lawful policy t) (half : t.breaker.mode = .halfOpen)
    (empty : t.breaker.tally = .empty) : t.breaker.rejection? = none := by
  have requests : t.breaker.tally.requests.toNat = 0 := by
    rw [empty]
    rfl
  have counted := lawful.reached.requests
  have positive := policy.normalized_maxProbes_pos
  simp only [requests, Tally.full] at counted
  rw [lawful.reached.probe_refusal half, if_pos]
  omega

/-- So the first request after the timeout is admitted. -/
theorem Standing.admits (standing : Standing p start origin latest t)
    (locked : Locked p start origin.breaker) (lawful : Lawful policy t)
    (passed : p.TimedOut start now) (operation : String) (wall : Instant) :
    (t.perform (.ask operation ⟨some now, some wall⟩)).breaker.mode = .halfOpen ∧
      (t.breaker.ask operation ⟨some now, some wall⟩).result =
        .ok (.ok ⟨origin.breaker.generation + 1⟩) := by
  obtain ⟨half, empty, generation⟩ := standing.free locked passed (some wall)
  have timed : Lawful policy (t.elapse now (some wall)) :=
    lawful.timed (Breaker.refresh_elapsed t.breaker now (some wall))
  have heard := ask_heard t operation now (some wall)
  generalize (t.breaker.ask operation ⟨some now, some wall⟩).result = told at heard ⊢
  generalize t.perform (.ask operation ⟨some now, some wall⟩) = next at heard ⊢
  cases heard with
  | crashed cause =>
    have crash : (t.breaker.refresh now (some wall)).result ≠ .ok () := by simp [cause]
    cases (Breaker.refresh_crashed crash).2.2
  | refused fine refused => cases (timed.free_of_empty half empty).symm.trans refused
  | admitted fine free => exact ⟨half, by rw [generation]⟩

/-- A move that opens the breaker locks it. -/
theorem Opening.locked (opening : Opening t move start after) (lawful : Lawful policy t)
    (eras : (t.perform move).era < UInt64.size) :
    Locked policy.normalized start (t.perform move).breaker := by
  have shift := perform_shift lawful.booked move eras
  refine ⟨(shift.lawful lawful).keeps_policy, opening.opened, ?_⟩
  rw [shift.opens opening.shut opening.opened opening.shown, lawful.keeps_policy]

/-- Nothing is read later than what comes after it. -/
theorem steady_le (steady : (start :: readings (earlier ++ move :: later)).Pairwise (· ≤ ·))
    (shown : move.reading.now = some now) :
    ∀ past ∈ start :: readings earlier, past ≤ now := by
  intro past member
  rw [readings_append, readings_cons_shown shown, ← List.cons_append] at steady
  exact (List.pairwise_append.mp steady).2.2 past member now List.mem_cons_self

/-- A move within a script is a shift of lawful traffic. -/
theorem Lawful.within (lawful : Lawful policy t)
    (eras : (t.run (earlier ++ move :: later)).era < UInt64.size) :
    Lawful policy (t.run earlier) ∧ Shift (t.run earlier) move (t.run (earlier ++ [move])) := by
  rw [run_append] at eras ⊢
  have grown := run_grows (t.run earlier) (move :: later)
  have reached := run_lawful lawful (Nat.lt_of_le_of_lt grown.era eras)
  exact ⟨reached, run_shift reached eras⟩

/-- Whatever comes before it, the first request after the timeout is admitted. -/
theorem Lawful.admits_first {wall : Instant} (lawful : Lawful policy t)
    (locked : Locked p start t.breaker)
    (eras : (t.run (earlier ++ .ask operation ⟨some now, some wall⟩ :: later)).era <
      UInt64.size)
    (steady : (start :: readings
      (earlier ++ .ask operation ⟨some now, some wall⟩ :: later)).Pairwise (· ≤ ·))
    (quiet : ∀ operation reading past, .ask operation reading ∈ earlier →
      reading.now = some past → ¬p.TimedOut start past)
    (passed : p.TimedOut start now) :
    (t.run (earlier ++ [.ask operation ⟨some now, some wall⟩])).breaker.mode = .halfOpen ∧
      ((t.run earlier).breaker.ask operation ⟨some now, some wall⟩).result =
        .ok (.ok ⟨t.breaker.generation + 1⟩) := by
  have reached := (lawful.within eras).1
  rw [run_append] at eras
  have within := Nat.lt_of_le_of_lt (run_grows (t.run earlier) _).era eras
  rw [readings_append] at steady
  have part := steady.sublist ((List.sublist_append_left (readings earlier) _).cons_cons start)
  have first : Standing p start t start t := .locked rfl rfl rfl
  obtain ⟨last, _, standing⟩ := lawful.run_steadily (fun _ => Standing p start t) first within
    part Standing.later fun standing before shift member _ shown =>
      standing.step locked lawful.booked before.booked shift shown
        fun operation reading now same => quiet operation reading now (same ▸ member)
  rw [run_append]
  exact standing.admits locked reached passed operation wall

/-- From the reading at which it opens a breaker is locked for its open timeout, exactly:
until then every request is turned away and nothing else happens to it, and then the next
move lets it probe. A failed probe locks it as the first failure did. -/
theorem lockout_lasts_open_timeout (created : Breaker.create name policy reading = .ok b)
    (before after : List Move) (opening : Opening ((fresh b).run before) trip start after)
    (eras : (((fresh b).run before).run (trip :: after)).era < UInt64.size) :
    0 < policy.normalized.openTimeout.nanos ∧
      Lockout policy.normalized start (((fresh b).run before).perform trip) after := by
  have lawful := run_lawful (.fresh created) (Nat.lt_of_le_of_lt (run_grows _ _).era eras)
  generalize (fresh b).run before = t at opening eras lawful ⊢
  have locked := opening.locked lawful
    (Nat.lt_of_le_of_lt (run_grows (t.perform trip) after).era eras)
  have begun := (run_shift lawful eras).lawful lawful
  refine ⟨policy.normalized_openTimeout_pos, fun earlier _ => locked_untouched locked earlier,
    ?_, ?_, ?_, ?_⟩
  · rintro earlier operation ⟨_, wall⟩ now later rfl rfl running
    have same := locked_untouched locked earlier fun past member passed =>
      running (Int.le_trans passed
        (steady_le opening.steady rfl past (List.mem_cons_of_mem _ member)))
    rw [same]
    exact locked.refused running operation wall
  · rintro earlier move now later rfl running shown passed known
    have same := locked_untouched locked earlier running
    have shift := (begun.within eras).2
    rw [← same] at locked ⊢
    exact shift.probes locked shown passed known
  · rintro earlier operation now wall later rfl quiet passed
    exact begun.admits_first locked eras opening.steady quiet passed
  · intro unreachable script operation now wall
    have never : ∀ now, ¬policy.normalized.TimedOut start now := by
      intro now passed
      have due := (locked.due_iff now).mpr passed
      simp [Breaker.due, locked.opened, locked.deadline.trans unreachable] at due
    rw [locked_untouched locked script fun past _ => never past]
    exact locked.refused (never now) operation wall

/-- A probe is dropped. Neither a look nor a request moves the breaker before its timeout has
passed; then the end of a call from before the first outage does, and the next request is
a probe. -/
theorem lockout_lasts_open_timeout_after_failed_probe :
    let before : List Move := [
      .ask "first" (.past 0),
      .ask "slow" (.past 0),
      .finish 0 .failed (.past 0),
      .ask "probe" (.past 10)]
    let trip : Move := .finish 2 .dropped (.past 12)
    let idle : List Move := [.look (.past 21), .ask "early" (.past 21)]
    let slow : Move := .finish 1 .failed (.past 22)
    let second : Move := .ask "second" (.past 22)
    let t := (fresh .touchy).run before
    let opened := t.perform trip
    ∃ start : Instant, start.nanos = 12 ∧
      Opening t trip start (idle ++ [slow, second]) ∧
      (t.run (trip :: (idle ++ [slow, second]))).era < UInt64.size ∧
      Lockout Policy.touchy.normalized start opened (idle ++ [slow, second]) ∧
      ((opened.run [.look (.past 21)]).breaker.ask "early" (.past 21)).result =
        .ok (.error .opened) ∧
      (opened.run (idle ++ [slow])).breaker.mode = .halfOpen ∧
      ((opened.run (idle ++ [slow])).breaker.ask "second" (.past 22)).result =
        .ok (.ok ⟨opened.breaker.generation + 1⟩) := by
  intro before trip idle slow second t opened
  have opening : Opening t trip ⟨12, by decide⟩ (idle ++ [slow, second]) :=
    ⟨rfl, by decide, by decide, by decide⟩
  have eras : (t.run (trip :: (idle ++ [slow, second]))).era < UInt64.size := by decide
  have lockout : Lockout Policy.touchy.normalized ⟨12, by decide⟩ opened
      (idle ++ [slow, second]) :=
    (lockout_lasts_open_timeout Breaker.touchy_created before _ opening eras).2
  have known : ∀ number ending reading, slow = .finish number ending reading →
      ((opened.run idle).call? number).isSome := by
    intro number ending reading same
    have second : 1 = number := (Move.finish.inj same).1
    subst second
    decide
  have probes := lockout.probes idle slow _ [second] rfl (by decide) rfl (by decide) known
  refine ⟨_, rfl, opening, eras, lockout, ?_, probes.1, ?_⟩
  · exact (lockout.refused [.look (.past 21)] _ _ _ _ rfl rfl (by decide)).1
  · refine (lockout.admitted (idle ++ [slow]) _ _ _ [] rfl ?_ (by decide)).2
    intro operation reading past member shown
    simp only [idle, slow, List.cons_append, List.nil_append, List.mem_cons, reduceCtorEq,
      Move.ask.injEq, false_or, List.not_mem_nil, or_false] at member
    obtain ⟨rfl, rfl⟩ := member
    cases shown
    decide

end Traffic
end Fusebox
