import Fusebox.Proofs.Breaker.Counting
import Fusebox.Proofs.Traffic.Tags

/-! The counts of a breaker against the calls it admitted. After any script the counts
are the tally of the present generation: its admissions, and the outcomes of those of
its calls that have ended. What earlier calls do does not show in them. -/
namespace Fusebox.Traffic

variable {t : Traffic} {next : Breaker}

theorem Booked.ended (booked : Booked t) (member : entry ∈ t.ended) : entry.1 ∈ t.admitted := by
  rw [booked.places.mem_iff]
  simp only [List.mem_append, List.mem_map]
  exact .inl (.inr ⟨entry, member, rfl⟩)

/-- A generation that begins has admitted no call yet. -/
theorem Booked.begun (booked : Booked t) (number : next.generation = t.breaker.generation + 1) :
    (t.onto next).admittedNow = [] ∧ (t.onto next).outcomesNow = [] := by
  have past : ∀ call ∈ t.admitted, ¬ (call.era == (t.onto next).era) = true := by
    intro call member
    have older := booked.era call member
    rw [onto_era_next number, beq_iff_eq]
    omega
  constructor
  · exact List.filter_eq_nil_iff.mpr past
  · exact List.map_eq_nil_iff.mpr
      (List.filter_eq_nil_iff.mpr fun entry member => past entry.1 (booked.ended member))

/-- An operation that ends no generation leaves the calls of the present one alone. -/
theorem onto_now_same (same : next.generation = t.breaker.generation) :
    (t.onto next).admittedNow = t.admittedNow ∧ (t.onto next).outcomesNow = t.outcomesNow := by
  simp [admittedNow, outcomesNow, onto_era_same same]

theorem accept_admittedNow (t : Traffic) (now : Instant) :
    (t.accept now).admittedNow.length = t.admittedNow.length + 1 := by
  simp [admittedNow, accept, board]

theorem land_outcomesNow (t : Traffic) (call : Call) (ending : Ending) :
    (t.land call ending).outcomesNow =
      if call.era = t.era then t.outcomesNow ++ [ending.success] else t.outcomesNow := by
  by_cases current : call.era = t.era <;> simp [outcomesNow, land, current]

/-- A call that counts joins the outcomes of its generation if that one goes on. -/
theorem counted_history (current : call.era = t.era)
    (same : next.generation = t.breaker.generation) (ending : Ending) :
    ((t.onto next).land call ending).admittedNow = t.admittedNow ∧
      ((t.onto next).land call ending).outcomesNow = t.outcomesNow ++ [ending.success] := by
  have history := onto_now_same same
  rw [land_outcomesNow, onto_era_same same, if_pos current, history.2]
  exact ⟨history.1, rfl⟩

/-- A call that ends its generation is no part of the next one. -/
theorem Booked.begun_history (booked : Booked t) (current : call.era = t.era)
    (number : next.generation = t.breaker.generation + 1) (ending : Ending) :
    ((t.onto next).land call ending).admittedNow = [] ∧
      ((t.onto next).land call ending).outcomesNow = [] := by
  obtain ⟨noCall, noOutcome⟩ := booked.begun number
  rw [land_outcomesNow, onto_era_next number, if_neg (by omega), noOutcome]
  exact ⟨noCall, rfl⟩

/-- The counts are the tally of the present generation, up to the largest number a
counter can show. -/
theorem Lawful.counts (lawful : Lawful policy t) :
    t.breaker.tally.Counts t.admittedNow.length t.outcomesNow := by
  induction lawful with
  | fresh created =>
    obtain ⟨-, -, -, empty⟩ := Breaker.create_eq created
    show Tally.Counts (Traffic.fresh _).breaker.tally 0 []
    rw [Traffic.fresh, empty]
    exact .empty
  | timed before elapsed ih =>
    obtain rfl | ⟨number, empty⟩ := elapsed.same_or_begun
    · rwa [onto_same]
    · obtain ⟨noCall, noOutcome⟩ := before.booked.begun number
      rw [noCall, noOutcome, onto_breaker, empty]
      exact .empty
  | admitted before free ih =>
    rw [accept_admittedNow]
    exact ih.admitted
  | stale before member older ih =>
    rw [land_outcomesNow, if_neg (Nat.ne_of_lt older)]
    exact ih
  | @counted t call now wall next ending before member current noted ih =>
    obtain ⟨_, joined⟩ | ⟨target, entered⟩ | ⟨opened, _⟩ := noted.joins_or_begins
    · have same : next.generation = t.breaker.generation := by rw [joined]
      obtain ⟨calls, outcomes⟩ := counted_history current same ending
      rw [calls, outcomes, land_breaker, onto_breaker, joined]
      exact ih.noted ending.success
    · have number : next.generation = t.breaker.generation + 1 := by rw [entered]; rfl
      obtain ⟨noCall, noOutcome⟩ := before.booked.begun_history current number ending
      rw [noCall, noOutcome, land_breaker, onto_breaker, entered]
      exact .empty
    · have older := before.opened_era opened call (before.booked.underway member)
      exact absurd current (Nat.ne_of_lt older)
  | lost before member ih => exact ih

/-- The counts of a breaker agree with its calls. -/
structure Tallied (t : Traffic) : Prop where
  requests : t.breaker.tally.requests.toNat = t.admittedNow.length
  successes : t.breaker.tally.successes.toNat = t.outcomesNow.count true
  failures : t.breaker.tally.failures.toNat = t.outcomesNow.count false
  /-- A call that counts is a success, a failure, or still under way, unless its end
  went by unheard. Its tag is the number of the present generation. -/
  balance : t.breaker.tally.requests.toNat =
    t.breaker.tally.successes.toNat + t.breaker.tally.failures.toNat +
      t.underway.countP (·.ticket.generation == t.breaker.generation) +
      t.lost.countP (·.ticket.generation == t.breaker.generation)
  successRun : t.breaker.tally.successRun.toNat = Tally.latestRun true t.outcomesNow
  failureRun : t.breaker.tally.failureRun.toNat = Tally.latestRun false t.outcomesNow
  no_run : t.outcomesNow = [] →
    t.breaker.tally.successRun = 0 ∧ t.breaker.tally.failureRun = 0
  one_run : t.outcomesNow ≠ [] →
    (t.breaker.tally.successRun = 0 ↔ t.breaker.tally.failureRun ≠ 0)

/-- The calls of the present generation are where the books say. -/
theorem Booked.balance (booked : Booked t) :
    t.admittedNow.length = t.outcomesNow.length + t.underway.countP (·.era == t.era) +
      t.lost.countP (·.era == t.era) := by
  have split := booked.places.countP_eq (·.era == t.era)
  simp only [List.countP_append, List.countP_map] at split
  simp only [admittedNow, outcomesNow, List.length_map, ← List.countP_eq_length_filter, split]
  simp only [Function.comp_def]
  omega

/-- As long as generation numbers do not start over, a tag fits exactly the calls of
the present generation. -/
theorem Booked.tag_iff (booked : Booked t) (eras : t.era < UInt64.size)
    (member : call ∈ t.admitted) :
    (call.ticket.generation == t.breaker.generation) = (call.era == t.era) := by
  have older := booked.era call member
  rw [booked.ticket call member, booked.generation]
  apply Bool.eq_iff_iff.mpr
  rw [beq_iff_eq, beq_iff_eq]
  constructor
  · exact ofNat_inj_below (Nat.lt_of_le_of_lt older eras) eras
  · exact congrArg UInt64.ofNat

theorem Booked.lost (booked : Booked t) (member : call ∈ t.lost) : call ∈ t.admitted := by
  rw [booked.places.mem_iff]
  simp [member]

/-- The same by their tags. -/
theorem Booked.tagged_balance (booked : Booked t) (eras : t.era < UInt64.size) :
    t.admittedNow.length = t.outcomesNow.length +
      t.underway.countP (·.ticket.generation == t.breaker.generation) +
      t.lost.countP (·.ticket.generation == t.breaker.generation) := by
  have underway : t.underway.countP (·.ticket.generation == t.breaker.generation) =
      t.underway.countP (·.era == t.era) :=
    List.countP_congr fun call member =>
      Bool.eq_iff_iff.mp (booked.tag_iff eras (booked.underway member))
  have lost : t.lost.countP (·.ticket.generation == t.breaker.generation) =
      t.lost.countP (·.era == t.era) :=
    List.countP_congr fun call member =>
      Bool.eq_iff_iff.mp (booked.tag_iff eras (booked.lost member))
  rw [underway, lost]
  exact booked.balance

/-- Only a clock that cannot be read loses calls. -/
theorem run_lost_nil (none_ : t.lost = [])
    (seen : ∀ move ∈ script, move.reading.now.isSome) : (t.run script).lost = [] := by
  induction script generalizing t with
  | nil => exact none_
  | cons move script ih =>
    refine ih ?_ fun later member => seen later (List.mem_cons_of_mem _ member)
    have now := seen move List.mem_cons_self
    cases move with
    | look reading => exact none_
    | ask operation reading =>
      simp only [perform]
      split <;> exact none_
    | finish number ending reading =>
      simp only [perform]
      split
      · exact none_
      · split
        · rename_i unseen
          simp [Move.reading, unseen] at now
        · exact none_

/-- After any script, the counts are exactly the tally of the present generation. -/
theorem counts_are_tally_of_generation (created : Breaker.create name policy reading = .ok b)
    (script : List Move) (eras : ((fresh b).run script).era < UInt64.size)
    (calls : ((fresh b).run script).admittedNow.length < UInt32.size) :
    Tallied ((fresh b).run script) ∧
      ((∀ move ∈ script, move.reading.now.isSome) → ((fresh b).run script).lost = []) := by
  refine ⟨?_, run_lost_nil rfl⟩
  have lawful := run_lawful (.fresh created) eras
  generalize (fresh b).run script = t at eras calls lawful ⊢
  have booked := lawful.booked
  have counts := lawful.counts
  have balance := booked.balance
  obtain ⟨requests, successes, failures, successRun, failureRun⟩ :=
    lawful.counts.exact (by omega) calls
  have outcomes := List.count_true_add_count_false t.outcomesNow
  have underway : t.underway.countP (·.ticket.generation == t.breaker.generation) =
      t.underway.countP (·.era == t.era) :=
    List.countP_congr fun call member =>
      Bool.eq_iff_iff.mp (booked.tag_iff eras (booked.underway member))
  have lost : t.lost.countP (·.ticket.generation == t.breaker.generation) =
      t.lost.countP (·.era == t.era) :=
    List.countP_congr fun call member =>
      Bool.eq_iff_iff.mp (booked.tag_iff eras (booked.lost member))
  refine ⟨requests, successes, failures, by omega, successRun, failureRun, ?_, ?_⟩
  · intro noOutcome
    simp only [noOutcome, Tally.latestRun_nil] at successRun failureRun
    exact ⟨UInt32.toNat_inj.mp successRun, UInt32.toNat_inj.mp failureRun⟩
  · intro finished
    have one := Tally.one_run_after_outcome finished
    rw [ne_eq, ← UInt32.toNat_inj, ← UInt32.toNat_inj, successRun, failureRun]
    simp only [UInt32.toNat_zero]
    omega

/-- After an outage, one call of the present generation has ended and another one is
under way; the clock went back between them. -/
theorem counts_are_tally_of_generation_with_third_call :
    let script : List Move := [
      .ask "first" (.past 0),
      .finish 0 .failed (.past 0),
      .look (.past 10),
      .ask "probe" (.past 10),
      .finish 1 .succeeded (.past 11),
      .ask "second" (.past 12),
      .ask "third" (.past 3),
      .finish 2 .succeeded (.past 12)]
    ((fresh .touchy).run script).era < UInt64.size ∧
      ((fresh .touchy).run script).admittedNow.length < UInt32.size ∧
      ((fresh .touchy).run script).outcomesNow = [true] ∧
      ((fresh .touchy).run script).underway.length = 1 ∧
      Tallied ((fresh .touchy).run script) ∧
      ((∀ move ∈ script, move.reading.now.isSome) → ((fresh .touchy).run script).lost = []) :=
  ⟨by decide, by decide, by decide, by decide,
    counts_are_tally_of_generation Breaker.touchy_created _ (by decide) (by decide)⟩

end Fusebox.Traffic
