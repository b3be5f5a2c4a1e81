import Fusebox.Proofs.Traffic.Reach

/-! Probes. A half-open generation admits a fixed number of calls, however they end and
however many calls of earlier generations end meanwhile. It lasts as long as all its
probes that have ended did so well and some are missing. -/
namespace Fusebox.Traffic

variable {t : Traffic} {policy : Policy}

/-- The calls a generation admitted as probes. -/
def probes (t : Traffic) (era : Nat) : List Call :=
  t.admitted.filter fun call => call.era == era && call.mode == .halfOpen

/-- A half-open breaker turns a request away once its generation has admitted as many as
there are probes, and not before. -/
theorem Reached.probe_refusal (reached : Reached policy t) (half : t.breaker.mode = .halfOpen) :
    t.breaker.rejection? =
      if t.admittedNow.length < policy.normalized.maxProbes.toNat then none
      else some .tooManyRequests := by
  have bound := policy.normalized.maxProbes.toNat_lt
  have counted := reached.requests
  simp only [Breaker.rejection?, half, reached.keeps_policy, UInt32.le_iff_toNat_le, counted,
    Tally.full]
  split
  · rw [if_neg (by omega)]
  · rw [if_pos (by omega)]

/-- A half-open breaker that admits another call has not used up its probes. -/
theorem Reached.free_probe (reached : Reached policy t) (mode : t.breaker.mode = .halfOpen)
    (free : t.breaker.rejection? = none) :
    t.admittedNow.length < policy.normalized.maxProbes.toNat := by
  rw [reached.probe_refusal mode] at free
  split at free
  · assumption
  · cases free

/-- A half-open generation never admits more calls than there are probes. -/
theorem Reached.admittedNow_le (reached : Reached policy t) (mode : t.breaker.mode = .halfOpen) :
    t.admittedNow.length ≤ policy.normalized.maxProbes.toNat := by
  induction reached with
  | fresh created => exact Nat.zero_le _
  | @quiet t next before quiet ih =>
    obtain ⟨admitted, ⟨era, same, _⟩ | ⟨era, _⟩⟩ := quiet.same_or_begun
    · rw [admittedNow, admitted, era]
      exact ih (same.symm.trans mode)
    · rw [before.booked.none_admitted admitted era]
      exact Nat.zero_le _
  | admitted before free ih =>
    rw [accept_admittedNow]
    exact before.free_probe mode free

theorem Quiet.same_probes (quiet : Quiet t next) (era : Nat) : next.probes era = t.probes era := by
  rw [probes, probes, quiet.same_or_begun.1]

/-- No generation admits more probes than the policy allows. -/
theorem Reached.probes_le (reached : Reached policy t) (era : Nat) :
    (t.probes era).length ≤ policy.normalized.maxProbes.toNat := by
  induction reached with
  | fresh created => exact Nat.zero_le _
  | quiet before quiet ih => rwa [quiet.same_probes]
  | @admitted t now before free ih =>
    have grown : (t.accept now).probes era =
        t.probes era ++ if era = t.era ∧ t.breaker.mode = .halfOpen then
          [⟨t.admitted.length, ⟨t.breaker.generation⟩, t.era, t.breaker.mode, now⟩] else [] := by
      simp only [probes, accept, board, List.filter_append, List.filter_cons, List.filter_nil,
        Bool.and_eq_true, beq_iff_eq]
      simp only [eq_comm]
    rw [grown]
    split
    · rename_i probe
      obtain ⟨rfl, mode⟩ := probe
      have room := before.free_probe mode free
      have among : (t.probes t.era).length ≤ t.admittedNow.length := by
        simp only [probes, admittedNow, ← List.countP_eq_length_filter]
        exact List.countP_mono_left fun call _ both => (Bool.and_eq_true_iff.mp both).1
      simp only [List.length_append, List.length_singleton]
      omega
    · simpa using ih

theorem Lawful.probes_le (lawful : Lawful policy t) (era : Nat) :
    (t.probes era).length ≤ policy.normalized.maxProbes.toNat :=
  lawful.reached.probes_le era

/-- After a success that does not close the breaker there are still successes missing. -/
theorem Lawful.probes_missing (lawful : Lawful policy t) (well : false ∉ t.outcomesNow)
    (short : t.outcomesNow.length < policy.normalized.maxProbes.toNat)
    (few : t.breaker.tally.succeeded.successRun < t.breaker.policy.maxProbes) :
    t.outcomesNow.length + 1 < policy.normalized.maxProbes.toNat := by
  have run := lawful.counts.succeeded.successRun
  have bound := policy.normalized.maxProbes.toNat_lt
  rw [Tally.latestRun_append, if_pos rfl, Tally.latestRun_eq_length well, Tally.full] at run
  rw [lawful.keeps_policy, UInt32.lt_iff_toNat_lt, run] at few
  omega

/-- The probes of a half-open generation that have ended all ended well, they are too
few to close the breaker, and no more calls were admitted than the policy allows. -/
theorem Lawful.probing (lawful : Lawful policy t) (mode : t.breaker.mode = .halfOpen) :
    false ∉ t.outcomesNow ∧ t.outcomesNow.length < policy.normalized.maxProbes.toNat := by
  induction lawful with
  | fresh created =>
    obtain ⟨-, closed, -⟩ := Breaker.create_eq created
    cases closed.symm.trans mode
  | timed before elapsed ih =>
    cases elapsed with
    | early early =>
      rw [onto_same] at mode ⊢
      exact ih mode
    | renewed due closed => cases closed.symm.trans mode
    | probing due opened =>
      rw [(before.booked.begun Breaker.entered_generation).2]
      exact ⟨List.not_mem_nil, policy.normalized_maxProbes_pos⟩
  | admitted before free ih => exact ih mode
  | stale before member older ih =>
    rw [land_outcomesNow, if_neg (Nat.ne_of_lt older)]
    exact ih mode
  | @counted t call now wall next ending before member current noted ih =>
    have joined (same : next.generation = t.breaker.generation) :=
      (counted_history current same ending).2
    generalize ending.success = success at noted joined
    cases noted with
    | probe half few =>
      obtain ⟨well, short⟩ := ih half
      have missing := before.probes_missing well short few
      rw [joined rfl]
      exact ⟨by simp [well], by simpa using missing⟩
    | success closed => cases closed.symm.trans mode
    | failure closed _ => cases closed.symm.trans mode
    | ignored opened => cases opened.symm.trans mode
    | close _ _ => cases mode
    | trip _ _ => cases mode
    | reopen _ => cases mode
  | lost before member ih => exact ih mode

theorem Lawful.admittedNow_le (lawful : Lawful policy t) (mode : t.breaker.mode = .halfOpen) :
    t.admittedNow.length ≤ policy.normalized.maxProbes.toNat :=
  lawful.reached.admittedNow_le mode

/-- A half-open breaker has counted as many successes as it counts in a row. -/
theorem Lawful.probing_successes (lawful : Lawful policy t) (mode : t.breaker.mode = .halfOpen) :
    t.breaker.tally.successes.toNat = t.outcomesNow.length ∧
      t.breaker.tally.successRun.toNat = t.outcomesNow.length := by
  obtain ⟨well, short⟩ := lawful.probing mode
  have bound := policy.normalized.maxProbes.toNat_lt
  have split := List.count_true_add_count_false t.outcomesNow
  have none_ := List.count_eq_zero_of_not_mem well
  have counts := lawful.counts
  rw [counts.successes, counts.successRun, Tally.latestRun_eq_length well, Tally.full]
  omega

/-- So its count of successes is never full. -/
theorem Lawful.probing_room (lawful : Lawful policy t) (mode : t.breaker.mode = .halfOpen) :
    t.breaker.tally.successes.toNat < Tally.full := by
  have short := (lawful.probing mode).2
  have bound := policy.normalized.maxProbes.toNat_lt
  rw [(lawful.probing_successes mode).1, Tally.full]
  omega

/-- The last missing success of a half-open breaker leaves no other probe under way. -/
theorem Lawful.last_probe (lawful : Lawful policy t) (half : t.breaker.mode = .halfOpen)
    (enough : t.breaker.policy.maxProbes ≤ t.breaker.tally.succeeded.successRun) :
    policy.normalized.maxProbes.toNat ≤ t.outcomesNow.length + 1 ∧
      t.underway.countP (·.era == t.era) ≤ 1 := by
  have balance := lawful.booked.balance
  have most := lawful.admittedNow_le half
  have run := (lawful.probing_successes half).2
  have next := Tally.toNat_oneMore_min t.breaker.tally.successRun
  have bound := policy.normalized.maxProbes.toNat_lt
  rw [lawful.keeps_policy, UInt32.le_iff_toNat_le,
    show t.breaker.tally.succeeded.successRun = oneMore t.breaker.tally.successRun from rfl, next,
    Tally.full] at enough
  omega

end Fusebox.Traffic
