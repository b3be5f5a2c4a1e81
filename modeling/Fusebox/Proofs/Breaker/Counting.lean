import Fusebox.Breaker.Tally
import Mathlib.Data.Bool.Count
import Mathlib.Data.List.TakeWhile

/-! What a tally says of a history. A history is the number of requests admitted and
the outcomes of those that have finished, the oldest first. Counters that are full
stay full, so every count is read up to the largest 32-bit number. -/
namespace Fusebox.Tally

/-- The largest value of a counter. -/
def full : Nat := 0xFFFFFFFF

/-- How often the newest outcomes in a row were of one kind. -/
def latestRun (kind : Bool) (outcomes : List Bool) : Nat :=
  (outcomes.reverse.takeWhile (· == kind)).length

@[simp] theorem latestRun_nil : latestRun kind [] = 0 := rfl

/-- One more outcome of a kind lengthens its run; one of the other kind ends it. -/
theorem latestRun_append (kind newest : Bool) (outcomes : List Bool) :
    latestRun kind (outcomes ++ [newest]) =
      if newest = kind then latestRun kind outcomes + 1 else 0 := by
  simp only [latestRun, List.reverse_append, List.reverse_singleton, List.singleton_append,
    List.takeWhile_cons, beq_iff_eq]
  split <;> simp

theorem latestRun_le_count (kind : Bool) (outcomes : List Bool) :
    latestRun kind outcomes ≤ outcomes.count kind := by
  have all : ∀ outcome ∈ outcomes.reverse.takeWhile (· == kind), outcome = kind := by
    intro outcome member
    simpa using List.mem_takeWhile_imp member
  have own : (outcomes.reverse.takeWhile (· == kind)).count kind = latestRun kind outcomes :=
    List.count_eq_length.mpr fun outcome member => (all outcome member).symm
  rw [← own, ← List.count_reverse (l := outcomes)]
  exact (List.takeWhile_sublist _).count_le kind

/-- While there is no outcome of the other kind the run never broke off. -/
theorem latestRun_eq_length (pure_ : false ∉ outcomes) :
    latestRun true outcomes = outcomes.length := by
  have all : ∀ outcome ∈ outcomes.reverse, (outcome == true) = true := by
    intro outcome member
    cases outcome with
    | true => rfl
    | false => exact absurd (List.mem_reverse.mp member) pure_
  rw [latestRun, List.takeWhile_eq_self_iff.mpr all, List.length_reverse]

/-- A counter goes up by one and stops at its largest value. -/
theorem toNat_oneMore_min (counter : UInt32) :
    (oneMore counter).toNat = min (counter.toNat + 1) full := by
  have bound := counter.toNat_lt
  by_cases room : counter.toNat < 0xFFFFFFFF
  · rw [toNat_oneMore room]
    simp only [full]
    omega
  · have last : counter = 0xFFFFFFFF := by
      apply UInt32.toNat_inj.mp
      simp only [UInt32.toNat_ofNat]
      omega
    subst last
    rfl

/-- The tally is the one of a history. -/
structure Counts (tally : Tally) (asked : Nat) (outcomes : List Bool) : Prop where
  requests : tally.requests.toNat = min asked full
  successes : tally.successes.toNat = min (outcomes.count true) full
  failures : tally.failures.toNat = min (outcomes.count false) full
  successRun : tally.successRun.toNat = min (latestRun true outcomes) full
  failureRun : tally.failureRun.toNat = min (latestRun false outcomes) full

variable {tally : Tally} {asked : Nat} {outcomes : List Bool}

/-- A new generation has no history. -/
theorem Counts.empty : Counts .empty 0 [] := by
  constructor <;> rfl

theorem Counts.admitted (counts : tally.Counts asked outcomes) :
    tally.admitted.Counts (asked + 1) outcomes := by
  refine ⟨?_, counts.successes, counts.failures, counts.successRun, counts.failureRun⟩
  rw [show tally.admitted.requests = oneMore tally.requests from rfl, toNat_oneMore_min,
    counts.requests]
  omega

theorem Counts.succeeded (counts : tally.Counts asked outcomes) :
    tally.succeeded.Counts asked (outcomes ++ [true]) := by
  constructor
  · exact counts.requests
  · rw [show tally.succeeded.successes = oneMore tally.successes from rfl, toNat_oneMore_min,
      counts.successes]
    simp
    omega
  · simpa [Tally.succeeded] using counts.failures
  · rw [show tally.succeeded.successRun = oneMore tally.successRun from rfl, toNat_oneMore_min,
      counts.successRun, latestRun_append]
    simp
    omega
  · rw [latestRun_append]
    simp [Tally.succeeded]

theorem Counts.failed (counts : tally.Counts asked outcomes) :
    tally.failed.Counts asked (outcomes ++ [false]) := by
  constructor
  · exact counts.requests
  · simpa [Tally.failed] using counts.successes
  · rw [show tally.failed.failures = oneMore tally.failures from rfl, toNat_oneMore_min,
      counts.failures]
    simp
    omega
  · rw [latestRun_append]
    simp [Tally.failed]
  · rw [show tally.failed.failureRun = oneMore tally.failureRun from rfl, toNat_oneMore_min,
      counts.failureRun, latestRun_append]
    simp
    omega

/-- Short of the largest number the counters show the history itself. -/
theorem Counts.exact (counts : tally.Counts asked outcomes) (finished : outcomes.length ≤ asked)
    (room : asked < UInt32.size) :
    tally.requests.toNat = asked ∧ tally.successes.toNat = outcomes.count true ∧
      tally.failures.toNat = outcomes.count false ∧
      tally.successRun.toNat = latestRun true outcomes ∧
      tally.failureRun.toNat = latestRun false outcomes := by
  have split := List.count_true_add_count_false outcomes
  have successRun := latestRun_le_count true outcomes
  have failureRun := latestRun_le_count false outcomes
  have fits : ∀ count, count ≤ asked → min count full = count := by
    intro count le
    have bound : asked < 4294967296 := room
    simp only [full]
    omega
  exact ⟨counts.requests.trans (fits _ (by omega)), counts.successes.trans (fits _ (by omega)),
    counts.failures.trans (fits _ (by omega)), counts.successRun.trans (fits _ (by omega)),
    counts.failureRun.trans (fits _ (by omega))⟩

/-- One more outcome of either kind. -/
def noted (tally : Tally) (success : Bool) : Tally :=
  if success then tally.succeeded else tally.failed

theorem Counts.noted (counts : tally.Counts asked outcomes) (success : Bool) :
    (tally.noted success).Counts asked (outcomes ++ [success]) := by
  cases success with
  | true => exact counts.succeeded
  | false => exact counts.failed

/-- As soon as there is an outcome, exactly one of the two runs is under way: the one
of the newest outcome. -/
theorem one_run_after_outcome (finished : outcomes ≠ []) :
    0 < latestRun true outcomes ↔ latestRun false outcomes = 0 := by
  obtain ⟨earlier, newest, rfl⟩ := (List.eq_nil_or_concat outcomes).resolve_left finished
  simp only [List.concat_eq_append, latestRun_append]
  cases newest <;> simp

end Fusebox.Tally
