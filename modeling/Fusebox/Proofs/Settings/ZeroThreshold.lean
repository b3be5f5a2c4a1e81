import Fusebox.Proofs.Decimal.Ratio
import Fusebox.Proofs.Settings.Registration
import Fusebox.Proofs.Traffic.Sequence

/-! A threshold of zero. Settings with one are accepted with the warning that the breaker will trip
on the first failure. The ratio is not in the way of that, as no ratio is below zero; but it is
looked at only when the generation has admitted as many calls as the policy asks for. So the first
failure trips a breaker whatever happened before just if its policy asks for one call at most. -/
namespace Fusebox

/-- With a threshold of zero a failure opens the breaker as soon as there are enough calls. -/
theorem Policy.readyToTrip_zero {p : Policy} (zero : (p.failureThreshold == 0) = true)
    (counts : Tally) : p.readyToTrip counts = decide (p.minimumRequests ≤ counts.requests) := by
  have reached := decide_eq_true (Tally.zero_le_failureRatio zero counts)
  rw [readyToTrip, reached, Bool.and_true]

namespace Traffic

/-- The end of a call is a failure that a closed generation records: the call was admitted in that
generation, which has not come to its end. -/
structure RecordsFailure (t : Traffic) (number : Nat) (ending : Ending) (reading : Reading) :
    Prop where
  closed : t.breaker.mode = .closed
  failed : ending.success = false
  current : ∃ now call, reading.now = some now ∧ t.breaker.due now = false ∧
    t.call? number = some call ∧ call.era = t.era

/-- A breaker that opens at the first failure of a closed generation, whatever happened before. -/
def TripsAtFirstFailure (b : Breaker) : Prop :=
  ∀ script number ending reading,
    ((fresh b).run script).RecordsFailure number ending reading →
    ((fresh b).run script).outcomesNow.count false = 0 →
    (((fresh b).run script).perform (.finish number ending reading)).breaker.mode = .opened

variable {t : Traffic} {policy : Policy} {number : Nat} {ending : Ending} {reading : Reading}

/-- The counter of requests is as good as the calls themselves where it is compared with what a
policy asks for, as that is no more than a counter can show. -/
theorem Reached.minimum_le_iff (reached : Reached policy t) (minimum : UInt32) :
    minimum ≤ t.breaker.tally.requests ↔ minimum.toNat ≤ t.admittedNow.length := by
  have bound := minimum.toNat_lt
  rw [UInt32.le_iff_toNat_le, reached.requests, Tally.full]
  omega

/-- A call that counts was admitted in its generation. -/
theorem Booked.some_admitted (booked : Booked t) (found : t.call? number = some call)
    (current : call.era = t.era) : 0 < t.admittedNow.length := by
  apply List.length_pos_of_mem
  exact List.mem_filter.mpr ⟨booked.underway (mem_of_call? found), beq_iff_eq.mpr current⟩

/-- With a threshold of zero the calls that were admitted decide, not those that failed. -/
theorem Reached.failure_opens_iff (reached : Reached policy t)
    (zero : (policy.failureThreshold == 0) = true)
    (recorded : t.RecordsFailure number ending reading) :
    (t.perform (.finish number ending reading)).breaker.mode = .opened ↔
      policy.minimumRequests.toNat ≤ t.admittedNow.length := by
  obtain ⟨closed, failed, now, call, seen, early, found, current⟩ := recorded
  obtain ⟨_, wall⟩ := reading
  cases seen
  have booked := reached.booked
  have tag : t.breaker.generation = call.ticket.generation := by
    rw [booked.generation, booked.ticket call (booked.underway (mem_of_call? found)), current]
  have ready : t.breaker.policy.readyToTrip t.breaker.tally.failed =
      decide (policy.minimumRequests ≤ t.breaker.tally.requests) := by
    rw [reached.keeps_policy]
    exact Policy.readyToTrip_zero zero _
  obtain ⟨next, noted, performed⟩ := finish_counted early found tag ending
  rw [performed, land_breaker, onto_breaker, ← reached.minimum_le_iff]
  rw [failed] at noted
  cases noted with
  | failure _ calm =>
    rw [ready, decide_eq_false_iff_not] at calm
    exact iff_of_false (by simp [closed]) calm
  | trip _ now_ =>
    rw [ready, decide_eq_true_eq] at now_
    exact iff_of_true rfl now_
  | reopen half => cases closed.symm.trans half
  | ignored opened => cases closed.symm.trans opened

/-- A call on a new breaker that ends at once is the first that can fail, and the only one. -/
theorem first_call_recorded (created : Breaker.create name policy reading = .ok b) :
    let t := (fresh b).run [.ask "first" ⟨some .reference, none⟩]
    t.RecordsFailure 0 .failed ⟨some .reference, none⟩ ∧ t.outcomesNow = [] ∧
      t.admittedNow.length = 1 := by
  have calm : Calm policy .reference [] ((fresh b).elapse .reference none) :=
    calm_of_created created
  obtain ⟨call, -, found, current, -⟩ := calm.boarded
  obtain ⟨performed, -⟩ := ask_closed (fresh b) "first" calm.closed
  intro t
  have boarded : t = ((fresh b).elapse .reference none).accept .reference := performed
  rw [boarded]
  refine ⟨⟨calm.closed, rfl, _, call, rfl, calm.early, found, current⟩, calm.outcomes, ?_⟩
  rw [accept_admittedNow, calm.asked]
  rfl

/-- The first failure always opens a breaker with a threshold of zero just if a single call is
enough for its policy. -/
theorem trips_at_first_failure_iff (created : Breaker.create name policy reading = .ok b)
    (zero : (policy.failureThreshold == 0) = true) :
    TripsAtFirstFailure b ↔ policy.minimumRequests ≤ 1 := by
  rw [UInt32.le_iff_toNat_le, show UInt32.toNat 1 = 1 from rfl]
  constructor
  · intro trips
    obtain ⟨recorded, outcomes, single⟩ := first_call_recorded created
    have opened := trips _ _ _ _ recorded (by rw [outcomes]; rfl)
    have reached := run_reached (.fresh created) [.ask "first" ⟨some .reference, none⟩]
    rw [reached.failure_opens_iff zero recorded, single] at opened
    exact opened
  · intro few script number ending reading recorded _
    have reached := run_reached (.fresh created) script
    obtain ⟨-, -, _, _, -, -, found, current⟩ := id recorded
    have some_ := reached.booked.some_admitted found current
    rw [reached.failure_opens_iff zero recorded]
    omega

end Traffic

namespace ServiceSettings

open Traffic

variable {settings : ServiceSettings} {name : String} {breaker : BreakerSettings}

/-- A breaker that a failure opens if enough calls have been admitted, however few have failed. -/
structure WaitsForMinimum (minimum : UInt32) (b : Breaker) : Prop where
  opens : ∀ script number ending reading,
    ((fresh b).run script).RecordsFailure number ending reading →
    ((((fresh b).run script).perform (.finish number ending reading)).breaker.mode = .opened ↔
      minimum.toNat ≤ ((fresh b).run script).admittedNow.length)
  first : TripsAtFirstFailure b ↔ minimum ≤ 1

theorem waitsForMinimum (created : Breaker.create name policy reading = .ok b)
    (zero : (policy.failureThreshold == 0) = true) :
    WaitsForMinimum policy.minimumRequests b := by
  constructor
  · intro script number ending reading recorded
    exact (run_reached (.fresh created) script).failure_opens_iff zero recorded
  · exact trips_at_first_failure_iff created zero

theorem warned_of_zero (valid : settings.validate = .ok ())
    (configured : (name, breaker) ∈ settings.breakers)
    (zero : (breaker.failureThreshold == 0) = true) :
    .zeroThreshold name ∈ settings.warnings := by
  have works := works_of_valid valid _ configured
  have ratio : isRatio breaker.failureThreshold = true := (isRatio_iff _).mpr works.ratio
  refine List.mem_flatMap.mpr ⟨(name, breaker), configured, ?_⟩
  simp [BreakerSettings.warnings, ratio, zero]

/-- Settings with a threshold of zero are warned of a breaker that trips on the first failure. What
they get is a breaker that trips on the first failure after enough calls have been admitted, and
the warning is right only if one call is enough. -/
theorem zero_threshold_waits_for_minimum (valid : settings.validate = .ok ())
    (configured : (name, breaker) ∈ settings.breakers)
    (zero : (breaker.failureThreshold == 0) = true) :
    .zeroThreshold name ∈ settings.warnings ∧
      ∀ now wall, ∃ b, Breaker.create name breaker.policy ⟨some now, some wall⟩ = .ok b ∧
        WaitsForMinimum breaker.minimumRequests b := by
  refine ⟨warned_of_zero valid configured zero, fun now wall => ?_⟩
  have created := (works_of_valid valid _ configured).created name now wall
  exact ⟨_, created, waitsForMinimum created zero⟩

/-- Two breakers with a threshold of zero. -/
def hasty : ServiceSettings where
  breakers := [
    ("geocoder", { failureThreshold := -0.0, minimumRequests := 1 }),
    ("nws-api", { failureThreshold := 0 })]

/-- One of them trips on the first failure, and the other one does not. -/
theorem zero_threshold_waits_for_minimum_of_three_calls :
    hasty.validate = .ok () ∧
      .zeroThreshold "geocoder" ∈ hasty.warnings ∧ .zeroThreshold "nws-api" ∈ hasty.warnings ∧
      (∃ b, WaitsForMinimum 1 b ∧ TripsAtFirstFailure b) ∧
      ∃ b, WaitsForMinimum 3 b ∧ ¬TripsAtFirstFailure b := by
  have valid : hasty.validate = .ok () := rfl
  have geocoder : ("geocoder", _) ∈ hasty.breakers := .head _
  have forecast : ("nws-api", _) ∈ hasty.breakers := .tail _ (.head _)
  obtain ⟨first, made⟩ := zero_threshold_waits_for_minimum valid geocoder rfl
  obtain ⟨second, other⟩ := zero_threshold_waits_for_minimum valid forecast rfl
  obtain ⟨quick, -, waits⟩ := made .reference .reference
  obtain ⟨slow, -, longer⟩ := other .reference .reference
  refine ⟨valid, first, second, ⟨quick, waits, waits.first.mpr ?_⟩, slow, longer, ?_⟩
  · decide
  · rw [longer.first]
    decide

/-- A breaker with the settings that are used where nothing else is said, but for its threshold.
It is warned of, and its first failure is recorded without opening it. -/
theorem first_failure_leaves_breaker_closed :
    let settings : ServiceSettings := { breakers := [("nws-api", { failureThreshold := 0 })] }
    let made := Breaker.create "nws-api" ({ failureThreshold := 0 } : BreakerSettings).policy
      (.past 0)
    let script : List Move := [.ask "first" (.past 1), .finish 0 .failed (.past 2)]
    settings.validate = .ok () ∧ settings.warnings.map Event.message =
        ["failure_ratio_threshold is 0; the breaker will trip on the first failure"] ∧
      made.toOption.map (fun b => ((fresh b).run script).outcomesNow) = some [false] ∧
      made.toOption.map (fun b => ((fresh b).run script).breaker.mode) = some .closed := by
  refine ⟨rfl, rfl, ?_, ?_⟩ <;> decide +kernel

end ServiceSettings
end Fusebox
