import Fusebox.Journal.Effect

/-! What the metrics show after a sequence of reports. A counter shows how often it was
reported to go up, and a gauge the mode that it was set to last. Series of different breakers
have nothing to do with each other. -/
namespace Fusebox

/-- The breaker that a series belongs to. -/
def Counter.breaker : Counter → String
  | .transitions breaker _ _ | .rejections breaker _ | .calls breaker _ => breaker

namespace Effect

/-- The counter that goes up. -/
def counter? : Effect → Option Counter
  | .count counter => some counter
  | .event _ | .gauge .. => none

/-- What the gauge of a breaker is set to. -/
def gauge? (breaker : String) : Effect → Option Mode
  | .gauge other mode => if other = breaker then some mode else none
  | .event _ | .count _ => none

/-- Whether a series of that breaker moves. -/
def meters (breaker : String) : Effect → Bool
  | .count counter => counter.breaker == breaker
  | .gauge other _ => other == breaker
  | .event _ => false

end Effect

namespace Meters

variable {κ ν : Type} [DecidableEq κ]

/-- How far a counter has come. One that never moved stands at zero. -/
def value (meters : Meters) (counter : Counter) : Nat := (meters.counters.lookup counter).getD 0

/-- The mode that the gauge of a breaker shows, if it was ever set. -/
def gauge? (meters : Meters) (breaker : String) : Option Mode := meters.gauges.lookup breaker

/-- Only the entry that is changed is found changed. -/
theorem lookup_upsert (key other : κ) (change : Option ν → ν) (entries : List (κ × ν)) :
    (upsert key change entries).lookup other =
      if other = key then some (change (entries.lookup key)) else entries.lookup other := by
  induction entries with
  | nil =>
    by_cases same : other = key
    · simp [upsert, List.lookup_nil, same]
    · simp [upsert, List.lookup_cons, List.lookup_nil, beq_false_of_ne same, same]
  | cons entry rest ih =>
    obtain ⟨first, value⟩ := entry
    by_cases here : first = key
    · subst here
      by_cases same : other = first
      · simp [upsert, same]
      · simp [upsert, List.lookup_cons, beq_false_of_ne same, same]
    · have missed : (key == first) = false := beq_false_of_ne (Ne.symm here)
      simp only [upsert, if_neg here, List.lookup_cons, missed]
      by_cases found : other = first
      · have elsewhere : other ≠ key := found ▸ here
        simp [found, here]
      · simp only [beq_false_of_ne found, ih]

theorem record_value (meters : Meters) (effect : Effect) (counter : Counter) :
    (meters.record effect).value counter =
      meters.value counter + effect.counter?.toList.count counter := by
  cases effect with
  | event event => rfl
  | gauge breaker mode => rfl
  | count moved =>
    simp only [record, value, lookup_upsert, Effect.counter?, Option.toList_some,
      List.count_singleton, beq_iff_eq]
    by_cases same : counter = moved
    · subst same
      simp
    · rw [if_neg same, if_neg (Ne.symm same)]
      rfl

theorem record_gauge? (meters : Meters) (effect : Effect) (breaker : String) :
    (meters.record effect).gauge? breaker = (effect.gauge? breaker).or (meters.gauge? breaker) := by
  cases effect with
  | event event => rfl
  | count moved => rfl
  | gauge other mode =>
    simp only [record, gauge?, lookup_upsert, Effect.gauge?]
    by_cases same : other = breaker
    · rw [if_pos same, if_pos same.symm]
      rfl
    · rw [if_neg same, if_neg (Ne.symm same)]
      rfl

/-- A counter goes up once for each report of it. -/
theorem recordAll_value (meters : Meters) (effects : List Effect) (counter : Counter) :
    (meters.recordAll effects).value counter =
      meters.value counter + (effects.filterMap Effect.counter?).count counter := by
  induction effects generalizing meters with
  | nil => rfl
  | cons effect rest ih =>
    have first := meters.record_value effect counter
    have later := ih (meters.record effect)
    simp only [recordAll, List.foldl_cons] at later ⊢
    rw [later, first, Nat.add_assoc, ← List.count_append]
    cases found : effect.counter? with
    | none => rw [List.filterMap_cons_none found]; rfl
    | some moved => rw [List.filterMap_cons_some found]; rfl

/-- A gauge shows what it was set to last. -/
theorem recordAll_gauge? (meters : Meters) (effects : List Effect) (breaker : String) :
    (meters.recordAll effects).gauge? breaker =
      (effects.filterMap (Effect.gauge? breaker)).getLast?.or (meters.gauge? breaker) := by
  induction effects generalizing meters with
  | nil => rfl
  | cons effect rest ih =>
    have first := meters.record_gauge? effect breaker
    have later := ih (meters.record effect)
    simp only [recordAll, List.foldl_cons] at later ⊢
    rw [later, first]
    cases found : effect.gauge? breaker with
    | none => rw [List.filterMap_cons_none found, Option.none_or]
    | some mode =>
      rw [List.filterMap_cons_some found, List.getLast?_cons]
      cases (rest.filterMap (Effect.gauge? breaker)).getLast? <;> rfl

end Meters
end Fusebox
