import Fusebox.Proofs.Breaker.Reports
import Fusebox.Proofs.Registry.Names
import Mathlib.Data.String.Basic

/-! Reading a whole registry is reading its breakers one by one, in the order of their names. It
ends with the first one at which a clock cannot be read; if there is none, every breaker has been
read as if it were the only one, and the entries are in the order of the names. -/
namespace Fusebox

namespace Effect

/-- What is told of the series of one breaker. -/
def ownOf (name : String) (effects : List Effect) : List Effect := effects.filter (·.meters name)

@[simp] theorem ownOf_append (name : String) (first second : List Effect) :
    ownOf name (first ++ second) = ownOf name first ++ ownOf name second := List.filter_append ..

theorem ownOf_events (name : String) (events : List Event) :
    ownOf name (events.map Effect.event) = [] := by
  refine List.filter_eq_nil_iff.mpr fun effect member => ?_
  obtain ⟨event, -, rfl⟩ := List.mem_map.mp member
  exact Bool.false_ne_true

end Effect

namespace Meters

/-- A counter of a breaker depends on what is told of this breaker only. -/
theorem value_ownOf {counter : Counter} (own : counter.breaker = name)
    (same : Effect.ownOf name effects = Effect.ownOf name others) :
    (recordAll {} effects).value counter = (recordAll {} others).value counter := by
  let ofName (moved : Counter) : Bool := moved.breaker == name
  have kept : ofName counter = true := beq_iff_eq.mpr own
  have alone (effects : List Effect) :
      ((Effect.ownOf name effects).filterMap Effect.counter?).count counter =
        (effects.filterMap Effect.counter?).count counter := by
    refine Eq.trans ?_ (List.count_filter kept)
    rw [Effect.ownOf, List.filterMap_filter, List.filter_filterMap]
    refine congrArg (List.count counter) (List.filterMap_congr fun effect _ => ?_)
    cases effect with
    | event event => rfl
    | gauge breaker mode => exact ite_self _
    | count moved =>
      by_cases here : moved.breaker = name <;>
        simp [Effect.meters, Effect.counter?, Option.filter, ofName, here]
  rw [recordAll_value, recordAll_value, ← alone effects, ← alone others, same]

/-- So does its gauge. -/
theorem gauge?_ownOf (same : Effect.ownOf name effects = Effect.ownOf name others) :
    (recordAll {} effects).gauge? name = (recordAll {} others).gauge? name := by
  have alone (effects : List Effect) :
      (Effect.ownOf name effects).filterMap (Effect.gauge? name) =
        effects.filterMap (Effect.gauge? name) := by
    refine List.filterMap_filter.trans (List.filterMap_congr fun effect _ => ?_)
    cases effect with
    | event event => rfl
    | count moved => exact ite_self _
    | gauge breaker mode =>
      by_cases here : breaker = name <;> simp [Effect.meters, Effect.gauge?, here]
  rw [recordAll_gauge?, recordAll_gauge?, ← alone effects, ← alone others, same]

end Meters

namespace Breaker

/-- Nothing is told of the series of other breakers. -/
theorem ownOf_of_discreet {step : Step Effect Breaker α} (discreet : Discreet b step)
    (other : b.name ≠ label) : Effect.ownOf label step.effects = [] := by
  refine List.filter_eq_nil_iff.mpr fun effect member moved => ?_
  exact other (discreet.own effect member label moved).symm

theorem read_name (b : Breaker) (reading : Reading) : (b.read reading).state.name = b.name :=
  (b.read_discreet reading).name

end Breaker

namespace Registry

variable {registry : Registry} {breakers : List Breaker} {name : String} {reading : Reading}

/-- Whether a reading of all breakers gets to the one of that name: every one that comes before
it has to be readable. -/
def getsTo (breakers : List Breaker) (reading : Reading) (name : String) : Bool :=
  (breakers.takeWhile (·.name != name)).all fun b => (b.read reading).result.isOk

/-- A breaker that is gotten to is read, and any other one is left alone. -/
theorem readEach_find? (breakers : List Breaker) (reading : Reading) (name : String) :
    (readEach reading breakers).state.find? (·.name == name) =
      (breakers.find? (·.name == name)).map fun b =>
        if getsTo breakers reading name then (b.read reading).state else b := by
  induction breakers with
  | nil => rfl
  | cons first rest ih =>
    have label := first.read_name reading
    by_cases here : first.name = name
    · have gotten : getsTo (first :: rest) reading name = true := by simp [getsTo, here]
      simp only [readEach, gotten, ↓reduceIte]
      cases (first.read reading).result with
      | error cause => simp [label, here]
      | ok shown => simp [Step.after, Step.map, Step.within, label, here]
    · cases read : (first.read reading).result with
      | error cause =>
        have missed : getsTo (first :: rest) reading name = false := by
          simp [getsTo, here, read, Except.isOk, Except.toBool]
        simp [readEach, read, missed, label, here]
      | ok shown =>
        have onward : getsTo (first :: rest) reading name = getsTo rest reading name := by
          simp [getsTo, here, read, Except.isOk, Except.toBool]
        simpa [readEach, read, onward, Step.after, Step.map, Step.within, label, here] using ih

theorem readEach_names (breakers : List Breaker) (reading : Reading) :
    (readEach reading breakers).state.map (·.name) = breakers.map (·.name) := by
  induction breakers with
  | nil => rfl
  | cons first rest ih =>
    have label := first.read_name reading
    cases read : (first.read reading).result with
    | error cause => simp [readEach, read, label]
    | ok shown => simpa [readEach, read, Step.after, Step.map, Step.within, label] using ih

/-- Where the names are distinct, a breaker tells what it tells to its own reading. -/
theorem readEach_ownOf (distinct : (breakers.map (·.name)).Nodup) (reading : Reading)
    (name : String) :
    Effect.ownOf name (readEach reading breakers).effects =
      match breakers.find? (·.name == name) with
      | some b =>
        if getsTo breakers reading name then Effect.ownOf name (b.read reading).effects else []
      | none => [] := by
  induction breakers with
  | nil => rfl
  | cons first rest ih =>
    obtain ⟨fresh, distinct⟩ := List.nodup_cons.mp distinct
    have later := ih distinct
    by_cases here : first.name = name
    · have gotten : getsTo (first :: rest) reading name = true := by simp [getsTo, here]
      have missing : rest.find? (·.name == name) = none := by
        refine List.find?_eq_none.mpr fun b member same => fresh ?_
        exact List.mem_map.mpr ⟨b, member, (beq_iff_eq.mp same).trans here.symm⟩
      rw [missing] at later
      simp only [readEach, gotten, ↓reduceIte, List.find?_cons, here, beq_self_eq_true]
      cases (first.read reading).result with
      | error cause => rfl
      | ok shown => simp [Step.after, Step.map, Step.within, later]
    · have quiet := Breaker.ownOf_of_discreet (first.read_discreet reading) here
      cases read : (first.read reading).result with
      | error cause =>
        have missed : getsTo (first :: rest) reading name = false := by
          simp [getsTo, here, read, Except.isOk, Except.toBool]
        simp only [readEach, read, missed, quiet]
        split <;> simp
      | ok shown =>
        have onward : getsTo (first :: rest) reading name = getsTo rest reading name := by
          simp [getsTo, here, read, Except.isOk, Except.toBool]
        have skipped : (first :: rest).find? (·.name == name) = rest.find? (·.name == name) := by
          simp [here]
        simp only [readEach, read, onward, skipped, Step.after, Step.map, Step.within,
          Effect.ownOf_append, quiet, List.nil_append]
        exact later

/-- A reading of all breakers is answered if and only if every one is readable, and then it
shows what each of them shows to its own reading. -/
theorem readEach_answered (breakers : List Breaker) (reading : Reading)
    (shown : List (String × Snapshot)) :
    (readEach reading breakers).result = .ok shown ↔
      shown.map (fun entry => (entry.1, .ok entry.2)) =
        breakers.map fun b => (b.name, (b.read reading).result) := by
  induction breakers generalizing shown with
  | nil =>
    simp only [readEach, Step.pure, List.map_nil, List.map_eq_nil_iff, Except.ok.injEq]
    exact eq_comm
  | cons first rest ih =>
    cases read : (first.read reading).result with
    | error cause =>
      simp only [readEach, read]
      constructor
      · intro answered
        cases answered
      · intro same
        cases shown with
        | nil => cases same
        | cons entry later => simp [read] at same
    | ok snapshot =>
      simp only [readEach, read, Step.after, Step.map, Step.within, List.map_cons]
      constructor
      · intro answered
        cases found : (readEach reading rest).result with
        | error cause => simp [found, Except.map] at answered
        | ok tail =>
          simp only [found, Except.map, Except.ok.injEq] at answered
          rw [← answered, ← (ih tail).mp found]
          rfl
      · intro same
        cases shown with
        | nil => cases same
        | cons entry later =>
          obtain ⟨head, tail⟩ := List.cons.inj same
          obtain ⟨label, value⟩ := entry
          simp only [Prod.mk.injEq, Except.ok.injEq] at head
          obtain ⟨rfl, rfl⟩ := head
          rw [(ih later).mpr tail]
          rfl

theorem readEach_fine (fine : ∀ b ∈ breakers, (b.read reading).result.isOk = true) :
    (readEach reading breakers).result.isOk = true := by
  induction breakers with
  | nil => rfl
  | cons first rest ih =>
    have here := fine first List.mem_cons_self
    have later := ih fun b member => fine b (.tail _ member)
    cases read : (first.read reading).result with
    | error cause => simp [read, Except.isOk, Except.toBool] at here
    | ok snapshot =>
      simp only [readEach, read, Step.after, Step.map, Step.within]
      cases found : (readEach reading rest).result with
      | error cause => simp [found, Except.isOk, Except.toBool] at later
      | ok tail => rfl

/-- A reading is answered if and only if every breaker is readable. -/
theorem readEach_isOk_iff : (readEach reading breakers).result.isOk = true ↔
    ∀ b ∈ breakers, (b.read reading).result.isOk = true := by
  refine ⟨fun fine b member => ?_, readEach_fine⟩
  cases answered : (readEach reading breakers).result with
  | error cause => simp [answered, Except.isOk, Except.toBool] at fine
  | ok shown =>
    have entry : (b.name, (b.read reading).result) ∈
        breakers.map fun b => (b.name, (b.read reading).result) := List.mem_map_of_mem member
    rw [← (readEach_answered breakers reading shown).mp answered] at entry
    obtain ⟨found, -, same⟩ := List.mem_map.mp entry
    rw [← (Prod.mk.inj same).2]
    rfl

/-- A new breaker has its place among the others by name. -/
theorem place_ordered {breakers : List Breaker} (new : Breaker)
    (ordered : (breakers.map (·.name)).Pairwise (· < ·))
    (unknown : ∀ b ∈ breakers, b.name ≠ new.name) :
    ((place new breakers).map (·.name)).Pairwise (· < ·) := by
  induction breakers with
  | nil => exact List.pairwise_singleton _ _
  | cons first rest ih =>
    obtain ⟨least, ordered⟩ := List.pairwise_cons.mp ordered
    unfold place
    split
    · rename_i before
      refine List.pairwise_cons.mpr ⟨fun name member => ?_, ?_⟩
      · rcases List.mem_cons.mp ((place_names new rest).mem_iff.mp member) with rfl | known
        · exact before
        · exact least name known
      · exact ih ordered fun b member => unknown b (.tail _ member)
    · rename_i behind
      have before : new.name < first.name :=
        lt_of_le_of_ne (not_lt.mp behind) (unknown first List.mem_cons_self).symm
      refine List.pairwise_cons.mpr ⟨fun name member => ?_, List.pairwise_cons.mpr ⟨least, ordered⟩⟩
      rcases List.mem_cons.mp member with rfl | known
      · exact before
      · exact before.trans (least name known)

theorem register_ordered (ordered : registry.names.Pairwise (· < ·)) (other : String)
    (policy : Policy) (reading : Reading) :
    (registry.register other policy reading).state.names.Pairwise (· < ·) := by
  unfold register
  split
  · exact ordered
  · rename_i unknown
    split
    · exact ordered
    · rename_i new created
      refine place_ordered new ordered fun b member same => ?_
      have missing := List.find?_eq_none.mp unknown b member
      simp [same, created_name created] at missing

theorem find?_eq_some_iff (distinct : registry.names.Nodup) :
    registry.find? name = some b ↔ b ∈ registry.breakers ∧ b.name = name := by
  constructor
  · intro found
    exact ⟨List.mem_of_find?_eq_some found, find?_name found⟩
  · rintro ⟨member, rfl⟩
    cases found : registry.find? b.name with
    | none =>
      have missing := List.find?_eq_none.mp found b member
      simp at missing
    | some other =>
      -- Only one breaker has that name.
      exact congrArg some (List.inj_on_of_nodup_map distinct (List.mem_of_find?_eq_some found)
        member (find?_name found))

/-- A reading of a whole registry is one reading of each breaker. -/
structure Surveyed (registry : Registry) (reading : Reading) : Prop where
  ordered : registry.names.Pairwise (· < ·)
  answered : (registry.readAll reading).result.isOk = true ↔
    ∀ b ∈ registry.breakers, (b.read reading).result.isOk = true
  /-- Every name has one entry, which is what its breaker shows to its own reading. -/
  shown : ∀ shown, (registry.readAll reading).result = .ok shown →
    shown.map Prod.fst = registry.names ∧ ∀ name snapshot, (name, snapshot) ∈ shown ↔
      ∃ b, registry.find? name = some b ∧ (b.read reading).result = .ok snapshot
  /-- Those that are open are listed in the same order. -/
  listed : ∀ names, (registry.openNames reading).result = .ok names →
    names.Pairwise (· < ·) ∧ ∃ shown, (registry.readAll reading).result = .ok shown ∧
      ∀ name, name ∈ names ↔ ∃ snapshot, (name, snapshot) ∈ shown ∧ snapshot.mode = .opened

theorem readAll_keys (answered : (registry.readAll reading).result = .ok shown) :
    shown.map Prod.fst = registry.names := by
  have same := (readEach_answered registry.breakers reading shown).mp answered
  have names := congrArg (List.map Prod.fst) same
  rw [List.map_map, List.map_map] at names
  exact names

theorem readAll_entries (distinct : registry.names.Nodup)
    (answered : (registry.readAll reading).result = .ok shown) (name : String)
    (snapshot : Snapshot) :
    (name, snapshot) ∈ shown ↔
      ∃ b, registry.find? name = some b ∧ (b.read reading).result = .ok snapshot := by
  have same := (readEach_answered registry.breakers reading shown).mp answered
  have entries := congrArg ((name, Except.ok snapshot) ∈ ·) same
  simp only [List.mem_map, Prod.mk.injEq, Except.ok.injEq, Prod.exists, ↓existsAndEq, and_true,
    eq_iff_iff] at entries
  simp only [find?_eq_some_iff distinct]
  constructor
  · intro member
    obtain ⟨b, known, label, read⟩ := entries.mp member
    exact ⟨b, ⟨known, label⟩, read⟩
  · rintro ⟨b, ⟨known, label⟩, read⟩
    exact entries.mpr ⟨b, known, label, read⟩

theorem surveyed (ordered : registry.names.Pairwise (· < ·)) (reading : Reading) :
    Surveyed registry reading := by
  have distinct : registry.names.Nodup := ordered.imp fun before => before.ne
  constructor
  · exact ordered
  · exact readEach_isOk_iff
  · intro shown answered
    exact ⟨readAll_keys answered, readAll_entries distinct answered⟩
  · intro names answered
    simp only [openNames, Step.map] at answered
    cases read : (registry.readAll reading).result with
    | error cause => simp [read, Except.map] at answered
    | ok shown =>
      simp only [read, Except.map, Except.ok.injEq] at answered
      subst answered
      refine ⟨?_, shown, rfl, fun name => ?_⟩
      · have sorted : (shown.map Prod.fst).Pairwise (· < ·) := readAll_keys read ▸ ordered
        exact sorted.sublist (List.filter_sublist.map Prod.fst)
      · simp [openAmong]

end Registry
end Fusebox
