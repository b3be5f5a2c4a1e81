import Fusebox.Proofs.Registry.Fleet
import Fusebox.Proofs.Traffic.Story

/-! Breakers of one registry do not interfere. Whatever is done to a registry, in whatever order,
each of its breakers is what it would be if it had been made alone at the same reading, with its
own calls and with one look for each question that is asked of the whole registry: the same
state, the same results of its calls, the same metrics. -/
namespace Fusebox

/-- What comes back from a move. -/
inductive Returned where
  | asked (result : Except Crash (Except Rejection Ticket))
  | ended (result : Except Crash Unit)
  | shown (result : Except Crash Snapshot)

theorem Registry.empty_find? (name : String) : Registry.empty.find? name = none := rfl

namespace Traffic

/-- What a breaker returns to a move. -/
def returns (t : Traffic) : Move → Option Returned
  | .ask operation reading => some (.asked (t.breaker.ask operation reading).result)
  | .look reading => some (.shown (t.breaker.read reading).result)
  | .finish number ending reading =>
    (t.call? number).map fun call =>
      .ended (t.breaker.conclude call.ticket ending reading).result

/-- What a script of moves reports. -/
def told (t : Traffic) (script : List Move) : List Effect := (t.story script).map Prod.snd

theorem told_cons (t : Traffic) (move : Move) (rest : List Move) :
    t.told (move :: rest) = t.reports move ++ (t.perform move).told rest := by
  simp [told, story]

/-- No move tells anything of the series of another breaker. -/
theorem reports_ownOf {t : Traffic} (other : t.breaker.name ≠ name) (move : Move) :
    Effect.ownOf name (t.reports move) = [] := by
  cases move with
  | look reading => exact Breaker.ownOf_of_discreet (t.breaker.read_discreet reading) other
  | ask operation reading =>
    exact Breaker.ownOf_of_discreet (t.breaker.ask_discreet operation reading) other
  | finish number ending reading =>
    simp only [reports]
    split
    · rfl
    · exact Breaker.ownOf_of_discreet (t.breaker.conclude_discreet _ ending reading) other

end Traffic

namespace Fleet

/-- What a registry returns to a move on the breaker of that name. -/
def returns (fleet : Fleet) (name : String) (move : Move) : Option Returned :=
  (fleet.registry.find? name).bind fun b =>
    match move with
    | .ask operation reading =>
      some (.asked (fleet.registry.run b (·.ask operation reading)).result)
    | .look reading => some (.shown (fleet.registry.run b (·.read reading)).result)
    | .finish number ending reading =>
      ((fleet.unit? name).bind (·.call? number)).map fun call =>
        .ended (fleet.registry.run b (·.conclude call.ticket ending reading)).result

/-- What a deed reports. -/
def reports (fleet : Fleet) : Deed → List Effect
  | .register name policy reading => (fleet.registry.register name policy reading).effects
  | .call name move =>
    match fleet.unit? name with
    | none => []
    | some t => t.reports move
  | .inspect query reading => (query.run fleet.registry reading).effects
  | .request key sent reading => (Admin.respond fleet.registry key sent reading).effects

/-- What a script of deeds reports. -/
def told (fleet : Fleet) : List Deed → List Effect
  | [] => []
  | deed :: rest => fleet.reports deed ++ (fleet.perform deed).told rest

/-- The moves that a script of deeds makes on the breaker of that name. -/
def movesOn (fleet : Fleet) (name : String) : List Deed → List Move
  | [] => []
  | deed :: rest => (fleet.moveOn name deed).toList ++ (fleet.perform deed).movesOn name rest

/-- Whether every question that is asked in a script gets to everything that it concerns. -/
def completesAll (fleet : Fleet) : List Deed → Bool
  | [] => true
  | deed :: rest => fleet.completes deed && (fleet.perform deed).completesAll rest

variable {fleet : Fleet} {name : String} {t : Traffic} {deed : Deed} {policy : Policy}
  {reading : Reading}

theorem run_append (fleet : Fleet) (first second : List Deed) :
    fleet.run (first ++ second) = (fleet.run first).run second := List.foldl_append

theorem told_append (fleet : Fleet) (first second : List Deed) :
    fleet.told (first ++ second) = fleet.told first ++ (fleet.run first).told second := by
  induction first generalizing fleet with
  | nil => rfl
  | cons deed rest ih =>
    simp only [List.cons_append, told, ih, List.append_assoc]
    rfl

/-- A breaker that is there goes on with its moves, and with nothing else. -/
theorem run_moves (found : fleet.unit? name = some t) (script : List Deed) :
    (fleet.run script).unit? name = some (t.run (fleet.movesOn name script)) := by
  induction script generalizing fleet t with
  | nil => exact found
  | cons deed rest ih =>
    have later := ih (perform_found found deed)
    rw [movesOn]
    cases moves : fleet.moveOn name deed with
    | none =>
      rw [moves] at later
      exact later
    | some move =>
      rw [moves] at later
      exact later

theorem movesOn_of_completes (completes : fleet.completesAll script = true) (name : String) :
    fleet.movesOn name script = script.filterMap (·.moveOn name) := by
  induction script generalizing fleet with
  | nil => rfl
  | cons deed rest ih =>
    obtain ⟨here, later⟩ := Bool.and_eq_true_iff.mp completes
    rw [movesOn, ih later, moveOn_of_completes here]
    cases moves : deed.moveOn name with
    | none => rw [List.filterMap_cons_none moves]; rfl
    | some move => rw [List.filterMap_cons_some moves]; rfl

theorem returns_eq (found : fleet.unit? name = some t) (move : Move) :
    fleet.returns name move = t.returns move := by
  simp only [returns, registry_found found, found, Option.bind_some]
  cases move <;> rfl

theorem register_known (found : fleet.unit? name = some t) (policy : Policy)
    (reading : Reading) :
    (fleet.registry.register name policy reading).result = .ok t.breaker := by
  simp only [Registry.register, registry_found found]
  rfl

/-- The names of the breakers are in order. That is how the registry keeps them. -/
def Ordered (fleet : Fleet) : Prop := fleet.registry.names.Pairwise (· < ·)

theorem ordered_empty : Ordered {} := List.Pairwise.nil

theorem Ordered.distinct (ordered : fleet.Ordered) : fleet.Distinct :=
  ordered.imp fun before => before.ne

theorem Ordered.perform (ordered : fleet.Ordered) (deed : Deed) : (fleet.perform deed).Ordered := by
  rw [Ordered, perform_names]
  split
  · exact Registry.register_ordered ordered _ _ _
  · exact ordered

theorem Ordered.run (ordered : fleet.Ordered) (script : List Deed) :
    (fleet.run script).Ordered := by
  induction script generalizing fleet with
  | nil => exact ordered
  | cons deed rest ih => exact ih (ordered.perform deed)

/-- What a registration reports of the series of a name: that there is a new breaker with it. -/
theorem register_ownOf (registry : Registry) (other : String) (policy : Policy) (reading : Reading)
    (name : String) :
    Effect.ownOf name (registry.register other policy reading).effects =
      if other = name ∧ registry.find? name = none then
        Effect.ownOf name (Registry.empty.register name policy reading).effects
      else [] := by
  cases known : registry.find? other with
  | some existing =>
    have taken : ¬ (other = name ∧ registry.find? name = none) := by
      rintro ⟨rfl, missing⟩
      cases known.symm.trans missing
    rw [if_neg taken]
    simp only [Registry.register, known, Step.after, Step.pure, Registry.mismatch]
    split <;> rfl
  | none =>
    by_cases same : other = name
    · subst same
      rw [if_pos ⟨rfl, known⟩]
      simp only [Registry.register, known, Registry.empty_find?]
      cases Breaker.create other policy reading <;> rfl
    · rw [if_neg fun both => same both.1]
      simp only [Registry.register, known]
      cases Breaker.create other policy reading with
      | error cause => rfl
      | ok new => simp [Effect.ownOf, Effect.meters, same]

/-- A deed that asks a question reports what the answer to it does. -/
theorem reports_asked (fleet : Fleet) (asks : deed.query? = some query) :
    fleet.reports deed = (query.run fleet.registry deed.reading).effects := by
  cases deed with
  | register other policy reading => cases asks
  | call other move => cases asks
  | inspect asked reading =>
    cases asks
    rfl
  | request key sent reading =>
    rw [reports, Admin.respond_asked asks]
    rfl

/-- A request that asks none tells nothing of any series. -/
theorem reports_unasked (fleet : Fleet) (asks : Admin.asks? key sent = none) (reading : Reading)
    (name : String) : Effect.ownOf name (fleet.reports (.request key sent reading)) = [] := by
  obtain ⟨events, response, still⟩ := Admin.respond_unasked asks reading
  rw [reports, still]
  exact Effect.ownOf_events name events

/-- What a deed reports of the series of a breaker that is there. -/
theorem reports_ownOf (distinct : fleet.Distinct) (found : fleet.unit? name = some t)
    (deed : Deed) :
    Effect.ownOf name (fleet.reports deed) =
      Effect.ownOf name ((fleet.moveOn name deed).elim [] t.reports) := by
  have known := registry_found found
  cases asks : deed.query? with
  | some query =>
    simp only [moveOn, asks, reports_asked fleet asks, query.run_ownOf distinct, known]
    by_cases gotten : query.reaches fleet.registry deed.reading name = true
    · rw [if_pos gotten, if_pos gotten]
      rfl
    · rw [if_neg gotten, if_neg gotten]
      rfl
  | none =>
    simp only [moveOn, asks]
    cases deed with
    | inspect query reading => cases asks
    | request key sent reading =>
      simp only [Deed.moveOn, asks]
      exact reports_unasked fleet asks reading name
    | register other policy reading =>
      rw [reports, register_ownOf, if_neg (by simp [known])]
      rfl
    | call other move =>
      simp only [reports, Deed.moveOn]
      by_cases same : other = name
      · subst same
        simp [found]
      · rw [if_neg same]
        cases called : fleet.unit? other with
        | none => rfl
        | some target => exact target.reports_ownOf ((unit?_name called).trans_ne same) move

/-- A deed tells nothing of the series of a name if there is no breaker with it before and after. -/
theorem reports_missing (distinct : fleet.Distinct) (missing : fleet.unit? name = none)
    (unmade : deed.founds name = none) : Effect.ownOf name (fleet.reports deed) = [] := by
  cases asks : deed.query? with
  | some query =>
    rw [reports_asked fleet asks, query.run_ownOf distinct, registry_missing missing]
  | none =>
    cases deed with
    | inspect query reading => cases asks
    | request key sent reading => exact reports_unasked fleet asks reading name
    | register other policy reading =>
      rw [reports, register_ownOf]
      split
      · rename_i same
        simp only [Deed.founds, if_pos same.1] at unmade
        simp only [Registry.register, Registry.empty_find?]
        split at unmade
        · cases unmade
        · rename_i created
          rw [created]
          rfl
      · rfl
    | call other move =>
      simp only [reports]
      cases called : fleet.unit? other with
      | none => rfl
      | some target =>
        have different : other ≠ name := by
          rintro rfl
          cases called.symm.trans missing
        exact target.reports_ownOf ((unit?_name called).trans_ne different) move

/-- What deeds report of the series of a breaker that is there is what its moves report. -/
theorem told_ownOf (ordered : fleet.Ordered) (found : fleet.unit? name = some t)
    (script : List Deed) :
    Effect.ownOf name (fleet.told script) =
      Effect.ownOf name (t.told (fleet.movesOn name script)) := by
  induction script generalizing fleet t with
  | nil => rfl
  | cons deed rest ih =>
    have here := reports_ownOf ordered.distinct found deed
    have later := ih (ordered.perform deed) (perform_found found deed)
    rw [told, movesOn, Effect.ownOf_append, here, later]
    cases fleet.moveOn name deed with
    | none => rfl
    | some move =>
      rw [Option.toList_some, List.singleton_append, Traffic.told_cons, Effect.ownOf_append]
      rfl

/-- Nothing is told of the series of a name as long as there is no breaker with it. -/
theorem told_missing (ordered : fleet.Ordered) (script : List Deed)
    (missing : (fleet.run script).unit? name = none) :
    Effect.ownOf name (fleet.told script) = [] := by
  induction script generalizing fleet with
  | nil => rfl
  | cons deed rest ih =>
    have later := ih (ordered.perform deed) missing
    -- A breaker that is there at any time is there in the end.
    have unmade : (fleet.perform deed).unit? name = none := by
      cases made : (fleet.perform deed).unit? name with
      | none => rfl
      | some t => cases missing.symm.trans (run_moves made rest)
    have unknown : fleet.unit? name = none := by
      cases found : fleet.unit? name with
      | none => rfl
      | some t => cases unmade.symm.trans (perform_found found deed)
    rw [perform_missing unknown] at unmade
    rw [told, Effect.ownOf_append, reports_missing ordered.distinct unknown unmade, later]
    rfl

/-- A registration in a script of deeds that makes the breaker of a name, with the deeds before
and after it. -/
structure Founding (name : String) (script : List Deed) where
  before : List Deed
  policy : Policy
  reading : Reading
  made : Breaker
  after : List Deed
  script_eq : script = before ++ .register name policy reading :: after
  unknown : (run {} before).unit? name = none
  created : Breaker.create name policy reading = .ok made

namespace Founding

variable {script : List Deed}

/-- The breakers that there are when a new one has been made. -/
def start (founding : Founding name script) : Fleet :=
  (run {} founding.before).perform (.register name founding.policy founding.reading)

/-- The new breaker as it would be in a registry of its own. -/
def alone (founding : Founding name script) : Traffic := .fresh founding.made

/-- All moves on the new breaker. -/
def moves (founding : Founding name script) : List Move :=
  founding.start.movesOn name founding.after

/-- What would be reported if there were no other breaker. -/
def toldAlone (founding : Founding name script) : List Effect :=
  (Registry.empty.register name founding.policy founding.reading).effects ++
    founding.alone.told founding.moves

/-- A new breaker goes on as it would do in a registry of its own. -/
structure Independent (founding : Founding name script) : Prop where
  /-- Its moves are its own calls, and a look for each question of which it is a part. -/
  moves : founding.start.completesAll founding.after = true →
    founding.moves = founding.after.filterMap (·.moveOn name)
  unit : (run {} script).unit? name = some (founding.alone.run founding.moves)
  /-- Whoever asks for it gets it, whatever policy they bring. -/
  given : ∀ policy reading, ((run {} script).registry.register name policy reading).result =
    .ok (founding.alone.run founding.moves).breaker
  /-- Every call returns what it would have returned. -/
  returns : ∀ earlier move later, founding.after = earlier ++ .call name move :: later →
    (founding.start.run earlier).returns name move =
      (founding.alone.run (founding.start.movesOn name earlier)).returns move
  counters : ∀ counter : Counter, counter.breaker = name →
    (Meters.recordAll {} (told {} script)).value counter =
      (Meters.recordAll {} founding.toldAlone).value counter
  gauge : (Meters.recordAll {} (told {} script)).gauge? name =
    (Meters.recordAll {} founding.toldAlone).gauge? name

theorem found (founding : Founding name script) :
    founding.start.unit? name = some founding.alone := by
  rw [start, perform_missing founding.unknown]
  simp only [Deed.founds, ↓reduceIte, founding.created]
  rfl

theorem run_script (founding : Founding name script) :
    run {} script = founding.start.run founding.after := by
  conv_lhs => rw [founding.script_eq, run_append]
  rfl

/-- What is told of the series of the new breaker is what would be told of it alone. -/
theorem told_script (founding : Founding name script) :
    Effect.ownOf name (told {} script) = Effect.ownOf name founding.toldAlone := by
  have ordered : Ordered (run {} founding.before) := ordered_empty.run _
  have unknown := registry_missing founding.unknown
  have quiet := told_missing ordered_empty founding.before founding.unknown
  have later := told_ownOf (ordered.perform _) founding.found founding.after
  have first := register_ownOf (run {} founding.before).registry name founding.policy
    founding.reading name
  rw [if_pos ⟨rfl, unknown⟩] at first
  conv_lhs => rw [founding.script_eq, told_append, Effect.ownOf_append, quiet]
  rw [List.nil_append, told, reports, toldAlone, Effect.ownOf_append, Effect.ownOf_append, first]
  exact congrArg _ later

theorem independent (founding : Founding name script) : founding.Independent := by
  have found := founding.found
  have unit : (run {} script).unit? name = some (founding.alone.run founding.moves) := by
    rw [founding.run_script]
    exact run_moves found founding.after
  have same := founding.told_script
  constructor
  · intro completes
    exact movesOn_of_completes completes name
  · exact unit
  · intro policy reading
    exact register_known unit policy reading
  · intro earlier move _ _
    exact returns_eq (run_moves found earlier) move
  · intro counter own
    exact Meters.value_ownOf own same
  · exact Meters.gauge?_ownOf same

end Founding

/-- A breaker that is there in the end was made by one of the deeds. -/
theorem run_founded {script : List Deed} (missing : fleet.unit? name = none)
    (found : (fleet.run script).unit? name = some t) :
    ∃ before policy reading b after, script = before ++ .register name policy reading :: after ∧
      (fleet.run before).unit? name = none ∧ Breaker.create name policy reading = .ok b := by
  induction script generalizing fleet with
  | nil => cases missing.symm.trans found
  | cons deed rest ih =>
    have next := perform_missing missing deed
    cases founds : deed.founds name with
    | none =>
      rw [founds] at next
      obtain ⟨before, policy, reading, b, after, rfl, unknown, created⟩ := ih next found
      exact ⟨deed :: before, policy, reading, b, after, rfl, unknown, created⟩
    | some first =>
      obtain ⟨policy, reading, b, rfl, created, -⟩ := Deed.founds_registers founds
      exact ⟨[], policy, reading, b, rest, rfl, missing, created⟩

theorem names_founded (script : List Deed) (name : String) :
    name ∈ (run {} script).registry.names ↔ Nonempty (Founding name script) := by
  constructor
  · intro known
    obtain ⟨b, member, same⟩ := List.mem_map.mp known
    cases found : (run {} script).unit? name with
    | none =>
      have missing := List.find?_eq_none.mp (registry_missing found) b member
      exact absurd (beq_iff_eq.mpr same) missing
    | some t =>
      obtain ⟨before, policy, reading, b, after, split, unknown, created⟩ := run_founded rfl found
      exact ⟨⟨before, policy, reading, b, after, split, unknown, created⟩⟩
  · rintro ⟨founding⟩
    have known := registry_found founding.independent.unit
    exact List.mem_map.mpr ⟨_, List.mem_of_find?_eq_some known, Registry.find?_name known⟩

/-- Whatever is done to a registry, each of its breakers was made by a registration, and from then
on it is what it would be in a registry of its own. To read all breakers is to read each one. -/
theorem breakers_do_not_interfere (script : List Deed) (name : String) :
    (name ∈ (run {} script).registry.names ↔ Nonempty (Founding name script)) ∧
      (∀ founding : Founding name script, founding.Independent) ∧
      ∀ reading, (run {} script).registry.Surveyed reading := by
  refine ⟨names_founded script name, fun founding => founding.independent, fun reading => ?_⟩
  exact Registry.surveyed (ordered_empty.run script) reading

/-- Another breaker opens first. That makes no difference to this one, nor does it that somebody
asks for it with another policy or looks for it without the key. -/
theorem breakers_do_not_interfere_in_outages :
    let before : List Deed := [
      .register "wary" .wary (.past 0),
      .call "wary" (.ask "early" (.past 0))]
    let after : List Deed := [
      .call "touchy" (.ask "first" (.past 1)),
      .call "wary" (.finish 0 .failed (.past 2)),
      .inspect .all (.past 3),
      .register "touchy" .wary (.past 4),
      .call "touchy" (.finish 0 .failed (.past 5)),
      .inspect .openNames (.past 12),
      .inspect (.one "wary") (.past 13),
      .request "key" ⟨"GET", "/admin/breakers/touchy", []⟩ (.past 14)]
    let script := before ++ .register "touchy" .touchy (.past 0) :: after
    let founding : Founding "touchy" script :=
      ⟨before, .touchy, .past 0, .touchy, after, rfl, rfl, Breaker.touchy_created⟩
    let registry := (run {} script).registry
    "touchy" ∈ registry.names ∧ founding.Independent ∧
      founding.moves = [
        .ask "first" (.past 1),
        .look (.past 3),
        .finish 0 .failed (.past 5),
        .look (.past 12)] ∧
      registry.Surveyed (.past 14) ∧
      (registry.openNames (.past 14)).result = .ok ["touchy"] ∧
      registry.Surveyed (.past 15) ∧
      (registry.openNames (.past 15)).result = .ok [] := by
  intro before after script founding registry
  obtain ⟨founded, independent, surveyed⟩ := breakers_do_not_interfere script "touchy"
  exact ⟨founded.mpr ⟨founding⟩, independent founding, by decide, surveyed _, rfl, surveyed _, rfl⟩

end Fleet
end Fusebox
