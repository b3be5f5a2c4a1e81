import Fusebox.Proofs.Registry.Query

/-! All breakers of a registry under traffic. Breakers are registered, calls are made on them,
and somebody may look: at one breaker, by a question to the registry, or by way of the admin
interface. For each breaker the script of deeds comes down to a script of moves. -/
namespace Fusebox

/-- The breakers of a registry with their calls, in the same order. -/
structure Fleet where
  units : List Traffic := []

/-- One thing that happens to a registry. -/
inductive Deed where
  | register (name : String) (policy : Policy) (reading : Reading)
  /-- A move on the breaker of that name. -/
  | call (name : String) (move : Move)
  | inspect (query : Query) (reading : Reading)
  | request (key : String) (request : Admin.Request) (reading : Reading)

namespace Deed

/-- What the clocks show to a deed. -/
def reading : Deed → Reading
  | .register _ _ reading | .inspect _ reading | .request _ _ reading => reading
  | .call _ move => move.reading

/-- Whether a deed is no more than a look at breakers. -/
def looks : Deed → Bool
  | .call _ (.look _) | .inspect .. | .request .. => true
  | .call _ (.ask ..) | .call _ (.finish ..) | .register .. => false

/-- The question that a deed asks of the registry. -/
def query? : Deed → Option Query
  | .inspect query _ => some query
  | .request key sent _ => Admin.asks? key sent
  | .register .. | .call .. => none

/-- The move that a deed makes on the breaker of that name, if it is there. -/
def moveOn (name : String) (deed : Deed) : Option Move :=
  match deed with
  | .call other move => if other = name then some move else none
  | _ => deed.query?.bind fun query =>
    if query.concerns name then some (.look deed.reading) else none

/-- The breaker that a deed makes if there is none of that name. -/
def founds (name : String) : Deed → Option Traffic
  | .register other policy reading =>
    if other = name then
      match Breaker.create name policy reading with
      | .ok b => some (.fresh b)
      | .error _ => none
    else none
  | _ => none

/-- What is learned from a deed about a breaker, if it is there. -/
def tells (name : String) (deed : Deed) (unit : Option Traffic) : Echo :=
  match deed with
  | .call other move =>
    if other = name then
      match unit with
      | some t => t.echo move
      | none => .nothing
    else .nothing
  | _ =>
    match deed.query? with
    | some query => query.reveals name (unit.map fun t => (t.perform (.look deed.reading)).sight)
    | none => .nothing

variable {name : String} {deed : Deed}

/-- A deed calls on a breaker or looks at it. -/
theorem moveOn_calls_or_looks (moves : deed.moveOn name = some move) :
    deed = .call name move ∨ move = .look deed.reading := by
  have asked {reading : Reading} (found : Option Query) (moves : (found.bind fun query =>
      if query.concerns name then some (Move.look reading) else none) = some move) :
      move = .look reading := by
    obtain ⟨query, _, looked⟩ := Option.bind_eq_some_iff.mp moves
    split at looked
    · exact (Option.some.inj looked).symm
    · cases looked
  cases deed with
  | call other made =>
    simp only [moveOn] at moves
    split at moves
    · rename_i same
      cases moves
      exact .inl (same ▸ rfl)
    · cases moves
  | register other policy reading => cases moves
  | inspect query reading => exact .inr (asked (some query) moves)
  | request key sent reading => exact .inr (asked (Admin.asks? key sent) moves)

/-- A move on a breaker is made at the reading of the deed. -/
theorem moveOn_reading (moves : deed.moveOn name = some move) : move.reading = deed.reading := by
  rcases moveOn_calls_or_looks moves with rfl | rfl
  · rfl
  · rfl

/-- A deed that is no more than a look moves a breaker no further than a look does. -/
theorem moveOn_look (looks : deed.looks = true) (moves : deed.moveOn name = some move) :
    move = .look deed.reading := by
  rcases moveOn_calls_or_looks moves with rfl | rfl
  · cases move with
    | look reading => rfl
    | ask operation reading => cases looks
    | finish number ending reading => cases looks
  · rfl

theorem founds_none (looks : deed.looks = true) : deed.founds name = none := by
  cases deed with
  | register other policy reading => cases looks
  | call other move => rfl
  | inspect query reading => rfl
  | request key sent reading => rfl

/-- A breaker is made by a registration only. -/
theorem founds_registers (founds : deed.founds name = some t) :
    ∃ policy reading b, deed = .register name policy reading ∧
      Breaker.create name policy reading = .ok b ∧ t = .fresh b := by
  cases deed with
  | call other move => cases founds
  | inspect query reading => cases founds
  | request key sent reading => cases founds
  | register other policy reading =>
    simp only [Deed.founds] at founds
    split at founds
    · rename_i same
      subst same
      split at founds
      · rename_i b created
        exact ⟨policy, reading, b, rfl, created, (Option.some.inj founds).symm⟩
      · cases founds
    · cases founds

theorem founds_reached (founds : deed.founds name = some t) :
    ∃ policy, Traffic.Reached policy t := by
  obtain ⟨policy, reading, b, -, created, rfl⟩ := founds_registers founds
  exact ⟨policy, .fresh created⟩

end Deed

namespace Fleet

/-- The breakers alone. -/
def registry (fleet : Fleet) : Registry := ⟨fleet.units.map (·.breaker)⟩

/-- The breaker of a name with its calls. -/
def unit? (fleet : Fleet) (name : String) : Option Traffic :=
  fleet.units.find? (·.breaker.name == name)

/-- The same calls on the breakers as an operation left them. A new breaker has no calls. -/
def adopt (fleet : Fleet) (next : Registry) : Fleet :=
  ⟨next.breakers.map fun b =>
    match fleet.unit? b.name with
    | some t => t.onto b
    | none => .fresh b⟩

/-- Puts a breaker back after one of its operations. -/
def put (fleet : Fleet) (changed : Traffic) : Fleet :=
  ⟨fleet.units.map fun t => if t.breaker.name == changed.breaker.name then changed else t⟩

/-- Does one deed. A call needs a breaker that is registered. -/
def perform (fleet : Fleet) : Deed → Fleet
  | .register name policy reading =>
    fleet.adopt (fleet.registry.register name policy reading).state
  | .call name move =>
    match fleet.unit? name with
    | none => fleet
    | some t => fleet.put (t.perform move)
  | .inspect query reading => fleet.adopt (query.run fleet.registry reading).state
  | .request key request reading =>
    fleet.adopt (Admin.respond fleet.registry key request reading).state

/-- Does deeds one after the other. -/
def run (fleet : Fleet) (script : List Deed) : Fleet := script.foldl perform fleet

/-- What is learned from a deed about the breaker of that name. What an admin request tells
is the answer to its question, put into words. -/
def echo (fleet : Fleet) (name : String) (deed : Deed) : Echo :=
  match deed with
  | .call other move =>
    if other = name then
      match fleet.unit? name with
      | some t => t.echo move
      | none => .nothing
    else .nothing
  | _ =>
    match deed.query? with
    | some query => Findings.told name (query.run fleet.registry deed.reading).result
    | none => .nothing

variable {fleet : Fleet} {name : String} {now wall : Instant} {deed : Deed} {t : Traffic}

theorem unit?_name (found : fleet.unit? name = some t) : t.breaker.name = name := by
  simpa using List.find?_some found

theorem registry_find? (fleet : Fleet) (name : String) :
    fleet.registry.find? name = (fleet.unit? name).map (·.breaker) :=
  Registry.find?_renewed (fun _ => rfl) fleet.units name

theorem registry_found (found : fleet.unit? name = some t) :
    fleet.registry.find? name = some t.breaker := by
  rw [registry_find?, found]
  rfl

theorem registry_missing (missing : fleet.unit? name = none) :
    fleet.registry.find? name = none := by
  rw [registry_find?, missing]
  rfl

theorem adopt_registry (fleet : Fleet) (next : Registry) : (fleet.adopt next).registry = next := by
  simp only [registry, adopt, List.map_map]
  refine congrArg Registry.mk (List.map_id'' (fun b => ?_) _)
  simp only [Function.comp_apply]
  split <;> rfl

theorem adopt_unit? (fleet : Fleet) (next : Registry) (name : String) :
    (fleet.adopt next).unit? name =
      (next.find? name).map fun b =>
        match fleet.unit? b.name with
        | some t => t.onto b
        | none => .fresh b := by
  refine Registry.find?_renewed (fun b => ?_) next.breakers name
  split <;> rfl

/-- Putting a breaker back is the same with and without its calls. -/
theorem put_registry (fleet : Fleet) (changed : Traffic) :
    (fleet.put changed).registry = fleet.registry.store changed.breaker := by
  simp only [registry, put, Registry.store, List.map_map]
  refine congrArg Registry.mk (List.map_congr_left fun t _ => ?_)
  simp only [Function.comp_apply]
  split <;> rfl

theorem put_unit? (fleet : Fleet) (changed : Traffic) (name : String) :
    (fleet.put changed).unit? name =
      (fleet.unit? name).map fun t =>
        if t.breaker.name == changed.breaker.name then changed else t := by
  refine Registry.find?_renewed (fun t => ?_) fleet.units name
  exact Registry.replaced_name (fun t : Traffic => t.breaker.name) changed t

/-- What an operation leaves of a breaker that it finds. -/
theorem adopt_unit?_map {after : Traffic → Breaker} {next : Registry}
    (found : next.find? name = (fleet.unit? name).map after)
    (label : ∀ t, (after t).name = t.breaker.name) :
    (fleet.adopt next).unit? name = (fleet.unit? name).map fun t => t.onto (after t) := by
  rw [adopt_unit?, found]
  cases here : fleet.unit? name with
  | none => rfl
  | some t => simp only [Option.map_some, label, unit?_name here, here]

theorem adopt_same (fleet : Fleet) (name : String) :
    (fleet.adopt fleet.registry).unit? name = fleet.unit? name := by
  rw [adopt_unit?_map (fleet.registry_find? name) (fun _ => rfl)]
  simp only [Traffic.onto_same, Option.map_id']

/-- A question is a look at the breakers that it gets to. -/
theorem adopt_query (fleet : Fleet) (query : Query) (reading : Reading) (name : String) :
    (fleet.adopt (query.run fleet.registry reading).state).unit? name =
      (fleet.unit? name).map fun t =>
        if query.reaches fleet.registry reading name then t.perform (.look reading) else t := by
  have found := query.run_find? fleet.registry reading name
  rw [registry_find?, Option.map_map] at found
  rw [adopt_unit?_map found]
  · refine congrArg (Option.map · _) (funext fun t => ?_)
    simp only [Function.comp_apply]
    split
    · rfl
    · exact t.onto_same
  · intro t
    simp only [Function.comp_apply]
    split
    · exact t.breaker.read_name reading
    · rfl

/-- A request does what its question does, if it asks any. -/
theorem request_adopts (fleet : Fleet) (key : String) (sent : Admin.Request)
    (reading : Reading) :
    fleet.perform (.request key sent reading) =
      fleet.adopt (match Admin.asks? key sent with
        | some query => (query.run fleet.registry reading).state
        | none => fleet.registry) := by
  cases asked : Admin.asks? key sent with
  | some query => simp only [perform, Admin.respond_asked asked, Step.map]
  | none =>
    obtain ⟨effects, response, still⟩ := Admin.respond_unasked asked reading
    simp only [perform, still]

/-- A call moves the breaker of its name and no other one. -/
theorem call_unit? (fleet : Fleet) (other : String) (move : Move) (name : String) :
    (fleet.perform (.call other move)).unit? name =
      (fleet.unit? name).map fun t => if other = name then t.perform move else t := by
  simp only [perform]
  cases called : fleet.unit? other with
  | none =>
    cases found : fleet.unit? name with
    | none => rfl
    | some t =>
      have different : other ≠ name := by
        rintro rfl
        cases called.symm.trans found
      rw [Option.map_some, if_neg different]
  | some target =>
    simp only [put_unit?, Traffic.perform_name, unit?_name called]
    cases found : fleet.unit? name with
    | none => rfl
    | some t =>
      simp only [Option.map_some, unit?_name found]
      by_cases same : other = name
      · subst same
        cases called.symm.trans found
        simp
      · simp [same, Ne.symm same]

/-- A registration leaves the breakers that are there as they are. -/
theorem register_unit? (fleet : Fleet) (other : String) (policy : Policy) (reading : Reading)
    (name : String) :
    (fleet.perform (.register other policy reading)).unit? name =
      match fleet.unit? name with
      | some t => some t
      | none => (Deed.register other policy reading).founds name := by
  have made := Registry.register_find? fleet.registry other policy reading name
  rw [registry_find?] at made
  simp only [perform, Deed.founds, adopt_unit?, made]
  cases found : fleet.unit? name with
  | some t => simp only [Option.map_some, unit?_name found, found, Traffic.onto_same]
  | none =>
    simp only [Option.map_none]
    split
    · cases created : Breaker.create name policy reading with
      | error cause => rfl
      | ok b =>
        have label := Registry.created_name created
        simp only [Except.toOption, Option.map_some, label, found]
    · rfl

/-- The move that a deed makes on the breaker of that name, if it is there. A question to the
whole registry is a look at it only if it gets to it. -/
def moveOn (fleet : Fleet) (name : String) (deed : Deed) : Option Move :=
  match deed.query? with
  | some query =>
    if query.reaches fleet.registry deed.reading name then some (.look deed.reading) else none
  | none => deed.moveOn name

/-- Whether the question that a deed asks, if it asks any, gets to everything that it concerns. -/
def completes (fleet : Fleet) (deed : Deed) : Bool :=
  match deed.query? with
  | some query => query.completes fleet.registry deed.reading
  | none => true

theorem moveOn_of_completes (completes : fleet.completes deed = true) (name : String) :
    fleet.moveOn name deed = deed.moveOn name := by
  unfold moveOn
  cases asks : deed.query? with
  | none => rfl
  | some query =>
    simp only [Fleet.completes, asks] at completes
    dsimp only
    rw [Query.reaches_of_completes completes]
    cases deed with
    | register other policy reading => cases asks
    | call other move => cases asks
    | inspect asked reading =>
      cases asks
      rfl
    | request key sent reading =>
      simp only [Deed.moveOn, asks]
      rfl

/-- Where both clocks can be read no question ends before. -/
theorem completes_shown (fleet : Fleet) (shown : deed.reading = ⟨some now, some wall⟩) :
    fleet.completes deed = true := by
  unfold completes
  split
  · rw [shown]
    exact Query.completes_shown _ _ _ _
  · rfl

/-- For the breaker of a name a deed is one move at most, and breakers are made once only. -/
theorem perform_moves (fleet : Fleet) (deed : Deed) (name : String) :
    (fleet.perform deed).unit? name =
      match fleet.unit? name with
      | some t => some ((fleet.moveOn name deed).elim t t.perform)
      | none => deed.founds name := by
  have asked (query : Query) (reading : Reading) : (fleet.unit? name).map (fun t =>
      if query.reaches fleet.registry reading name then t.perform (.look reading) else t) =
      match fleet.unit? name with
      | some t => some ((if query.reaches fleet.registry reading name then
          some (Move.look reading) else none).elim t t.perform)
      | none => none := by
    cases fleet.unit? name with
    | none => rfl
    | some t => cases query.reaches fleet.registry reading name <;> rfl
  cases deed with
  | inspect query reading =>
    exact (fleet.adopt_query query reading name).trans (asked query reading)
  | request key sent reading =>
    rw [request_adopts]
    simp only [moveOn, Deed.moveOn, Deed.query?, Deed.reading, Deed.founds]
    cases Admin.asks? key sent with
    | some query => exact (fleet.adopt_query query reading name).trans (asked query reading)
    | none =>
      refine (fleet.adopt_same name).trans ?_
      cases fleet.unit? name <;> rfl
  | call other move =>
    rw [call_unit?, moveOn, Deed.query?, Deed.moveOn]
    cases fleet.unit? name with
    | none => rfl
    | some t =>
      simp only [Option.map_some]
      split <;> rfl
  | register other policy reading => exact fleet.register_unit? other policy reading name

theorem perform_found (found : fleet.unit? name = some t) (deed : Deed) :
    (fleet.perform deed).unit? name = some ((fleet.moveOn name deed).elim t t.perform) := by
  rw [perform_moves, found]

theorem perform_missing (missing : fleet.unit? name = none) (deed : Deed) :
    (fleet.perform deed).unit? name = deed.founds name := by
  rw [perform_moves, missing]

/-- If the clocks can be read, the move is that of the deed. -/
theorem perform_shown (shown : deed.reading = ⟨some now, some wall⟩)
    (found : fleet.unit? name = some t) :
    (fleet.perform deed).unit? name = some ((deed.moveOn name).elim t t.perform) := by
  rw [perform_found found, moveOn_of_completes (fleet.completes_shown shown)]

/-- No deed but a registration changes the names. -/
theorem perform_names (fleet : Fleet) (deed : Deed) :
    (fleet.perform deed).registry.names =
      match deed with
      | .register name policy reading => (fleet.registry.register name policy reading).state.names
      | _ => fleet.registry.names := by
  cases deed with
  | register name policy reading => simp only [perform, adopt_registry]
  | inspect query reading =>
    simp only [perform, adopt_registry]
    exact query.run_names fleet.registry reading
  | request key sent reading =>
    rw [request_adopts]
    split
    · rw [adopt_registry]
      exact Query.run_names _ _ _
    · rw [adopt_registry]
  | call name move =>
    simp only [perform]
    split
    · rfl
    · rw [put_registry, Registry.store_names]

/-- No two breakers of a fleet have the same name. -/
def Distinct (fleet : Fleet) : Prop := fleet.registry.names.Nodup

theorem perform_distinct (distinct : fleet.Distinct) (deed : Deed) :
    (fleet.perform deed).Distinct := by
  rw [Distinct, perform_names]
  split
  · exact Registry.register_distinct distinct _ _ _
  · exact distinct

/-- What is learned from a deed about a breaker is what the breaker shows to its move. -/
theorem echo_tells (distinct : fleet.Distinct) (shown : deed.reading = ⟨some now, some wall⟩)
    (name : String) : fleet.echo name deed = deed.tells name (fleet.unit? name) := by
  have asked (query : Query) :
      Findings.told name (query.run fleet.registry ⟨some now, some wall⟩).result =
        query.reveals name ((fleet.unit? name).map fun t =>
          (t.perform (.look ⟨some now, some wall⟩)).sight) := by
    rw [query.run_reveals distinct, registry_find?, Option.map_map]
    rfl
  cases deed with
  | inspect query reading =>
    cases shown
    exact asked query
  | request key sent reading =>
    cases shown
    simp only [echo, Deed.tells, Deed.query?]
    split
    · exact asked _
    · rfl
  | call other move => rfl
  | register other policy reading => rfl

end Fleet
end Fusebox
