import Fusebox.Proofs.Registry.Directory
import Fusebox.Rehearsal

/-! The first request for a breaker settles it for good. Everybody who asks for a name is given the
same breaker, with the policy that the first one of them brought; the others are told if theirs is
another one. A breaker is moved by its own calls and by nothing else. -/
namespace Fusebox

/-- Whether an effect announces a new breaker of that name. -/
def Effect.registers (name : String) : Effect → Bool
  | .event (.registered other _) => other == name
  | _ => false

/-- Clocks that can be read let every registration succeed, -/
theorem Registry.register_readable (registry : Registry) (name : String) (policy : Policy)
    (now wall : Instant) :
    ∃ b, (registry.register name policy ⟨some now, some wall⟩).result = .ok b := by
  unfold register
  split
  · exact ⟨_, rfl⟩
  · exact ⟨_, rfl⟩

/-- and others let none make a breaker. -/
theorem Registry.register_unreadable (unreadable : reading.now = none ∨ reading.wall = none)
    (registry : Registry) (name : String) (policy : Policy) :
    (registry.register name policy reading).state = registry := by
  unfold register
  split
  · rfl
  · obtain ⟨now, wall⟩ := reading
    rcases unreadable with unseen | unseen
    · cases unseen
      rfl
    · cases unseen
      cases now <;> rfl

theorem Fleet.run_unreadable (unreadable : reading.now = none ∨ reading.wall = none)
    (fleet : Fleet) (entries : List (String × Policy)) :
    (fleet.run (entries.map fun entry => .register entry.1 entry.2 reading)).registry =
      fleet.registry := by
  induction entries generalizing fleet with
  | nil => rfl
  | cons entry rest ih =>
    refine (ih (fleet.perform (.register entry.1 entry.2 reading))).trans ?_
    rw [perform, adopt_registry, Registry.register_unreadable unreadable]

/-- Breakers that are registered together are registered one after the other. -/
theorem Fleet.registerAll_state (fleet : Fleet) (reading : Reading)
    (entries : List (String × Policy)) :
    (fleet.registry.registerAll reading entries).state =
      (fleet.run (entries.map fun entry => .register entry.1 entry.2 reading)).registry := by
  induction entries generalizing fleet with
  | nil => rfl
  | cons entry rest ih =>
    obtain ⟨name, policy⟩ := entry
    have next : (fleet.perform (.register name policy reading)).registry =
        (fleet.registry.register name policy reading).state := by
      rw [perform, adopt_registry]
    have later := ih (fleet.perform (.register name policy reading))
    rw [next] at later
    unfold Registry.registerAll Step.bind
    split
    -- What fails here fails for want of a clock, and then all that follows would fail as well.
    · rename_i crashed
      have unreadable : reading.now = none ∨ reading.wall = none := by
        obtain ⟨_ | now, _ | wall⟩ := reading
        · exact .inl rfl
        · exact .inl rfl
        · exact .inr rfl
        · obtain ⟨b, done⟩ := fleet.registry.register_readable name policy now wall
          cases crashed.symm.trans done
      rw [fleet.run_unreadable unreadable, Registry.register_unreadable unreadable]
    · exact later

namespace Rehearsal

theorem notes_registry (r : Rehearsal α) (reports : List Report) :
    (reports.foldl note r).registry = r.registry := by
  induction reports generalizing r with
  | nil => rfl
  | cons report rest ih =>
    refine (ih (r.note report)).trans ?_
    unfold note
    split <;> rfl

/-- A client for forecasts is a registration of one and the same name. -/
theorem newClient_registry (r : Rehearsal α) (id : String) (policy : Policy) :
    (r.perform (.newClient id policy)).1.registry =
      (r.registry.register forecastBreaker policy r.reading).state := by
  have taken : (r.absorbBare (r.registry.register forecastBreaker policy r.reading)).1.registry =
      (r.registry.register forecastBreaker policy r.reading).state := notes_registry _ _
  simp only [perform]
  split
  · rename_i absorbed
    rw [absorbed] at taken
    exact taken
  · rename_i absorbed
    rw [absorbed] at taken
    exact taken

end Rehearsal

/-- A step and what goes on after it report nothing of a kind if neither of them does. -/
theorem Step.bind_countP {first : Step ε σ α} {next : σ → α → Step ε σ β} {kind : ε → Bool}
    (before : first.effects.countP kind = 0)
    (after : ∀ value, (next first.state value).effects.countP kind = 0) :
    (first.bind next).effects.countP kind = 0 := by
  unfold bind
  split
  · exact before
  · rename_i value _
    simp only [List.countP_append, before, after value]

namespace Breaker

variable {b : Breaker} {now : Instant} {wall : Option Instant} {step : Step Effect Breaker Unit}

/-- A breaker does not announce itself. -/
theorem Announced.unregistering (announced : Announced b now wall step) (name : String) :
    step.effects.countP (·.registers name) = 0 := by
  cases announced with
  | silent name mode changedAt => rfl
  | changed other remark => cases remark <;> rfl
  | torn other remark => cases remark <;> rfl

theorem read_unregistering (b : Breaker) (reading : Reading) (name : String) :
    (b.read reading).effects.countP (·.registers name) = 0 := by
  unfold read
  split
  · rfl
  · split
    · rfl
    · exact Step.bind_countP ((refresh_announced b _ _).unregistering name) fun _ => rfl

theorem ask_unregistering (b : Breaker) (operation : String) (reading : Reading) (name : String) :
    (b.ask operation reading).effects.countP (·.registers name) = 0 := by
  unfold ask
  split
  · rfl
  · refine Step.bind_countP ((refresh_announced b _ _).unregistering name) fun _ => ?_
    split <;> rfl

theorem conclude_unregistering (b : Breaker) (ticket : Ticket) (ending : Ending)
    (reading : Reading) (name : String) :
    (b.conclude ticket ending reading).effects.countP (·.registers name) = 0 := by
  have completes :
      (b.complete ticket ending.success reading).effects.countP (·.registers name) = 0 := by
    obtain ⟨now, wall⟩ := reading
    cases now with
    | none => rfl
    | some now =>
      rw [complete_received]
      simp only [Step.after, List.countP_append]
      refine Nat.add_eq_zero_iff.mpr ⟨rfl, ?_⟩
      refine Step.bind_countP ((refresh_announced b now wall).unregistering name) fun _ => ?_
      split
      · rfl
      · exact (note_announced _ _ now wall).unregistering name
  rw [conclude_completes]
  simp only [Step.after, List.countP_append, completes]
  cases ending <;> rfl

end Breaker

theorem Traffic.reports_unregistering (t : Traffic) (move : Move) (name : String) :
    (t.reports move).countP (·.registers name) = 0 := by
  cases move with
  | look reading => exact t.breaker.read_unregistering reading name
  | ask operation reading => exact t.breaker.ask_unregistering operation reading name
  | finish number ending reading =>
    simp only [reports]
    split
    · rfl
    · exact t.breaker.conclude_unregistering _ ending reading name

namespace Directory

variable {d : Directory} {name : String} {handle : Nat} {t : Traffic} {policy : Policy}

/-- What was given, and what it is. -/
structure Settled (d : Directory) : Prop where
  grants : ∀ grant ∈ d.grants, d.handle? grant.name = some grant.handle
  first : ∀ name handle t, d.handle? name = some handle → d.made[handle]? = some t →
    ∃ policy, d.grants.find? (·.name == name) = some ⟨name, some policy, handle⟩ ∧
      Traffic.Reached policy t
  announced : ∀ name,
    d.told.countP (·.registers name) = if (d.handle? name).isSome then 1 else 0

theorem Settled.empty : Settled {} where
  grants := by
    intro grant member
    cases member
  first := by
    intro name handle t known
    cases known
  announced := by
    intro name
    rfl

/-- Another grant of a known name changes nothing that is settled. -/
theorem Settled.grant (settled : d.Settled) (known : d.handle? name = some handle)
    (policy : Option Policy) (effects : List Effect)
    (unregistering : ∀ name, effects.countP (·.registers name) = 0) :
    (d.grant ⟨name, policy, handle⟩ effects).Settled where
  grants := by
    intro grant member
    rcases List.mem_append.mp member with old | new
    · exact settled.grants grant old
    · cases List.mem_singleton.mp new
      exact known
  first := by
    intro name handle t named there
    obtain ⟨policy, first, reached⟩ := settled.first name handle t named there
    refine ⟨policy, ?_, reached⟩
    rw [Directory.grant, List.find?_append, first]
    rfl
  announced := by
    intro name
    rw [Directory.grant, List.countP_append, unregistering, Nat.add_zero]
    exact settled.announced name

/-- A new breaker settles a name that nobody has been given before. -/
theorem Settled.found (settled : d.Settled) (indexed : d.Indexed)
    (missing : d.handle? name = none) (created : Breaker.create name policy reading = .ok new) :
    (d.found name policy new).Settled := by
  have strange : ∀ grant ∈ d.grants, grant.name ≠ name := by
    rintro grant member rfl
    cases missing.symm.trans (settled.grants grant member)
  constructor
  · intro grant member
    simp only [Directory.found]
    rcases List.mem_append.mp member with old | new
    · rw [if_neg (strange grant old)]
      exact settled.grants grant old
    · cases List.mem_singleton.mp new
      exact if_pos rfl
  · intro other handle t named there
    simp only [Directory.found] at named there ⊢
    by_cases same : other = name
    · subst same
      rw [if_pos rfl] at named
      cases named
      rw [List.getElem?_append_right (Nat.le_refl _), Nat.sub_self] at there
      cases there
      refine ⟨policy, ?_, .fresh created⟩
      have unknown : d.grants.find? (·.name == other) = none := by
        apply List.find?_eq_none.mpr
        intro grant member
        simpa using strange grant member
      rw [List.find?_append, unknown]
      simp
    · rw [if_neg same] at named
      obtain ⟨u, held, -⟩ := (indexed other handle).mp named
      obtain ⟨inside, -⟩ := List.getElem?_eq_some_iff.mp held
      rw [List.getElem?_append_left inside] at there
      obtain ⟨policy, first, reached⟩ := settled.first other handle t named there
      refine ⟨policy, ?_, reached⟩
      rw [List.find?_append, first]
      rfl
  · intro other
    simp only [Directory.found, List.countP_append, settled.announced other]
    by_cases same : other = name
    · subst same
      simp [missing, Effect.registers]
    · simp [same, Ne.symm same, Effect.registers]

theorem Settled.move (settled : d.Settled) (there : d.made[handle]? = some t) (motion : Move) :
    (d.move handle t motion).Settled where
  grants := settled.grants
  first := by
    intro name other u named held
    simp only [Directory.move, List.getElem?_set] at held
    obtain ⟨inside, -⟩ := List.getElem?_eq_some_iff.mp there
    by_cases same : handle = other
    · subst same
      rw [if_pos rfl, if_pos inside] at held
      cases held
      obtain ⟨policy, first, reached⟩ := settled.first name handle t named there
      exact ⟨policy, first, Traffic.perform_reached reached motion⟩
    · rw [if_neg same] at held
      exact settled.first name other u named held
  announced := by
    intro name
    rw [Directory.move, List.countP_append, Traffic.reports_unregistering, Nat.add_zero]
    exact settled.announced name

theorem mismatch_unregistering (b : Breaker) (policy : Policy) (name : String) :
    (Registry.mismatch b policy).countP (·.registers name) = 0 := by
  unfold Registry.mismatch
  split <;> rfl

theorem Dealt.settled (dealt : Dealt d dealing next) (indexed : d.Indexed)
    (settled : d.Settled) : next.Settled := by
  cases dealt with
  | idle unheard unmoved => exact settled
  | requested asks known there =>
    exact settled.grant known _ _ (mismatch_unregistering _ _)
  | entered missing created => exact settled.found indexed missing created
  | crashed missing crash => exact settled
  | lookedUp known => exact settled.grant known none [] fun _ => rfl
  | called there => exact settled.move there _

theorem Settled.run (settled : d.Settled) (indexed : d.Indexed) (script : List Dealing) :
    (d.run script).Settled := by
  induction script generalizing d with
  | nil => exact settled
  | cons dealing rest ih =>
    have dealt := indexed.dealt dealing
    exact ih (dealt.settled indexed settled) (dealt.indexed indexed)

/-- A name that stands for a breaker goes on to do so. -/
theorem Dealt.handle? (dealt : Dealt d dealing next) (known : d.handle? name = some handle) :
    next.handle? name = some handle := by
  cases dealt with
  | idle unheard unmoved => exact known
  | requested asks named there => exact known
  | crashed missing crash => exact known
  | lookedUp named => exact known
  | called there => exact known
  | @entered other policy reading new missing created =>
    have different : name ≠ other := by
      rintro rfl
      cases missing.symm.trans known
    simp only [Directory.found, if_neg different]
    exact known

/-- A breaker is moved by the calls that are made through its handle. -/
theorem Dealt.made (dealt : Dealt d dealing next) (there : d.made[handle]? = some t) :
    next.made[handle]? = some ((dealing.moveOn handle).elim t t.perform) := by
  obtain ⟨inside, -⟩ := List.getElem?_eq_some_iff.mp there
  cases dealt with
  | idle unheard unmoved =>
    rw [unmoved handle t there]
    exact there
  | requested asks known held =>
    obtain rfl | ⟨reading, rfl⟩ := asks <;> exact there
  | crashed missing crash => exact there
  | lookedUp known => exact there
  | entered missing created =>
    simp only [Directory.found, List.getElem?_append_left inside]
    exact there
  | @called place u motion held =>
    simp only [Directory.move, Dealing.moveOn]
    by_cases same : place = handle
    · subst same
      cases there.symm.trans held
      simp only [List.getElem?_set_self inside, ↓reduceIte]
      rfl
    · rw [if_neg same, List.getElem?_set_ne same]
      exact there

theorem run_handle? (indexed : d.Indexed) (known : d.handle? name = some handle)
    (script : List Dealing) : (d.run script).handle? name = some handle := by
  induction script generalizing d with
  | nil => exact known
  | cons dealing rest ih =>
    have dealt := indexed.dealt dealing
    exact ih (dealt.indexed indexed) (dealt.handle? known)

theorem run_made (indexed : d.Indexed) (there : d.made[handle]? = some t)
    (script : List Dealing) :
    (d.run script).made[handle]? = some (t.run (script.filterMap (·.moveOn handle))) := by
  induction script generalizing d t with
  | nil => exact there
  | cons dealing rest ih =>
    have dealt := indexed.dealt dealing
    have later := ih (dealt.indexed indexed) (dealt.made there)
    cases moves : dealing.moveOn handle with
    | none =>
      rw [List.filterMap_cons_none moves]
      rw [moves] at later
      exact later
    | some move =>
      rw [List.filterMap_cons_some moves]
      rw [moves] at later
      exact later

/-- A request that nobody comes in between. -/
def request (d : Directory) (name : String) (policy : Policy) (reading : Reading) :
    List Dealing :=
  .seek name policy :: if (d.handle? name).isSome then [] else [.enter name policy reading]

/-- A reading of all breakers lists the handles and looks at one breaker after the other. -/
def survey (d : Directory) (reading : Reading) : List Dealing :=
  .list :: (List.range d.made.length).map fun handle => .call handle (.look reading)

/-- What is true of shared breakers at any time, and of the registry to which the same things
have happened one after the other. -/
structure FirstCome (d : Directory) (fleet : Fleet) : Prop where
  /-- A name is known as soon as a request for it has been granted. -/
  known : ∀ name, (d.handle? name).isSome ↔
    ∃ grant ∈ d.grants, grant.name = name ∧ grant.policy.isSome
  /-- Whoever was given a breaker by some name was given the one that it stands for, -/
  same : ∀ grant ∈ d.grants, d.handle? grant.name = some grant.handle
  /-- and for another name it was another one. -/
  apart : ∀ one ∈ d.grants, ∀ other ∈ d.grants,
    one.handle = other.handle ↔ one.name = other.name
  /-- A breaker has the policy that was asked for first. -/
  first : ∀ name handle t, d.handle? name = some handle → d.made[handle]? = some t →
    ∃ policy, d.grants.find? (·.name == name) = some ⟨name, some policy, handle⟩ ∧
      t.breaker.name = name ∧ t.breaker.policy = policy.normalized
  /-- Later requests are granted whether they find the name at once or when they come to enter it.
  All they do is to warn of a policy that is not the one in use. -/
  later : ∀ name handle t, d.handle? name = some handle → d.made[handle]? = some t →
    ∀ policy dealing,
      dealing = .seek name policy ∨ (∃ reading, dealing = .enter name policy reading) →
      d.perform dealing = { d with
        grants := d.grants ++ [⟨name, some policy, handle⟩]
        told := d.told ++ if t.breaker.policy.agrees policy.normalized then [] else
          [.event (.alreadyRegistered name t.breaker.policy policy.normalized)] }
  /-- If the clocks can be read every request is granted. -/
  granted : ∀ name policy now wall, ∃ handle,
    (d.perform (.enter name policy ⟨some now, some wall⟩)).grants =
      d.grants ++ [⟨name, some policy, handle⟩]
  /-- Looking up a name gives the breaker that it stands for, if any. -/
  found : ∀ name, d.perform (.find name) = { d with
    grants := d.grants ++ ((d.handle? name).map fun handle => ⟨name, none, handle⟩).toList }
  /-- Every breaker is announced once. -/
  announced : ∀ name,
    d.told.countP (·.registers name) = if (d.handle? name).isSome then 1 else 0
  registry : ∀ name, fleet.registry.find? name = (d.unit? name).map (·.breaker)
  ordered : fleet.registry.names.Pairwise (· < ·)
  names : ∀ name, name ∈ fleet.registry.names ↔ (d.handle? name).isSome
  size : fleet.registry.size = fleet.registry.names.length
  empty : fleet.registry.isEmpty = true ↔ fleet.registry.size = 0
  /-- There is one breaker for each name, and none that no name stands for. -/
  made : d.made.length = fleet.registry.size
  /-- A request that nobody comes in between is a registration. -/
  requests : ∀ name policy reading, Mirrors (fleet.perform (.register name policy reading))
    (d.run (d.request name policy reading))
  /-- So is a reading of all breakers a question to the registry. -/
  reads : ∀ query now wall, (∀ name, query.concerns name = true) →
    Mirrors (fleet.perform (.inspect query ⟨some now, some wall⟩))
      (d.run (d.survey ⟨some now, some wall⟩))
  /-- All clients for forecasts share one breaker. -/
  clients : ∀ one ∈ d.grants, ∀ other ∈ d.grants,
    one.name = forecastBreaker → other.name = forecastBreaker → one.handle = other.handle

theorem Indexed.apart (indexed : d.Indexed) (one : d.handle? name = some handle)
    (two : d.handle? other = some place) : handle = place ↔ name = other := by
  constructor
  · rintro rfl
    obtain ⟨t, there, label⟩ := (indexed name handle).mp one
    obtain ⟨u, held, other⟩ := (indexed other handle).mp two
    cases there.symm.trans held
    exact label.symm.trans other
  · rintro rfl
    exact Option.some.inj (one.symm.trans two)

theorem Settled.known_iff (settled : d.Settled) (indexed : d.Indexed) (name : String) :
    (d.handle? name).isSome ↔ ∃ grant ∈ d.grants, grant.name = name ∧ grant.policy.isSome := by
  constructor
  · intro known
    obtain ⟨handle, named⟩ := Option.isSome_iff_exists.mp known
    obtain ⟨t, there, -⟩ := (indexed name handle).mp named
    obtain ⟨policy, first, -⟩ := settled.first name handle t named there
    exact ⟨_, List.mem_of_find?_eq_some first, rfl, rfl⟩
  · rintro ⟨grant, member, rfl, -⟩
    rw [settled.grants grant member]
    rfl

theorem Mirrors.registry {fleet : Fleet} (mirrors : Mirrors fleet d) (name : String) :
    fleet.registry.find? name = (d.unit? name).map (·.breaker) := by
  rw [fleet.registry_find?, mirrors]

theorem Mirrors.names_iff {fleet : Fleet} (mirrors : Mirrors fleet d) (indexed : d.Indexed)
    (name : String) : name ∈ fleet.registry.names ↔ (d.handle? name).isSome := by
  rw [Registry.mem_names_iff, mirrors.registry, Option.isSome_map]
  constructor
  · intro found
    cases known : d.handle? name with
    | none => rw [unit?_missing known] at found; exact found
    | some handle => rfl
  · intro known
    obtain ⟨handle, named⟩ := Option.isSome_iff_exists.mp known
    obtain ⟨t, -, -, unit⟩ := indexed.unit? named
    rw [unit]
    rfl

theorem Indexed.made_distinct (indexed : d.Indexed) :
    (d.made.map (·.breaker.name)).Nodup := by
  apply List.nodup_iff_getElem?_ne_getElem?.mpr
  intro first second order inside same
  rw [List.length_map] at inside
  simp only [List.getElem?_map] at same
  have one := List.getElem?_eq_getElem (Nat.lt_trans order inside)
  have two := List.getElem?_eq_getElem inside
  rw [one, two] at same
  have label := Option.some.inj same
  have place := (indexed.apart ((indexed _ first).mpr ⟨_, one, rfl⟩)
    ((indexed _ second).mpr ⟨_, two, rfl⟩)).mpr label
  omega

/-- As many breakers were made as there are names. -/
theorem Mirrors.made_length {fleet : Fleet} (mirrors : Mirrors fleet d) (indexed : d.Indexed)
    (distinct : fleet.registry.names.Nodup) : d.made.length = fleet.registry.size := by
  have same (name : String) :
      name ∈ d.made.map (·.breaker.name) ↔ name ∈ fleet.registry.names := by
    rw [mirrors.names_iff indexed, Option.isSome_iff_exists, List.mem_map]
    simp only [List.mem_iff_getElem?, indexed name]
    constructor
    · rintro ⟨t, ⟨handle, there⟩, label⟩
      exact ⟨handle, t, there, label⟩
    · rintro ⟨handle, t, there, label⟩
      exact ⟨t, ⟨handle, there⟩, label⟩
  -- Both lists have each name once, so they differ in order at most.
  have perm := (List.perm_ext_iff_of_nodup indexed.made_distinct distinct).mpr same
  have lengths := perm.length_eq
  rwa [List.length_map, Registry.names, List.length_map] at lengths

theorem Mirrors.request {fleet : Fleet} (mirrors : Mirrors fleet d) (indexed : d.Indexed)
    (name : String) (policy : Policy) (reading : Reading) :
    Mirrors (fleet.perform (.register name policy reading))
      (d.run (d.request name policy reading)) := by
  have entered := (mirrors.perform indexed (.enter name policy reading)).1
  unfold Directory.request
  cases known : d.handle? name with
  | none =>
    have missed : d.perform (.seek name policy) = d := by
      simp only [Directory.perform, known]
    show Mirrors _ ((d.perform (.seek name policy)).perform (.enter name policy reading))
    rw [missed]
    exact entered
  | some handle =>
    have found : d.perform (.seek name policy) = d.perform (.enter name policy reading) := by
      simp only [Directory.perform, known]
    show Mirrors _ (d.perform (.seek name policy))
    rw [found]
    exact entered

/-- Calls change nothing about the names. -/
theorem run_calls_handle? (d : Directory) (places : List Nat) (move : Move) :
    (d.run (places.map fun place => .call place move)).handle? = d.handle? := by
  induction places generalizing d with
  | nil => rfl
  | cons place rest ih =>
    refine (ih (d.perform (.call place move))).trans ?_
    simp only [perform]
    split <;> rfl

/-- Where everything is looked at, each breaker is looked at once. -/
theorem survey_moves (handle count : Nat) (move : Move) :
    ((List.range count).map fun place => Dealing.call place move).filterMap
      (·.moveOn handle) = if handle < count then [move] else [] := by
  induction count with
  | zero => rfl
  | succ count ih =>
    rw [List.range_succ, List.map_append, List.filterMap_append, ih]
    by_cases before : handle < count
    · have other : count ≠ handle := by omega
      simp [Dealing.moveOn, before, other, Nat.lt_succ_of_lt before]
    · by_cases last : count = handle
      · subst last
        simp [Dealing.moveOn]
      · have after : ¬ handle < count + 1 := by omega
        simp [Dealing.moveOn, before, last, after]

theorem Mirrors.survey {fleet : Fleet} {query : Query} (mirrors : Mirrors fleet d)
    (indexed : d.Indexed) (all : ∀ name, query.concerns name = true) (now wall : Instant) :
    Mirrors (fleet.perform (.inspect query ⟨some now, some wall⟩))
      (d.run (d.survey ⟨some now, some wall⟩)) := by
  intro name
  have reaches : query.reaches fleet.registry ⟨some now, some wall⟩ name = true := by
    rw [Query.reaches_of_completes (Query.completes_shown _ _ _ _)]
    exact all name
  have names : (d.run (d.survey ⟨some now, some wall⟩)).handle? = d.handle? :=
    d.run_calls_handle? _ _
  refine (fleet.adopt_query query _ name).trans ?_
  rw [mirrors name, unit?, unit?, names]
  cases known : d.handle? name with
  | none => rfl
  | some handle =>
    obtain ⟨t, there, -⟩ := indexed.unit? known
    obtain ⟨inside, -⟩ := List.getElem?_eq_some_iff.mp there
    have looked := run_made indexed there (d.survey ⟨some now, some wall⟩)
    have once : (d.survey ⟨some now, some wall⟩).filterMap (·.moveOn handle) =
        [.look ⟨some now, some wall⟩] := (survey_moves handle _ _).trans (if_pos inside)
    rw [once] at looked
    simp only [Option.bind_some, there, looked, Option.map_some, if_pos reaches]
    rfl

theorem firstCome {fleet : Fleet} (settled : d.Settled) (indexed : d.Indexed)
    (mirrors : Mirrors fleet d) (ordered : fleet.Ordered) : FirstCome d fleet := by
  have apart : ∀ one ∈ d.grants, ∀ other ∈ d.grants,
      one.handle = other.handle ↔ one.name = other.name := by
    intro one first other second
    exact indexed.apart (settled.grants one first) (settled.grants other second)
  constructor
  · exact settled.known_iff indexed
  · exact settled.grants
  · exact apart
  · intro name handle t known there
    obtain ⟨policy, first, reached⟩ := settled.first name handle t known there
    obtain ⟨u, held, label⟩ := (indexed name handle).mp known
    cases there.symm.trans held
    exact ⟨policy, first, label, reached.keeps_policy⟩
  · intro name handle t known there policy dealing asks
    obtain ⟨u, held, step⟩ := indexed.request known asks
    obtain ⟨v, place, label⟩ := (indexed name handle).mp known
    cases there.symm.trans held
    cases there.symm.trans place
    rw [step, ← label]
    rfl
  · intro name policy now wall
    cases known : d.handle? name with
    | none => exact ⟨d.made.length, by simp only [perform, known, Breaker.create, found]⟩
    | some handle =>
      obtain ⟨t, there, step⟩ := indexed.request known (.inr ⟨_, rfl⟩)
      exact ⟨handle, by rw [step]; rfl⟩
  · intro name
    simp only [perform]
    cases d.handle? name with
    | none => simp
    | some handle =>
      simp only [grant, List.append_nil]
      rfl
  · exact settled.announced
  · exact mirrors.registry
  · exact ordered
  · exact mirrors.names_iff indexed
  · exact (List.length_map _).symm
  · simp [Registry.isEmpty, Registry.size]
  · exact mirrors.made_length indexed ordered.distinct
  · exact mirrors.request indexed
  · intro query now wall all
    exact mirrors.survey indexed all now wall
  · intro one first other second forecasts too
    exact (apart one first other second).mpr (forecasts.trans too.symm)

/-- Whatever is done with breakers that are shared, the first request for a name settles the one
that everybody is given for it, who it is and what its policy is; and it goes on with the calls
that are made through its handle, and with nothing else. Breakers from the configuration and those
of clients for forecasts are requested in the same way. -/
theorem first_request_settles_breaker (script : List Dealing) :
    let d := run {} script
    let fleet := Fleet.run {} (deeds {} script)
    FirstCome d fleet ∧ d.told = Fleet.told {} (deeds {} script) ∧
      (∀ earlier later, script = earlier ++ later →
        ∀ name handle, (run {} earlier).handle? name = some handle →
          d.handle? name = some handle ∧ ∃ t, (run {} earlier).made[handle]? = some t ∧
            d.made[handle]? = some (t.run (later.filterMap (·.moveOn handle)))) ∧
      (∀ reading entries, (fleet.registry.registerAll reading entries).state =
        (fleet.run (entries.map fun entry => .register entry.1 entry.2 reading)).registry) ∧
      ∀ (α : Type) (r : Rehearsal α) id policy, (r.perform (.newClient id policy)).1.registry =
        (r.registry.register forecastBreaker policy r.reading).state := by
  intro d fleet
  have indexed : d.Indexed := Indexed.empty.run script
  have settled : d.Settled := Settled.empty.run .empty script
  obtain ⟨mirrors, told⟩ := mirrors_run script
  have ordered : fleet.Ordered := Fleet.ordered_empty.run _
  refine ⟨firstCome settled indexed mirrors ordered, told, ?_, fleet.registerAll_state,
    fun _ => Rehearsal.newClient_registry⟩
  rintro earlier later rfl name handle known
  have split : d = (run {} earlier).run later := List.foldl_append
  obtain ⟨t, there, -⟩ := (Indexed.empty.run earlier name handle).mp known
  rw [split]
  have before := Indexed.empty.run earlier
  exact ⟨run_handle? before known later, t, there, run_made before there later⟩

/-- Two requests look for a name before either of them enters it. The second one is given the
breaker of the first, and so is everybody after the breaker has opened. -/
theorem first_request_settles_breaker_in_race :
    let race : List Dealing := [
      .seek "touchy" .touchy,
      .seek "touchy" .wary,
      .enter "touchy" .touchy (.past 0),
      .enter "touchy" .wary (.past 1)]
    let outage : List Dealing := [
      .call 0 (.ask "first" (.past 2)),
      .find "wary",
      .call 0 (.finish 0 .failed (.past 3)),
      .seek "touchy" .touchy,
      .find "touchy"]
    let d := run {} (race ++ outage)
    let fleet := Fleet.run {} (deeds {} (race ++ outage))
    FirstCome d fleet ∧ fleet.registry.names = ["touchy"] ∧
      d.grants.map (·.handle) = [0, 0, 0, 0] ∧
      d.made.map (·.breaker.mode) = [.opened] ∧
      d.made[0]? = some ((Traffic.fresh .touchy).run [
        .ask "first" (.past 2),
        .finish 0 .failed (.past 3)]) ∧
      (run {} race).told = [
        .gauge "touchy" .closed,
        .event (.registered "touchy" .touchy),
        .event (.alreadyRegistered "touchy" .touchy .wary)] := by
  intro race outage d fleet
  obtain ⟨settled, -, kept, -⟩ := first_request_settles_breaker (race ++ outage)
  obtain ⟨-, t, there, moved⟩ := kept race outage rfl "touchy" 0 rfl
  cases there
  exact ⟨settled, rfl, rfl, by decide, moved, rfl⟩

end Directory
end Fusebox
