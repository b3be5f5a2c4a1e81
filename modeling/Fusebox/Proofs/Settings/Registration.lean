import Fusebox.Proofs.Registry.Independence
import Fusebox.Proofs.Settings.Decoding
import Fusebox.Proofs.Settings.Faults
import Fusebox.Settings.Load

/-! Settings that are accepted run as they are written. Validation refuses just those values that a
breaker would replace by others, and a threshold that would not even agree with itself; so each
breaker has the policy of its settings, and to ask for it again with the same settings is never
worth a warning. -/
namespace Fusebox

/-! The policy of a breaker -/

theorem Duration.ofMillis_inj {first second : UInt64} :
    Duration.ofMillis first = Duration.ofMillis second ↔ first = second := by
  refine ⟨fun same => UInt64.toNat_inj.mp ?_, congrArg Duration.ofMillis⟩
  rw [← Duration.millis_ofMillis, same, Duration.millis_ofMillis]

namespace BreakerSettings

variable {settings : BreakerSettings} {name : String}

/-- Whether two settings are the same, comparing thresholds as numbers. -/
def agrees (first second : BreakerSettings) : Bool :=
  first.maxProbes == second.maxProbes && first.resetIntervalMs == second.resetIntervalMs &&
    first.openTimeoutMs == second.openTimeoutMs &&
    first.failureThreshold == second.failureThreshold &&
    first.minimumRequests == second.minimumRequests

theorem policy_injective : Function.Injective policy := by
  intro first second same
  obtain ⟨probes, interval, timeout, threshold, minimum⟩ := first
  simp only [policy, Policy.mk.injEq, Duration.ofMillis_inj] at same
  obtain ⟨rfl, rfl, rfl, rfl, rfl⟩ := same
  rfl

theorem policy_agrees (first second : BreakerSettings) :
    first.policy.agrees second.policy = first.agrees second := by
  have durations (first second : UInt64) :
      (Duration.ofMillis first == Duration.ofMillis second) = (first == second) := by
    rw [Bool.eq_iff_iff, beq_iff_eq, beq_iff_eq, Duration.ofMillis_inj]
  simp only [Policy.agrees, agrees, policy, durations]

/-- Settings that a breaker takes as they are. -/
structure Works (settings : BreakerSettings) : Prop where
  probes : 0 < settings.maxProbes
  timeout : 0 < settings.openTimeoutMs
  ratio : IsShare settings.failureThreshold

theorem Works.policy_normalized (works : settings.Works) :
    settings.policy.normalized = settings.policy := by
  have probes : settings.policy.maxProbes ≠ 0 := UInt32.pos_iff_ne_zero.mp works.probes
  have timeout : settings.policy.openTimeout.isZero = false := by
    have positive : 0 < settings.openTimeoutMs.toNat := UInt64.lt_iff_toNat_lt.mp works.timeout
    have nanos : settings.policy.openTimeout.nanos = settings.openTimeoutMs.toNat * 1000000 := rfl
    simp only [Duration.isZero, beq_eq_false_iff_ne, nanos]
    omega
  simp only [Policy.normalized, if_neg probes, timeout, Bool.false_eq_true, ↓reduceIte]

theorem Works.policy_agrees_self (works : settings.Works) :
    settings.policy.agrees settings.policy = true := by
  obtain ⟨number, stands, -⟩ := works.ratio
  have threshold : (settings.failureThreshold == settings.failureThreshold) = true :=
    Decimal.beq_self_of_number stands
  rw [policy_agrees]
  simp only [agrees, beq_self_eq_true, threshold, Bool.and_self]

/-- The breaker that settings describe, as it is made at a reading of the clocks. -/
def breaker (settings : BreakerSettings) (name : String) (now wall : Instant) : Breaker where
  name
  policy := settings.policy
  mode := .closed
  generation := 0
  tally := .empty
  deadline := settings.policy.deadline .closed now
  changedAt := wall

theorem Works.created (works : settings.Works) (name : String) (now wall : Instant) :
    Breaker.create name settings.policy ⟨some now, some wall⟩ =
      .ok (settings.breaker name now wall) := by
  simp only [Breaker.create, works.policy_normalized, breaker]

end BreakerSettings

theorem ServiceSettings.works_of_valid {settings : ServiceSettings}
    (valid : settings.validate = .ok ()) : ∀ entry ∈ settings.breakers, entry.2.Works := by
  have sound := ServiceSettings.validate_eq_ok_iff.mp valid
  intro entry configured
  exact ⟨sound.probes entry configured, sound.timeouts entry configured,
    sound.ratios entry configured⟩

/-! Registration -/

namespace Registry

variable {registry : Registry} {name : String} {settings : BreakerSettings} {reading : Reading}

/-- Registers one breaker after the other, each at its own reading of the clocks. -/
def registerEach (registry : Registry) (readings : String → Reading) :
    List (String × Policy) → Step Effect Registry Unit
  | [] => .pure registry ()
  | (name, policy) :: rest =>
    (registry.register name policy (readings name)).bind fun registry _ =>
      registry.registerEach readings rest

theorem registerAll_eq (registry : Registry) (reading : Reading)
    (entries : List (String × Policy)) :
    registry.registerAll reading entries = registry.registerEach (fun _ => reading) entries := by
  induction entries generalizing registry with
  | nil => rfl
  | cons entry rest ih =>
    simp only [registerAll, registerEach, ih]

theorem register_missing {policy : Policy} {new : Breaker}
    (missing : registry.find? name = none)
    (created : Breaker.create name policy reading = .ok new) :
    registry.register name policy reading = {
      state := ⟨place new registry.breakers⟩
      effects := [.gauge name .closed, .event (.registered name new.policy)]
      result := .ok new } := by
  unfold register
  rw [missing, created]

/-- A breaker whose policy comes from these settings is given to whoever asks with them. -/
theorem register_again {b : Breaker} (found : registry.find? name = some b)
    (same : b.policy = settings.policy) (works : settings.Works) (reading : Reading) :
    registry.register name settings.policy reading = .pure registry b := by
  have silent : mismatch b settings.policy = [] := by
    rw [mismatch, same, works.policy_normalized, works.policy_agrees_self, if_pos rfl]
  unfold register
  rw [found]
  simp only [silent, Step.after, Step.pure, List.append_nil]

/-- A breaker that comes after all others by name is put at the end. -/
theorem place_last {new : Breaker} {breakers : List Breaker}
    (last : ∀ b ∈ breakers, b.name < new.name) : place new breakers = breakers ++ [new] := by
  induction breakers with
  | nil => rfl
  | cons first rest ih =>
    rw [place, if_pos (last first List.mem_cons_self), ih fun b later => last b (.tail _ later)]
    rfl

end Registry

namespace ServiceSettings

/-- The breakers of a table of settings, each made at a time of its own. -/
def breakersAt (now wall : String → Instant) (table : Named BreakerSettings) : List Breaker :=
  table.map fun (name, settings) => settings.breaker name (now name) (wall name)

/-- What is announced of new breakers. -/
def announcements (table : Named BreakerSettings) : List Effect :=
  table.flatMap fun (name, settings) =>
    [.gauge name .closed, .event (.registered name settings.policy)]

/-- Breakers are registered in the order of their names, so that each comes after those that are
there already. -/
theorem registerEach_new {earlier later : Named BreakerSettings} (now wall : String → Instant)
    (ordered : Named.Ordered (earlier ++ later)) (works : ∀ entry ∈ later, entry.2.Works) :
    (Registry.mk (breakersAt now wall earlier)).registerEach
        (fun name => ⟨some (now name), some (wall name)⟩)
        (later.map fun (name, breaker) => (name, breaker.policy)) =
      ⟨⟨breakersAt now wall (earlier ++ later)⟩, announcements later, .ok ()⟩ := by
  induction later generalizing earlier with
  | nil =>
    rw [List.append_nil]
    rfl
  | cons entry rest ih =>
    obtain ⟨name, settings⟩ := entry
    have below : ∀ b ∈ breakersAt now wall earlier, b.name < name := by
      intro b member
      obtain ⟨⟨other, before⟩, known, rfl⟩ := List.mem_map.mp member
      have pairs := List.pairwise_append.mp (List.pairwise_map.mp ordered)
      exact pairs.2.2 _ known _ List.mem_cons_self
    have missing : (Registry.mk (breakersAt now wall earlier)).find? name = none := by
      refine List.find?_eq_none.mpr fun b member same => ?_
      exact absurd (beq_iff_eq.mp same) (below b member).ne
    have created := (works _ List.mem_cons_self).created name (now name) (wall name)
    have step := Registry.register_missing missing created
    have longer : breakersAt now wall earlier ++ [settings.breaker name (now name) (wall name)] =
        breakersAt now wall (earlier ++ [(name, settings)]) := by
      simp [breakersAt]
    rw [Registry.place_last below, longer] at step
    have split : earlier ++ (name, settings) :: rest = earlier ++ [(name, settings)] ++ rest :=
      (List.append_assoc _ [_] _).symm
    rw [split] at ordered ⊢
    have further := ih ordered fun other member => works other (.tail _ member)
    simp only [List.map_cons, Registry.registerEach, step, Step.bind, further]
    rfl

/-- What runs once settings have been registered, each breaker at a time of its own. -/
structure Running (settings : ServiceSettings) (now wall : String → Instant)
    (built : Step Effect Registry Unit) : Prop where
  completes : built.result = .ok ()
  names : built.state.names = settings.breakers.map Prod.fst
  /-- Every breaker is as good as new and has the policy of its settings, -/
  fresh : ∀ entry ∈ settings.breakers, ∃ b, built.state.find? entry.1 = some b ∧
    b.policy = entry.2.policy ∧ b.mode = .closed ∧ b.generation = 0 ∧ b.tally = {} ∧
    b.deadline = entry.2.policy.deadline .closed (now entry.1) ∧ b.changedAt = wall entry.1
  /-- and that there are these breakers is all that is reported. -/
  announced : built.effects = announcements settings.breakers
  unwarned : ∀ name existing requested,
    .event (.alreadyRegistered name existing requested) ∉ built.effects
  /-- Whatever has been done since, whoever asks with the same settings is given the same breaker
  and no warning. -/
  again : ∀ script, ∀ entry ∈ settings.breakers, ∀ reading,
    let registry := ((Fleet.adopt {} built.state).run script).registry
    ∃ b, registry.find? entry.1 = some b ∧ b.policy = entry.2.policy ∧
      registry.register entry.1 entry.2.policy reading = .pure registry b
  /-- To register everything once more changes nothing. -/
  repeated : ∀ script readings,
    let registry := ((Fleet.adopt {} built.state).run script).registry
    registry.registerEach readings settings.policies = .pure registry ()

theorem breakersAt_names (now wall : String → Instant) (table : Named BreakerSettings) :
    (Registry.mk (breakersAt now wall table)).names = table.map Prod.fst := by
  simp only [Registry.names, breakersAt, List.map_map]
  rfl

theorem breakersAt_find? {table : Named BreakerSettings} (ordered : table.Ordered)
    {name : String} {settings : BreakerSettings} (configured : (name, settings) ∈ table)
    (now wall : String → Instant) :
    (Registry.mk (breakersAt now wall table)).find? name =
      some (settings.breaker name (now name) (wall name)) := by
  refine (Registry.find?_eq_some_iff ?_).mpr ⟨List.mem_map.mpr ⟨_, configured, rfl⟩, rfl⟩
  rw [breakersAt_names]
  exact ordered.nodup

/-- Nothing that is done to a breaker changes its policy. -/
theorem later_found {registry : Registry} {name : String} {settings : BreakerSettings}
    {now wall : Instant} (works : settings.Works)
    (found : registry.find? name = some (settings.breaker name now wall)) (script : List Deed) :
    ∃ b, ((Fleet.adopt {} registry).run script).registry.find? name = some b ∧
      b.policy = settings.policy := by
  have start : (Fleet.adopt {} registry).unit? name =
      some (.fresh (settings.breaker name now wall)) := by
    rw [Fleet.adopt_unit?, found]
    rfl
  have reached : Traffic.Reached settings.policy (.fresh (settings.breaker name now wall)) :=
    .fresh (works.created name now wall)
  have moved := Fleet.run_moves start script
  refine ⟨_, Fleet.registry_found moved, ?_⟩
  rw [(Traffic.run_reached reached _).keeps_policy, works.policy_normalized]

theorem registerEach_again {registry : Registry} {table : Named BreakerSettings}
    (known : ∀ entry ∈ table, entry.2.Works ∧
      ∃ b, registry.find? entry.1 = some b ∧ b.policy = entry.2.policy)
    (readings : String → Reading) :
    registry.registerEach readings (table.map fun (name, breaker) => (name, breaker.policy)) =
      .pure registry () := by
  induction table with
  | nil => rfl
  | cons entry rest ih =>
    obtain ⟨works, b, found, same⟩ := known entry List.mem_cons_self
    have step := Registry.register_again found same works (readings entry.1)
    have further := ih fun other member => known other (.tail _ member)
    simp only [List.map_cons, Registry.registerEach, step, Step.bind, Step.pure] at further ⊢
    rw [further]
    rfl

theorem running {settings : ServiceSettings} (ordered : settings.breakers.Ordered)
    (works : ∀ entry ∈ settings.breakers, entry.2.Works) (now wall : String → Instant) :
    settings.Running now wall (Registry.empty.registerEach
      (fun name => ⟨some (now name), some (wall name)⟩) settings.policies) := by
  have start : Named.Ordered ([] ++ settings.breakers) := ordered
  have built := registerEach_new now wall start works
  have empty : Registry.mk (breakersAt now wall []) = .empty := rfl
  rw [empty, List.nil_append] at built
  rw [policies, built]
  have later (script : List Deed) : ∀ entry ∈ settings.breakers, ∃ b,
      ((Fleet.adopt {} ⟨breakersAt now wall settings.breakers⟩).run script).registry.find?
        entry.1 = some b ∧ b.policy = entry.2.policy := by
    intro entry configured
    exact later_found (works entry configured) (breakersAt_find? ordered configured now wall) script
  constructor
  · rfl
  · exact breakersAt_names now wall settings.breakers
  · intro entry configured
    exact ⟨_, breakersAt_find? ordered configured now wall, rfl, rfl, rfl, rfl, rfl, rfl⟩
  · rfl
  · intro name existing requested warned
    obtain ⟨entry, -, told⟩ := List.mem_flatMap.mp warned
    simp at told
  · intro script entry configured reading registry
    obtain ⟨b, found, same⟩ := later script entry configured
    exact ⟨b, found, same, Registry.register_again found same (works entry configured) reading⟩
  · intro script readings registry
    exact registerEach_again (fun entry configured =>
      ⟨works entry configured, later script entry configured⟩) readings

theorem accepted_of_parse {text : String} {settings : ServiceSettings}
    (accepted : parse text = .ok settings) :
    settings.breakers.Ordered ∧ settings.validate = .ok () := by
  unfold parse at accepted
  split at accepted
  · cases accepted
  · rename_i read decoded
    obtain ⟨tree, -, decoded⟩ := Option.bind_eq_some_iff.mp decoded
    split at accepted
    · cases accepted
    · rename_i valid
      cases accepted
      exact ⟨decode?_ordered decoded, valid⟩

/-- Every breaker of accepted settings has the policy that is written there, to the millisecond and
without a fallback. Its name is known once they have been registered, the breaker is as good as new,
and nobody who asks for it with the same settings is warned. -/
theorem accepted_settings_run_as_written :
    (∀ text settings, parse text = .ok settings →
      settings.breakers.Ordered ∧ settings.validate = .ok ()) ∧
    (∀ breaker : BreakerSettings,
      breaker.policy.resetInterval.nanos = breaker.resetIntervalMs.toNat * 1000000 ∧
      breaker.policy.resetInterval.millis = breaker.resetIntervalMs.toNat ∧
      breaker.policy.openTimeout.nanos = breaker.openTimeoutMs.toNat * 1000000 ∧
      breaker.policy.openTimeout.millis = breaker.openTimeoutMs.toNat) ∧
    Function.Injective BreakerSettings.policy ∧
    (∀ first second : BreakerSettings, first.policy.agrees second.policy = first.agrees second) ∧
    (∀ (registry : Registry) reading entries,
      registry.registerAll reading entries = registry.registerEach (fun _ => reading) entries) ∧
    ∀ settings : ServiceSettings, settings.breakers.Ordered → settings.validate = .ok () →
      (∀ entry ∈ settings.breakers, entry.2.policy.normalized = entry.2.policy) ∧
      ∀ now wall, settings.Running now wall (Registry.empty.registerEach
        (fun name => ⟨some (now name), some (wall name)⟩) settings.policies) := by
  refine ⟨fun _ _ => accepted_of_parse, fun breaker => ?exact, BreakerSettings.policy_injective,
    BreakerSettings.policy_agrees, Registry.registerAll_eq, fun settings ordered valid => ?runs⟩
  case exact =>
    exact ⟨rfl, Duration.millis_ofMillis _, rfl, Duration.millis_ofMillis _⟩
  case runs =>
    have works := works_of_valid valid
    exact ⟨fun entry configured => (works entry configured).policy_normalized,
      running ordered works⟩

/-- Breakers with the largest and the smallest numbers that are accepted. -/
def extreme : ServiceSettings where
  breakers := [
    ("geocoder", {
      maxProbes := 0xFFFFFFFF, resetIntervalMs := 0xFFFFFFFFFFFFFFFF, openTimeoutMs := 1,
      failureThreshold := -0.0, minimumRequests := 1 }),
    ("nws-api", {
      maxProbes := 1, resetIntervalMs := 0, openTimeoutMs := 0xFFFFFFFFFFFFFFFF,
      failureThreshold := 1, minimumRequests := 0xFFFFFFFF })]

/-- An empty file is accepted, and so are extreme settings. The first failure opens one of their
breakers, and to ask for it again is still not worth a warning. -/
theorem accepted_settings_run_as_written_at_extremes :
    let now : String → Instant := fun _ => .reference
    let built := Registry.empty.registerEach (fun name => ⟨some (now name), some (now name)⟩)
      extreme.policies
    let outage : List Deed := [
      .call "geocoder" (.ask "first" (.past 1)),
      .call "geocoder" (.finish 0 .failed (.past 2))]
    let registry := ((Fleet.adopt {} built.state).run outage).registry
    parse "" = .ok {} ∧ ({} : ServiceSettings).validate = .ok () ∧
      extreme.breakers.Ordered ∧ extreme.validate = .ok () ∧ extreme.Running now now built ∧
      built.state.names = ["geocoder", "nws-api"] ∧
      (registry.find? "geocoder").map (·.mode) = some .opened ∧
      registry.registerEach (fun _ => .past 3) extreme.policies = .pure registry () := by
  intro now built outage registry
  obtain ⟨accepts, -, -, -, -, runs⟩ := accepted_settings_run_as_written
  have ordered : extreme.breakers.Ordered := by
    unfold Named.Ordered
    decide
  obtain ⟨-, running⟩ := runs extreme ordered rfl
  exact ⟨rfl, (accepts "" {} rfl).2, ordered, rfl, running now now, (running now now).names,
    by decide +kernel, (running now now).repeated outage _⟩

end ServiceSettings
end Fusebox
