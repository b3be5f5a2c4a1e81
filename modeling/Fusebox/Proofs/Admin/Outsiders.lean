import Fusebox.Proofs.Admin.Access
import Fusebox.Proofs.Document.Named
import Fusebox.Proofs.Registry.Independence

/-! Requests that are turned away. They are answered without a look at the breakers, so that
nothing can be learned from the answer, and in any run they can be left out: nobody else finds
anything changed. -/
namespace Fusebox

/-- A request to the admin interface that is turned away. -/
def Deed.isOutside : Deed → Bool
  | .request key sent _ => !Admin.authorizes key sent.authorization
  | .register .. | .call .. | .inspect .. => false

namespace Fleet

/-- The deeds of a script, each one with the registry that it meets. -/
def encounters (fleet : Fleet) : List Deed → List (Fleet × Deed)
  | [] => []
  | deed :: rest => (fleet, deed) :: (fleet.perform deed).encounters rest

/-- What is left of a script without those who are turned away. -/
def insiders (script : List Deed) : List Deed := script.filter fun deed => !deed.isOutside

variable {fleet : Fleet} {deed : Deed} {t : Traffic}

theorem unit?_of_mem (distinct : fleet.Distinct) (member : t ∈ fleet.units) :
    fleet.unit? t.breaker.name = some t := by
  have names : (fleet.units.map (·.breaker.name)).Nodup := by
    rw [Distinct, Registry.names, registry, List.map_map] at distinct
    exact distinct
  cases found : fleet.unit? t.breaker.name with
  | none =>
    have other := List.find?_eq_none.mp found t member
    exact absurd (beq_self_eq_true _) other
  | some held =>
    have known := List.mem_of_find?_eq_some found
    exact congrArg some (List.inj_on_of_nodup_map names known member (unit?_name found))

/-- To be left as it is makes no difference to a registry. -/
theorem adopt_self (distinct : fleet.Distinct) : fleet.adopt fleet.registry = fleet := by
  rw [adopt, registry, List.map_map]
  refine congrArg Fleet.mk (Eq.trans (List.map_congr_left fun t member => ?_) (List.map_id _))
  simp only [Function.comp_apply, unit?_of_mem distinct member]
  exact t.onto_same

/-- Nothing is left behind by those who are turned away. -/
theorem perform_outside (distinct : fleet.Distinct) (outside : deed.isOutside = true) :
    fleet.perform deed = fleet := by
  cases deed with
  | register name policy reading => cases outside
  | call name move => cases outside
  | inspect query reading => cases outside
  | request key sent reading =>
    simp only [Deed.isOutside, Bool.not_eq_true'] at outside
    rw [perform, Admin.respond_outside outside]
    exact adopt_self distinct

/-- All the others meet what they would meet if they were alone. -/
theorem encounters_insiders (distinct : fleet.Distinct) (script : List Deed) :
    fleet.encounters (insiders script) =
      (fleet.encounters script).filter fun encounter => !encounter.2.isOutside := by
  induction script generalizing fleet with
  | nil => rfl
  | cons deed rest ih =>
    have later := ih (perform_distinct distinct deed)
    cases outside : deed.isOutside with
    | true =>
      rw [perform_outside distinct outside] at later
      rw [encounters, perform_outside distinct outside]
      simpa [insiders, outside] using later
    | false =>
      rw [encounters, List.filter_cons_of_pos (by simpa using outside), ← later]
      simp [insiders, outside, encounters]

theorem run_insiders (distinct : fleet.Distinct) (script : List Deed) :
    fleet.run (insiders script) = fleet.run script := by
  induction script generalizing fleet with
  | nil => rfl
  | cons deed rest ih =>
    have later := ih (perform_distinct distinct deed)
    cases outside : deed.isOutside with
    | true =>
      rw [perform_outside distinct outside] at later
      simpa [insiders, outside, run, perform_outside distinct outside] using later
    | false => simpa [insiders, outside, run] using later

end Fleet

namespace Admin

open Fleet

variable {key : String} {request : Request}

/-- A request that learns nothing and changes nothing. -/
structure Barred (key : String) (request : Request) : Prop where
  /-- Deadlines that have passed are not applied, and no breaker is made. -/
  untouched : ∀ registry reading, (respond registry key request reading).state = registry
  /-- There is no event and no metric of a breaker. -/
  reported : ∀ registry reading, (respond registry key request reading).effects =
    [.event (.unauthenticated (pathOf request.uri))]
  refused : ∀ registry reading, (respond registry key request reading).result =
    .ok { status := 401, allow := allowed request }
  /-- Neither the breakers nor the moment have a part in the answer. Nor does the path, though
  a method that is not understood shows whether a path leads to some route. -/
  uninformed : ∀ uri,
    (understood.contains request.method = true ∨
      (Route.ofPath? (pathOf uri)).isSome = (Route.ofPath? (pathOf request.uri)).isSome) →
    ∀ first second earlier later,
      (respond first key request earlier).result =
        (respond second key { request with uri } later).result

/-- Nobody finds anything changed by requests that are turned away. -/
structure Undisturbed (script : List Deed) : Prop where
  run : run {} (insiders script) = run {} script
  encounters : encounters {} (insiders script) =
    (encounters {} script).filter fun encounter => !encounter.2.isOutside

/-- What the answer to a request names beside its status does not depend on where the path leads,
as long as it leads to a route or does not. -/
theorem allowed_elsewhere {uri : String}
    (alike : understood.contains request.method = true ∨
      (Route.ofPath? (pathOf uri)).isSome = (Route.ofPath? (pathOf request.uri)).isSome) :
    allowed { request with uri } = allowed request := by
  rcases alike with known | alike
  · simp only [allowed, known, Bool.not_true, Bool.and_false]
  · simp only [allowed, alike]

theorem barred (outside : authorizes key request.authorization = false) : Barred key request := by
  constructor
  · intro registry reading
    rw [respond_outside outside, turnAway]
  · intro registry reading
    rw [respond_outside outside, turnAway]
  · intro registry reading
    rw [respond_outside outside, turnAway, refusal]
  · intro uri alike first second earlier later
    have there : authorizes key { request with uri }.authorization = false := outside
    rw [respond_outside outside, respond_outside there, turnAway, turnAway, refusal, refusal,
      allowed_elsewhere alike]

theorem undisturbed (script : List Deed) : Undisturbed script := by
  have distinct : Distinct {} := ordered_empty.distinct
  constructor
  · exact run_insiders distinct script
  · exact encounters_insiders distinct script

/-- Whoever does not bring the key is told so, whatever the breakers are like and whichever one
was asked for. The breakers stay as they are, and so does all that others see of them. -/
theorem outsiders_learn_and_change_nothing
    (outside : authorizes key request.authorization = false) :
    Barred key request ∧ ∀ script, Undisturbed script :=
  ⟨barred outside, undisturbed⟩

/-- A breaker is due to become half-open, and somebody asks for it with another key. It stays as it
is until it is asked for with the right one. -/
theorem outsiders_learn_and_change_nothing_at_end_of_outage :
    let outage : List Deed := [
      .register "touchy" .touchy (.past 0),
      .call "touchy" (.ask "first" (.past 1)),
      .call "touchy" (.finish 0 .failed (.past 2))]
    let request : Request := ⟨"GET", "/admin/breakers/touchy", [credentials "kex"]⟩
    let keyed : Request := { request with authorization := [credentials "key"] }
    let ask : Deed := .request "key" keyed (.past 13)
    let script := outage ++ [.request "key" request (.past 12), ask]
    let modes (fleet : Fleet) := fleet.registry.breakers.map (·.mode)
    authorizes "key" request.authorization = false ∧ Barred "key" request ∧
      Undisturbed script ∧ insiders script = outage ++ [ask] ∧
      (encounters {} script).map (fun encounter => modes encounter.1) =
        [[], [.closed], [.closed], [.opened], [.opened]] ∧
      modes (run {} script) = [.halfOpen] := by
  intro outage request keyed ask script modes
  have outside : authorizes "key" request.authorization = false := by decide
  obtain ⟨barred, undisturbed⟩ := outsiders_learn_and_change_nothing outside
  exact ⟨outside, barred, undisturbed script, rfl, by decide, by decide⟩

end Admin
end Fusebox
