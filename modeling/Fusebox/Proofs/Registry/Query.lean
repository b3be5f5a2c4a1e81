import Fusebox.Admin.Interface
import Fusebox.Proofs.Breaker.Refusal
import Fusebox.Proofs.Registry.Reading
import Fusebox.Proofs.Traffic.Observation

/-! Questions about the breakers of a registry, asked of the registry itself or by way of the
admin interface. Whatever way it is asked, a question looks at every breaker that it concerns
and does nothing else. -/
namespace Fusebox

/-- A question about the breakers of a registry. -/
inductive Query where
  | one (name : String)
  | all
  | openNames

/-- The answer to a question. -/
inductive Findings where
  | one (name : String) (shown : Option Snapshot)
  | all (shown : List (String × Snapshot))
  | openNames (names : List String)

/-- What an answer says about one breaker. -/
def Findings.about (name : String) : Findings → Echo
  | .one other shown =>
    match shown with
    | some shown => if other = name then .shown (.ok shown.sight) else .nothing
    | none => .nothing
  | .all shown =>
    match shown.find? (·.1 == name) with
    | some entry => .shown (.ok entry.2.sight)
    | none => .nothing
  | .openNames names => .listed (names.contains name)

/-- Nothing is learned from a question that gets no answer. -/
def Findings.told (name : String) : Except Crash Findings → Echo
  | .ok findings => findings.about name
  | .error _ => .nothing

namespace Query

/-- Asks a registry. -/
def run (registry : Registry) (reading : Reading) : Query → Step Effect Registry Findings
  | .one name =>
    match registry.find? name with
    | none => .pure registry (.one name none)
    | some b => (registry.run b (·.read reading)).map fun shown => .one name (some shown)
  | .all => (registry.readAll reading).map .all
  | .openNames => (registry.openNames reading).map .openNames

/-- Whether a question looks at the breaker with a name. -/
def concerns (name : String) : Query → Bool
  | .one other => other == name
  | .all | .openNames => true

/-- What a question reveals of a breaker, if there is one with that name. -/
def reveals (query : Query) (name : String) (seen : Option Sight) : Echo :=
  match query, seen with
  | .one other, some sight => if other = name then .shown (.ok sight) else .nothing
  | .all, some sight => .shown (.ok sight)
  | .openNames, some sight => .listed (sight.mode == .opened)
  | .openNames, none => .listed false
  | _, none => .nothing

end Query

namespace Admin

/-- The question behind a route. A name that cannot be read is no question. -/
def Route.query? : Route → Option Query
  | .status => some .openNames
  | .breakers => some .all
  | .breaker segment => (Text.percentDecoded? segment).map .one

/-- The question that a request asks, if it may pass and asks any. -/
def asks? (key : String) (request : Request) : Option Query :=
  if authorizes key request.authorization && understood.contains request.method then
    (Route.ofPath? (pathOf request.uri)).bind Route.query?
  else none

/-- The answer to a question as a document. -/
def rendered : Findings → Response
  | .one _ none => words 404 "Circuit breaker not found"
  | .one _ (some shown) => document shown.tree
  | .all shown => document (snapshotsTree shown)
  | .openNames names => document (statusTree names)

/-- The answer to a request, made of the answer to its question. -/
def framed (request : Request) (response : Response) : Response :=
  { (if request.method = "HEAD" then { response with body := "" } else response) with
    allow := allowed request }

/-- A request is answered with what its question finds. If it asks none, breakers have no part
in the answer. -/
def Answers (key : String) (request : Request) (reading : Reading) : Prop :=
  match asks? key request with
  | some query => ∀ registry, respond registry key request reading =
      (query.run registry reading).map (framed request ∘ rendered)
  | none => ∃ effects response, ∀ registry,
      respond registry key request reading = ⟨registry, effects, .ok response⟩

end Admin

theorem Step.map_map (step : Step ε σ α) (f : α → β) (g : β → γ) :
    (step.map f).map g = step.map (g ∘ f) := by
  obtain ⟨state, effects, result⟩ := step
  cases result <;> rfl

variable {registry : Registry} {query : Query} {now wall : Instant}

namespace Admin

/-- A route shows the answer to its question. -/
theorem show_query {route : Route} (found : route.query? = some query) (registry : Registry)
    (reading : Reading) :
    show_ registry reading route = (query.run registry reading).map rendered := by
  cases route with
  | status =>
    cases found
    simp only [Query.run, Step.map_map]
    rfl
  | breakers =>
    cases found
    simp only [Query.run, Step.map_map]
    rfl
  | breaker segment =>
    simp only [Route.query?, Option.map_eq_some_iff] at found
    obtain ⟨name, decoded, rfl⟩ := found
    cases known : registry.find? name with
    | none =>
      simp only [show_, decoded, Query.run, known]
      rfl
    | some b =>
      simp only [show_, decoded, Query.run, known, Step.map_map]
      rfl

/-- A route without a question has nothing to do with the breakers. -/
theorem show_nothing {route : Route} (nothing : route.query? = none) (registry : Registry)
    (reading : Reading) :
    show_ registry reading route =
      .pure registry (words 400 "Invalid URL: Invalid UTF-8 in \x60name\x60") := by
  cases route with
  | status => cases nothing
  | breakers => cases nothing
  | breaker segment =>
    simp only [Route.query?, Option.map_eq_none_iff] at nothing
    simp only [show_, nothing]

theorem understood_iff (request : Request) :
    understood.contains request.method = true ↔
      request.method = "GET" ∨ request.method = "HEAD" := by
  simp [understood]

/-- A request that asks a question is answered with the answer to it. -/
theorem respond_asked {request : Request} (asked : asks? key request = some query)
    (registry : Registry) (reading : Reading) :
    respond registry key request reading =
      (query.run registry reading).map (framed request ∘ rendered) := by
  unfold asks? at asked
  split at asked
  · rename_i passes
    obtain ⟨passes, method⟩ := Bool.and_eq_true_iff.mp passes
    obtain ⟨route, found, known⟩ := Option.bind_eq_some_iff.mp asked
    simp only [respond, passes, ↓reduceIte, serve, found, show_query known]
    rcases (understood_iff request).mp method with get | head
    · simp only [get, ↓reduceIte, Step.map_map]
      congr 1
      funext findings
      simp [framed, get]
    · have other : "HEAD" ≠ "GET" := by decide
      simp only [head, if_neg other, ↓reduceIte, Step.map_map]
      congr 1
      funext findings
      simp [framed, head]
  · cases asked

/-- Any other request leaves the breakers alone, and they have no part in its answer. At most it
is written to the log. -/
theorem respond_unasked {request : Request} (idle : asks? key request = none)
    (reading : Reading) :
    ∃ events response, ∀ registry,
      respond registry key request reading =
        ⟨registry, List.map Effect.event events, .ok response⟩ := by
  unfold asks? at idle
  by_cases passes : authorizes key request.authorization = true
  · simp only [respond, passes, ↓reduceIte, serve]
    cases found : Route.ofPath? (pathOf request.uri) with
    | none => exact ⟨[], _, fun _ => rfl⟩
    | some route =>
      by_cases method : understood.contains request.method = true
      · simp only [passes, method, Bool.and_self, ↓reduceIte, found, Option.bind_some] at idle
        simp only [show_nothing idle]
        rcases (understood_iff request).mp method with get | head
        · simp only [get, ↓reduceIte]
          exact ⟨[], _, fun _ => rfl⟩
        · simp only [head, ↓reduceIte]
          exact ⟨[], _, fun _ => rfl⟩
      · rw [understood_iff, not_or] at method
        simp only [if_neg method.1, if_neg method.2]
        exact ⟨[], _, fun _ => rfl⟩
  · simp only [respond, passes, Bool.false_eq_true, ↓reduceIte]
    exact ⟨[.unauthenticated (pathOf request.uri)],
      { status := 401, allow := allowed request }, fun _ => rfl⟩

theorem respond_answers (key : String) (request : Request) (reading : Reading) :
    Answers key request reading := by
  unfold Answers
  split
  · rename_i asked
    exact fun registry => respond_asked asked registry reading
  · rename_i idle
    obtain ⟨events, response, same⟩ := respond_unasked idle reading
    exact ⟨_, response, same⟩

end Admin

namespace Registry

/-- Where both clocks can be read, every breaker is shown. -/
theorem readAll_shown (registry : Registry) (now wall : Instant) :
    (registry.readAll ⟨some now, some wall⟩).result =
      .ok (registry.breakers.map fun b =>
        (b.name, (b.read ⟨some now, some wall⟩).state.snapshot)) := by
  refine (readEach_answered registry.breakers _ _).mpr ?_
  rw [List.map_map]
  refine List.map_congr_left fun b _ => ?_
  simp only [Function.comp_apply, Breaker.read_result, Breaker.read_state]

/-- A name is listed as open if its breaker is, provided that names are distinct. -/
theorem openAmong_contains (distinct : registry.names.Nodup) (shown : Breaker → Snapshot)
    (name : String) :
    (openAmong (registry.breakers.map fun b => (b.name, shown b))).contains name =
      (registry.find? name).any fun b => (shown b).mode == .opened := by
  rw [Bool.eq_iff_iff, List.contains_iff_mem, openAmong, List.mem_map]
  constructor
  · rintro ⟨entry, member, rfl⟩
    obtain ⟨member, opened⟩ := List.mem_filter.mp member
    obtain ⟨b, known, rfl⟩ := List.mem_map.mp member
    cases found : registry.find? b.name with
    | none =>
      have missing := List.find?_eq_none.mp found b known
      simp at missing
    | some other =>
      -- Only one breaker has that name.
      have same := List.inj_on_of_nodup_map distinct (List.mem_of_find?_eq_some found) known
        (find?_name found)
      rw [Option.any_some, same]
      exact opened
  · intro opened
    cases found : registry.find? name with
    | none => simp [found] at opened
    | some b =>
      rw [found, Option.any_some] at opened
      refine ⟨(b.name, shown b), List.mem_filter.mpr ⟨?_, opened⟩, find?_name found⟩
      exact List.mem_map_of_mem (List.mem_of_find?_eq_some found)

end Registry

namespace Query

/-- Whether a question gets to the breaker with a name. One to the whole registry may end before. -/
def reaches (query : Query) (registry : Registry) (reading : Reading) (name : String) : Bool :=
  match query with
  | .one other => other == name
  | .all | .openNames => Registry.getsTo registry.breakers reading name

/-- Whether a question gets to everything that it concerns. To read the whole registry may end
before, and to look at one breaker never does. -/
def completes (query : Query) (registry : Registry) (reading : Reading) : Bool :=
  match query with
  | .one _ => true
  | .all | .openNames => (registry.readAll reading).result.isOk

theorem reaches_of_completes (completes : query.completes registry reading = true)
    (name : String) : query.reaches registry reading name = query.concerns name := by
  have everyone (fine : (registry.readAll reading).result.isOk = true) :
      Registry.getsTo registry.breakers reading name = true := by
    refine List.all_eq_true.mpr fun b member => ?_
    exact Registry.readEach_isOk_iff.mp fine b ((List.takeWhile_sublist _).mem member)
  cases query with
  | one other => rfl
  | all => exact everyone completes
  | openNames => exact everyone completes

theorem completes_shown (query : Query) (registry : Registry) (now wall : Instant) :
    query.completes registry ⟨some now, some wall⟩ = true := by
  have shown := registry.readAll_shown now wall
  cases query with
  | one name => rfl
  | all => simp [completes, shown, Except.isOk, Except.toBool]
  | openNames => simp [completes, shown, Except.isOk, Except.toBool]

/-- A question looks at the breakers that it gets to. -/
theorem run_find? (query : Query) (registry : Registry) (reading : Reading) (name : String) :
    (query.run registry reading).state.find? name =
      (registry.find? name).map fun b =>
        if query.reaches registry reading name then (b.read reading).state else b := by
  cases query with
  | all => exact Registry.readEach_find? registry.breakers reading name
  | openNames => exact Registry.readEach_find? registry.breakers reading name
  | one other =>
    simp only [run, reaches]
    cases known : registry.find? other with
    | none =>
      by_cases same : other = name
      · simp [← same, known, Step.pure]
      · simp [same, Step.pure]
    | some found =>
      simp only [Step.map, Registry.run, Step.within, Registry.store_find?]
      cases here : registry.find? name with
      | none => rfl
      | some b =>
        simp only [Option.map_some, Breaker.read_name, Registry.find?_name here,
          Registry.find?_name known]
        by_cases same : other = name
        · rw [same, here] at known
          cases known
          simp [same]
        · simp [same, Ne.symm same]

theorem run_names (query : Query) (registry : Registry) (reading : Reading) :
    (query.run registry reading).state.names = registry.names := by
  cases query with
  | all => exact Registry.readEach_names registry.breakers reading
  | openNames => exact Registry.readEach_names registry.breakers reading
  | one other =>
    simp only [run]
    split
    · rfl
    · exact registry.store_names _

/-- A breaker that is looked at tells what it tells to a look, and nothing is told of others. -/
theorem run_ownOf (query : Query) (distinct : registry.names.Nodup) (reading : Reading)
    (name : String) :
    Effect.ownOf name (query.run registry reading).effects =
      match registry.find? name with
      | some b =>
        if query.reaches registry reading name then Effect.ownOf name (b.read reading).effects
        else []
      | none => [] := by
  cases query with
  | all => exact Registry.readEach_ownOf distinct reading name
  | openNames => exact Registry.readEach_ownOf distinct reading name
  | one other =>
    simp only [run, reaches]
    cases known : registry.find? other with
    | none =>
      cases here : registry.find? name with
      | none => rfl
      | some b =>
        have different : other ≠ name := by
          rintro rfl
          cases known.symm.trans here
        simp [different, Step.pure, Effect.ownOf]
    | some found =>
      simp only [Step.map, Registry.run, Step.within]
      by_cases same : other = name
      · rw [← same, known]
        simp
      · have label : found.name ≠ name := (Registry.find?_name known).trans_ne same
        rw [Breaker.ownOf_of_discreet (found.read_discreet reading) label]
        split <;> simp [same]

/-- What a question reveals of a breaker is what a look at it shows. -/
theorem run_reveals (query : Query) (distinct : registry.names.Nodup) (now wall : Instant)
    (name : String) :
    Findings.told name (query.run registry ⟨some now, some wall⟩).result =
      query.reveals name ((registry.find? name).map fun b =>
        (b.read ⟨some now, some wall⟩).state.snapshot.sight) := by
  have shown := registry.readAll_shown now wall
  cases query with
  | all =>
    have same : ((·.1 == name) ∘ fun b : Breaker =>
        (b.name, (b.read ⟨some now, some wall⟩).state.snapshot)) = (·.name == name) := rfl
    simp only [run, Step.map, shown, Except.map, Findings.told, Findings.about, List.find?_map,
      same, Registry.find?]
    cases registry.breakers.find? (·.name == name) <;> rfl
  | openNames =>
    simp only [run, Registry.openNames, Step.map, shown, Except.map, Findings.told,
      Findings.about, Registry.openAmong_contains distinct]
    cases registry.find? name <;> rfl
  | one other =>
    cases known : registry.find? other with
    | none =>
      simp only [run, known, Step.pure, Findings.told, Findings.about]
      cases here : registry.find? name with
      | none => rfl
      | some b =>
        have other : other ≠ name := by
          rintro rfl
          cases known.symm.trans here
        simp [reveals, other]
    | some found =>
      simp only [run, known, Registry.run, Step.within, Step.map, Breaker.read_result, Except.map,
        Findings.told, Findings.about]
      by_cases same : other = name
      · rw [← same, known]
        simp [reveals, Breaker.read_state]
      · cases registry.find? name <;> simp [reveals, same]

end Query

end Fusebox
