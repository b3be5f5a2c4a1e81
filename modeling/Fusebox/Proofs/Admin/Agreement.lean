import Fusebox.Proofs.Admin.Address
import Fusebox.Proofs.Document.Named
import Fusebox.Proofs.Document.RoundTrip
import Fusebox.Proofs.Registry.Independence
import Fusebox.Proofs.Traffic.Quiescence

/-! The endpoints of the admin interface while the clocks stand still. Whoever looks at a breaker
first lets its timer act, and after that nothing is due at the same reading. So it makes no
difference who has looked before: all endpoints answer from one map, in which every breaker has
the entry that it shows by itself. What they answer is JSON, and whoever reads it finds the map and
its entries again. -/
namespace Fusebox

variable {registry next : Registry} {now wall : Instant} {reading : Reading} {name key : String}

namespace Breaker

variable {b : Breaker}

/-- What a breaker shows at a reading of the clocks. -/
def shownAt (b : Breaker) (reading : Reading) : Snapshot := (b.read reading).state.snapshot

/-- A look leaves nothing to be done for another one at the same reading. -/
theorem read_quiet (positive : 0 < b.policy.openTimeout.nanos) (wall : Option Instant) :
    (b.read ⟨some now, wall⟩).state.Quiet now := by
  rw [read_state]
  exact quiet_of_early ((refresh_elapsed b now wall).settled positive)

theorem shownAt_read (positive : 0 < b.policy.openTimeout.nanos) :
    (b.read ⟨some now, some wall⟩).state.shownAt ⟨some now, some wall⟩ =
      b.shownAt ⟨some now, some wall⟩ := by
  have quiet : (b.read ⟨some now, some wall⟩).state.Quiet now := read_quiet positive _
  simp only [shownAt, quiet.still, Step.pure]

theorem read_policy (b : Breaker) (now : Instant) (wall : Option Instant) :
    (b.read ⟨some now, wall⟩).state.policy = b.policy := by
  rw [read_state]
  exact (refresh_elapsed b now wall).policy

end Breaker

/-- What is shown of a breaker can be written as JSON. -/
theorem Snapshot.tree_plain (shown : Snapshot) : shown.tree.Plain := by
  have counter (number : UInt32) : (Tree.whole number.toNat).Plain := by
    have bound := number.toNat_lt
    exact .whole (by omega) (by omega)
  have long (number : UInt64) : (Tree.whole number.toNat).Plain := by
    have bound := number.toNat_lt
    exact .whole (by omega) (by omega)
  refine .table fun entry member => ?_
  simp only [List.mem_cons, List.not_mem_nil, or_false] at member
  rcases member with rfl | rfl | rfl | rfl | rfl | rfl | rfl | rfl
  · exact .text _
  · exact long _
  · exact counter _
  · exact counter _
  · exact counter _
  · exact counter _
  · exact counter _
  · exact long _

namespace Registry

/-- What the breakers show at a reading of the clocks, by name. -/
def shownAt (registry : Registry) (reading : Reading) : Named Snapshot :=
  registry.breakers.map fun b => (b.name, b.shownAt reading)

theorem shownAt_names (registry : Registry) (reading : Reading) :
    (registry.shownAt reading).map Prod.fst = registry.names := by
  rw [shownAt, List.map_map]
  rfl

theorem shownAt_find? (registry : Registry) (reading : Reading) (name : String) :
    (registry.shownAt reading).find? name = (registry.find? name).map (·.shownAt reading) :=
  Named.find?_keyed _ _ registry.breakers name

/-- The names are in order, and no outage ends as it begins. So it is after any deeds. -/
structure Orderly (registry : Registry) : Prop where
  ordered : registry.names.Pairwise (· < ·)
  lasting : ∀ name b, registry.find? name = some b → 0 < b.policy.openTimeout.nanos

theorem Orderly.shownAt_ordered (orderly : registry.Orderly) (reading : Reading) :
    (registry.shownAt reading).Ordered := by
  rw [Named.Ordered, shownAt_names]
  exact orderly.ordered

/-- Some of the breakers were looked at, and nothing else was done to any. -/
structure LookedAt (reading : Reading) (registry next : Registry) : Prop where
  names : next.names = registry.names
  found : ∀ name, ∃ looked : Bool, next.find? name =
    (registry.find? name).map fun b => if looked then (b.read reading).state else b

theorem LookedAt.refl (reading : Reading) (registry : Registry) :
    LookedAt reading registry registry := by
  refine ⟨rfl, fun name => ⟨false, ?_⟩⟩
  simp only [Bool.false_eq_true, ↓reduceIte, Option.map_id']

variable (looked : LookedAt ⟨some now, some wall⟩ registry next)
include looked

theorem LookedAt.orderly (orderly : registry.Orderly) : next.Orderly := by
  refine ⟨looked.names ▸ orderly.ordered, fun name b known => ?_⟩
  obtain ⟨seen, found⟩ := looked.found name
  rw [known, eq_comm, Option.map_eq_some_iff] at found
  obtain ⟨earlier, here, rfl⟩ := found
  have positive := orderly.lasting name earlier here
  by_cases seen : seen = true
  · rw [if_pos seen, Breaker.read_policy]
    exact positive
  · rw [if_neg seen]
    exact positive

/-- Those who have looked leave the same to be seen. -/
theorem LookedAt.shownAt (orderly : registry.Orderly) :
    next.shownAt ⟨some now, some wall⟩ = registry.shownAt ⟨some now, some wall⟩ := by
  have sorted := (looked.orderly orderly).shownAt_ordered ⟨some now, some wall⟩
  refine sorted.ext (orderly.shownAt_ordered _) fun name => ?_
  obtain ⟨seen, found⟩ := looked.found name
  rw [shownAt_find?, shownAt_find?, found]
  cases known : registry.find? name with
  | none => rfl
  | some b =>
    by_cases seen : seen = true
    · rw [Option.map_some, Option.map_some, Option.map_some, if_pos seen,
        Breaker.shownAt_read (orderly.lasting name b known)]
    · rw [Option.map_some, Option.map_some, Option.map_some, if_neg seen]

end Registry

/-- Deeds leave a registry orderly: each of its breakers was made by one of them. -/
theorem Fleet.run_orderly (script : List Deed) : (run {} script).registry.Orderly := by
  refine ⟨ordered_empty.run script, fun name b known => ?_⟩
  have member : name ∈ (run {} script).registry.names :=
    Registry.mem_names_iff.mpr (Option.isSome_of_eq_some known)
  obtain ⟨founding⟩ := (names_founded script name).mp member
  have unit := founding.independent.unit
  rw [registry_found unit, Option.some.injEq] at known
  have reached := Traffic.run_reached (.fresh founding.created) founding.moves
  rw [← known]
  exact reached.openTimeout_pos

namespace Admin

/-- A request for a route from somebody who may ask. -/
structure Gets (key : String) (request : Request) (route : Route) : Prop where
  passes : authorizes key request.authorization = true
  method : request.method = "GET"
  route : Route.ofPath? (pathOf request.uri) = some route

/-- A request for the breaker with a name. The name may be written in many ways. -/
def GetsBreaker (key : String) (request : Request) (name : String) : Prop :=
  ∃ segment, Gets key request (.breaker segment) ∧ Text.percentDecoded? segment = some name

/-- The registry after requests, whatever they ask for, that come one after the other while the
clocks stand still. -/
def afterRequests (registry : Registry) (key : String) (reading : Reading)
    (requests : List Request) : Registry :=
  requests.foldl (fun registry request => (respond registry key request reading).state) registry

/-- The breakers of a registry as documents, by name. -/
def mapOf (registry : Registry) (reading : Reading) : Named Tree :=
  (registry.shownAt reading).map fun (name, snapshot) => (name, snapshot.tree)

/-- The state that a document about a breaker gives. -/
def stateIn? : Tree → Option String
  | .table fields =>
    match Named.find? fields "state" with
    | some (.text state) => some state
    | _ => none
  | _ => none

/-- The names of a map whose entries give the state as open. -/
def openIn (map : Named Tree) : List String :=
  (map.filter fun entry => stateIn? entry.2 == some "open").map Prod.fst

/-- A document is the answer. It is written as JSON, and it is what a reader of that finds. -/
structure Serves (answered : Step Effect Registry Response) (tree : Tree) : Prop where
  result : answered.result = .ok {
    status := 200
    contentType := some "application/json"
    allow := none
    body := Document.compact tree }
  readable : Document.Json.parse? (Document.compact tree) = some tree

/-- What all endpoints answer, made from one map. -/
structure AnswersFrom (map : Named Tree) (registry : Registry) (key : String)
    (reading : Reading) : Prop where
  /-- The map has the registered names, in order, -/
  keys : map.map Prod.fst = registry.names
  ordered : map.Ordered
  /-- and it is what is answered to a request for all breakers. -/
  all : ∀ request, Gets key request .breakers →
    Serves (respond registry key request reading) (.table map)
  /-- A registered breaker is answered with its entry. -/
  one : ∀ request name, GetsBreaker key request name → name ∈ registry.names →
    ∃ tree, map.find? name = some tree ∧ Serves (respond registry key request reading) tree
  /-- For another name there is no breaker, and none is made. -/
  unknown : ∀ request name, GetsBreaker key request name → name ∉ registry.names →
    respond registry key request reading = {
      state := registry
      effects := []
      result := .ok {
        status := 404
        contentType := some "text/plain; charset=utf-8"
        allow := none
        body := "Circuit breaker not found" } }
  /-- The open breakers are those whose entries say so, and any one of them is a degradation. -/
  status : ∀ request, Gets key request .status →
    Serves (respond registry key request reading) (.table [
      ("version", .text version),
      ("status", .text (if openIn map = [] then "operational" else "degraded")),
      ("open_breakers", .list ((openIn map).map .text))])
  listed : ∀ name, name ∈ openIn map ↔
    ∃ tree, map.find? name = some tree ∧ stateIn? tree = some "open"
  sorted : (openIn map).Pairwise (· < ·)

/-- A request looks at breakers and does nothing else to them. -/
theorem respond_looks (registry : Registry) (key : String) (request : Request)
    (reading : Reading) :
    Registry.LookedAt reading registry (respond registry key request reading).state := by
  cases asked : asks? key request with
  | none =>
    obtain ⟨events, response, same⟩ := respond_unasked asked reading
    rw [same]
    exact .refl reading registry
  | some query =>
    rw [respond_asked asked]
    refine ⟨query.run_names registry reading, fun name => ?_⟩
    exact ⟨query.reaches registry reading name, query.run_find? registry reading name⟩

/-- However many have asked, the registry is as orderly as before and shows the same. -/
theorem afterRequests_shows (orderly : registry.Orderly) (key : String) (now wall : Instant)
    (requests : List Request) :
    let later := afterRequests registry key ⟨some now, some wall⟩ requests
    later.Orderly ∧
      later.shownAt ⟨some now, some wall⟩ = registry.shownAt ⟨some now, some wall⟩ := by
  induction requests generalizing registry with
  | nil => exact ⟨orderly, rfl⟩
  | cons request rest ih =>
    have looked := respond_looks registry key request ⟨some now, some wall⟩
    obtain ⟨later, same⟩ := ih (looked.orderly orderly)
    exact ⟨later, same.trans (looked.shownAt orderly)⟩

theorem rendered_allow (findings : Findings) : (rendered findings).allow = none := by
  rcases findings with ⟨name, _ | shown⟩ | shown | names <;> rfl

/-- Who may ask and gets a route is answered with what its question finds. -/
theorem Gets.answer {request : Request} {route : Route} {query : Query}
    (gets : Gets key request route) (asks : route.query? = some query) (registry : Registry)
    (reading : Reading) :
    respond registry key request reading = (query.run registry reading).map rendered := by
  have understands : understood.contains request.method = true :=
    (understood_iff request).mpr (.inl gets.method)
  have asked : asks? key request = some query := by
    simp only [asks?, gets.passes, understands, Bool.and_self, ↓reduceIte, gets.route,
      Option.bind_some, asks]
  have unframed : framed request ∘ rendered = rendered := by
    funext findings
    have other : request.method ≠ "HEAD" := by
      rw [gets.method]
      decide
    have silent : allowed request = none := by
      simp only [allowed, understands, Bool.not_true, Bool.and_false, Bool.false_eq_true,
        ↓reduceIte]
    simp only [Function.comp_apply, framed, if_neg other, silent, ← rendered_allow findings]
  rw [respond_asked asked, unframed]

/-- A snapshot gives its mode as the state, by the word for it. -/
theorem stateIn?_tree (shown : Snapshot) : stateIn? shown.tree = some shown.mode.label := rfl

theorem mapOf_names (registry : Registry) (reading : Reading) :
    (mapOf registry reading).map Prod.fst = registry.names := by
  rw [mapOf, List.map_map, ← registry.shownAt_names reading]
  rfl

theorem mapOf_find? (registry : Registry) (reading : Reading) (name : String) :
    (mapOf registry reading).find? name =
      (registry.find? name).map fun b => (b.shownAt reading).tree := by
  rw [mapOf, Registry.shownAt, List.map_map]
  exact Named.find?_keyed _ _ registry.breakers name

/-- The entries that say so are those of the open breakers. -/
theorem openIn_mapOf (registry : Registry) (reading : Reading) :
    openIn (mapOf registry reading) = Registry.openAmong (registry.shownAt reading) := by
  have same (shown : Snapshot) :
      (stateIn? shown.tree == some "open") = (shown.mode == .opened) := by
    rw [stateIn?_tree]
    cases shown.mode <;> rfl
  simp only [openIn, mapOf, Registry.openAmong, List.filter_map, List.map_map,
    Function.comp_def, same]

theorem mem_openIn_iff {map : Named Tree} (ordered : map.Ordered) :
    name ∈ openIn map ↔ ∃ tree, map.find? name = some tree ∧ stateIn? tree = some "open" := by
  simp [openIn, Named.find?_eq_some_iff ordered.nodup]

/-- Nothing that is served is of a kind that JSON does not have. -/
theorem serves_document {answered : Step Effect Registry Response} {tree : Tree}
    (plain : tree.Plain) (result : answered.result = .ok (document tree)) :
    Serves answered tree := ⟨result, Document.parse?_compact plain⟩

theorem statusTree_plain (names : List String) : (statusTree names).Plain := by
  have listed : (Tree.list (names.map .text)).Plain := by
    refine .list fun item member => ?_
    obtain ⟨name, -, rfl⟩ := List.mem_map.mp member
    exact .text name
  refine .table fun entry member => ?_
  simp only [List.mem_cons, List.not_mem_nil, or_false] at member
  rcases member with rfl | rfl | rfl
  · exact .text version
  · exact .text _
  · exact listed

theorem mapOf_plain (registry : Registry) (reading : Reading) :
    (Tree.table (mapOf registry reading)).Plain := by
  refine .table fun entry member => ?_
  obtain ⟨⟨name, shown⟩, -, rfl⟩ := List.mem_map.mp member
  exact shown.tree_plain

/-- The endpoints of an orderly registry answer from the map of what its breakers show. -/
theorem answersFrom_mapOf (orderly : registry.Orderly) (key : String) (now wall : Instant) :
    AnswersFrom (mapOf registry ⟨some now, some wall⟩) registry key ⟨some now, some wall⟩ := by
  have keys := mapOf_names registry ⟨some now, some wall⟩
  have ordered : (mapOf registry ⟨some now, some wall⟩).Ordered := by
    rw [Named.Ordered, keys]
    exact orderly.ordered
  have shown : (registry.readAll ⟨some now, some wall⟩).result =
      .ok (registry.shownAt ⟨some now, some wall⟩) := registry.readAll_shown now wall
  constructor
  · exact keys
  · exact ordered
  · intro request gets
    refine serves_document (mapOf_plain _ _) ?_
    rw [gets.answer rfl]
    simp only [Query.run, Step.map, shown, Except.map, rendered]
    rfl
  · rintro request name ⟨segment, gets, decoded⟩ known
    obtain ⟨b, found⟩ := Option.isSome_iff_exists.mp (Registry.mem_names_iff.mp known)
    refine ⟨(b.shownAt ⟨some now, some wall⟩).tree, ?_, serves_document (Snapshot.tree_plain _) ?_⟩
    · rw [mapOf_find?, found]
      rfl
    · rw [gets.answer (congrArg (Option.map Query.one) decoded)]
      simp only [Query.run, found, Registry.run, Step.within, Step.map, Breaker.read_result,
        Except.map, rendered, Breaker.shownAt, Breaker.read_state]
  · rintro request name ⟨segment, gets, decoded⟩ strange
    rw [gets.answer (congrArg (Option.map Query.one) decoded)]
    cases found : registry.find? name with
    | some b => exact absurd (Registry.mem_names_iff.mpr (Option.isSome_of_eq_some found)) strange
    | none =>
      simp only [Query.run, found]
      rfl
  · intro request gets
    have told := statusTree_plain (openIn (mapOf registry ⟨some now, some wall⟩))
    simp only [statusTree, List.isEmpty_iff] at told
    refine serves_document told ?_
    rw [gets.answer rfl, openIn_mapOf]
    simp only [Query.run, Registry.openNames, Step.map, shown, Except.map, rendered, statusTree,
      List.isEmpty_iff]
  · exact fun name => mem_openIn_iff ordered
  · exact ordered.sublist (List.filter_sublist.map Prod.fst)

/-- All endpoints can be asked, and a breaker of any name but the empty one can be asked for. -/
structure Reachable (key : String) (authorization : List (List UInt8)) : Prop where
  status : Gets key ⟨"GET", "/admin/status", authorization⟩ .status
  breakers : Gets key ⟨"GET", "/admin/breakers", authorization⟩ .breakers
  breaker : ∀ name, name ≠ "" → GetsBreaker key ⟨"GET", addressOf name, authorization⟩ name

theorem reachable {authorization : List (List UInt8)}
    (passes : authorizes key authorization = true) : Reachable key authorization := by
  have status : Route.ofPath? (pathOf "/admin/status") = some .status := by decide
  have breakers : Route.ofPath? (pathOf "/admin/breakers") = some .breakers := by decide
  refine ⟨⟨passes, rfl, status⟩, ⟨passes, rfl, breakers⟩, fun name named => ?_⟩
  exact ⟨_, ⟨passes, rfl, ofPath?_addressOf named⟩, Text.percentDecoded?_percentEncoded name⟩

/-- Whatever has been done to a registry, and whatever has been asked while the clocks stand still:
all endpoints answer from the map of what each breaker shows at that reading, and the names stay
as they are. Who may ask can ask all of them, by any name that is not empty. -/
theorem endpoints_agree (script : List Deed) (key : String) (now wall : Instant)
    (earlier : List Request) :
    let registry := (Fleet.run {} script).registry
    let later := afterRequests registry key ⟨some now, some wall⟩ earlier
    later.names = registry.names ∧
      AnswersFrom (mapOf registry ⟨some now, some wall⟩) later key ⟨some now, some wall⟩ ∧
      ∀ authorization, authorizes key authorization = true → Reachable key authorization := by
  intro registry later
  obtain ⟨orderly, same⟩ := afterRequests_shows (Fleet.run_orderly script) key now wall earlier
  refine ⟨?_, ?_, fun authorization => reachable⟩
  · rw [← Registry.shownAt_names later ⟨some now, some wall⟩, same, Registry.shownAt_names]
  · have answers := answersFrom_mapOf orderly key now wall
    rw [mapOf, same] at answers
    exact answers

/-- The outage of one breaker has just come to its end, and that of another one goes on. The first
request ends the outage for all the others, and one that does not bring the key does nothing. What
is said of a breaker when it is asked for is what stands in the map. -/
theorem endpoints_agree_at_end_of_outage :
    let script : List Deed := [
      .register "touchy" .touchy (.past 0),
      .register "wary" .wary (.past 0),
      .call "touchy" (.ask "first" (.past 1)),
      .call "touchy" (.finish 0 .failed (.past 2)),
      .call "wary" (.ask "first" (.past 8)),
      .call "wary" (.finish 0 .failed (.past 9))]
    let ask (uri : String) : Request := ⟨"GET", uri, [credentials "key"]⟩
    let earlier : List Request := [
      ask "/admin/breakers/touchy",
      ⟨"GET", "/admin/breakers/wary", []⟩,
      ask "/admin/status"]
    let registry := (Fleet.run {} script).registry
    let later := afterRequests registry "key" (.past 12) earlier
    let answer (uri : String) := (respond later "key" (ask uri) (.past 12)).result
    let served (body : String) : Except Crash Response :=
      .ok { status := 200, contentType := some "application/json", allow := none, body }
    let unused := "\"requests\":0,\"total_successes\":0,\"total_failures\":0," ++
      "\"consecutive_successes\":0,\"consecutive_failures\":0,\"last_state_change_unix_ms\":0"
    let touchy := "\x7b\"state\":\"half_open\",\"generation\":2," ++ unused ++ "\x7d"
    let wary := "\x7b\"state\":\"open\",\"generation\":1," ++ unused ++ "\x7d"
    later.names = ["touchy", "wary"] ∧
      answer "/admin/breakers" =
        served ("\x7b\"touchy\":" ++ touchy ++ ",\"wary\":" ++ wary ++ "\x7d") ∧
      answer "/admin/breakers/t%6Fuchy" = served touchy ∧
      answer (addressOf "wary") = served wary ∧
      answer (addressOf "touchy/") = .ok {
        status := 404
        contentType := some "text/plain; charset=utf-8"
        allow := none
        body := "Circuit breaker not found" } ∧
      answer "/admin/status" = served
        "\x7b\"version\":\"0.1.0\",\"status\":\"degraded\",\"open_breakers\":[\"wary\"]\x7d" := by
  intro script ask earlier registry later answer served unused touchy wary
  let moment : Instant := ⟨12, by decide⟩
  let map := mapOf registry (.past 12)
  have admitted : authorizes "key" [credentials "key"] = true := by decide
  obtain ⟨kept, answers, reach⟩ := endpoints_agree script "key" moment moment earlier
  have answers : AnswersFrom map later "key" (.past 12) := answers
  have names : later.names = ["touchy", "wary"] := kept
  have reach := reach _ admitted
  -- What is served is told by a tree, and the tree is written out.
  have one {uri name body : String} (gets : GetsBreaker "key" (ask uri) name)
      (known : name ∈ later.names)
      (written : (map.find? name).map Document.compact = some body) :
      answer uri = served body := by
    obtain ⟨tree, found, told⟩ := answers.one _ _ gets known
    rw [found, Option.map_some, Option.some.injEq] at written
    rw [← written]
    exact told.result
  refine ⟨names, ?_, ?_, ?_, ?_, ?_⟩
  · have written : Document.compact (.table map) =
        "\x7b\"touchy\":" ++ touchy ++ ",\"wary\":" ++ wary ++ "\x7d" := by decide +kernel
    rw [← written]
    exact (answers.all _ reach.breakers).result
  · have encoded : GetsBreaker "key" (ask "/admin/breakers/t%6Fuchy") "touchy" :=
      ⟨"t%6Fuchy", ⟨admitted, rfl, by decide⟩, by decide⟩
    exact one encoded (by simp [names]) (by decide +kernel)
  · exact one (reach.breaker "wary" (by decide)) (by simp [names]) (by decide +kernel)
  · have missing := answers.unknown _ _ (reach.breaker "touchy/" (by decide)) (by simp [names])
    exact congrArg Step.result missing
  · have told := (answers.status _ reach.status).result
    have written : Document.compact (.table [
        ("version", .text version),
        ("status", .text (if openIn map = [] then "operational" else "degraded")),
        ("open_breakers", .list ((openIn map).map .text))]) =
        "\x7b\"version\":\"0.1.0\",\"status\":\"degraded\",\"open_breakers\":[\"wary\"]\x7d" := by
      decide +kernel
    rw [written] at told
    exact told

end Admin
end Fusebox
