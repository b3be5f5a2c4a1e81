import Fusebox.Breaker.Guard

/-! Breakers by name. A breaker is made when its name is first asked for and stays
for good; later requests for the same name get the same breaker, whatever policy
they bring. The registry keeps its breakers in ascending order of their names. -/
namespace Fusebox

/-- All breakers of a service (`BreakerManager`). -/
structure Registry where
  breakers : List Breaker := []

namespace Registry

/-- No breakers yet (`BreakerManager::new`). -/
def empty : Registry := {}

/-- The breaker with a name (`BreakerManager::get`). -/
def find? (registry : Registry) (name : String) : Option Breaker :=
  registry.breakers.find? (·.name == name)

/-- The names in ascending order (`BreakerManager::names`). -/
def names (registry : Registry) : List String := registry.breakers.map (·.name)

/-- How many breakers there are (`BreakerManager::len`). -/
def size (registry : Registry) : Nat := registry.breakers.length

/-- Whether there is no breaker yet (`BreakerManager::is_empty`). -/
def isEmpty (registry : Registry) : Bool := registry.breakers.isEmpty

/-- Puts a new breaker in its place by name. -/
def place (new : Breaker) : List Breaker → List Breaker
  | [] => [new]
  | first :: rest => if first.name < new.name then first :: place new rest else new :: first :: rest

/-- Puts a breaker back after one of its operations. -/
def store (registry : Registry) (changed : Breaker) : Registry :=
  ⟨registry.breakers.map fun b => if b.name == changed.name then changed else b⟩

/-- Runs an operation on one of the breakers. -/
def run {ε α : Type} (registry : Registry) (b : Breaker) (operation : Breaker → Step ε Breaker α) :
    Step ε Registry α :=
  (operation b).within registry.store

/-- What a request for a known name reports (`warn_on_config_mismatch`): nothing, or that
its policy is not the one in use. -/
def mismatch (existing : Breaker) (requested : Policy) : List Effect :=
  if existing.policy.agrees requested.normalized then []
  else [.event (.alreadyRegistered existing.name existing.policy requested.normalized)]

/-- The breaker with a name, made on first use (`BreakerManager::get_breaker`). A policy
that differs from the one in use is reported and otherwise ignored. -/
def register (registry : Registry) (name : String) (policy : Policy) (reading : Reading) :
    Step Effect Registry Breaker :=
  match registry.find? name with
  | some existing => (Step.pure registry existing).after (mismatch existing policy)
  | none =>
    match Breaker.create name policy reading with
    | .error cause => .crash registry cause
    | .ok new => {
        state := ⟨place new registry.breakers⟩
        effects := [.gauge name .closed, .event (.registered name new.policy)]
        result := .ok new }

/-- Registers one breaker after the other (`BreakerManager::from_config`). -/
def registerAll (registry : Registry) (reading : Reading) :
    List (String × Policy) → Step Effect Registry Unit
  | [] => .pure registry ()
  | (name, policy) :: rest =>
    (registry.register name policy reading).bind fun registry _ =>
      registry.registerAll reading rest

/-- Shows breakers one by one. A breaker whose clocks cannot be read ends it, after
those before it have been shown. -/
def readEach (reading : Reading) :
    List Breaker → Step Effect (List Breaker) (List (String × Snapshot))
  | [] => .pure [] []
  | first :: rest =>
    let shown := first.read reading
    match shown.result with
    | .error cause => ⟨shown.state :: rest, shown.effects, .error cause⟩
    | .ok snapshot =>
      (((readEach reading rest).within (shown.state :: ·)).map ((first.name, snapshot) :: ·)).after
        shown.effects

/-- Shows every breaker as it is now, by name (`BreakerManager::stats`). -/
def readAll (registry : Registry) (reading : Reading) :
    Step Effect Registry (List (String × Snapshot)) :=
  (readEach reading registry.breakers).within Registry.mk

/-- The names of those that are open, in ascending order. -/
def openAmong (snapshots : List (String × Snapshot)) : List String :=
  (snapshots.filter fun entry => entry.2.mode == .opened).map Prod.fst

/-- The names of the breakers that are open now (`BreakerManager::open_breakers`). -/
def openNames (registry : Registry) (reading : Reading) : Step Effect Registry (List String) :=
  (registry.readAll reading).map openAmong

end Registry
end Fusebox
