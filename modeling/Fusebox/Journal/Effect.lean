import Fusebox.Journal.Event

/-! What operations report: events for the log, and updates of the metrics. The
two are reported side by side; neither is derived from the other. -/
namespace Fusebox

/-- Why a request was turned away. -/
inductive Rejection where
  /-- The breaker is open. -/
  | opened
  /-- The breaker is half-open and all its probes are taken. -/
  | tooManyRequests
deriving DecidableEq

/-- The word for a rejection in the metrics (`BreakerError::reason`). -/
def Rejection.reason : Rejection → String
  | .opened => "open"
  | .tooManyRequests => "too_many_requests"

/-- The counters, one for every combination of labels (`record_state_transition`,
`record_rejection`, `record_call`). -/
inductive Counter where
  | transitions (breaker : String) (source target : Mode)
  | rejections (breaker : String) (reason : Rejection)
  /-- Finished calls, whether they counted for the breaker or came too late. -/
  | calls (breaker : String) (success : Bool)
deriving DecidableEq

/-- The name of a counter with its labels. -/
def Counter.series : Counter → String
  | .transitions breaker source target =>
    "breaker_state_transitions_total\x7bbreaker=" ++ breaker ++ ",from=" ++ source.label ++
      ",to=" ++ target.label ++ "\x7d"
  | .rejections breaker reason =>
    "breaker_rejections_total\x7bbreaker=" ++ breaker ++ ",reason=" ++ reason.reason ++ "\x7d"
  | .calls breaker success =>
    "breaker_calls_total\x7bbreaker=" ++ breaker ++ ",outcome=" ++
      (if success then "success" else "failure") ++ "\x7d"

/-- The name of the gauge that shows a breaker's mode (`record_state`). -/
def gaugeSeries (breaker : String) : String := "breaker_state\x7bbreaker=" ++ breaker ++ "\x7d"

/-- One thing that an operation reports. -/
inductive Effect where
  | event (event : Event)
  /-- A counter goes up by one. -/
  | count (counter : Counter)
  /-- The gauge of a breaker is set to a mode. -/
  | gauge (breaker : String) (mode : Mode)

/-- The metrics as they stand: every counter that ever moved, every gauge that was set. -/
structure Meters where
  counters : List (Counter × Nat) := []
  gauges : List (String × Mode) := []

namespace Meters

/-- Changes the entry of `key`, or adds one made from nothing. -/
def upsert {κ ν : Type} [DecidableEq κ] (key : κ) (change : Option ν → ν) :
    List (κ × ν) → List (κ × ν)
  | [] => [(key, change none)]
  | (other, value) :: rest =>
    if other = key then (key, change (some value)) :: rest
    else (other, value) :: upsert key change rest

/-- Metrics after one more report. Events leave them alone. -/
def record (meters : Meters) : Effect → Meters
  | .event _ => meters
  | .count counter =>
    { meters with counters := upsert counter (fun value => value.getD 0 + 1) meters.counters }
  | .gauge breaker mode =>
    { meters with gauges := upsert breaker (fun _ => mode) meters.gauges }

/-- Metrics after a sequence of reports. -/
def recordAll (meters : Meters) (effects : List Effect) : Meters := effects.foldl record meters

end Meters

/-- The events among the effects, in order. -/
def eventsOf (effects : List Effect) : List Event :=
  effects.filterMap fun
    | .event event => some event
    | _ => none

end Fusebox
