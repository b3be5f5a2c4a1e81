import Fusebox.Breaker.Mode
import Fusebox.Breaker.Policy
import Fusebox.Text.Quoted

/-! Everything that the service writes into its log. An event says what happened;
its severity, its place in the program, its sentence and its fields follow from it. -/
namespace Fusebox

/-- Severity of an event, from the most to the least talkative. -/
inductive Level where
  | trace
  | debug
  | info
  | warn
  | error
deriving DecidableEq

namespace Level

/-- Higher is more severe. -/
def severity : Level → Nat
  | .trace => 0
  | .debug => 1
  | .info => 2
  | .warn => 3
  | .error => 4

/-- The word in the log. -/
def label : Level → String
  | .trace => "TRACE"
  | .debug => "DEBUG"
  | .info => "INFO"
  | .warn => "WARN"
  | .error => "ERROR"

end Level

/-- The value of one field of an event. -/
inductive Datum where
  /-- A text of someone else's, which a log line puts into quotes. -/
  | text (text : String)
  /-- A text that is already in the form it is shown in. -/
  | shown (text : String)
  | whole (number : Nat)
  | real (number : Float)
  | flag (value : Bool)

/-- A field as it stands in a log line. -/
def Datum.line : Datum → String
  | .text words => Text.quoted words
  | .shown words => words
  | .whole number => toString number
  | .real number => Decimal.Layout.tagged.float number
  | .flag value => if value then "true" else "false"

/-- What can happen. -/
inductive Event where
  | registered (breaker : String) (policy : Policy)
  | alreadyRegistered (breaker : String) (existing requested : Policy)
  | changed (breaker : String) (source target : Mode) (generation : UInt64)
  | rejected (breaker operation : String) (mode : Mode)
  | tripped (breaker : String) (requests failures : UInt32) (threshold : Float)
  | probeFailed (breaker : String)
  | staleCompletion (breaker : String) (admitted current : UInt64) (success : Bool)
  | operationFailed (breaker : String)
  | operationCrashed (breaker : String)
  | operationDropped (breaker : String)
  | zeroThreshold (breaker : String)
  | unauthenticated (path : String)
  | unusableMetricsAddress (address : String)
  | breakersReady (names : List String)
  | adminListening (address : String)
  | adminDisabled
  | adminStopped
  | shutdownSignal
  | finalMode (breaker : String) (mode : Mode) (requests failures : UInt32)
  | starting (version : String) (config : Option String) (breakers : Nat)
  | shutdownComplete

namespace Event

/-- How severe an event is. -/
def level : Event → Level
  | .staleCompletion .. | .operationFailed .. => .debug
  | .registered .. | .changed .. | .breakersReady .. | .adminListening .. | .adminDisabled
  | .adminStopped | .shutdownSignal | .finalMode .. | .starting .. | .shutdownComplete => .info
  | .alreadyRegistered .. | .rejected .. | .tripped .. | .probeFailed .. | .operationCrashed ..
  | .operationDropped .. | .zeroThreshold .. | .unauthenticated .. => .warn
  | .unusableMetricsAddress .. => .error

/-- The part of the program that an event comes from, as log filters name it. -/
def origin : Event → String
  | .starting .. | .shutdownComplete => "weather_breaker"
  | .registered .. | .alreadyRegistered .. => "weather_breaker::resilience::manager"
  | .changed .. | .rejected .. | .tripped .. | .probeFailed .. | .staleCompletion ..
  | .operationFailed .. | .operationCrashed .. | .operationDropped .. =>
    "weather_breaker::resilience::circuit_breaker"
  | .zeroThreshold .. => "weather_breaker::config::validation"
  | .unauthenticated .. => "weather_breaker::admin::auth"
  | .adminListening .. | .adminStopped => "weather_breaker::admin"
  | .unusableMetricsAddress .. | .breakersReady .. | .adminDisabled | .finalMode .. =>
    "weather_breaker::lifecycle::startup"
  | .shutdownSignal => "weather_breaker::lifecycle::signals"

/-- The sentence that says what happened. -/
def message : Event → String
  | .registered .. => "Circuit breaker registered"
  | .alreadyRegistered .. =>
    "Circuit breaker already registered with a different configuration; keeping the original"
  | .changed .. => "Circuit breaker state changed"
  | .rejected .. => "Circuit breaker rejected request"
  | .tripped .. => "Failure ratio reached threshold, opening circuit"
  | .probeFailed .. => "Probe failed, reopening circuit"
  | .staleCompletion .. => "Discarding stale completion"
  | .operationFailed .. => "Guarded operation failed"
  | .operationCrashed .. => "Guarded operation panicked"
  | .operationDropped .. => "Guarded operation dropped before completion"
  | .zeroThreshold .. =>
    "failure_ratio_threshold is 0; the breaker will trip on the first failure"
  | .unauthenticated .. => "Rejected unauthenticated admin request"
  | .unusableMetricsAddress .. => "Failed to parse metrics address"
  | .breakersReady .. => "Circuit breakers ready"
  | .adminListening .. => "Admin API listening"
  | .adminDisabled => "Admin API disabled"
  | .adminStopped => "Admin API stopped"
  | .shutdownSignal => "Shutdown signal received"
  | .finalMode .. => "Final breaker state"
  | .starting .. => "weather-breaker starting"
  | .shutdownComplete => "Shutdown complete"

/-- A text that may be missing, in the form it is shown in. -/
def optionalText : Option String → String
  | some text => "Some(" ++ Text.quoted text ++ ")"
  | none => "None"

/-- The particulars of an event, in the order they are written in. -/
def fields : Event → List (String × Datum)
  | .registered breaker policy => [
      ("breaker", .shown breaker),
      ("max_half_open_requests", .whole policy.maxProbes.toNat),
      ("reset_interval", .shown policy.resetInterval.text),
      ("open_timeout", .shown policy.openTimeout.text),
      ("failure_ratio_threshold", .real policy.failureThreshold),
      ("minimum_requests_to_trip", .whole policy.minimumRequests.toNat)]
  | .alreadyRegistered breaker existing requested => [
      ("breaker", .shown breaker),
      ("existing", .shown existing.text),
      ("requested", .shown requested.text)]
  | .changed breaker source target generation => [
      ("breaker", .shown breaker),
      ("from", .shown source.label),
      ("to", .shown target.label),
      ("generation", .whole generation.toNat)]
  | .rejected breaker operation mode => [
      ("breaker", .shown breaker),
      ("operation", .text operation),
      ("state", .shown mode.label)]
  | .tripped breaker requests failures threshold => [
      ("breaker", .shown breaker),
      ("requests", .whole requests.toNat),
      ("failures", .whole failures.toNat),
      ("threshold", .real threshold)]
  | .staleCompletion breaker admitted current success => [
      ("breaker", .shown breaker),
      ("admitted_generation", .whole admitted.toNat),
      ("current_generation", .whole current.toNat),
      ("success", .flag success)]
  | .probeFailed breaker | .operationFailed breaker | .operationCrashed breaker
  | .operationDropped breaker | .zeroThreshold breaker => [("breaker", .shown breaker)]
  | .unauthenticated path => [("path", .shown path)]
  | .unusableMetricsAddress address => [("metrics_address", .shown address)]
  | .breakersReady names => [("breakers", .shown (Text.quotedList names))]
  | .adminListening address => [("address", .shown address)]
  | .adminDisabled | .adminStopped | .shutdownSignal | .shutdownComplete => []
  | .finalMode breaker mode requests failures => [
      ("breaker", .shown breaker),
      ("state", .shown mode.label),
      ("requests", .whole requests.toNat),
      ("total_failures", .whole failures.toNat)]
  | .starting version config breakers => [
      ("version", .text version),
      ("config", .shown (optionalText config)),
      ("breakers", .whole breakers)]

/-- What a filter can ask an event for: its particulars, and its sentence as one more. -/
def fieldNames (event : Event) : List String := "message" :: event.fields.map Prod.fst

/-- One line of the log: severity, origin, sentence, fields. -/
def line (event : Event) : String :=
  " ".intercalate
    (event.level.label :: (event.origin ++ ":") :: event.message ::
      event.fields.map fun (name, value) => name ++ "=" ++ value.line)

end Event

/-- The guarded operation that is under way while something is reported. -/
structure Span where
  breaker : String
  operation : String
deriving DecidableEq

/-- An event together with the innermost guarded operation it happened in. -/
structure Entry where
  span : Option Span
  event : Event

end Fusebox
