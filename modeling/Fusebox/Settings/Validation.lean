import Fusebox.Journal.Event
import Fusebox.Settings.Address
import Fusebox.Settings.Basic
import Fusebox.Text.Blank

/-! Settings that are well formed may still make no sense. All faults are collected:
those of the breakers in the order of their names, then those of the addresses.
Addresses nobody listens on are not looked at. -/
namespace Fusebox

/-- Something wrong with the settings (`ValidationError`). -/
inductive Fault where
  | emptyBreakerName
  | ratioOutOfRange (name : String) (value : Float)
  | noProbes (name : String)
  | zeroOpenTimeout (name : String)
  | invalidAddress (field value : String)

namespace Fault

/-- What kind of fault it is. -/
def kind : Fault → String
  | .emptyBreakerName => "EmptyBreakerName"
  | .ratioOutOfRange .. => "FailureRatioOutOfRange"
  | .noProbes _ => "NoHalfOpenRequests"
  | .zeroOpenTimeout _ => "ZeroOpenTimeout"
  | .invalidAddress .. => "InvalidAddress"

/-- A sentence for whoever wrote the settings. -/
def message : Fault → String
  | .emptyBreakerName => "breaker name must not be empty"
  | .ratioOutOfRange name value =>
    "breaker '" ++ name ++ "': failure_ratio_threshold " ++ Decimal.Layout.plain.float value ++
      " must be within [0, 1]"
  | .noProbes name => "breaker '" ++ name ++ "': max_half_open_requests must be at least 1"
  | .zeroOpenTimeout name => "breaker '" ++ name ++ "': open_timeout_ms must be greater than 0"
  | .invalidAddress field value => field ++ ": '" ++ value ++ "' is not a valid socket address"

/-- The fault with its particulars in one line. -/
def text (fault : Fault) : String :=
  match fault with
  | .emptyBreakerName => fault.kind
  | .ratioOutOfRange name value =>
    fault.kind ++ " \x7b name: " ++ Text.quoted name ++ ", value: " ++
      Decimal.Layout.tagged.float value ++ " \x7d"
  | .noProbes name | .zeroOpenTimeout name =>
    fault.kind ++ " \x7b name: " ++ Text.quoted name ++ " \x7d"
  | .invalidAddress field value =>
    fault.kind ++ " \x7b field: " ++ Text.quoted field ++ ", value: " ++ Text.quoted value ++
      " \x7d"

end Fault

/-- Whether a number can be a failure ratio. What is not a number cannot. -/
def isRatio (value : Float) : Bool := value.isFinite && 0 ≤ value && value ≤ 1

/-- `fault` where `wrong` holds. -/
def faultIf (wrong : Bool) (fault : Fault) : List Fault := if wrong then [fault] else []

namespace BreakerSettings

/-- What is wrong with the settings of one breaker. -/
def faults (name : String) (settings : BreakerSettings) : List Fault :=
  faultIf (Text.allBlank name) .emptyBreakerName ++
    faultIf (!isRatio settings.failureThreshold)
      (.ratioOutOfRange name settings.failureThreshold) ++
    faultIf (settings.maxProbes == 0) (.noProbes name) ++
    faultIf (settings.openTimeoutMs == 0) (.zeroOpenTimeout name)

/-- What is allowed but worth a warning: a threshold of zero. -/
def warnings (name : String) (settings : BreakerSettings) : List Event :=
  if isRatio settings.failureThreshold && settings.failureThreshold == 0 then
    [.zeroThreshold name]
  else []

end BreakerSettings

/-- What is wrong with an address that is to be listened on (`check_address`). -/
def addressFaults (enabled : Bool) (field value : String) : List Fault :=
  faultIf (enabled && (SocketAddress.parse? value).isNone) (.invalidAddress field value)

namespace ServiceSettings

/-- Everything that is wrong with the settings. -/
def faults (settings : ServiceSettings) : List Fault :=
  (settings.breakers.flatMap fun (name, breaker) => breaker.faults name) ++
    addressFaults settings.admin.enabled "admin.bind_address" settings.admin.bindAddress ++
    addressFaults settings.observability.metricsEnabled "observability.metrics_address"
      settings.observability.metricsAddress

/-- Everything in the settings that is worth a warning. -/
def warnings (settings : ServiceSettings) : List Event :=
  settings.breakers.flatMap fun (name, breaker) => breaker.warnings name

/-- Settings are valid if nothing is wrong with them (`validate_config`). -/
def validate (settings : ServiceSettings) : Except (List Fault) Unit :=
  if settings.faults.isEmpty then .ok () else .error settings.faults

end ServiceSettings
end Fusebox
