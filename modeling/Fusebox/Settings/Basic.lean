import Fusebox.Breaker.Policy
import Fusebox.Document.Named

/-! The settings of the service. Every setting has a default, so that an empty file
is a complete configuration. Times are given in milliseconds. -/
namespace Fusebox

/-- The admin interface (`AdminConfig`). -/
structure AdminSettings where
  enabled : Bool := true
  bindAddress : String := "127.0.0.1:8081"
  /-- What admin requests have to present; nothing if it is empty. -/
  apiKey : String := ""

/-- Logging and metrics (`ObservabilityConfig`). -/
structure ObservabilitySettings where
  logLevel : String := "info"
  metricsEnabled : Bool := false
  metricsAddress : String := "0.0.0.0:9090"

/-- The tunables of one breaker (`BreakerSettings`). -/
structure BreakerSettings where
  maxProbes : UInt32 := 3
  resetIntervalMs : UInt64 := 10000
  openTimeoutMs : UInt64 := 30000
  failureThreshold : Float := 0.5
  minimumRequests : UInt32 := 3

/-- The policy that settings describe (`BreakerSettings::to_breaker_config`). -/
def BreakerSettings.policy (settings : BreakerSettings) : Policy where
  maxProbes := settings.maxProbes
  resetInterval := .ofMillis settings.resetIntervalMs
  openTimeout := .ofMillis settings.openTimeoutMs
  failureThreshold := settings.failureThreshold
  minimumRequests := settings.minimumRequests

/-- The breaker in front of the forecast provider (`FORECAST_BREAKER`). -/
def forecastBreaker : String := "nws-api"

/-- All settings (`ServiceConfig`). -/
structure ServiceSettings where
  admin : AdminSettings := {}
  observability : ObservabilitySettings := {}
  /-- Breakers by name. -/
  breakers : Named BreakerSettings := [(forecastBreaker, {})]

/-- The policies of all configured breakers, as `BreakerManager::from_config` registers them. -/
def ServiceSettings.policies (settings : ServiceSettings) : List (String × Policy) :=
  settings.breakers.map fun (name, breaker) => (name, breaker.policy)

end Fusebox
