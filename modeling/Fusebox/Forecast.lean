import Fusebox.Breaker.Guard
import Fusebox.Settings.Decode

/-! Weather forecasts, fetched through the breaker in front of their provider. -/
namespace Fusebox

/-- A point on the map, in degrees (`Coordinates`). -/
structure Coordinates where
  latitude : Float
  longitude : Float

namespace Coordinates

/-- The parts of a point in their fixed order. -/
def keys : List String := ["latitude", "longitude"]

/-- Reads a point; both parts have to be there. -/
def decode? (tree : Tree) : Option Coordinates := do
  match ← tree.slots? .refused keys with
  | [latitude, longitude] => return {
      latitude := ← slotValue Tree.real? latitude
      longitude := ← slotValue Tree.real? longitude }
  | _ => none

/-- Writes a point. -/
def encode (point : Coordinates) : Tree := .table [
  ("latitude", .real point.latitude),
  ("longitude", .real point.longitude)]

end Coordinates

/-- What the provider says about a point (`Forecast`). -/
structure Forecast where
  temperature : Float
  temperatureUnit : String
  summary : String

namespace Forecast

/-- The parts of a forecast in their fixed order. -/
def keys : List String := ["temperature", "temperature_unit", "short_forecast"]

/-- Reads a forecast; all parts have to be there. -/
def decode? (tree : Tree) : Option Forecast := do
  match ← tree.slots? .refused keys with
  | [temperature, temperatureUnit, summary] => return {
      temperature := ← slotValue Tree.real? temperature
      temperatureUnit := ← slotValue Tree.text? temperatureUnit
      summary := ← slotValue Tree.text? summary }
  | _ => none

/-- Writes a forecast. -/
def encode (forecast : Forecast) : Tree := .table [
  ("temperature", .real forecast.temperature),
  ("temperature_unit", .text forecast.temperatureUnit),
  ("short_forecast", .text forecast.summary)]

end Forecast

/-- The name that lookups of forecasts go by. -/
def forecastOperation : String := "get-forecast"

/-- A lookup that has not been started yet (`GuardedForecastClient::get_forecast`). -/
def forecastCall : PendingCall := ⟨forecastBreaker, forecastOperation, .waiting⟩

/-- A client of the provider (`ForecastClient`): how often it reached the provider, and for
which point the last time. -/
structure ForecastClient where
  calls : Nat := 0
  lastSeen : Option Coordinates := none

/-- The client after it reached the provider once more. -/
def ForecastClient.reached (client : ForecastClient) (point : Coordinates) : ForecastClient :=
  { calls := client.calls + 1, lastSeen := some point }

end Fusebox
