/-! The three modes of a breaker and the words they go by. -/
namespace Fusebox

/-- How a breaker treats requests (`CircuitState`). -/
inductive Mode where
  /-- Requests reach the dependency and are counted. -/
  | closed
  /-- Requests are turned away without reaching the dependency. -/
  | opened
  /-- A bounded number of requests are let through as probes. -/
  | halfOpen
deriving DecidableEq

namespace Mode

/-- The word used in logs, metrics and documents (`CircuitState::as_str`). -/
def label : Mode → String
  | .closed => "closed"
  | .opened => "open"
  | .halfOpen => "half_open"

/-- The name of the mode itself. -/
def title : Mode → String
  | .closed => "Closed"
  | .opened => "Open"
  | .halfOpen => "HalfOpen"

/-- The value of the mode on a gauge (`CircuitState::gauge_value`): the larger, the less gets
through. -/
def gauge : Mode → Float
  | .closed => 0
  | .halfOpen => 1
  | .opened => 2

end Mode
end Fusebox
