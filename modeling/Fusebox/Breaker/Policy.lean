import Fusebox.Breaker.Tally
import Fusebox.Decimal.Layout
import Fusebox.Time.Duration

/-! The tunables of a breaker. They are fixed when the breaker is made; two of
them have a fallback for the value zero, which would leave an open breaker without
a way back. -/
namespace Fusebox

/-- When a breaker opens, how long it stays open, and how it recovers (`BreakerConfig`). -/
structure Policy where
  /-- How many probes a half-open breaker admits, and how many successes in a row
  it needs to close. -/
  maxProbes : UInt32
  /-- How long a closed generation counts. Zero means forever. -/
  resetInterval : Duration
  /-- How long the breaker stays open before it probes. -/
  openTimeout : Duration
  /-- The failure ratio from which on the breaker opens. -/
  failureThreshold : Float
  /-- How many requests a generation needs before its ratio is looked at. -/
  minimumRequests : UInt32

namespace Policy

/-- The tunables in use where nothing else is said (`BreakerConfig::default`). -/
def standard : Policy where
  maxProbes := 3
  resetInterval := .ofSeconds 10
  openTimeout := .ofSeconds 30
  failureThreshold := 0.5
  minimumRequests := 3

instance : Inhabited Policy := ⟨standard⟩

/-- Replaces an open timeout of zero (`DEFAULT_OPEN_TIMEOUT`). -/
def fallbackOpenTimeout : Duration := .ofSeconds 60

/-- The tunables a breaker really runs with (`BreakerConfig::normalized`): no probes means
one probe, and no open timeout means the fallback. -/
def normalized (p : Policy) : Policy :=
  { p with
    maxProbes := if p.maxProbes = 0 then 1 else p.maxProbes
    openTimeout := if p.openTimeout.isZero then fallbackOpenTimeout else p.openTimeout }

/-- Whether a closed generation with these counts has seen too many failures
(`BreakerConfig::ready_to_trip`). -/
def readyToTrip (p : Policy) (counts : Tally) : Bool :=
  decide (p.minimumRequests ≤ counts.requests) &&
    decide (p.failureThreshold ≤ counts.failureRatio)

/-- Whether two policies are the same (`BreakerConfig::eq`), comparing thresholds as
numbers. A threshold that is not a number agrees with none, not even with itself. -/
def agrees (first second : Policy) : Bool :=
  first.maxProbes == second.maxProbes && first.resetInterval == second.resetInterval &&
    first.openTimeout == second.openTimeout &&
    first.failureThreshold == second.failureThreshold &&
    first.minimumRequests == second.minimumRequests

/-- All tunables in one line (`BreakerConfig::fmt`). -/
def text (p : Policy) : String :=
  "BreakerConfig \x7b max_half_open_requests: " ++ toString p.maxProbes ++
    ", reset_interval: " ++ p.resetInterval.text ++
    ", open_timeout: " ++ p.openTimeout.text ++
    ", failure_ratio_threshold: " ++ Decimal.Layout.tagged.float p.failureThreshold ++
    ", minimum_requests_to_trip: " ++ toString p.minimumRequests ++ " \x7d"

end Policy
end Fusebox
