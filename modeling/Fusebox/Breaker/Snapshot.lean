import Fusebox.Breaker.Mode
import Fusebox.Breaker.Tally
import Fusebox.Document.Tree
import Fusebox.Time.Instant

/-! What a breaker shows of itself at one moment. -/
namespace Fusebox

/-- Mode, generation and counts of a breaker, and when its mode last changed
(`BreakerStats`). -/
structure Snapshot where
  mode : Mode
  generation : UInt64
  tally : Tally
  changedAt : Instant
deriving DecidableEq

/-- A snapshot as a document (`BreakerStats::serialize`). The time of the last change is
given in whole milliseconds since the epoch. -/
def Snapshot.tree (s : Snapshot) : Tree :=
  .table [
    ("state", .text s.mode.label),
    ("generation", .whole s.generation.toNat),
    ("requests", .whole s.tally.requests.toNat),
    ("total_successes", .whole s.tally.successes.toNat),
    ("total_failures", .whole s.tally.failures.toNat),
    ("consecutive_successes", .whole s.tally.successRun.toNat),
    ("consecutive_failures", .whole s.tally.failureRun.toNat),
    ("last_state_change_unix_ms", .whole s.changedAt.unixMillis.toNat)]

end Fusebox
