/-! What a breaker counts during one generation: the requests it admitted, and how
those that have finished ended. Counters stop at the largest 32-bit number. -/
namespace Fusebox

/-- One more, unless the counter is full. -/
def oneMore (counter : UInt32) : UInt32 :=
  if counter = 0xFFFFFFFF then counter else counter + 1

/-- Short of the limit a counter goes up by exactly one. -/
theorem toNat_oneMore {counter : UInt32} (room : counter.toNat < 0xFFFFFFFF) :
    (oneMore counter).toNat = counter.toNat + 1 := by
  unfold oneMore
  split
  · next full => subst full; exact absurd room (by decide)
  · rw [UInt32.toNat_add]
    simp only [UInt32.toNat_ofNat]
    omega

/-- The counts of one generation (`Counts`). -/
structure Tally where
  requests : UInt32 := 0
  successes : UInt32 := 0
  failures : UInt32 := 0
  /-- Successes since the last failure. -/
  successRun : UInt32 := 0
  /-- Failures since the last success. -/
  failureRun : UInt32 := 0
deriving DecidableEq

namespace Tally

/-- Nothing counted yet (`Counts::clear`). -/
def empty : Tally := {}

/-- One more request was admitted (`Counts::on_request`). -/
def admitted (t : Tally) : Tally := { t with requests := oneMore t.requests }

/-- One more request ended well (`Counts::on_success`). -/
def succeeded (t : Tally) : Tally :=
  { t with successes := oneMore t.successes, successRun := oneMore t.successRun, failureRun := 0 }

/-- One more request ended badly (`Counts::on_failure`). -/
def failed (t : Tally) : Tally :=
  { t with failures := oneMore t.failures, failureRun := oneMore t.failureRun, successRun := 0 }

/-- The share of admitted requests that failed (`Counts::failure_ratio`); zero when none was
admitted. Unfinished requests count as admitted. -/
def failureRatio (t : Tally) : Float :=
  if t.requests = 0 then 0 else t.failures.toFloat / t.requests.toFloat

end Tally
end Fusebox
