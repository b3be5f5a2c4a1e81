import Fusebox.Proofs.Traffic.Ledger

/-! When a closed breaker opens. Only the failure of a call of the present generation can
open it, and whether it does is decided by the history of that generation: how many calls
it has admitted, those still under way among them, and how many have failed. -/
namespace Fusebox

/-- Counters that show so many admitted calls and so many failures among them. -/
def Tally.ofFailures (asked failures : Nat) : Tally :=
  { requests := .ofNat asked, failures := .ofNat failures }

/-- The ratio is one of failures to requests, however the calls came and went. -/
theorem Tally.failureRatio_congr {first second : Tally}
    (requests : first.requests = second.requests) (failures : first.failures = second.failures) :
    first.failureRatio = second.failureRatio := by
  unfold failureRatio
  rw [requests, failures]

/-- Whether so many failures among so many admitted calls are enough to open a breaker:
there are as many calls as the policy asks for, and the ratio reaches its threshold. -/
def Policy.Warranted (p : Policy) (asked failures : Nat) : Prop :=
  p.minimumRequests.toNat ≤ asked ∧
    p.failureThreshold ≤ (Tally.ofFailures asked failures).failureRatio

instance (p : Policy) (asked failures : Nat) : Decidable (p.Warranted asked failures) :=
  inferInstanceAs (Decidable (_ ∧ _))

/-- The counts of a history call for a trip at one more failure if that history does. -/
theorem Tally.Counts.readyToTrip_iff {tally : Tally} (counts : tally.Counts asked outcomes)
    (unfinished : outcomes.length < asked) (room : asked < UInt32.size) (p : Policy) :
    p.readyToTrip tally.failed = true ↔ p.Warranted asked (outcomes.count false + 1) := by
  obtain ⟨requests, -, failures, -, -⟩ := counts.exact (Nat.le_of_lt unfinished) room
  have bound : asked < 4294967296 := room
  have few := List.count_le_length (a := false) (l := outcomes)
  have sameRequests : tally.requests = .ofNat asked := by
    apply UInt32.toNat_inj.mp
    rw [requests, UInt32.toNat_ofNat_of_lt' room]
  have sameFailures : oneMore tally.failures = .ofNat (outcomes.count false + 1) := by
    apply UInt32.toNat_inj.mp
    rw [toNat_oneMore (by omega), failures, UInt32.toNat_ofNat_of_lt' (by omega)]
  have ratio : tally.failed.failureRatio =
      (ofFailures asked (outcomes.count false + 1)).failureRatio :=
    failureRatio_congr sameRequests sameFailures
  rw [Policy.readyToTrip, Policy.Warranted, Bool.and_eq_true, decide_eq_true_eq, decide_eq_true_eq,
    ratio, UInt32.le_iff_toNat_le, show tally.failed.requests = tally.requests from rfl, requests]

namespace Traffic

/-- A move that has to open a closed breaker: a call of the generation that is present
once the timer has acted ends badly, and the history of that generation, this end
included, warrants a trip. -/
def Trips (policy : Policy) (t : Traffic) : Move → Prop
  | .ask .. | .look _ => False
  | .finish number ending reading => ∃ now call, reading.now = some now ∧
      t.call? number = some call ∧ ending.success = false ∧
      call.era = (t.elapse now reading.wall).era ∧
      policy.Warranted (t.elapse now reading.wall).admittedNow.length
        ((t.elapse now reading.wall).outcomesNow.count false + 1)

variable {t : Traffic} {policy : Policy}

/-- A call of the present generation that is under way has been admitted but has not ended. -/
theorem Booked.unfinished (booked : Booked t) (member : call ∈ t.underway)
    (current : call.era = t.era) : t.outcomesNow.length < t.admittedNow.length := by
  have balance := booked.balance
  have some_ : 0 < t.underway.countP (·.era == t.era) :=
    List.countP_pos_iff.mpr ⟨call, member, beq_iff_eq.mpr current⟩
  omega

/-- The end of a call that counts opens a closed breaker if it is a failure and the
history warrants it. -/
theorem Lawful.noted_opens_iff (lawful : Lawful policy t) (closed : t.breaker.mode = .closed)
    (calls : t.admittedNow.length < UInt32.size) (member : call ∈ t.underway)
    (current : call.era = t.era) {success : Bool}
    (noted : Breaker.Noted t.breaker now wall success next) :
    next.mode = .opened ↔ success = false ∧
      policy.Warranted t.admittedNow.length (t.outcomesNow.count false + 1) := by
  have unfinished := lawful.booked.unfinished member current
  have ready := lawful.counts.readyToTrip_iff unfinished calls t.breaker.policy
  rw [show t.breaker.policy.Warranted _ _ ↔ policy.Warranted _ _ by
    rw [lawful.keeps_policy]; rfl] at ready
  cases noted with
  | success mode => simp [mode]
  | failure _ calm =>
    rw [calm] at ready
    simp [closed, ← ready]
  | trip _ now_ => simp [Breaker.entered, Breaker.renew, ready.mp now_]
  | probe half _ => cases closed.symm.trans half
  | close half _ => cases closed.symm.trans half
  | reopen half => cases closed.symm.trans half
  | ignored opened => cases closed.symm.trans opened

/-- A move opens a closed breaker exactly if it has to. -/
theorem Shift.opens_iff (shift : Shift t move next) (lawful : Lawful policy t)
    (closed : t.breaker.mode = .closed) (calls : t.admittedNow.length < UInt32.size) :
    next.breaker.mode = .opened ↔ Trips policy t move := by
  have shut : t.breaker.mode ≠ .opened := by simp [closed]
  -- Apart from a completion that counts, nothing opens the breaker and nothing should.
  have neither (kept : next.breaker.mode ≠ .opened) (none_ : ¬Trips policy t move) :
      next.breaker.mode = .opened ↔ Trips policy t move := iff_of_false kept none_
  cases shift with
  | looked elapsed => exact neither (elapsed.shut shut) id
  | crashed elapsed probing => exact neither (elapsed.shut shut) id
  | refused elapsed refused => exact neither (elapsed.shut shut) id
  | admitted elapsed free => exact neither (elapsed.shut shut) id
  | missing unknown =>
    refine neither shut ?_
    rintro ⟨_, _, _, found, _⟩
    cases unknown.symm.trans found
  | lost unseen found =>
    refine neither shut ?_
    rintro ⟨_, _, seen, _⟩
    cases unseen.symm.trans seen
  | deaf unseen =>
    refine neither shut ?_
    cases move with
    | look reading => exact id
    | ask operation reading => exact id
    | finish number ending reading =>
      rintro ⟨_, _, seen, _⟩
      cases unseen.symm.trans seen
  | stale elapsed found older =>
    refine neither (elapsed.shut shut) ?_
    rintro ⟨_, _, seen, same, _, current, _⟩
    cases seen
    cases found.symm.trans same
    rw [elapsed.eq_refresh] at older
    exact absurd current (Nat.ne_of_lt older)
  | counted early found current noted =>
    rw [land_breaker, onto_breaker,
      lawful.noted_opens_iff closed calls (mem_of_call? found) current noted]
    constructor
    · rintro ⟨failure, warranted⟩
      refine ⟨_, _, rfl, found, failure, ?_, ?_⟩ <;> rw [elapse_early early]
      · exact current
      · exact warranted
    · rintro ⟨_, _, seen, same, failure, _, warranted⟩
      cases seen
      rw [elapse_early early] at warranted
      exact ⟨failure, warranted⟩

end Traffic
end Fusebox
