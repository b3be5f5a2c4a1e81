import Fusebox.Proofs.Traffic.Admission

/-! Recovery. A half-open generation has no deadline; only its own probes can end it. As
long as too few of them have ended, and all well, it goes on; the first that ends badly
opens the breaker, and the last missing success closes it. No probe is lost on the way:
a breaker that turns requests away waits for one that is still under way. -/
namespace Fusebox.Traffic

/-- How the calls of a generation ended, in the order in which they did, whether or not
the generation still lasted. -/
def outcomesOf (t : Traffic) (era : Nat) : List Bool :=
  (t.ended.filter (·.1.era == era)).map (·.2.success)

/-- What the outcomes of probes lead to. Of the first `limit` of them, one failure opens
the breaker, and only successes close it; fewer of them leave it as it is. -/
def verdict? (limit : Nat) (outcomes : List Bool) : Option Mode :=
  if false ∈ outcomes.take limit then some .opened
  else if limit ≤ outcomes.length then some .closed
  else none

section Verdict

variable {limit : Nat} {outcomes : List Bool}

theorem verdict?_eq_none_iff :
    verdict? limit outcomes = none ↔ false ∉ outcomes ∧ outcomes.length < limit := by
  unfold verdict?
  constructor
  · intro open_
    split at open_
    · cases open_
    · rename_i well
      split at open_
      · cases open_
      · rename_i short
        have short := Nat.not_le.mp short
        rw [List.take_of_length_le (Nat.le_of_lt short)] at well
        exact ⟨well, short⟩
  · rintro ⟨well, short⟩
    rw [if_neg fun bad => well (List.mem_of_mem_take bad), if_neg (Nat.not_le.mpr short)]

/-- Later outcomes do not change a verdict. -/
theorem verdict?_append (given : verdict? limit outcomes = some mode) (later : List Bool) :
    verdict? limit (outcomes ++ later) = some mode := by
  unfold verdict? at given ⊢
  split at given
  · rename_i bad
    rw [if_pos]
    · exact given
    · rw [List.take_append]
      exact List.mem_append_left _ bad
  · rename_i well
    split at given
    · rename_i enough
      rw [List.take_append_of_le_length enough, if_neg well, if_pos]
      · exact given
      · rw [List.length_append]
        omega
    · cases given

/-- The outcome after which there is a verdict. -/
theorem verdict?_newest (open_ : verdict? limit outcomes = none) (newest : Bool) :
    verdict? limit (outcomes ++ [newest]) =
      if newest = false then some .opened
      else if limit ≤ outcomes.length + 1 then some .closed
      else none := by
  obtain ⟨well, short⟩ := verdict?_eq_none_iff.mp open_
  have all : (outcomes ++ [newest]).take limit = outcomes ++ [newest] := by
    refine List.take_of_length_le ?_
    rw [List.length_append, List.length_singleton]
    exact short
  unfold verdict?
  rw [all, List.length_append, List.length_singleton]
  cases newest <;> simp [well]

end Verdict

variable {t : Traffic} {policy : Policy}

theorem land_outcomesOf (t : Traffic) (call : Call) (ending : Ending) (era : Nat) :
    (t.land call ending).outcomesOf era =
      if call.era = era then t.outcomesOf era ++ [ending.success] else t.outcomesOf era := by
  by_cases own : call.era = era <;> simp [outcomesOf, land, own]

/-- Of a generation that has ended, or may have, more and more outcomes are known. -/
theorem Grows.outcomesOf (grows : Grows before after) (era : Nat) :
    ∃ later, after.outcomesOf era = before.outcomesOf era ++ later := by
  obtain ⟨rest, shape⟩ := grows.ended
  refine ⟨(rest.filter (·.1.era == era)).map (·.2.success), ?_⟩
  rw [Traffic.outcomesOf, ← shape, List.filter_append, List.map_append]
  rfl

/-- A move that ends a half-open generation: a probe ends, and with it there is a verdict. -/
structure Concludes (limit : Nat) (t : Traffic) (move : Move) (next : Traffic) (mode : Mode) :
    Prop where
  probing : t.breaker.mode = .halfOpen
  undecided : verdict? limit t.outcomesNow = none
  probe : ∃ number ending reading call, move = .finish number ending reading ∧
    t.call? number = some call ∧ call.era = t.era ∧
    mode = if ending.success then .closed else .opened
  decided : verdict? limit (next.outcomesOf t.era) = some mode
  era : next.era = t.era + 1
  entered : next.breaker.mode = mode
  cleared : next.breaker.tally = .empty

theorem Lawful.undecided (lawful : Lawful policy t) (half : t.breaker.mode = .halfOpen) :
    verdict? policy.normalized.maxProbes.toNat t.outcomesNow = none :=
  verdict?_eq_none_iff.mpr (lawful.probing half)

/-- The end of a probe leaves its generation going on, or concludes it. -/
theorem Lawful.probe_ends (lawful : Lawful policy t) (half : t.breaker.mode = .halfOpen)
    (found : t.call? number = some call) (current : call.era = t.era)
    (noted : Breaker.Noted t.breaker now wall ending.success next) :
    ((t.onto next).land call ending).era = t.era ∧ next.mode = .halfOpen ∨
      ∃ mode, Concludes policy.normalized.maxProbes.toNat t
        (.finish number ending ⟨some now, wall⟩) ((t.onto next).land call ending) mode := by
  have undecided := lawful.undecided half
  have outcomes : ((t.onto next).land call ending).outcomesOf t.era =
      t.outcomesNow ++ [ending.success] := by
    rw [land_outcomesOf, if_pos current]
    rfl
  have decided := verdict?_newest undecided ending.success
  rw [← outcomes] at decided
  generalize success : ending.success = well at noted decided
  cases noted with
  | success closed => cases half.symm.trans closed
  | failure closed _ => cases half.symm.trans closed
  | trip closed _ => cases half.symm.trans closed
  | ignored opened => cases half.symm.trans opened
  | probe _ few => exact .inl ⟨onto_era_same rfl, half⟩
  | close _ enough =>
    have last := (lawful.last_probe half enough).1
    rw [if_neg (by simp), if_pos last] at decided
    exact .inr ⟨.closed, half, undecided, ⟨_, _, _, _, rfl, found, current, by rw [success]; rfl⟩,
      decided, onto_era_next rfl, rfl, rfl⟩
  | reopen _ =>
    exact .inr ⟨.opened, half, undecided, ⟨_, _, _, _, rfl, found, current, by rw [success]; rfl⟩,
      decided, onto_era_next rfl, rfl, rfl⟩

/-- A half-open generation goes on whatever happens, until a probe of its own concludes
it: neither the timer nor a request nor a call of another generation does. -/
theorem Shift.probing_or_concludes (shift : Shift t move next) (lawful : Lawful policy t)
    (half : t.breaker.mode = .halfOpen) :
    next.era = t.era ∧ next.breaker.mode = .halfOpen ∨
      ∃ mode, Concludes policy.normalized.maxProbes.toNat t move next mode := by
  have timer {now : Instant} {wall : Option Instant} {timed : Breaker}
      (elapsed : Breaker.Elapsed t.breaker now wall timed) :
      (t.onto timed).era = t.era ∧ timed.mode = .halfOpen := by
    cases elapsed.eq_of_early (Breaker.due_halfOpen half)
    exact ⟨onto_era_same rfl, half⟩
  cases shift with
  | deaf unseen => exact .inl ⟨rfl, half⟩
  | missing unknown => exact .inl ⟨rfl, half⟩
  | lost unseen found => exact .inl ⟨rfl, half⟩
  | looked elapsed => exact .inl (timer elapsed)
  | crashed elapsed probing => exact .inl (timer elapsed)
  | refused elapsed refused => exact .inl (timer elapsed)
  | admitted elapsed free => exact .inl (timer elapsed)
  | stale elapsed found older => exact .inl (timer elapsed)
  | counted early found current noted => exact lawful.probe_ends half found current noted

/-- What a script makes of a half-open generation: it goes on as long as the outcomes of
its probes leave it undecided, and otherwise some move has concluded it as they say. -/
structure Recovers (limit : Nat) (t : Traffic) (script : List Move) : Prop where
  lasts : verdict? limit ((t.run script).outcomesOf t.era) = none →
    (t.run script).era = t.era ∧ (t.run script).breaker.mode = .halfOpen
  concluded : ∀ mode, verdict? limit ((t.run script).outcomesOf t.era) = some mode →
    ∃ earlier move later, script = earlier ++ move :: later ∧ (t.run earlier).era = t.era ∧
      Concludes limit (t.run earlier) move ((t.run earlier).perform move) mode

theorem Lawful.recovers (lawful : Lawful policy t) (half : t.breaker.mode = .halfOpen)
    (eras : (t.run script).era < UInt64.size) :
    Recovers policy.normalized.maxProbes.toNat t script := by
  -- The induction is on the moves still to come; once the generation has been concluded
  -- the outcomes that follow cannot change the verdict.
  induction script generalizing t with
  | nil =>
    have undecided := lawful.undecided half
    refine ⟨fun _ => ⟨rfl, half⟩, ?_⟩
    intro mode decided
    cases undecided.symm.trans decided
  | cons move script ih =>
    have shift := run_shift lawful eras
    rcases shift.probing_or_concludes lawful half with ⟨era, still⟩ | ⟨mode, concludes⟩
    · have rest := ih (shift.lawful lawful) still eras
      constructor
      · intro undecided
        rw [← era] at undecided ⊢
        exact rest.lasts undecided
      · intro mode decided
        rw [← era] at decided
        obtain ⟨earlier, last, later, rfl, same, concludes⟩ := rest.concluded mode decided
        exact ⟨move :: earlier, last, later, rfl, same.trans era, concludes⟩
    · obtain ⟨later, more⟩ := (run_grows (t.perform move) script).outcomesOf t.era
      have decided : verdict? policy.normalized.maxProbes.toNat
          ((t.run (move :: script)).outcomesOf t.era) = some mode := by
        rw [show t.run (move :: script) = (t.perform move).run script from rfl, more]
        exact verdict?_append concludes.decided later
      constructor
      · intro undecided
        cases decided.symm.trans undecided
      · intro other same
        cases decided.symm.trans same
        exact ⟨[], move, script, rfl, rfl, concludes⟩

/-- What a half-open breaker shows of its probes. -/
structure Probing (limit : Nat) (t : Traffic) : Prop where
  failures : t.breaker.tally.failures = 0
  failureRun : t.breaker.tally.failureRun = 0
  successRun : t.breaker.tally.successRun = t.breaker.tally.successes
  missing : t.breaker.tally.successes.toNat < limit
  /-- A probe has ended well or is still under way, unless its end went by unheard. -/
  balance : t.breaker.tally.successes.toNat +
      t.underway.countP (·.ticket.generation == t.breaker.generation) +
      t.lost.countP (·.ticket.generation == t.breaker.generation) =
    t.breaker.tally.requests.toNat
  most : t.breaker.tally.requests.toNat ≤ limit
  /-- Whoever is turned away has a probe to wait for. -/
  unfinished : t.lost = [] → ∀ operation reading reason,
    (t.breaker.ask operation reading).result = .ok (.error reason) →
    ∃ call ∈ t.underway, call.ticket.generation = t.breaker.generation

theorem Lawful.probes_taken (lawful : Lawful policy t) (half : t.breaker.mode = .halfOpen)
    (refused : (t.breaker.ask operation reading).result = .ok (.error reason)) :
    policy.normalized.maxProbes.toNat ≤ t.admittedNow.length := by
  obtain ⟨now, wall⟩ := reading
  cases now with
  | none => cases refused
  | some now =>
    have refusal := (lawful.reached.ask_refused_iff operation now wall reason).mp refused
    rw [elapse_early (Breaker.due_halfOpen half), lawful.reached.probe_refusal half] at refusal
    split at refusal
    · cases refusal
    · rename_i taken
      exact Nat.not_lt.mp taken

theorem Lawful.probing_shown (lawful : Lawful policy t) (half : t.breaker.mode = .halfOpen)
    (eras : t.era < UInt64.size) : Probing policy.normalized.maxProbes.toNat t := by
  obtain ⟨well, short⟩ := lawful.probing half
  have most := lawful.admittedNow_le half
  have bound := policy.normalized.maxProbes.toNat_lt
  have balance := lawful.booked.tagged_balance eras
  obtain ⟨requests, -, failures, -, failureRun⟩ :=
    lawful.counts.exact (by omega) (Nat.lt_of_le_of_lt most bound)
  obtain ⟨successes, successRun⟩ := lawful.probing_successes half
  have none_ := List.count_eq_zero_of_not_mem well
  have noRun := Tally.latestRun_le_count false t.outcomesNow
  refine ⟨?_, ?_, ?_, by omega, by omega, by omega, ?_⟩
  · apply UInt32.toNat_inj.mp
    simp only [UInt32.toNat_zero]
    omega
  · apply UInt32.toNat_inj.mp
    simp only [UInt32.toNat_zero]
    omega
  · exact UInt32.toNat_inj.mp (successRun.trans successes.symm)
  · intro heardAll operation reading reason refused
    have taken := lawful.probes_taken half refused
    rw [heardAll, List.countP_nil] at balance
    have some_ : 0 < t.underway.countP (·.ticket.generation == t.breaker.generation) := by omega
    obtain ⟨call, member, own⟩ := List.countP_pos_iff.mp some_
    exact ⟨call, member, beq_iff_eq.mp own⟩

/-- A half-open breaker never gets stuck. Whenever it turns a request away one of its
probes is still under way, and nothing but the ends of its probes decides what becomes of
it: at the last missing success it closes, at the first failure it opens. -/
theorem half_open_ends_by_its_probes (created : Breaker.create name policy reading = .ok b)
    (before after : List Move) (half : ((fresh b).run before).breaker.mode = .halfOpen)
    (eras : (((fresh b).run before).run after).era < UInt64.size) :
    Probing policy.normalized.maxProbes.toNat ((fresh b).run before) ∧
      ((∀ move ∈ before, move.reading.now.isSome) → ((fresh b).run before).lost = []) ∧
      Recovers policy.normalized.maxProbes.toNat ((fresh b).run before) after := by
  have erasBefore := Nat.lt_of_le_of_lt (run_grows ((fresh b).run before) after).era eras
  have lawful := run_lawful (.fresh created) erasBefore
  exact ⟨lawful.probing_shown half erasBefore, run_lost_nil rfl, lawful.recovers half eras⟩

/-- Two probes are under way when a third request is turned away. A call of the closed
generation ends between them; the second success closes the breaker. -/
theorem half_open_ends_by_its_probes_of_two :
    let before : List Move := [
      .ask "first" (.past 0),
      .ask "slow" (.past 0),
      .finish 0 .failed (.past 0),
      .ask "probe" (.past 10),
      .ask "second" (.past 11),
      .ask "third" (.past 5)]
    let after : List Move := [
      .finish 2 .succeeded (.past 12),
      .finish 1 .dropped (.past 13),
      .ask "again" (.past 14),
      .finish 3 .succeeded (.past 15),
      .look (.past 16)]
    ((fresh .wary).run before).breaker.mode = .halfOpen ∧
      (((fresh .wary).run before).run after).era < UInt64.size ∧
      ((fresh .wary).run before).hearing? (.ask "fourth" (.past 6)) =
        some ⟨2, .halfOpen, some .tooManyRequests⟩ ∧
      verdict? Policy.wary.normalized.maxProbes.toNat
        ((((fresh .wary).run before).run after).outcomesOf 2) = some .closed ∧
      Probing Policy.wary.normalized.maxProbes.toNat ((fresh .wary).run before) ∧
      ((∀ move ∈ before, move.reading.now.isSome) → ((fresh .wary).run before).lost = []) ∧
      Recovers Policy.wary.normalized.maxProbes.toNat ((fresh .wary).run before) after :=
  ⟨by decide, by decide, by decide, by decide,
    half_open_ends_by_its_probes Breaker.wary_created _ _ (by decide) (by decide)⟩

end Fusebox.Traffic
