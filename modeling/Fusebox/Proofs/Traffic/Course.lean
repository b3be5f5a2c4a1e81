import Fusebox.Proofs.Breaker.Transition
import Fusebox.Proofs.Traffic.Basic

/-! The course of traffic, taken apart into its smallest steps. `Lawful` traffic is
whatever these steps can make of a new breaker; every invariant is one induction over
it. `perform_shift` says which of them a move of the script consists of, and so
`run_lawful` that every script leads to lawful traffic as long as the generation
numbers have not started over. -/
namespace Fusebox

theorem Policy.normalized_openTimeout_pos (p : Policy) : 0 < p.normalized.openTimeout.nanos := by
  simp only [Policy.normalized]
  split
  · decide
  · rename_i nonzero
    simp only [Duration.isZero, beq_iff_eq] at nonzero
    omega

theorem Policy.normalized_maxProbes_pos (p : Policy) : 0 < p.normalized.maxProbes.toNat := by
  simp only [Policy.normalized]
  split
  · decide
  · rename_i nonzero
    exact Nat.pos_of_ne_zero fun zero => nonzero (UInt32.toNat_inj.mp zero)

namespace Breaker

theorem conclude_state (b : Breaker) (ticket : Ticket) (ending : Ending) (reading : Reading) :
    (b.conclude ticket ending reading).state =
      (b.complete ticket ending.success reading).state := by
  cases ending <;> rfl

theorem create_eq {b : Breaker} {policy : Policy}
    (created : create label policy reading = .ok b) :
    b.policy = policy.normalized ∧ b.mode = .closed ∧ b.generation = 0 ∧ b.tally = .empty := by
  unfold create at created
  split at created
  · cases created
    exact ⟨rfl, rfl, rfl, rfl⟩
  · cases created
  · cases created

end Breaker

namespace Traffic

/-- An admission, as far as calls are counted. -/
def accept (t : Traffic) (now : Instant) : Traffic :=
  { t with breaker := { t.breaker with tally := t.breaker.tally.admitted } }.board
    ⟨t.breaker.generation⟩ now

/-- The timer has acted. -/
def elapse (t : Traffic) (now : Instant) (wall : Option Instant) : Traffic :=
  t.onto (t.breaker.refresh now wall).state

/-- What a request for admission is told, and what it leaves behind. The timer acts
first; unless it crashes the breaker then decides. -/
inductive Heard (t : Traffic) (now : Instant) (wall : Option Instant) :
    Except Crash (Except Rejection Ticket) → Traffic → Prop where
  | crashed (cause : (t.breaker.refresh now wall).result = .error crash) :
      Heard t now wall (.error crash) (t.elapse now wall)
  | refused (fine : (t.breaker.refresh now wall).result = .ok ())
      (refused : (t.elapse now wall).breaker.rejection? = some reason) :
      Heard t now wall (.ok (.error reason)) (t.elapse now wall)
  | admitted (fine : (t.breaker.refresh now wall).result = .ok ())
      (free : (t.elapse now wall).breaker.rejection? = none) :
      Heard t now wall (.ok (.ok ⟨(t.elapse now wall).breaker.generation⟩))
        ((t.elapse now wall).accept now)

/-- Traffic that can arise on a breaker with a policy, as long as a call whose
generation has ended is never taken for one of the present generation. -/
inductive Lawful (policy : Policy) : Traffic → Prop where
  | fresh (created : Breaker.create name policy reading = .ok b) : Lawful policy (fresh b)
  | timed (before : Lawful policy t) (elapsed : Breaker.Elapsed t.breaker now wall next) :
      Lawful policy (t.onto next)
  | admitted (before : Lawful policy t) (free : t.breaker.rejection? = none) :
      Lawful policy (t.accept now)
  | stale (before : Lawful policy t) (member : call ∈ t.underway) (older : call.era < t.era) :
      Lawful policy (t.land call ending)
  | counted (before : Lawful policy t) (member : call ∈ t.underway) (current : call.era = t.era)
      (noted : Breaker.Noted t.breaker now wall ending.success next) :
      Lawful policy ((t.onto next).land call ending)
  | lost (before : Lawful policy t) (member : call ∈ t.underway) : Lawful policy (t.lose call)

/-- What a move comes to. The timer acts first whenever the monotonic clock can be
read; a completion counts only if the timer had nothing to do and the call was
admitted in the present generation. -/
inductive Shift (t : Traffic) : Move → Traffic → Prop where
  | deaf (unseen : move.reading.now = none) : Shift t move t
  | missing (unknown : t.call? number = none) : Shift t (.finish number ending reading) t
  | lost (unseen : reading.now = none) (found : t.call? number = some call) :
      Shift t (.finish number ending reading) (t.lose call)
  | looked (elapsed : Breaker.Elapsed t.breaker now wall next) :
      Shift t (.look ⟨some now, wall⟩) (t.onto next)
  | crashed (elapsed : Breaker.Elapsed t.breaker now none next) (probing : next.mode = .halfOpen) :
      Shift t (.ask operation ⟨some now, none⟩) (t.onto next)
  | refused (elapsed : Breaker.Elapsed t.breaker now wall next)
      (refused : next.rejection? = some reason) :
      Shift t (.ask operation ⟨some now, wall⟩) (t.onto next)
  | admitted (elapsed : Breaker.Elapsed t.breaker now wall next) (free : next.rejection? = none) :
      Shift t (.ask operation ⟨some now, wall⟩) ((t.onto next).accept now)
  | stale (elapsed : Breaker.Elapsed t.breaker now wall next)
      (found : t.call? number = some call) (older : call.era < (t.onto next).era) :
      Shift t (.finish number ending ⟨some now, wall⟩) ((t.onto next).land call ending)
  | counted (early : t.breaker.due now = false) (found : t.call? number = some call)
      (current : call.era = t.era)
      (noted : Breaker.Noted t.breaker now wall ending.success next) :
      Shift t (.finish number ending ⟨some now, wall⟩) ((t.onto next).land call ending)

variable {t : Traffic} {call : Call} {now : Instant} {wall : Option Instant}

@[simp] theorem onto_breaker : (t.onto next).breaker = next := rfl
@[simp] theorem onto_admitted : (t.onto next).admitted = t.admitted := rfl
@[simp] theorem onto_ended : (t.onto next).ended = t.ended := rfl

@[simp] theorem land_breaker : (t.land call ending).breaker = t.breaker := rfl
@[simp] theorem land_era : (t.land call ending).era = t.era := rfl

theorem onto_era_same (same : next.generation = t.breaker.generation) :
    (t.onto next).era = t.era := by
  simp [onto, same]

theorem onto_era_next (next_ : next.generation = t.breaker.generation + 1) :
    (t.onto next).era = t.era + 1 := by
  have one : t.breaker.generation + 1 - t.breaker.generation = 1 := by grind
  simp [onto, next_, one]

theorem onto_same (t : Traffic) : t.onto t.breaker = t := by
  simp [onto]

/-- Before the deadline the timer leaves everything as it is. -/
theorem elapse_early (early : t.breaker.due now = false) : t.elapse now wall = t := by
  rw [elapse, Breaker.refresh_early early]
  exact onto_same t

/-- The timer ends no generation or one. -/
theorem elapsed_era (elapsed : Breaker.Elapsed t.breaker now wall next) :
    (t.onto next).era = if t.breaker.due now then t.era + 1 else t.era := by
  have number := elapsed.generation
  split
  · rename_i due
    exact onto_era_next (by simpa [due] using number)
  · rename_i early
    exact onto_era_same (by simpa [early] using number)

/-- What the books say of the calls. Numbers and tags are what they should be, and
every admitted call is in one place only: under way, ended or lost. -/
structure Booked (t : Traffic) : Prop where
  generation : t.breaker.generation = UInt64.ofNat t.era
  ticket : ∀ call ∈ t.admitted, call.ticket.generation = UInt64.ofNat call.era
  era : ∀ call ∈ t.admitted, call.era ≤ t.era
  number : t.admitted.map (·.number) = List.range t.admitted.length
  places : t.admitted.Perm (t.underway ++ t.ended.map Prod.fst ++ t.lost)

theorem Booked.fresh (first : b.generation = 0) : Booked (fresh b) where
  generation := first
  ticket := by simp [Traffic.fresh]
  era := by simp [Traffic.fresh]
  number := rfl
  places := .nil

/-- However many generations an operation ends, the books stay right. -/
theorem Booked.onto (booked : Booked t) (next : Breaker) : Booked (t.onto next) where
  generation := by
    simp only [Traffic.onto, UInt64.ofNat_add, ← booked.generation, UInt64.ofNat_toNat]
    grind
  ticket := booked.ticket
  era := fun call member => Nat.le_trans (booked.era call member) (Nat.le_add_right _ _)
  number := booked.number
  places := booked.places

theorem Booked.accept (booked : Booked t) (now : Instant) : Booked (t.accept now) where
  generation := booked.generation
  ticket := by
    intro call member
    rcases List.mem_append.mp member with old | new
    · exact booked.ticket call old
    · cases List.mem_singleton.mp new
      exact booked.generation
  era := by
    intro call member
    rcases List.mem_append.mp member with old | new
    · exact booked.era call old
    · cases List.mem_singleton.mp new
      exact Nat.le_refl _
  number := by
    simp only [Traffic.accept, board, List.map_append, booked.number, List.length_append,
      List.length_singleton, List.range_succ, List.map_cons, List.map_nil]
  places := by
    simp only [Traffic.accept, board, List.append_assoc]
    refine (booked.places.append_right _).trans ?_
    simp only [List.append_assoc]
    refine List.Perm.append_left _ ?_
    rw [← List.append_assoc]
    exact List.perm_append_comm

/-- A call that leaves those under way is found in no other place. -/
theorem Booked.leaving (booked : Booked t) (member : call ∈ t.underway) :
    t.admitted.Perm (call :: (t.underway.erase call ++ t.ended.map Prod.fst ++ t.lost)) := by
  have moved := (List.perm_cons_erase member).append_right (t.ended.map Prod.fst ++ t.lost)
  exact booked.places.trans (by simpa using moved)

theorem Booked.land (booked : Booked t) (member : call ∈ t.underway) (ending : Ending) :
    Booked (t.land call ending) where
  generation := booked.generation
  ticket := booked.ticket
  era := booked.era
  number := booked.number
  places := by
    refine (booked.leaving member).trans ?_
    simp only [Traffic.land, List.map_append, List.map_cons, List.map_nil, List.append_assoc,
      List.singleton_append]
    rw [← List.append_assoc, ← List.append_assoc]
    exact List.perm_middle.symm

theorem Booked.lose (booked : Booked t) (member : call ∈ t.underway) : Booked (t.lose call) where
  generation := booked.generation
  ticket := booked.ticket
  era := booked.era
  number := booked.number
  places := by
    refine (booked.leaving member).trans ?_
    simp only [Traffic.lose, ← List.append_assoc]
    exact (List.perm_append_singleton _ _).symm

theorem Lawful.booked (lawful : Lawful policy t) : Booked t := by
  induction lawful with
  | fresh created => exact .fresh (Breaker.create_eq created).2.2.1
  | timed before elapsed ih => exact ih.onto _
  | admitted before free ih => exact ih.accept _
  | stale before member older ih => exact ih.land member _
  | counted before member current noted ih => exact (ih.onto _).land member _
  | lost before member ih => exact ih.lose member

theorem mem_of_call? (found : t.call? number = some call) : call ∈ t.underway :=
  List.mem_of_find?_eq_some found

theorem Booked.underway (booked : Booked t) (member : call ∈ t.underway) :
    call ∈ t.admitted := by
  rw [booked.places.mem_iff]
  simp [member]

/-- Below the last number, generation numbers tell generations apart. -/
theorem ofNat_inj_below {a b : Nat} (left : a < UInt64.size) (right : b < UInt64.size)
    (same : UInt64.ofNat a = UInt64.ofNat b) : a = b := by
  have numbers := congrArg UInt64.toNat same
  rwa [UInt64.toNat_ofNat_of_lt' left, UInt64.toNat_ofNat_of_lt' right] at numbers

/-- No call has the number of a generation that the timer has just begun. -/
theorem Booked.early_of_current (booked : Booked t) (member : call ∈ t.admitted)
    (elapsed : Breaker.Elapsed t.breaker now wall timed)
    (same : timed.generation = call.ticket.generation) (room : t.era + 1 < UInt64.size) :
    t.breaker.due now = false := by
  cases due : t.breaker.due now with
  | false => rfl
  | true =>
    have older := booked.era call member
    have tag := (booked.onto timed).generation.symm.trans (same.trans (booked.ticket call member))
    rw [elapsed_era elapsed, due, if_pos rfl] at tag
    have := ofNat_inj_below room (by omega) tag
    omega

/-- A tag that fits the present generation was given in it. -/
private theorem counted_is_current (booked : Booked t) (member : call ∈ t.admitted)
    (elapsed : Breaker.Elapsed t.breaker now wall timed)
    (same : timed.generation = call.ticket.generation)
    (noted : Breaker.Noted timed now wall success next)
    (eras : (t.onto next).era < UInt64.size) :
    t.breaker.due now = false ∧ call.era = t.era := by
  have early : t.breaker.due now = false := by
    by_contra due
    have number := elapsed.generation
    rw [Bool.not_eq_false] at due
    simp only [due, ↓reduceIte] at number
    have room : t.era + 1 < UInt64.size := by
      rcases noted.generation with kept | moved
      · rwa [onto_era_next (kept.trans number)] at eras
      · have two : (next.generation - t.breaker.generation).toNat = 2 := by
          rw [moved, number, show t.breaker.generation + 1 + 1 - t.breaker.generation = 2 by grind]
          rfl
        simp only [Traffic.onto, two] at eras
        omega
    rw [booked.early_of_current member elapsed same room] at due
    cases due
  have bound : t.era < UInt64.size := Nat.lt_of_le_of_lt (Nat.le_add_right _ _) eras
  have tag := (booked.onto timed).generation.symm.trans (same.trans (booked.ticket call member))
  rw [elapsed_era elapsed, early, if_neg (by decide)] at tag
  exact ⟨early, (ofNat_inj_below bound
    (Nat.lt_of_le_of_lt (booked.era call member) bound) tag).symm⟩

private theorem stale_is_older (booked : Booked t) (member : call ∈ t.admitted)
    (other : next.generation ≠ call.ticket.generation) : call.era < (t.onto next).era := by
  refine Nat.lt_of_le_of_ne ((booked.onto next).era call member) ?_
  intro same
  have tag := (booked.onto next).generation
  rw [← same, ← booked.ticket call member] at tag
  exact other tag

private theorem look_shift (t : Traffic) (reading : Reading) :
    Shift t (.look reading) (t.perform (.look reading)) := by
  obtain ⟨now, wall⟩ := reading
  cases now with
  | none =>
    simp only [perform, Breaker.read, Step.crash, onto_same]
    exact .deaf rfl
  | some now =>
    simp only [perform, Breaker.read_state]
    exact .looked (Breaker.refresh_elapsed _ _ _)

theorem ask_heard (t : Traffic) (operation : String) (now : Instant) (wall : Option Instant) :
    Heard t now wall (t.breaker.ask operation ⟨some now, wall⟩).result
      (t.perform (.ask operation ⟨some now, wall⟩)) := by
  have asked := Breaker.ask_asked t.breaker operation now wall
  simp only [perform]
  generalize t.breaker.ask operation ⟨some now, wall⟩ = step at asked ⊢
  obtain ⟨state, effects, result⟩ := step
  cases asked with
  | crashed cause => exact .crashed cause
  | rejected fine refused => exact .refused fine refused
  | admitted fine free => exact .admitted fine free

private theorem ask_shift (t : Traffic) (operation : String) (reading : Reading) :
    Shift t (.ask operation reading) (t.perform (.ask operation reading)) := by
  obtain ⟨now, wall⟩ := reading
  cases now with
  | none =>
    simp only [perform, Breaker.ask, Step.crash, onto_same]
    exact .deaf rfl
  | some now =>
    have elapsed := Breaker.refresh_elapsed t.breaker now wall
    have heard := ask_heard t operation now wall
    generalize (t.breaker.ask operation ⟨some now, wall⟩).result = told at heard
    generalize t.perform (.ask operation ⟨some now, wall⟩) = next at heard ⊢
    cases heard with
    | crashed cause =>
      have failed : (t.breaker.refresh now wall).result ≠ .ok () := by simp [cause]
      have entered := Breaker.refresh_crashed_state failed
      obtain ⟨-, -, rfl⟩ := Breaker.refresh_crashed failed
      exact .crashed elapsed (by rw [entered]; rfl)
    | refused fine refused => exact .refused elapsed refused
    | admitted fine free => exact .admitted elapsed free

private theorem finish_shift (booked : Booked t) (found : t.call? number = some call)
    (eras : (t.onto (t.breaker.complete call.ticket ending.success ⟨some now, wall⟩).state).era <
      UInt64.size) :
    Shift t (.finish number ending ⟨some now, wall⟩)
      ((t.onto (t.breaker.complete call.ticket ending.success ⟨some now, wall⟩).state).land
        call ending) := by
  have completed := Breaker.complete_completed t.breaker call.ticket ending.success now wall
  have elapsed := Breaker.refresh_elapsed t.breaker now wall
  have known := booked.underway (mem_of_call? found)
  generalize (t.breaker.complete call.ticket ending.success ⟨some now, wall⟩).state = next
    at completed eras ⊢
  cases completed with
  | crashed cause =>
    refine .stale elapsed found ?_
    rw [elapsed_era elapsed, (Breaker.refresh_crashed cause).1]
    exact Nat.lt_succ_of_le (booked.era call known)
  | stale other => exact .stale elapsed found (stale_is_older booked known other)
  | counted same noted =>
    obtain ⟨early, current⟩ := counted_is_current booked known elapsed same noted eras
    rw [Breaker.refresh_early early] at noted
    exact .counted early found current noted

/-- Every move is one of these shifts, while generation numbers do not start over. -/
theorem perform_shift (booked : Booked t) (move : Move)
    (eras : (t.perform move).era < UInt64.size) : Shift t move (t.perform move) := by
  cases move with
  | look reading => exact look_shift t reading
  | ask operation reading => exact ask_shift t operation reading
  | finish number ending reading =>
    obtain ⟨now, wall⟩ := reading
    simp only [perform] at eras ⊢
    cases found : t.call? number with
    | none => exact .missing found
    | some call =>
      simp only [found, Breaker.conclude_state] at eras ⊢
      cases now with
      | none =>
        simp only [Breaker.complete, Step.crash, Step.after, onto_same]
        exact .lost rfl found
      | some now => exact finish_shift booked found eras

theorem Shift.lawful (shift : Shift t move next) (before : Lawful policy t) :
    Lawful policy next := by
  cases shift with
  | deaf unseen => exact before
  | missing unknown => exact before
  | lost unseen found => exact before.lost (mem_of_call? found)
  | looked elapsed => exact before.timed elapsed
  | crashed elapsed probing => exact before.timed elapsed
  | refused elapsed refused => exact before.timed elapsed
  | admitted elapsed free => exact (before.timed elapsed).admitted free
  | stale elapsed found older => exact (before.timed elapsed).stale (mem_of_call? found) older
  | counted early found current noted => exact before.counted (mem_of_call? found) current noted

/-- Nothing that has happened is taken back. -/
structure Grows (before after : Traffic) : Prop where
  era : before.era ≤ after.era
  admitted : before.admitted <+: after.admitted
  ended : before.ended <+: after.ended

theorem Grows.refl (t : Traffic) : Grows t t := ⟨Nat.le_refl _, List.prefix_rfl, List.prefix_rfl⟩

theorem Grows.trans (first : Grows before middle) (second : Grows middle after) :
    Grows before after :=
  ⟨Nat.le_trans first.era second.era, first.admitted.trans second.admitted,
    first.ended.trans second.ended⟩

theorem grows_onto (t : Traffic) (next : Breaker) : Grows t (t.onto next) :=
  ⟨Nat.le_add_right _ _, List.prefix_rfl, List.prefix_rfl⟩

theorem grows_accept (t : Traffic) (now : Instant) : Grows t (t.accept now) :=
  ⟨Nat.le_refl _, List.prefix_append _ _, List.prefix_rfl⟩

theorem grows_land (t : Traffic) (next : Breaker) (call : Call) (ending : Ending) :
    Grows t ((t.onto next).land call ending) :=
  ⟨Nat.le_add_right _ _, List.prefix_rfl, List.prefix_append _ _⟩

theorem grows_lose (t : Traffic) (call : Call) : Grows t (t.lose call) :=
  ⟨Nat.le_refl _, List.prefix_rfl, List.prefix_rfl⟩

theorem perform_grows (t : Traffic) (move : Move) : Grows t (t.perform move) := by
  cases move with
  | look reading => exact grows_onto t _
  | ask operation reading =>
    simp only [perform]
    split
    · exact (grows_onto t _).trans ⟨Nat.le_refl _, List.prefix_append _ _, List.prefix_rfl⟩
    · exact grows_onto t _
  | finish number ending reading =>
    simp only [perform]
    split
    · exact .refl t
    · split
      · exact (grows_onto t _).trans (grows_lose _ _)
      · exact grows_land t _ _ _

theorem run_grows (t : Traffic) (script : List Move) : Grows t (t.run script) := by
  induction script generalizing t with
  | nil => exact .refl t
  | cons move script ih => exact (perform_grows t move).trans (ih _)

/-- A move within a run that stays below the last generation number is a shift. -/
theorem run_shift (lawful : Lawful policy t)
    (eras : (t.run (move :: script)).era < UInt64.size) : Shift t move (t.perform move) :=
  perform_shift lawful.booked move (Nat.lt_of_le_of_lt (run_grows _ script).era eras)

/-- Scripts keep traffic lawful. -/
theorem run_lawful (lawful : Lawful policy t) (eras : (t.run script).era < UInt64.size) :
    Lawful policy (t.run script) := by
  induction script generalizing t with
  | nil => exact lawful
  | cons move script ih => exact ih ((run_shift lawful eras).lawful lawful) eras

theorem Lawful.keeps_policy (lawful : Lawful policy t) :
    t.breaker.policy = policy.normalized := by
  induction lawful with
  | fresh created => exact (Breaker.create_eq created).1
  | timed before elapsed ih => exact elapsed.policy.trans ih
  | admitted before free ih => exact ih
  | stale before member older ih => exact ih
  | counted before member current noted ih => exact noted.policy.trans ih
  | lost before member ih => exact ih

theorem Lawful.openTimeout_pos (lawful : Lawful policy t) :
    0 < t.breaker.policy.openTimeout.nanos := by
  rw [lawful.keeps_policy]
  exact policy.normalized_openTimeout_pos

end Traffic
end Fusebox
