import Fusebox.Proofs.Traffic.Ledger
import Mathlib.Logic.Relation

/-! What traffic can come to when nothing is assumed of it, not even that generation
numbers do not start over. A tag may then fit a generation it was not given in, and a
call may count that should not. What calls are admitted does not depend on that: a
generation counts its own requests, and ends do not change how many there are. -/
namespace Fusebox

namespace Breaker

variable {b : Breaker}

/-- A completion that ends no generation leaves the mode and the requests alone. -/
theorem Noted.same_or_begun {success : Bool} (noted : Noted b now wall success next) :
    next.generation = b.generation ∧ next.mode = b.mode ∧
        next.tally.requests = b.tally.requests ∨
      next.generation = b.generation + 1 ∧ next.tally = .empty := by
  obtain ⟨_, rfl⟩ | ⟨target, rfl⟩ | ⟨_, rfl⟩ := noted.joins_or_begins
  · refine .inl ⟨rfl, rfl, ?_⟩
    cases success <;> rfl
  · exact .inr ⟨rfl, rfl⟩
  · exact .inl ⟨rfl, rfl, rfl⟩

end Breaker

namespace Traffic

/-- The smallest steps of traffic in which no call is admitted. Any call may count. -/
inductive Quiet (t : Traffic) : Traffic → Prop where
  | timed (elapsed : Breaker.Elapsed t.breaker now wall next) : Quiet t (t.onto next)
  | noted (noted : Breaker.Noted t.breaker now wall success next) : Quiet t (t.onto next)
  | landed (member : call ∈ t.underway) : Quiet t (t.land call ending)
  | lost (member : call ∈ t.underway) : Quiet t (t.lose call)

/-- Traffic that can arise on a breaker with a policy. -/
inductive Reached (policy : Policy) : Traffic → Prop where
  | fresh (created : Breaker.create name policy reading = .ok b) : Reached policy (fresh b)
  | quiet (before : Reached policy t) (quiet : Quiet t next) : Reached policy next
  | admitted (before : Reached policy t) (free : t.breaker.rejection? = none) :
      Reached policy (t.accept now)

variable {t : Traffic} {policy : Policy}

/-- A step without an admission leaves what the present generation has admitted, or it
begins another one. -/
theorem Quiet.same_or_begun (quiet : Quiet t next) :
    next.admitted = t.admitted ∧
      (next.era = t.era ∧ next.breaker.mode = t.breaker.mode ∧
          next.breaker.tally.requests = t.breaker.tally.requests ∨
        next.era = t.era + 1 ∧ next.breaker.tally.requests = 0) := by
  cases quiet with
  | timed elapsed =>
    refine ⟨rfl, ?_⟩
    obtain rfl | ⟨number, empty⟩ := elapsed.same_or_begun
    · exact .inl ⟨onto_era_same rfl, rfl, rfl⟩
    · exact .inr ⟨onto_era_next number, by rw [onto_breaker, empty]; rfl⟩
  | noted noted =>
    refine ⟨rfl, ?_⟩
    obtain ⟨number, mode, requests⟩ | ⟨number, empty⟩ := noted.same_or_begun
    · exact .inl ⟨onto_era_same number, mode, requests⟩
    · exact .inr ⟨onto_era_next number, by rw [onto_breaker, empty]; rfl⟩
  | landed member => exact ⟨rfl, .inl ⟨rfl, rfl, rfl⟩⟩
  | lost member => exact ⟨rfl, .inl ⟨rfl, rfl, rfl⟩⟩

theorem Quiet.keeps_policy (quiet : Quiet t next) : next.breaker.policy = t.breaker.policy := by
  cases quiet with
  | timed elapsed => exact elapsed.policy
  | noted noted => exact noted.policy
  | landed member => rfl
  | lost member => rfl

theorem Quiet.booked (quiet : Quiet t next) (booked : Booked t) : Booked next := by
  cases quiet with
  | timed elapsed => exact booked.onto _
  | noted noted => exact booked.onto _
  | landed member => exact booked.land member _
  | lost member => exact booked.lose member

/-- A generation that has just begun has no calls. -/
theorem Booked.none_admitted {next : Traffic} (booked : Booked t)
    (admitted : next.admitted = t.admitted) (era : next.era = t.era + 1) :
    next.admittedNow = [] := by
  refine List.filter_eq_nil_iff.mpr fun call member => ?_
  have older := booked.era call (admitted ▸ member)
  rw [era, beq_iff_eq]
  omega

/-- What the timer and a completion after it do may be put together. -/
theorem onto_onto (elapsed : Breaker.Elapsed t.breaker now wall timed)
    (noted : Breaker.Noted timed now wall success next) :
    (t.onto timed).onto next = t.onto next := by
  have era : ((t.onto timed).onto next).era = (t.onto next).era := by
    obtain rfl | ⟨number, _⟩ := elapsed.same_or_begun
    · rw [onto_same]
    · have one : t.breaker.generation + 1 - t.breaker.generation = 1 := by grind
      have two : t.breaker.generation + 1 + 1 - t.breaker.generation = 2 := by grind
      rcases noted.generation with kept | moved
      · rw [onto_era_same kept, onto_era_next number, onto_era_next (kept.trans number)]
      · rw [onto_era_next moved, onto_era_next number]
        simp [onto, moved, number, two]
  exact congrArg (fun era => { t with breaker := next, era }) era

/-- The end of a call is made of such steps. -/
theorem finish_quiet (t : Traffic) (number : Nat) (ending : Ending) (reading : Reading) :
    Relation.ReflTransGen Quiet t (t.perform (.finish number ending reading)) := by
  obtain ⟨now, wall⟩ := reading
  simp only [perform]
  cases found : t.call? number with
  | none => exact .refl
  | some call =>
    have member := mem_of_call? found
    simp only [Breaker.conclude_state]
    cases now with
    | none =>
      simp only [Breaker.complete, Step.crash, Step.after, onto_same]
      exact .single (.lost member)
    | some now =>
      have completed := Breaker.complete_completed t.breaker call.ticket ending.success now wall
      have timed := Breaker.refresh_elapsed t.breaker now wall
      generalize (t.breaker.complete call.ticket ending.success ⟨some now, wall⟩).state = next
        at completed ⊢
      cases completed with
      | crashed cause => exact (Relation.ReflTransGen.single (.timed timed)).tail (.landed member)
      | stale other => exact (Relation.ReflTransGen.single (.timed timed)).tail (.landed member)
      | counted same noted =>
        rw [← onto_onto timed noted]
        exact ((Relation.ReflTransGen.single (.timed timed)).tail (.noted noted)).tail
          (.landed member)

theorem look_quiet (t : Traffic) (reading : Reading) :
    Relation.ReflTransGen Quiet t (t.perform (.look reading)) := by
  obtain ⟨now, wall⟩ := reading
  cases now with
  | none =>
    simp only [perform, Breaker.read, Step.crash, onto_same]
    exact .refl
  | some now =>
    simp only [perform, Breaker.read_state]
    exact .single (.timed (Breaker.refresh_elapsed _ _ _))

theorem Reached.quietly (reached : Reached policy t) (steps : Relation.ReflTransGen Quiet t next) :
    Reached policy next := by
  induction steps with
  | refl => exact reached
  | tail _ step ih => exact ih.quiet step

theorem elapse_quiet (t : Traffic) (now : Instant) (wall : Option Instant) :
    Quiet t (t.elapse now wall) := .timed (Breaker.refresh_elapsed _ _ _)

theorem perform_reached (reached : Reached policy t) (move : Move) :
    Reached policy (t.perform move) := by
  cases move with
  | look reading => exact reached.quietly (look_quiet t reading)
  | finish number ending reading => exact reached.quietly (finish_quiet t number ending reading)
  | ask operation reading =>
    obtain ⟨now, wall⟩ := reading
    cases now with
    | none =>
      simp only [perform, Breaker.ask, Step.crash, onto_same]
      exact reached
    | some now =>
      have timed := reached.quiet (elapse_quiet t now wall)
      have heard := ask_heard t operation now wall
      generalize (t.breaker.ask operation ⟨some now, wall⟩).result = told at heard
      generalize t.perform (.ask operation ⟨some now, wall⟩) = next at heard ⊢
      cases heard with
      | crashed cause => exact timed
      | refused fine refused => exact timed
      | admitted fine free => exact timed.admitted free

/-- Whatever a script does, and however many generations it ends. -/
theorem run_reached (reached : Reached policy t) (script : List Move) :
    Reached policy (t.run script) := by
  induction script generalizing t with
  | nil => exact reached
  | cons move script ih => exact ih (perform_reached reached move)

theorem Lawful.reached (lawful : Lawful policy t) : Reached policy t := by
  induction lawful with
  | fresh created => exact .fresh created
  | timed before elapsed ih => exact ih.quiet (.timed elapsed)
  | admitted before free ih => exact ih.admitted free
  | stale before member older ih => exact ih.quiet (.landed member)
  | counted before member current noted ih => exact (ih.quiet (.noted noted)).quiet (.landed member)
  | lost before member ih => exact ih.quiet (.lost member)

theorem Reached.booked (reached : Reached policy t) : Booked t := by
  induction reached with
  | fresh created => exact .fresh (Breaker.create_eq created).2.2.1
  | quiet before quiet ih => exact quiet.booked ih
  | admitted before free ih => exact ih.accept _

theorem Reached.keeps_policy (reached : Reached policy t) :
    t.breaker.policy = policy.normalized := by
  induction reached with
  | fresh created => exact (Breaker.create_eq created).1
  | quiet before quiet ih => exact quiet.keeps_policy.trans ih
  | admitted before free ih => exact ih

/-- The requests on the counts are the admissions of the present generation. -/
theorem Reached.requests (reached : Reached policy t) :
    t.breaker.tally.requests.toNat = min t.admittedNow.length Tally.full := by
  induction reached with
  | fresh created =>
    obtain ⟨-, -, -, empty⟩ := Breaker.create_eq created
    simp only [Traffic.fresh, empty]
    rfl
  | @quiet t next before quiet ih =>
    obtain ⟨admitted, ⟨era, _, requests⟩ | ⟨era, none_⟩⟩ := quiet.same_or_begun
    · rw [requests, ih, admittedNow, admittedNow, admitted, era]
    · rw [none_, before.booked.none_admitted admitted era]
      rfl
  | admitted before free ih =>
    rw [accept_admittedNow]
    show (oneMore _).toNat = _
    rw [Tally.toNat_oneMore_min, ih]
    omega

end Traffic
end Fusebox
