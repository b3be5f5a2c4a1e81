import Fusebox.Proofs.Breaker.Refusal
import Fusebox.Proofs.Traffic.Probes

/-! Who is let through. Every request that is heard is admitted or turned away, and which
of the two it is depends on the mode the timer leaves the breaker in and, in a half-open
generation, on how many requests came before it: the first ones are admitted, up to the
number of probes, and all others are told that the probes are taken. Neither ends of
calls nor calls of other generations change that, and the numbers of the generations
need not be told apart for it. -/
namespace Fusebox.Traffic

/-- What a request was told: the generation and the mode it was told in, and why it was
turned away, if it was. -/
structure Hearing where
  era : Nat
  mode : Mode
  refusal : Option Rejection
deriving DecidableEq

/-- What a move is told if it is a request. A request that meets an unreadable clock is
told nothing. -/
def hearing? (t : Traffic) (move : Move) : Option Hearing :=
  match move with
  | .look _ | .finish .. => none
  | .ask operation reading =>
    let after := t.perform (.ask operation reading)
    match (t.breaker.ask operation reading).result with
    | .error _ => none
    | .ok (.error reason) => some ⟨after.era, after.breaker.mode, some reason⟩
    | .ok (.ok _) => some ⟨after.era, after.breaker.mode, none⟩

/-- What the requests of a script are told, one after the other. -/
def hearings (t : Traffic) : List Move → List Hearing
  | [] => []
  | move :: rest => (t.hearing? move).toList ++ (t.perform move).hearings rest

/-- What was told to the requests that were heard in a half-open generation. -/
def probeAnswers (heard : List Hearing) (era : Nat) : List (Option Rejection) :=
  (heard.filter fun hearing => hearing.era == era && hearing.mode == .halfOpen).map (·.refusal)

/-- So many requests when the first `limit` of them are admitted and no others. -/
def rationed (limit asked : Nat) : List (Option Rejection) :=
  List.replicate (min asked limit) none ++
    List.replicate (asked - limit) (some .tooManyRequests)

theorem rationed_succ (limit asked : Nat) :
    rationed limit (asked + 1) =
      rationed limit asked ++ [if asked < limit then none else some .tooManyRequests] := by
  unfold rationed
  split
  · rename_i room
    rw [Nat.min_eq_left room, Nat.min_eq_left (Nat.le_of_lt room), Nat.sub_eq_zero_of_le room,
      Nat.sub_eq_zero_of_le (Nat.le_of_lt room)]
    simp [List.replicate_succ']
  · rename_i taken
    have taken := Nat.not_lt.mp taken
    rw [Nat.min_eq_right taken, Nat.min_eq_right (Nat.le_succ_of_le taken), Nat.succ_sub taken]
    simp [List.replicate_succ']

/-- The answers so far are as the number of probes has it, and the present generation
has admitted the requests that were told so. -/
structure Rationed (limit : Nat) (heard : List Hearing) (t : Traffic) : Prop where
  past : ∀ hearing ∈ heard, hearing.era ≤ t.era
  answers : ∀ era, probeAnswers heard era = rationed limit (probeAnswers heard era).length
  taken : t.breaker.mode = .halfOpen →
    t.admittedNow.length = min (probeAnswers heard t.era).length limit

variable {t : Traffic} {policy : Policy} {limit : Nat} {heard : List Hearing}

theorem probeAnswers_append (heard : List Hearing) (newest : Hearing) (era : Nat) :
    probeAnswers (heard ++ [newest]) era = probeAnswers heard era ++
      if newest.era = era ∧ newest.mode = .halfOpen then [newest.refusal] else [] := by
  by_cases probe : newest.era = era ∧ newest.mode = .halfOpen <;> simp [probeAnswers, probe]

/-- A generation that is still to come has told nothing. -/
theorem Rationed.nothing_told {era : Nat} (rationed : Rationed limit heard t)
    (newer : t.era < era) :
    probeAnswers heard era = [] := by
  refine List.map_eq_nil_iff.mpr (List.filter_eq_nil_iff.mpr fun hearing member => ?_)
  have past := rationed.past hearing member
  have other : hearing.era ≠ era := by omega
  simp [other]

theorem Rationed.fresh (limit : Nat) (b : Breaker) : Rationed limit [] (fresh b) where
  past := by simp
  answers := by simp [probeAnswers, rationed]
  taken := by simp [probeAnswers, admittedNow, Traffic.fresh]

/-- Whatever happens between two requests, the answers stay as they were. -/
theorem Rationed.quiet (rationed : Rationed limit heard t) (booked : Booked t)
    (quiet : Quiet t next) : Rationed limit heard next := by
  obtain ⟨admitted, ⟨era, mode, _⟩ | ⟨era, _⟩⟩ := quiet.same_or_begun
  · refine ⟨era ▸ rationed.past, rationed.answers, ?_⟩
    rw [mode, admittedNow, admitted, era]
    exact rationed.taken
  · refine ⟨?_, rationed.answers, ?_⟩
    · intro hearing member
      have past := rationed.past hearing member
      omega
    · intro _
      rw [booked.none_admitted admitted era, rationed.nothing_told (by omega)]
      rfl

/-- One more request is answered as the number of probes has it. -/
theorem Rationed.answer (rationed : Rationed policy.normalized.maxProbes.toNat heard t)
    (reached : Reached policy t) (era : Nat) :
    probeAnswers (heard ++ [⟨t.era, t.breaker.mode, t.breaker.rejection?⟩]) era =
      Traffic.rationed policy.normalized.maxProbes.toNat
        (probeAnswers (heard ++ [⟨t.era, t.breaker.mode, t.breaker.rejection?⟩]) era).length := by
  rw [probeAnswers_append]
  split
  · rename_i probe
    obtain ⟨rfl, half⟩ := probe
    have taken := rationed.taken half
    have room : min (probeAnswers heard t.era).length policy.normalized.maxProbes.toNat <
          policy.normalized.maxProbes.toNat ↔
        (probeAnswers heard t.era).length < policy.normalized.maxProbes.toNat := by
      omega
    rw [List.length_append, List.length_singleton, rationed_succ, ← rationed.answers,
      reached.probe_refusal half, taken]
    simp only [room]
  · rw [List.append_nil]
    exact rationed.answers era

theorem Rationed.past_told {mode : Mode} {refusal : Option Rejection}
    (rationed : Rationed limit heard t) :
    ∀ hearing ∈ heard ++ [⟨t.era, mode, refusal⟩], hearing.era ≤ t.era := by
  intro hearing member
  rcases List.mem_append.mp member with old | new
  · exact rationed.past hearing old
  · cases List.mem_singleton.mp new
    exact Nat.le_refl _

/-- A request that is turned away has been answered rightly, and nobody was admitted. -/
theorem Rationed.refused (rationed : Rationed policy.normalized.maxProbes.toNat heard t)
    (reached : Reached policy t) (refused : t.breaker.rejection? = some reason) :
    Rationed policy.normalized.maxProbes.toNat
      (heard ++ [⟨t.era, t.breaker.mode, some reason⟩]) t := by
  rw [← refused]
  refine ⟨rationed.past_told, rationed.answer reached, ?_⟩
  intro half
  have taken := rationed.taken half
  rw [probeAnswers_append, if_pos ⟨rfl, half⟩]
  have full : policy.normalized.maxProbes.toNat ≤ t.admittedNow.length := by
    rw [reached.probe_refusal half] at refused
    split at refused
    · cases refused
    · omega
  simp only [List.length_append, List.length_singleton]
  omega

/-- So has one that is admitted, and its generation has admitted one more. -/
theorem Rationed.accepted (rationed : Rationed policy.normalized.maxProbes.toNat heard t)
    (reached : Reached policy t) (free : t.breaker.rejection? = none) (now : Instant) :
    Rationed policy.normalized.maxProbes.toNat
      (heard ++ [⟨t.era, t.breaker.mode, none⟩]) (t.accept now) := by
  rw [← free]
  refine ⟨rationed.past_told, rationed.answer reached, ?_⟩
  intro half
  have half : t.breaker.mode = .halfOpen := half
  have taken := rationed.taken half
  have grown := accept_admittedNow t now
  show (t.accept now).admittedNow.length =
    min (probeAnswers (heard ++ [_]) t.era).length policy.normalized.maxProbes.toNat
  rw [probeAnswers_append, if_pos ⟨rfl, half⟩]
  have room := reached.free_probe half free
  simp only [List.length_append, List.length_singleton]
  omega

theorem Rationed.quietly (rationed : Rationed limit heard t) (booked : Booked t)
    (steps : Relation.ReflTransGen Quiet t next) : Booked next ∧ Rationed limit heard next := by
  induction steps with
  | refl => exact ⟨booked, rationed⟩
  | tail _ step ih => exact ⟨step.booked ih.1, ih.2.quiet ih.1 step⟩

/-- What a move is told, if anything, is as the number of probes has it. -/
theorem Rationed.step (rationed : Rationed policy.normalized.maxProbes.toNat heard t)
    (reached : Reached policy t) (move : Move) :
    Rationed policy.normalized.maxProbes.toNat (heard ++ (t.hearing? move).toList)
      (t.perform move) := by
  have silent : heard ++ (none : Option Hearing).toList = heard := List.append_nil _
  cases move with
  | look reading =>
    simp only [hearing?, silent]
    exact (rationed.quietly reached.booked (look_quiet t reading)).2
  | finish number ending reading =>
    simp only [hearing?, silent]
    exact (rationed.quietly reached.booked (finish_quiet t number ending reading)).2
  | ask operation reading =>
    obtain ⟨now, wall⟩ := reading
    cases now with
    | none =>
      simp only [hearing?, Breaker.ask, Step.crash, perform, onto_same, silent]
      exact rationed
    | some now =>
      have timed := rationed.quiet reached.booked (elapse_quiet t now wall)
      have then_ := reached.quiet (elapse_quiet t now wall)
      have told := ask_heard t operation now wall
      simp only [hearing?]
      generalize (t.breaker.ask operation ⟨some now, wall⟩).result = result at told ⊢
      generalize t.perform (.ask operation ⟨some now, wall⟩) = next at told ⊢
      cases told with
      | crashed cause => simpa only [silent] using timed
      | refused fine refused => exact timed.refused then_ refused
      | admitted fine free => exact timed.accepted then_ free now

theorem Rationed.run (rationed : Rationed policy.normalized.maxProbes.toNat heard t)
    (reached : Reached policy t) (script : List Move) :
    Rationed policy.normalized.maxProbes.toNat (heard ++ t.hearings script) (t.run script) := by
  induction script generalizing t heard with
  | nil =>
    rw [hearings, List.append_nil]
    exact rationed
  | cons move rest ih =>
    rw [hearings, ← List.append_assoc]
    exact ih (rationed.step reached move) (perform_reached reached move)

/-- A request whose timer crashes finds a half-open generation that has just begun. -/
theorem Booked.crashed (booked : Booked t) (crash : (t.breaker.refresh now wall).result ≠ .ok ()) :
    (t.elapse now wall).breaker.mode = .halfOpen ∧ (t.elapse now wall).admittedNow = [] := by
  rw [elapse, Breaker.refresh_crashed_state crash]
  exact ⟨rfl, (booked.begun rfl).1⟩

theorem rejection?_eq_opened_iff {b : Breaker} :
    b.rejection? = some .opened ↔ b.mode = .opened := by
  unfold Breaker.rejection?
  cases b.mode with
  | closed => simp
  | opened => simp
  | halfOpen =>
    constructor
    · intro refused
      dsimp only at refused
      split at refused <;> cases refused
    · intro opened
      cases opened

theorem Reached.rejection?_eq_tooMany_iff (reached : Reached policy t) :
    t.breaker.rejection? = some .tooManyRequests ↔
      t.breaker.mode = .halfOpen ∧
        t.admittedNow.length = policy.normalized.maxProbes.toNat := by
  cases mode : t.breaker.mode with
  | closed => simp [Breaker.rejection?, mode]
  | opened => simp [Breaker.rejection?, mode]
  | halfOpen =>
    have most := reached.admittedNow_le mode
    rw [reached.probe_refusal mode]
    split
    · rename_i room
      simp [Nat.ne_of_lt room]
    · rename_i taken
      simp [Nat.le_antisymm most (Nat.not_lt.mp taken)]

/-- A request is turned away for the reason the breaker has once the timer has acted. -/
theorem Reached.ask_refused_iff (reached : Reached policy t) (operation : String) (now : Instant)
    (wall : Option Instant) (reason : Rejection) :
    (t.breaker.ask operation ⟨some now, wall⟩).result = .ok (.error reason) ↔
      (t.elapse now wall).breaker.rejection? = some reason := by
  have timed := reached.quiet (elapse_quiet t now wall)
  have heard := ask_heard t operation now wall
  generalize (t.breaker.ask operation ⟨some now, wall⟩).result = result at heard ⊢
  generalize t.perform (.ask operation ⟨some now, wall⟩) = next at heard
  cases heard with
  | crashed cause =>
    have crash : (t.breaker.refresh now wall).result ≠ .ok () := by simp [cause]
    obtain ⟨half, nobody⟩ := reached.booked.crashed crash
    rw [timed.probe_refusal half, nobody, List.length_nil,
      if_pos policy.normalized_maxProbes_pos]
    simp
  | refused fine refused => simp [refused]
  | admitted fine free => simp [free]

/-- A request is admitted if the timer does not crash and the breaker has no reason then. -/
theorem ask_admitted_iff (t : Traffic) (operation : String) (now : Instant)
    (wall : Option Instant) :
    (∃ ticket, (t.breaker.ask operation ⟨some now, wall⟩).result = .ok (.ok ticket)) ↔
      (t.breaker.refresh now wall).result = .ok () ∧
        (t.elapse now wall).breaker.rejection? = none := by
  have heard := ask_heard t operation now wall
  generalize (t.breaker.ask operation ⟨some now, wall⟩).result = result at heard ⊢
  generalize t.perform (.ask operation ⟨some now, wall⟩) = next at heard
  cases heard with
  | crashed cause => simp [cause]
  | refused fine refused => simp [refused]
  | admitted fine free => simp [fine, free]

/-- How a request is answered, by what the timer leaves: the mode, and what the present
generation has admitted so far. -/
structure Answered (limit : Nat) (t : Traffic) (operation : String) (now : Instant)
    (wall : Option Instant) : Prop where
  opened : (t.breaker.ask operation ⟨some now, wall⟩).result = .ok (.error .opened) ↔
    (t.elapse now wall).breaker.mode = .opened
  tooMany : (t.breaker.ask operation ⟨some now, wall⟩).result = .ok (.error .tooManyRequests) ↔
    (t.elapse now wall).breaker.mode = .halfOpen ∧ (t.elapse now wall).admittedNow.length = limit
  admitted : (∃ ticket, (t.breaker.ask operation ⟨some now, wall⟩).result = .ok (.ok ticket)) ↔
    (t.breaker.refresh now wall).result = .ok () ∧
      (t.elapse now wall).breaker.mode ≠ .opened ∧
      ¬((t.elapse now wall).breaker.mode = .halfOpen ∧
        (t.elapse now wall).admittedNow.length = limit)
  /-- There is an answer unless the wall clock cannot be read at the end of an outage. -/
  told : wall.isSome → (t.breaker.refresh now wall).result = .ok ()
  closed : (t.elapse now wall).breaker.mode = .closed →
    ∃ ticket, (t.breaker.ask operation ⟨some now, wall⟩).result = .ok (.ok ticket)
  /-- The operation of a request that is turned away is not reached. -/
  unreached : ∀ reason, (t.breaker.ask operation ⟨some now, wall⟩).result = .ok (.error reason) →
    Breaker.TurnedAway t.breaker operation ⟨some now, wall⟩ reason

theorem Reached.answered (reached : Reached policy t) (operation : String) (now : Instant)
    (wall : Option Instant) :
    Answered policy.normalized.maxProbes.toNat t operation now wall := by
  have timed := reached.quiet (elapse_quiet t now wall)
  constructor
  · rw [reached.ask_refused_iff, rejection?_eq_opened_iff]
  · rw [reached.ask_refused_iff, timed.rejection?_eq_tooMany_iff]
  · rw [ask_admitted_iff, ← timed.rejection?_eq_tooMany_iff, ne_eq, ← rejection?_eq_opened_iff]
    cases (t.elapse now wall).breaker.rejection? with
    | none => simp
    | some reason => cases reason <;> simp
  · intro readable
    by_contra crash
    obtain ⟨-, -, rfl⟩ := Breaker.refresh_crashed crash
    cases readable
  · intro closed
    refine (ask_admitted_iff t operation now wall).mpr ⟨?_, by simp [Breaker.rejection?, closed]⟩
    by_contra crash
    obtain ⟨half, _⟩ := reached.booked.crashed crash
    cases closed.symm.trans half
  · intro reason refused
    exact Breaker.turnedAway_of_refused refused

/-- A half-open generation admits the requests that come first, as many as there are
probes, and turns all others away, however calls end meanwhile and whatever the clocks
show. After any script this is also how the next request is answered. -/
theorem half_open_admits_first_probes (created : Breaker.create name policy reading = .ok b)
    (script : List Move) :
    0 < policy.normalized.maxProbes.toNat ∧
      (∀ era, (((fresh b).run script).probes era).length ≤ policy.normalized.maxProbes.toNat) ∧
      (∀ era, probeAnswers ((fresh b).hearings script) era =
        rationed policy.normalized.maxProbes.toNat
          (probeAnswers ((fresh b).hearings script) era).length) ∧
      ∀ operation now wall, Answered policy.normalized.maxProbes.toNat
        ((fresh b).run script) operation now wall := by
  have first : Reached policy (fresh b) := .fresh created
  have reached := run_reached first script
  have rationed := (Rationed.fresh policy.normalized.maxProbes.toNat b).run first script
  exact ⟨policy.normalized_maxProbes_pos, reached.probes_le, rationed.answers, reached.answered⟩

/-- Three callers find the breaker half-open; the first of them ended its outage. Between
them a call of the closed generation ends, and the clock goes back. -/
theorem half_open_admits_first_probes_of_three_callers :
    let script : List Move := [
      .ask "first" (.past 0),
      .ask "slow" (.past 0),
      .finish 0 .failed (.past 0),
      .ask "early" (.past 9),
      .ask "probe" (.past 10),
      .ask "second" (.past 10),
      .finish 1 .succeeded (.past 11),
      .ask "third" (.past 3)]
    probeAnswers ((fresh .touchy).hearings script) 2 =
        [none, some .tooManyRequests, some .tooManyRequests] ∧
      (((fresh .touchy).run script).probes 2).length = 1 ∧
      0 < Policy.touchy.normalized.maxProbes.toNat ∧
      (∀ era, (((fresh .touchy).run script).probes era).length ≤
        Policy.touchy.normalized.maxProbes.toNat) ∧
      (∀ era, probeAnswers ((fresh .touchy).hearings script) era =
        rationed Policy.touchy.normalized.maxProbes.toNat
          (probeAnswers ((fresh .touchy).hearings script) era).length) ∧
      ∀ operation now wall, Answered Policy.touchy.normalized.maxProbes.toNat
        ((fresh .touchy).run script) operation now wall :=
  ⟨by decide, by decide, half_open_admits_first_probes Breaker.touchy_created _⟩

end Fusebox.Traffic
