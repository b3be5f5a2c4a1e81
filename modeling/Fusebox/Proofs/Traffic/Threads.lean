import Fusebox.Proofs.Traffic.Quiescence

/-! Threads that use one breaker at once. Each of them reads the monotonic clock first and comes
to the lock of the breaker later, so readings may arrive there in any order. A look may come to
the lock twice: once to see whether anything is due, and again to see to it if so; what it saw may
be long out of date by then. It does not matter, for the second time it looks again. So whatever
the threads do, it is a script of moves, one for each errand, in the order in which the errands
left the lock. -/
namespace Fusebox

/-- What a thread wants of a breaker. -/
inductive Errand where
  | look
  | ask (operation : String)
  | finish (number : Nat) (ending : Ending)

/-- The move that an errand makes at a reading of the clocks. -/
def Errand.move (reading : Reading) : Errand → Move
  | .look => .look reading
  | .ask operation => .ask operation reading
  | .finish number ending => .finish number ending reading

/-- How far a thread has come, and what the monotonic clock showed to it when it set out. -/
inductive Stage where
  /-- It comes to the lock for the first time. -/
  | coming (errand : Errand) (now : Option Instant)
  /-- It looked and saw that something was due. -/
  | returning (now : Instant)

/-- What an errand yields. -/
inductive Yield where
  | shown (snapshot : Except Crash Snapshot)
  | told (admission : Except Crash (Except Rejection Ticket))
  | ended (done : Except Crash Unit)

namespace Traffic

/-- Makes a move in one step. A look lets the timer act, and does not look first whether it
has to. -/
def atomic (t : Traffic) : Move → Traffic
  | .look ⟨some now, wall⟩ => t.onto (t.breaker.survey now wall).state
  | move => t.perform move

/-- What a move yields that is made in one step. -/
def yield (t : Traffic) : Move → Yield
  | .look ⟨some now, wall⟩ => .shown (t.breaker.survey now wall).result
  | .look ⟨none, _⟩ => .shown (.error .instantRange)
  | .ask operation reading => .told (t.breaker.ask operation reading).result
  | .finish number ending reading =>
    match t.call? number with
    | none => .ended (.ok ())
    | some call => .ended (t.breaker.conclude call.ticket ending reading).result

/-- The moves of threads, one at a time. -/
def atomically (t : Traffic) (script : List (Nat × Move)) : Traffic :=
  script.foldl (fun t entry => t.atomic entry.2) t

/-- What they yield to the threads. -/
def yields (t : Traffic) : List (Nat × Move) → List (Nat × Yield)
  | [] => []
  | (thread, move) :: rest => (thread, t.yield move) :: (t.atomic move).yields rest

/-- A move by which a generation may end: the deadline has come by its own reading, or a call ends
that has the number of the present generation. -/
def Stirs (t : Traffic) (move : Move) : Prop :=
  t.Overdue move ∨ ∃ number ending reading call, move = .finish number ending reading ∧
    t.call? number = some call ∧ call.ticket.generation = t.breaker.generation

/-- No move of a script is one of those when it is made. -/
def Unstirred (t : Traffic) : List Move → Prop
  | [] => True
  | move :: rest => ¬ t.Stirs move ∧ (t.perform move).Unstirred rest

end Traffic

/-- Threads around one breaker. -/
structure Threads where
  traffic : Traffic
  /-- What each thread is about. -/
  stage : Nat → Option Stage
  /-- What the errands have yielded that are done, in the order in which they were. -/
  yielded : List (Nat × Yield)

namespace Threads

/-- What may happen next. -/
inductive Act where
  /-- A thread that has nothing to do reads the monotonic clock for an errand. -/
  | begin (thread : Nat) (errand : Errand) (now : Option Instant)
  /-- A thread has the lock. The wall clock is read under it. -/
  | lock (thread : Nat) (wall : Option Instant)

/-- Threads that have not begun anything. -/
def idle (b : Breaker) : Threads := ⟨.fresh b, fun _ => none, []⟩

/-- A thread is at another stage. -/
def put (s : Threads) (thread : Nat) (stage : Option Stage) : Threads :=
  { s with stage := fun other => if other = thread then stage else s.stage other }

/-- A thread has done its errand, which left this traffic behind. -/
def leave (s : Threads) (thread : Nat) (traffic : Traffic) (yield : Yield) : Threads :=
  { s.put thread none with traffic, yielded := s.yielded ++ [(thread, yield)] }

def perform (s : Threads) : Act → Threads
  | .begin thread errand now =>
    match s.stage thread with
    | none => s.put thread (some (.coming errand now))
    | some _ => s
  | .lock thread wall =>
    match s.stage thread with
    | none => s
    | some (.coming .look (some now)) =>
      match s.traffic.breaker.peek now with
      | some shown => s.leave thread s.traffic (.shown (.ok shown))
      | none => s.put thread (some (.returning now))
    | some (.coming errand now) =>
      let move := errand.move ⟨now, wall⟩
      s.leave thread (s.traffic.perform move) (s.traffic.yield move)
    | some (.returning now) =>
      let step := s.traffic.breaker.survey now wall
      s.leave thread (s.traffic.onto step.state) (.shown step.result)

def run (s : Threads) (acts : List Act) : Threads := acts.foldl perform s

/-- The errand that an act brings to its end, as a move. -/
def commit? (s : Threads) : Act → Option (Nat × Move)
  | .begin .. => none
  | .lock thread wall =>
    match s.stage thread with
    | none => none
    | some (.coming .look (some now)) =>
      match s.traffic.breaker.peek now with
      | some _ => some (thread, .look ⟨some now, wall⟩)
      | none => none
    | some (.coming errand now) => some (thread, errand.move ⟨now, wall⟩)
    | some (.returning now) => some (thread, .look ⟨some now, wall⟩)

/-- The errands that come to their end, in this order. -/
def commits (s : Threads) : List Act → List (Nat × Move)
  | [] => []
  | act :: rest => (s.commit? act).toList ++ (s.perform act).commits rest

end Threads

namespace Breaker

variable {b : Breaker} {now : Instant} {wall : Option Instant}

/-- What a thread sees that has nothing to see to is what the whole look would show. -/
theorem survey_of_peek {shown : Snapshot} (peeked : b.peek now = some shown)
    (wall : Option Instant) : b.survey now wall = .pure b shown := by
  rw [← read_survey, read]
  dsimp only
  rw [peeked]

/-- A request changes nothing but the counts where nothing is due. -/
theorem ask_stayed (untimed : b.Untimed reading) (operation : String) :
    Stayed b (b.ask operation reading).state := by
  obtain ⟨now, wall⟩ := reading
  cases now with
  | none => exact .refl b
  | some now =>
    have asked := ask_asked b operation now wall
    rw [refresh_early (untimed now rfl)] at asked
    generalize b.ask operation ⟨some now, wall⟩ = step at asked ⊢
    obtain ⟨state, effects, result⟩ := step
    cases asked with
    | crashed cause => exact .refl b
    | rejected fine refused => exact .refl b
    | admitted fine free => exact ⟨rfl, rfl, rfl⟩

end Breaker

namespace Traffic

variable {t : Traffic} {move : Move}

theorem atomic_perform (t : Traffic) (move : Move) : t.atomic move = t.perform move := by
  cases move with
  | look reading =>
    obtain ⟨now, wall⟩ := reading
    cases now with
    | none => rfl
    | some now => simp only [atomic, perform, Breaker.read_survey]
  | ask operation reading => rfl
  | finish number ending reading => rfl

theorem atomically_run (t : Traffic) (script : List (Nat × Move)) :
    t.atomically script = t.run (script.map Prod.snd) := by
  induction script generalizing t with
  | nil => rfl
  | cons entry rest ih =>
    show (t.atomic entry.2).atomically rest = (t.perform entry.2).run (rest.map Prod.snd)
    rw [ih, atomic_perform]

theorem yields_append (t : Traffic) (first second : List (Nat × Move)) :
    t.yields (first ++ second) = t.yields first ++ (t.atomically first).yields second := by
  induction first generalizing t with
  | nil => rfl
  | cons entry rest ih =>
    exact congrArg ((entry.1, t.yield entry.2) :: ·) (ih (t.atomic entry.2))

/-- A move that does not stir leaves the generation as it is. -/
theorem perform_unstirred (calm : ¬ t.Stirs move) :
    Breaker.Stayed t.breaker (t.perform move).breaker := by
  have untimed : t.breaker.Untimed move.reading := by
    intro now seen
    by_contra due
    obtain ⟨deadline, found, come⟩ := Breaker.deadline_of_due (by simpa using due)
    exact calm (.inl ⟨now, deadline, seen, found, come⟩)
  have looked : (t.breaker.read move.reading).state = t.breaker := Breaker.read_untimed untimed
  cases move with
  | look reading =>
    rw [show (t.perform (.look reading)).breaker = t.breaker from looked]
    exact .refl _
  | ask operation reading =>
    rw [ask_breaker]
    exact Breaker.ask_stayed untimed operation
  | finish number ending reading =>
    cases found : t.call? number with
    | none =>
      simp only [perform, found]
      exact .refl _
    | some call =>
      have stale : call.ticket.generation ≠ (t.breaker.read reading).state.generation := by
        intro same
        rw [show (t.breaker.read reading).state = t.breaker from looked] at same
        exact calm (.inr ⟨number, ending, reading, call, rfl, found, same⟩)
      rw [finish_breaker found, Breaker.complete_state_of_stale stale]
      exact looked.symm ▸ .refl _

theorem run_unstirred {script : List Move} (calm : t.Unstirred script) :
    Breaker.Stayed t.breaker (t.run script).breaker := by
  induction script generalizing t with
  | nil => exact .refl _
  | cons move rest ih => exact (perform_unstirred calm.1).trans (ih calm.2)

end Traffic

namespace Threads

variable {s : Threads} {act : Act}

/-- An act brings an errand to its end, in one step, or it changes nothing but a stage. -/
theorem perform_commits (s : Threads) (act : Act) :
    (s.perform act).traffic = s.traffic.atomically (s.commit? act).toList ∧
      (s.perform act).yielded = s.yielded ++ s.traffic.yields (s.commit? act).toList := by
  cases act with
  | begin thread errand now =>
    have untold : s.yielded = s.yielded ++ [] := (List.append_nil _).symm
    simp only [perform]
    split
    · exact ⟨rfl, untold⟩
    · exact ⟨rfl, untold⟩
  | lock thread wall =>
    have untold : s.yielded = s.yielded ++ [] := (List.append_nil _).symm
    simp only [perform, commit?]
    cases s.stage thread with
    | none => exact ⟨rfl, untold⟩
    | some stage =>
      cases stage with
      | returning now => exact ⟨rfl, rfl⟩
      | coming errand now =>
        cases errand with
        | ask operation => exact ⟨rfl, rfl⟩
        | finish number ending => exact ⟨rfl, rfl⟩
        | look =>
          cases now with
          | none => exact ⟨rfl, rfl⟩
          | some now =>
            -- The look is over if nothing was due; otherwise nothing has been done so far.
            cases peeked : s.traffic.breaker.peek now with
            | none =>
              simp only [peeked]
              exact ⟨rfl, untold⟩
            | some shown =>
              simp only [peeked]
              have whole := Breaker.survey_of_peek peeked wall
              constructor
              · show s.traffic = s.traffic.onto (s.traffic.breaker.survey now wall).state
                rw [whole]
                exact (Traffic.onto_same _).symm
              · show _ = s.yielded ++ [(thread, .shown (s.traffic.breaker.survey now wall).result)]
                rw [whole]
                rfl

/-- Whatever the threads do, it comes to their errands one at a time. -/
theorem run_commits (s : Threads) (acts : List Act) :
    (s.run acts).traffic = s.traffic.atomically (s.commits acts) ∧
      (s.run acts).yielded = s.yielded ++ s.traffic.yields (s.commits acts) := by
  induction acts generalizing s with
  | nil => exact ⟨rfl, (List.append_nil _).symm⟩
  | cons act rest ih =>
    obtain ⟨traffic, yielded⟩ := perform_commits s act
    obtain ⟨later, others⟩ := ih (s.perform act)
    rw [traffic] at later others
    rw [yielded] at others
    constructor
    · refine later.trans ?_
      simp only [commits, Traffic.atomically, List.foldl_append]
    · refine others.trans ?_
      rw [commits, Traffic.yields_append, List.append_assoc]

theorem commits_append (s : Threads) (first second : List Act) :
    s.commits (first ++ second) = s.commits first ++ (s.run first).commits second := by
  induction first generalizing s with
  | nil => rfl
  | cons act rest ih =>
    show _ ++ (s.perform act).commits (rest ++ second) = _ ++ _ ++ _
    rw [ih, List.append_assoc]
    rfl

/-- What threads do to the generation of a breaker. -/
structure ActsOnce (s : Threads) : Prop where
  /-- A generation ends when an errand is done that stirs, by its own reading or its own call. -/
  own : ∀ act, (s.perform act).traffic.breaker.generation ≠ s.traffic.breaker.generation →
    ∃ thread move, s.commit? act = some (thread, move) ∧ s.traffic.Stirs move
  /-- It is one generation that ends, -/
  one : ∀ act thread move, s.commit? act = some (thread, move) → s.traffic.NotAhead move →
    (s.perform act).traffic.breaker.generation = s.traffic.breaker.generation ∨
      (s.perform act).traffic.breaker.generation = s.traffic.breaker.generation + 1
  /-- and a crowd that comes after it ends no other one, unless somebody in it stirs: what others
  have seen before does not matter. -/
  crowd : ∀ act acts,
    (s.perform act).traffic.Unstirred (((s.perform act).commits acts).map Prod.snd) →
    Breaker.Stayed (s.perform act).traffic.breaker ((s.perform act).run acts).traffic.breaker

theorem perform_of_commit (found : s.commit? act = some (thread, move)) :
    (s.perform act).traffic = s.traffic.perform move := by
  rw [(perform_commits s act).1, found]
  exact Traffic.atomic_perform s.traffic move

theorem actsOnce (s : Threads) : s.ActsOnce := by
  constructor
  · intro act ended
    cases found : s.commit? act with
    | none =>
      have same : (s.perform act).traffic = s.traffic := by
        rw [(perform_commits s act).1, found]
        rfl
      exact absurd (congrArg (·.breaker.generation) same) ended
    | some entry =>
      obtain ⟨thread, move⟩ := entry
      refine ⟨thread, move, rfl, ?_⟩
      by_contra calm
      rw [perform_of_commit found] at ended
      exact ended (Traffic.perform_unstirred calm).generation
  · intro act thread move found notAhead
    rw [perform_of_commit found]
    exact notAhead.generation
  · intro act acts calm
    rw [(run_commits (s.perform act) acts).1, Traffic.atomically_run]
    exact Traffic.run_unstirred calm

/-- However threads come to the lock of a breaker, and in whatever order their readings do, the
breaker does what it would do and every errand yields what it would yield if each of them were one
step, taken when it leaves the lock for the last time. A deadline that many of them have seen come
ends one generation; another one ends only by an errand that has reason to end it. -/
theorem interleavings_are_atomic (b : Breaker) (acts : List Act) :
    let s := (idle b).run acts
    let script := (idle b).commits acts
    s.traffic = (Traffic.fresh b).atomically script ∧
      s.yielded = (Traffic.fresh b).yields script ∧
      s.traffic = (Traffic.fresh b).run (script.map Prod.snd) ∧
      (∀ earlier later, acts = earlier ++ later → (idle b).commits earlier <+: script) ∧
      s.ActsOnce := by
  intro s script
  obtain ⟨traffic, yielded⟩ := run_commits (idle b) acts
  refine ⟨traffic, yielded, traffic.trans (Traffic.atomically_run _ _), ?_, actsOnce s⟩
  rintro earlier later rfl
  exact ⟨_, (commits_append _ earlier later).symm⟩

/-- Two looks and a request see the end of an outage. The request is the first to come back to the
lock and makes the breaker half-open; the looks, one of them with an earlier reading, find that
done. -/
theorem interleavings_are_atomic_at_end_of_outage :
    let outage : List Act := [
      .begin 0 (.ask "first") (Reading.past 0).now,
      .lock 0 (Reading.past 0).wall,
      .begin 0 (.finish 0 .failed) (Reading.past 2).now,
      .lock 0 (Reading.past 2).wall,
      .begin 1 .look (Reading.past 13).now,
      .begin 2 .look (Reading.past 12).now,
      .begin 3 (.ask "probe") (Reading.past 14).now,
      .lock 1 (Reading.past 13).wall,
      .lock 2 (Reading.past 13).wall]
    let crowd : List Act := [.lock 2 (Reading.past 15).wall, .lock 1 (Reading.past 16).wall]
    let s := (idle .touchy).run outage
    let next := s.perform (.lock 3 (Reading.past 14).wall)
    s.traffic.breaker.generation = 1 ∧ next.traffic.breaker.generation = 2 ∧
      Breaker.Stayed next.traffic.breaker (next.run crowd).traffic.breaker ∧
      (next.run crowd).traffic = (Traffic.fresh .touchy).run [
        .ask "first" (.past 0),
        .finish 0 .failed (.past 2),
        .ask "probe" (.past 14),
        .look ⟨(Reading.past 12).now, (Reading.past 15).wall⟩,
        .look ⟨(Reading.past 13).now, (Reading.past 16).wall⟩] := by
  intro outage crowd s next
  obtain ⟨-, -, -, -, once⟩ := interleavings_are_atomic .touchy outage
  have whole := interleavings_are_atomic .touchy
    (outage ++ [.lock 3 (Reading.past 14).wall] ++ crowd)
  refine ⟨by decide, by decide, once.crowd _ crowd ⟨?_, ?_, trivial⟩, whole.2.2.1⟩
  · rintro (⟨_, _, _, found, _⟩ | ⟨_, _, _, _, other, _⟩)
    · have unset : next.traffic.breaker.deadline = none := by decide
      cases unset.symm.trans found
    · cases other
  · rintro (⟨_, _, _, found, _⟩ | ⟨_, _, _, _, other, _⟩)
    · have unset : (next.run [.lock 2 (Reading.past 15).wall]).traffic.breaker.deadline = none := by
        decide
      cases unset.symm.trans found
    · cases other

end Threads
end Fusebox
