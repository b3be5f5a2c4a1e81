import Fusebox.Proofs.Breaker.Refusal
import Fusebox.Proofs.Breaker.Sight
import Fusebox.Proofs.Traffic.Idle

/-! Looking at a breaker whose closed generations have no deadline. A look can let the timer
act that nobody has called upon, so it does change the breaker; but whoever comes next would
have called upon the timer as well. `Akin` traffics may differ by that much, and nothing that
anybody learns from a move tells them apart. -/
namespace Fusebox

/-- What somebody learns from a move. -/
inductive Echo where
  /-- Whether a call is admitted, and how it is turned away. -/
  | told (answer : Except Crash (Except Rejection Ticket))
  /-- Whether the end of a call comes too late to count. -/
  | ended (discarded : Bool)
  /-- What a look shows. -/
  | shown (sight : Except Crash Sight)
  /-- Whether a breaker is among those that are open. -/
  | listed (isOpen : Bool)
  | nothing

/-- The closed generations of a breaker have no deadline. -/
def Breaker.Endless (b : Breaker) : Prop := b.mode = .closed → b.deadline = none

namespace Traffic

/-- What somebody learns from a move. -/
def echo (t : Traffic) : Move → Echo
  | .ask operation reading => .told (t.breaker.ask operation reading).result
  | .finish number ending reading =>
    match t.call? number with
    | none => .nothing
    | some call => .ended ((t.breaker.conclude call.ticket ending reading).effects.any (·.discards))
  | .look reading => .shown ((t.breaker.read reading).result.map (·.sight))

/-- The same traffic without the time of the breaker's last change. -/
def undated (t : Traffic) : Traffic := { t with breaker := t.breaker.undated }

/-- The traffic as the timer leaves it, apart from the time of the last change. -/
def ripe (t : Traffic) (now : Instant) : Traffic := (t.elapse now none).undated

/-- From an instant on, two traffics come to the same whenever the timer is called upon. -/
def Akin (latest : Instant) (t other : Traffic) : Prop :=
  ∀ now, latest ≤ now → t.ripe now = other.ripe now

variable {t other : Traffic} {latest first now wall : Instant} {policy : Policy}

theorem onto_undated (t : Traffic) (same : next.undated = after.undated) :
    (t.onto next).undated = (t.onto after).undated := by
  have number : next.generation = after.generation :=
    (congrArg Breaker.generation same : next.undated.generation = after.undated.generation)
  simp only [undated, onto, same, number]

/-- The wall clock only dates what the timer does. -/
theorem elapse_undated (t : Traffic) (now : Instant) (wall : Option Instant) :
    (t.elapse now wall).undated = t.ripe now :=
  onto_undated t ((Breaker.refresh_undated t.breaker now none wall).symm.trans
    (Breaker.refresh_undated t.breaker now none none))

theorem ripe_undated (t : Traffic) (now : Instant) : t.undated.ripe now = t.ripe now :=
  (onto_undated t.undated (Breaker.refresh_undated t.breaker now none none)).trans rfl

theorem Akin.refl (latest : Instant) (t : Traffic) : Akin latest t t := fun _ _ => rfl

theorem Akin.later (akin : Akin latest t other) (later : latest ≤ now) : Akin now t other :=
  fun moment order => akin moment (Int.le_trans later order)

/-- Traffics that differ in the time of the last change only are akin. -/
theorem akin_of_undated (same : t.undated = other.undated) (latest : Instant) :
    Akin latest t other := by
  intro now _
  rw [← ripe_undated, same, ripe_undated]

/-- Where the reset interval is zero no closed generation has a deadline. -/
theorem Reached.endless (reached : Reached policy t) (never : policy.resetInterval.isZero = true) :
    t.breaker.Endless := by
  have none_set {p : Policy} (same : p = policy.normalized) (now : Instant) :
      p.deadline .closed now = none := by
    rw [same]
    exact if_pos never
  induction reached with
  | fresh created =>
    intro _
    unfold Breaker.create at created
    split at created
    · cases created
      exact none_set rfl _
    · cases created
    · cases created
  | quiet before quiet ih =>
    have kept := before.keeps_policy
    cases quiet with
    | timed elapsed =>
      cases elapsed with
      | early early => exact ih
      | renewed due mode =>
        intro _
        simp only [onto_breaker, Breaker.renew, mode]
        exact none_set kept _
      | probing due mode => exact nofun
    | noted noted =>
      obtain ⟨_, rfl⟩ | ⟨target, rfl⟩ | ⟨_, rfl⟩ := noted.joins_or_begins
      · exact ih
      · intro closed
        cases target with
        | closed => exact none_set kept _
        | opened => cases closed
        | halfOpen => cases closed
      · exact ih
    | landed member => exact ih
    | lost member => exact ih
  | admitted before free ih => exact ih

/-- It makes no difference whether the timer is called upon in between. -/
theorem ripe_elapse (endless : t.breaker.Endless) (order : first ≤ now) (wall : Option Instant) :
    (t.elapse first wall).ripe now = t.ripe now := by
  have elapsed := Breaker.refresh_elapsed t.breaker first wall
  rw [elapse]
  generalize (t.breaker.refresh first wall).state = next at elapsed
  cases elapsed with
  | early early => rw [onto_same]
  | renewed due closed =>
    obtain ⟨deadline, found, _⟩ := Breaker.deadline_of_due due
    cases found.symm.trans (endless closed)
  | probing due opened =>
    have again : t.breaker.entered .halfOpen now none = (t.breaker.refresh now none).state :=
      (Breaker.Elapsed.probing (Breaker.due_later due order) opened).eq_refresh
    rw [ripe, elapse_early (Breaker.due_halfOpen rfl), ripe, elapse, ← again]
    exact onto_undated t rfl

/-- So a look that comes in between is made up for by the next move. -/
theorem Akin.elapse (akin : Akin latest t other) (endless : other.breaker.Endless)
    (order : first ≤ latest) (wall : Option Instant) : Akin latest t (other.elapse first wall) := by
  intro now later
  rw [ripe_elapse endless (Int.le_trans order later)]
  exact akin now later

/-- What is seen of a breaker. -/
def sight (t : Traffic) : Sight := t.breaker.snapshot.sight

theorem elapse_sight (t : Traffic) (now : Instant) (wall : Option Instant) :
    (t.elapse now wall).sight = (t.ripe now).sight := by
  rw [← elapse_undated t now wall]
  rfl

theorem elapse_rejection? (t : Traffic) (now : Instant) (wall : Option Instant) :
    (t.elapse now wall).breaker.rejection? = (t.ripe now).breaker.rejection? := by
  rw [← elapse_undated t now wall]
  rfl

theorem look_elapses (t : Traffic) (now wall : Instant) :
    t.perform (.look ⟨some now, some wall⟩) = t.elapse now (some wall) := by
  simp only [perform, Breaker.read_state, elapse]

theorem echo_look (t : Traffic) (now wall : Instant) :
    t.echo (.look ⟨some now, some wall⟩) = .shown (.ok (t.ripe now).sight) := by
  rw [← elapse_sight t now (some wall)]
  simp only [echo, Breaker.read_result]
  rfl

/-- A request is answered as the timer leaves the breaker. -/
theorem ask_ripe (t : Traffic) (operation : String) (now wall : Instant) :
    t.echo (.ask operation ⟨some now, some wall⟩) =
        .told (.ok (match (t.ripe now).breaker.rejection? with
          | some reason => .error reason
          | none => .ok ⟨(t.ripe now).sight.generation⟩)) ∧
      (t.perform (.ask operation ⟨some now, some wall⟩)).undated =
        match (t.ripe now).breaker.rejection? with
        | some _ => t.ripe now
        | none => ((t.ripe now).accept now).undated := by
  have heard := ask_heard t operation now (some wall)
  simp only [echo]
  generalize (t.breaker.ask operation ⟨some now, some wall⟩).result = told at heard ⊢
  generalize t.perform (.ask operation ⟨some now, some wall⟩) = next at heard ⊢
  cases heard with
  | crashed cause => cases (Breaker.refresh_fine t.breaker now wall).symm.trans cause
  | refused fine refused =>
    rw [elapse_rejection?] at refused
    simp only [refused]
    exact ⟨trivial, elapse_undated t now _⟩
  | admitted fine free =>
    rw [elapse_rejection?] at free
    simp only [free]
    refine ⟨?_, ?_⟩
    · rw [← elapse_sight t now (some wall)]
      rfl
    · rw [← elapse_undated t now (some wall)]
      rfl

/-- The end of a call is received as the timer leaves the breaker. -/
theorem finish_received (found : t.call? number = some call) (ending : Ending)
    (now wall : Instant) :
    t.perform (.finish number ending ⟨some now, some wall⟩) =
      ((t.elapse now (some wall)).onto ((t.elapse now (some wall)).breaker.receive call.ticket
        ending.success now (some wall))).land call ending := by
  have elapsed := Breaker.refresh_elapsed t.breaker now (some wall)
  simp only [perform, found, Breaker.conclude_state, Breaker.complete_state, elapse, onto_breaker]
  generalize (t.breaker.refresh now (some wall)).state = timed at elapsed ⊢
  refine congrArg (land · call ending) ?_
  unfold Breaker.receive
  split
  · exact (onto_onto elapsed (Breaker.note_noted timed ending.success now (some wall))).symm
  · exact (onto_same (t.onto timed)).symm

theorem finish_ripe (found : t.call? number = some call) (ending : Ending) (now wall : Instant) :
    t.echo (.finish number ending ⟨some now, some wall⟩) =
        .ended (decide ((t.ripe now).sight.generation ≠ call.ticket.generation)) ∧
      (t.perform (.finish number ending ⟨some now, some wall⟩)).undated =
        (((t.ripe now).onto ((t.ripe now).breaker.receive call.ticket ending.success now
          (some wall))).land call ending).undated := by
  refine ⟨?_, ?_⟩
  · simp only [echo, found, Breaker.conclude_discards, ← elapse_sight t now (some wall)]
    rfl
  · rw [finish_received found, ← elapse_undated t now (some wall)]
    generalize t.elapse now (some wall) = timed
    have received := Breaker.receive_undated timed.breaker call.ticket ending.success now
      (some wall)
    exact congrArg (land · call ending) (onto_undated timed received.symm)

/-- Nothing that anybody learns from a move tells akin traffics apart, and they stay akin. -/
theorem Akin.step (akin : Akin latest t other) (order : latest ≤ now)
    (shown : move.reading = ⟨some now, some wall⟩) :
    t.echo move = other.echo move ∧ Akin now (t.perform move) (other.perform move) := by
  have same := akin now order
  have calls : t.call? = other.call? :=
    (congrArg Traffic.call? same : (t.ripe now).call? = (other.ripe now).call?)
  cases move with
  | look reading =>
    cases shown
    refine ⟨by rw [echo_look, echo_look, same], akin_of_undated ?_ now⟩
    rw [look_elapses, look_elapses, elapse_undated, elapse_undated, same]
  | ask operation reading =>
    cases shown
    obtain ⟨left, after⟩ := ask_ripe t operation now wall
    obtain ⟨right, next⟩ := ask_ripe other operation now wall
    rw [← same] at right next
    exact ⟨left.trans right.symm, akin_of_undated (after.trans next.symm) now⟩
  | finish number ending reading =>
    cases shown
    cases found : t.call? number with
    | none =>
      have missing : other.call? number = none := calls ▸ found
      simp only [echo, perform, found, missing]
      exact ⟨trivial, akin.later order⟩
    | some call =>
      have known : other.call? number = some call := calls ▸ found
      obtain ⟨left, after⟩ := finish_ripe found ending now wall
      obtain ⟨right, next⟩ := finish_ripe known ending now wall
      rw [← same] at right next
      exact ⟨left.trans right.symm, akin_of_undated (after.trans next.symm) now⟩

/-- The timer of an outage, acting at the deadline and not when it is called upon. -/
def prompt (t : Traffic) (now : Instant) (wall : Option Instant) : Traffic :=
  match t.breaker.mode, t.breaker.deadline with
  | .opened, some deadline => if deadline ≤ now then t.elapse deadline wall else t
  | _, _ => t

/-- A timer that has acted at the deadline has done what it is called upon to do now. -/
theorem Akin.prompt (akin : Akin latest t other) (endless : other.breaker.Endless)
    (order : latest ≤ now) (wall : Option Instant) : Akin now t (other.prompt now wall) := by
  have still := akin.later order
  unfold Traffic.prompt
  split
  · split
    · rename_i come
      exact still.elapse endless come wall
    · exact still
  · exact still

theorem Reached.prompt (reached : Reached policy t) (now : Instant) (wall : Option Instant) :
    Reached policy (t.prompt now wall) := by
  unfold Traffic.prompt
  split
  · split
    · exact reached.quiet (elapse_quiet t _ wall)
    · exact reached
  · exact reached

theorem Quiet.keeps_name (quiet : Quiet t next) : next.breaker.name = t.breaker.name := by
  cases quiet with
  | timed elapsed => exact elapsed.name
  | noted noted =>
    obtain ⟨_, rfl⟩ | ⟨_, rfl⟩ | ⟨_, rfl⟩ := noted.joins_or_begins
    · rfl
    · rfl
    · rfl
  | landed member => rfl
  | lost member => rfl

/-- A breaker keeps its name. -/
theorem perform_name (t : Traffic) (move : Move) :
    (t.perform move).breaker.name = t.breaker.name := by
  have quietly {next : Traffic} (steps : Relation.ReflTransGen Quiet t next) :
      next.breaker.name = t.breaker.name := by
    induction steps with
    | refl => rfl
    | tail _ step ih => exact step.keeps_name.trans ih
  cases move with
  | look reading => exact quietly (look_quiet t reading)
  | finish number ending reading => exact quietly (finish_quiet t number ending reading)
  | ask operation reading =>
    rw [ask_breaker]
    exact t.breaker.ask_name operation reading

theorem prompt_name (t : Traffic) (now : Instant) (wall : Option Instant) :
    (t.prompt now wall).breaker.name = t.breaker.name := by
  unfold prompt
  split
  · split
    · exact (elapse_quiet t _ wall).keeps_name
    · rfl
  · rfl

end Traffic
end Fusebox
