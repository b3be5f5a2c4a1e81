import Fusebox.Proofs.Breaker.Refusal
import Fusebox.Proofs.Traffic.CompletionOrder
import Fusebox.Proofs.Traffic.Reach

/-! What traffic does not do to a breaker. A request that is turned away, and the end of
a call whose generation is over, are no more than a look at the breaker at the same
reading: the timer may act, and nothing else happens. Whole scripts can be cleared of
such moves. Towards an open breaker every move is like that, so no traffic puts off the
end of an outage or brings it nearer. -/
namespace Fusebox

namespace Breaker

variable {b : Breaker} {reading : Reading}

/-- An end that is told to another generation is no more than a look. -/
theorem complete_state_of_stale {success : Bool}
    (stale : ticket.generation ≠ (b.read reading).state.generation) :
    (b.complete ticket success reading).state = (b.read reading).state := by
  obtain ⟨now, wall⟩ := reading
  cases now with
  | none => rfl
  | some now =>
    have completed := complete_completed b ticket success now wall
    rw [read_state] at stale ⊢
    generalize (b.complete ticket success ⟨some now, wall⟩).state = next at completed ⊢
    cases completed with
    | crashed cause => rfl
    | stale other => rfl
    | counted same noted => exact absurd same.symm stale

/-- An open breaker ignores the end of any call, whatever its ticket says. -/
theorem complete_state_of_opened {success : Bool} (opened : b.mode = .opened)
    (untimed : b.Untimed reading) : (b.complete ticket success reading).state = b := by
  obtain ⟨now, wall⟩ := reading
  cases now with
  | none => rfl
  | some now =>
    have completed := complete_completed b ticket success now wall
    rw [refresh_early (untimed now rfl)] at completed
    generalize (b.complete ticket success ⟨some now, wall⟩).state = next at completed ⊢
    cases completed with
    | crashed cause => rfl
    | stale other => rfl
    | counted same noted => exact noted.eq_of_opened opened

end Breaker

namespace Traffic

variable {t : Traffic} {policy : Policy}

theorem run_single (t : Traffic) (move : Move) : t.run [move] = t.perform move := rfl

/-- The end of a call moves the breaker as a report of it does. -/
theorem finish_breaker (found : t.call? number = some call) (ending : Ending)
    (reading : Reading) :
    (t.perform (.finish number ending reading)).breaker =
      (t.breaker.complete call.ticket ending.success reading).state := by
  simp only [perform, found, Breaker.conclude_state]
  split <;> rfl

theorem ask_breaker (t : Traffic) (operation : String) (reading : Reading) :
    (t.perform (.ask operation reading)).breaker = (t.breaker.ask operation reading).state := by
  simp only [perform]
  split <;> rfl

theorem opened_unmoved (opened : t.breaker.mode = .opened) (move : Move)
    (untimed : t.breaker.Untimed move.reading) : (t.perform move).breaker = t.breaker := by
  cases move with
  | look reading => exact Breaker.read_untimed untimed
  | ask operation reading =>
    rw [ask_breaker]
    exact Breaker.ask_state_of_opened opened untimed operation
  | finish number ending reading =>
    cases found : t.call? number with
    | none => simp only [perform, found]
    | some call =>
      rw [finish_breaker found]
      exact Breaker.complete_state_of_opened opened untimed

/-- Until its deadline an open breaker stays as it is, whatever the traffic. -/
theorem opened_unmoved_by_run (opened : t.breaker.mode = .opened) (script : List Move)
    (untimed : ∀ move ∈ script, t.breaker.Untimed move.reading) :
    (t.run script).breaker = t.breaker := by
  induction script generalizing t with
  | nil => rfl
  | cons move rest ih =>
    have still := opened_unmoved opened move (untimed move List.mem_cons_self)
    have later := ih (still ▸ opened) fun other member =>
      still ▸ untimed other (List.mem_cons_of_mem _ member)
    exact later.trans still

/-- What is left of a move once all that has no effect is taken from it: a request that is
not admitted and the end of a call of another generation come down to a look. -/
def essence (t : Traffic) : Move → List Move
  | .look reading => [.look reading]
  | .ask operation reading =>
    match (t.breaker.ask operation reading).result with
    | .ok (.ok _) => [.ask operation reading]
    | _ => [.look reading]
  | .finish number ending reading =>
    match t.call? number with
    | none => []
    | some call =>
      if call.ticket.generation = (t.breaker.read reading).state.generation then
        [.finish number ending reading]
      else [.look reading]

/-- A script with nothing in it that has no effect. -/
def essentials (t : Traffic) : List Move → List Move
  | [] => []
  | move :: rest => t.essence move ++ (t.perform move).essentials rest

/-- Traffic that has come through a script and through its essentials. The second still
waits for the calls whose ends were left out. -/
structure Shadowed (t shadow : Traffic) : Prop where
  breaker : shadow.breaker = t.breaker
  era : shadow.era = t.era
  admitted : shadow.admitted = t.admitted
  underway : t.underway.Sublist shadow.underway

theorem Shadowed.onto (shadowed : Shadowed t shadow) (next : Breaker) :
    Shadowed (t.onto next) (shadow.onto next) where
  breaker := rfl
  era := by simp only [Traffic.onto, shadowed.era, shadowed.breaker]
  admitted := shadowed.admitted
  underway := shadowed.underway

theorem Shadowed.board (shadowed : Shadowed t shadow) (ticket : Ticket) (now : Instant) :
    Shadowed (t.board ticket now) (shadow.board ticket now) where
  breaker := shadowed.breaker
  era := shadowed.era
  admitted := by
    simp only [Traffic.board, shadowed.admitted, shadowed.era, shadowed.breaker]
  underway := by
    simp only [Traffic.board, shadowed.admitted, shadowed.era, shadowed.breaker]
    exact shadowed.underway.append_right _

/-- A call that leaves both. -/
theorem Shadowed.land (shadowed : Shadowed t shadow) (call : Call) (ending : Ending) :
    Shadowed (t.land call ending) (shadow.land call ending) where
  breaker := shadowed.breaker
  era := shadowed.era
  admitted := shadowed.admitted
  underway := shadowed.underway.erase call

theorem Shadowed.lose (shadowed : Shadowed t shadow) (call : Call) :
    Shadowed (t.lose call) (shadow.lose call) where
  breaker := shadowed.breaker
  era := shadowed.era
  admitted := shadowed.admitted
  underway := shadowed.underway.erase call

/-- An end that the second traffic does not hear of. -/
theorem Shadowed.left (shadowed : Shadowed t shadow) (next : Traffic)
    (breaker : next.breaker = t.breaker) (era : next.era = t.era)
    (admitted : next.admitted = t.admitted) (underway : next.underway = t.underway.erase call) :
    Shadowed next shadow where
  breaker := shadowed.breaker.trans breaker.symm
  era := shadowed.era.trans era.symm
  admitted := shadowed.admitted.trans admitted.symm
  underway := underway ▸ List.erase_sublist.trans shadowed.underway

/-- A call under way in the first traffic is under way in the second. -/
theorem Shadowed.call? (shadowed : Shadowed t shadow) (booked : Booked shadow)
    (found : t.call? number = some call) : shadow.call? number = some call := by
  have member := shadowed.underway.subset (mem_of_call? found)
  have named : call.number = number := by simpa using List.find?_some found
  rw [← named]
  exact booked.call?_number member

theorem Shadowed.asked (shadowed : Shadowed t shadow) (operation : String) (reading : Reading) :
    Shadowed (t.perform (.ask operation reading))
      (shadow.run (t.essence (.ask operation reading))) := by
  simp only [essence]
  split
  · simp only [run_single, perform, shadowed.breaker]
    split
    · exact (shadowed.onto _).board _ _
    · exact shadowed.onto _
  · rename_i unadmitted
    have still := Breaker.ask_state_of_unadmitted unadmitted
    simp only [run_single, perform, shadowed.breaker, still]
    split
    · rename_i admitted _
      exact absurd admitted (unadmitted _)
    · exact shadowed.onto _

theorem Shadowed.finished (shadowed : Shadowed t shadow) (booked : Booked shadow)
    (number : Nat) (ending : Ending) (reading : Reading) :
    Shadowed (t.perform (.finish number ending reading))
      (shadow.run (t.essence (.finish number ending reading))) := by
  cases found : t.call? number with
  | none =>
    simp only [perform, essence, found]
    exact shadowed
  | some call =>
    simp only [essence, found]
    split
    · simp only [run_single, perform, found, shadowed.call? booked found, shadowed.breaker]
      split
      · exact (shadowed.onto _).lose call
      · exact (shadowed.onto _).land call ending
    · rename_i stale
      simp only [run_single, perform, found, Breaker.conclude_state,
        Breaker.complete_state_of_stale stale, shadowed.breaker]
      split
      · exact (shadowed.onto _).left _ rfl rfl rfl rfl
      · exact (shadowed.onto _).left _ rfl rfl rfl rfl

theorem Shadowed.step (shadowed : Shadowed t shadow) (booked : Booked shadow) (move : Move) :
    Shadowed (t.perform move) (shadow.run (t.essence move)) := by
  cases move with
  | look reading =>
    simp only [essence, run_single, perform, shadowed.breaker]
    exact shadowed.onto _
  | ask operation reading => exact shadowed.asked operation reading
  | finish number ending reading => exact shadowed.finished booked number ending reading

theorem Shadowed.run (shadowed : Shadowed t shadow) (reached : Reached policy shadow)
    (script : List Move) : Shadowed (t.run script) (shadow.run (t.essentials script)) := by
  induction script generalizing t shadow with
  | nil => exact shadowed
  | cons move rest ih =>
    -- What is left of a move is decided in the first traffic, before it is made.
    rw [essentials, run_append]
    exact ih (shadowed.step reached.booked move) (run_reached reached _)

/-- A number comes back only after all others have been used. -/
theorem ofNat_inj_near {a b : Nat} (order : a ≤ b) (near : b < a + UInt64.size)
    (same : UInt64.ofNat a = UInt64.ofNat b) : a = b := by
  have numbers := congrArg UInt64.toNat same
  simp only [UInt64.toNat_ofNat'] at numbers
  simp only [UInt64.size] at near
  omega

/-- The tag of a call whose generation is over fits no later one, unless as many have
begun since as there are numbers. -/
theorem Booked.outlived (booked : Booked t) (member : call ∈ t.underway) (next : Breaker)
    (gone : call.era ≠ (t.onto next).era) (near : (t.onto next).era < call.era + UInt64.size) :
    call.ticket.generation ≠ next.generation := by
  have known := booked.underway member
  have order := (booked.onto next).era call known
  have number : next.generation = UInt64.ofNat (t.onto next).era :=
    (booked.onto next).generation
  rw [booked.ticket call known, number]
  exact fun same => gone (ofNat_inj_near order near same)

/-- The moves that are no more than a look at the same reading. -/
structure OnlyLooks (t : Traffic) : Prop where
  /-- The end of a call that was admitted in another generation than the present one. -/
  stale : ∀ call ∈ t.underway, ∀ ending reading,
    call.ticket.generation ≠ (t.perform (.look reading)).breaker.generation →
    (t.perform (.finish call.number ending reading)).breaker =
      (t.perform (.look reading)).breaker
  /-- The same if generations are told apart even where their numbers have started over. -/
  outlived : ∀ call ∈ t.underway, ∀ ending reading,
    call.era ≠ (t.perform (.look reading)).era →
    (t.perform (.look reading)).era < call.era + UInt64.size →
    (t.perform (.finish call.number ending reading)).breaker =
      (t.perform (.look reading)).breaker
  refused : ∀ operation reading reason,
    (t.breaker.ask operation reading).result = .ok (.error reason) →
    (t.perform (.ask operation reading)).breaker = (t.perform (.look reading)).breaker
  /-- Anything at all before the end of an outage. -/
  opened : t.breaker.mode = .opened → ∀ script : List Move,
    (∀ move ∈ script, t.breaker.Untimed move.reading) → (t.run script).breaker = t.breaker

theorem Booked.onlyLooks (booked : Booked t) : OnlyLooks t := by
  have stale : ∀ call ∈ t.underway, ∀ ending reading,
      call.ticket.generation ≠ (t.perform (.look reading)).breaker.generation →
      (t.perform (.finish call.number ending reading)).breaker =
        (t.perform (.look reading)).breaker := by
    intro call member ending reading other
    rw [finish_breaker (booked.call?_number member)]
    exact Breaker.complete_state_of_stale other
  refine ⟨stale, ?_, ?_, opened_unmoved_by_run⟩
  · intro call member ending reading gone near
    exact stale call member ending reading (booked.outlived member _ gone near)
  · intro operation reading reason refused
    rw [ask_breaker]
    exact Breaker.ask_state_of_unadmitted (by simp [refused])

/-- Late ends and refusals move a breaker no further than looks do: neither one by one nor
in a script, where leaving out all they do besides makes no difference to the breaker. -/
theorem late_ends_and_refusals_only_look (created : Breaker.create name policy reading = .ok b)
    (script : List Move) :
    OnlyLooks ((fresh b).run script) ∧
      ((fresh b).run ((fresh b).essentials script)).breaker = ((fresh b).run script).breaker := by
  have reached : Reached policy (fresh b) := .fresh created
  have alike : Shadowed (fresh b) (fresh b) := ⟨rfl, rfl, rfl, .refl _⟩
  exact ⟨(run_reached reached script).booked.onlyLooks, (alike.run reached script).breaker⟩

/-- The first call opens the breaker, and a request is turned away. The end of the other
call comes with the end of the outage: it lets the breaker probe, and that is all. -/
theorem late_ends_and_refusals_only_look_at_end_of_outage :
    let script : List Move := [
      .ask "first" (.past 0),
      .ask "slow" (.past 0),
      .finish 0 .failed (.past 0),
      .ask "third" (.past 9)]
    let slow : Call := ⟨1, ⟨0⟩, 0, .closed, .reference⟩
    let t := (fresh .touchy).run script
    slow ∈ t.underway ∧
      slow.ticket.generation ≠ (t.perform (.look (.past 10))).breaker.generation ∧
      slow.era ≠ (t.perform (.look (.past 10))).era ∧
      (t.perform (.look (.past 10))).era < slow.era + UInt64.size ∧
      (t.perform (.finish 1 .dropped (.past 10))).breaker =
        (t.perform (.look (.past 10))).breaker ∧
      (t.perform (.look (.past 10))).breaker.mode = .halfOpen ∧
      t.breaker.mode = .opened ∧
      (t.run [.ask "fourth" (.past 3), .look (.past 9)]).breaker = t.breaker ∧
      (fresh .touchy).essentials script = [
        .ask "first" (.past 0),
        .ask "slow" (.past 0),
        .finish 0 .failed (.past 0),
        .look (.past 9)] ∧
      OnlyLooks t ∧
      ((fresh .touchy).run ((fresh .touchy).essentials script)).breaker = t.breaker := by
  intro script slow t
  obtain ⟨only, cleared⟩ := late_ends_and_refusals_only_look Breaker.touchy_created script
  have early : ∀ move ∈ [Move.ask "fourth" (.past 3), .look (.past 9)],
      t.breaker.Untimed move.reading := by
    intro move member now seen
    rcases List.mem_pair.mp member with rfl | rfl <;> cases seen <;> decide
  exact ⟨by decide, by decide, by decide, by decide,
    only.outlived slow (by decide) .dropped (.past 10) (by decide) (by decide),
    by decide, by decide, only.opened (by decide) _ early, by decide, only, cleared⟩

end Traffic
end Fusebox
