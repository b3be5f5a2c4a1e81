import Fusebox.Proofs.Traffic.Course

/-! Calls and the generations they were admitted in. A call carries the number of its
generation as a tag; the number of an open generation is on no call at all, and a tag
that fits the present generation tells the mode the call was admitted under. -/
namespace Fusebox.Traffic

/-- No open breaker admits a call. -/
theorem Lawful.admitting_mode (lawful : Lawful policy t) :
    ∀ call ∈ t.admitted, call.mode ≠ .opened := by
  induction lawful with
  | fresh created => simp [Traffic.fresh]
  | timed before elapsed ih => exact ih
  | @admitted t now before free ih =>
    intro call member
    rcases List.mem_append.mp member with old | new
    · exact ih call old
    · cases List.mem_singleton.mp new
      intro opened
      have opened : t.breaker.mode = .opened := opened
      simp [Breaker.rejection?, opened] at free
  | stale before member older ih => exact ih
  | counted before member current noted ih => exact ih
  | lost before member ih => exact ih

/-- A generation has one mode: its calls were all admitted under the present one. -/
theorem Lawful.present_mode (lawful : Lawful policy t) :
    ∀ call ∈ t.admitted, call.era = t.era → call.mode = t.breaker.mode := by
  -- A mode changes only with the generation, and then no call is of the present one.
  have begun : ∀ {t : Traffic} {next : Breaker}, Booked t →
      next.generation = t.breaker.generation + 1 →
      ∀ call ∈ t.admitted, call.era = (t.onto next).era → call.mode = next.mode := by
    intro t next booked number call member same
    have older := booked.era call member
    rw [onto_era_next number] at same
    omega
  induction lawful with
  | fresh created => simp [Traffic.fresh]
  | timed before elapsed ih =>
    cases elapsed with
    | early early => rwa [onto_same]
    | renewed due mode => exact begun before.booked rfl
    | probing due mode => exact begun before.booked rfl
  | admitted before free ih =>
    intro call member same
    rcases List.mem_append.mp member with old | new
    · exact ih call old same
    · cases List.mem_singleton.mp new
      rfl
  | stale before member older ih => exact ih
  | counted before member current noted ih =>
    obtain ⟨_, rfl⟩ | ⟨target, rfl⟩ | ⟨_, rfl⟩ := noted.joins_or_begins
    · intro call member same
      rw [land_era] at same
      exact ih call member (same.trans (onto_era_same rfl))
    · exact begun before.booked rfl
    · rwa [onto_same]
  | lost before member ih => exact ih

/-- Tags tell calls of the present generation from older ones, and no call that still
counts finds the breaker open. -/
structure Tagged (t : Traffic) : Prop where
  tag_le : ∀ call ∈ t.underway, call.ticket.generation ≤ t.breaker.generation
  tag_lt : t.breaker.mode = .opened →
    ∀ call ∈ t.underway, call.ticket.generation < t.breaker.generation
  /-- After the timer has acted at any reading, a fitting tag means that the breaker
  is in the mode the call was admitted under, and that this is not the open one. -/
  fits : ∀ call ∈ t.underway, ∀ now wall,
    (t.onto (t.breaker.refresh now wall).state).era < UInt64.size →
    (t.breaker.refresh now wall).state.generation = call.ticket.generation →
    ((t.breaker.refresh now wall).state.mode = .closed ∨
      (t.breaker.refresh now wall).state.mode = .halfOpen) ∧
    (t.breaker.refresh now wall).state.mode = call.mode

private theorem ofNat_le_of_le {a b : Nat} (le : a ≤ b) (bound : b < UInt64.size) :
    UInt64.ofNat a ≤ UInt64.ofNat b := by
  rw [UInt64.le_iff_toNat_le, UInt64.toNat_ofNat_of_lt' bound,
    UInt64.toNat_ofNat_of_lt' (Nat.lt_of_le_of_lt le bound)]
  exact le

private theorem ofNat_lt_of_lt {a b : Nat} (lt : a < b) (bound : b < UInt64.size) :
    UInt64.ofNat a < UInt64.ofNat b := by
  rw [UInt64.lt_iff_toNat_lt, UInt64.toNat_ofNat_of_lt' bound,
    UInt64.toNat_ofNat_of_lt' (Nat.lt_trans lt bound)]
  exact lt

/-- An open generation has no calls. -/
theorem Lawful.opened_era (lawful : Lawful policy t) (opened : t.breaker.mode = .opened) :
    ∀ call ∈ t.admitted, call.era < t.era := by
  intro call member
  refine Nat.lt_of_le_of_ne (lawful.booked.era call member) ?_
  intro same
  have mode := lawful.present_mode call member same
  exact lawful.admitting_mode call member (mode.trans opened)

theorem Lawful.fitting_mode (lawful : Lawful policy t) (member : call ∈ t.admitted)
    (eras : t.era < UInt64.size) (same : t.breaker.generation = call.ticket.generation) :
    (t.breaker.mode = .closed ∨ t.breaker.mode = .halfOpen) ∧ t.breaker.mode = call.mode := by
  have current : call.era = t.era := by
    have tags := lawful.booked.generation.symm.trans (same.trans (lawful.booked.ticket call member))
    have bound := Nat.lt_of_le_of_lt (lawful.booked.era call member) eras
    exact (ofNat_inj_below eras bound tags).symm
  have mode := lawful.present_mode call member current
  refine ⟨?_, mode.symm⟩
  have admitting := lawful.admitting_mode call member
  rw [mode] at admitting
  cases found : t.breaker.mode with
  | closed => exact .inl rfl
  | halfOpen => exact .inr rfl
  | opened => exact absurd found admitting

/-- Whatever calls do and whatever the clocks show, no call comes to its end in an open
generation. -/
theorem ends_never_meet_open_generation (created : Breaker.create name policy reading = .ok b)
    (script : List Move) (eras : ((fresh b).run script).era < UInt64.size) :
    Tagged ((fresh b).run script) := by
  have lawful := run_lawful (.fresh created) eras
  generalize (fresh b).run script = t at eras lawful ⊢
  have booked := lawful.booked
  constructor
  · intro call member
    have known := booked.underway member
    rw [booked.ticket call known, booked.generation]
    exact ofNat_le_of_le (booked.era call known) eras
  · intro opened call member
    have known := booked.underway member
    rw [booked.ticket call known, booked.generation]
    exact ofNat_lt_of_lt (lawful.opened_era opened call known) eras
  · intro call member now wall bound same
    have timed := lawful.timed (Breaker.refresh_elapsed t.breaker now wall)
    exact timed.fitting_mode (booked.underway member) bound same

/-- One call trips the breaker, another one is still under way. -/
theorem ends_never_meet_open_generation_after_trip :
    let script : List Move := [
      .ask "first" (.past 0),
      .ask "second" (.past 0),
      .finish 0 .failed (.past 0)]
    ((fresh .touchy).run script).era < UInt64.size ∧
      ((fresh .touchy).run script).breaker.mode = .opened ∧
      ((fresh .touchy).run script).underway.length = 1 ∧
      Tagged ((fresh .touchy).run script) :=
  ⟨by decide, by decide, by decide,
    ends_never_meet_open_generation Breaker.touchy_created _ (by decide)⟩

end Fusebox.Traffic
