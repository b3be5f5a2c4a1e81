import Fusebox.Proofs.Traffic.Probes
import Mathlib.Data.List.Nodup
import Mathlib.Data.List.Perm.Subperm

/-! Calls that end at one reading of the clocks. It does not matter in which order they
do: the timer acts at the first of them, and after that only the numbers of successes
and failures among the calls of the present generation count. `weighed` says what
those two numbers make of a breaker, and every order is shown to agree with it. -/
namespace Fusebox

namespace Breaker

/-- Whether a closed breaker opens at one of so many more failures. -/
def tripsWithin (b : Breaker) (badly : Nat) : Bool :=
  (List.range badly).any fun earlier =>
    b.policy.readyToTrip
      { b.tally with failures := oneMore^[earlier + 1] b.tally.failures }

/-- The breaker with so many more successes and failures on its counts; the runs are
left as they are. -/
def scored (b : Breaker) (well badly : Nat) : Breaker :=
  { b with tally := { b.tally with
      successes := oneMore^[well] b.tally.successes
      failures := oneMore^[badly] b.tally.failures } }

/-- What so many successes and failures of its present generation make of a breaker. -/
def weighed (b : Breaker) (well badly : Nat) (now : Instant) (wall : Option Instant) : Breaker :=
  match b.mode with
  | .closed => if b.tripsWithin badly then b.entered .opened now wall else b.scored well badly
  | .halfOpen =>
    if 0 < badly then b.entered .opened now wall
    else if b.policy.maxProbes.toNat ≤ b.tally.successes.toNat + well then
      b.entered .closed now wall
    else b.scored well badly
  | .opened => b

/-- The breaker without its runs of equal outcomes. -/
def bare (b : Breaker) : Breaker :=
  { b with tally := { b.tally with successRun := 0, failureRun := 0 } }

/-- Two breakers that differ at most in the runs, and not even in these if they are not
in the generation of that number. -/
structure Alike (number : UInt64) (first second : Breaker) : Prop where
  bare : first.bare = second.bare
  elsewhere : first.generation ≠ number → first = second

theorem Alike.generation (alike : Alike number first second) :
    first.generation = second.generation :=
  show first.bare.generation = second.bare.generation from congrArg _ alike.bare

theorem Alike.refl (number : UInt64) (b : Breaker) : Alike number b b := ⟨rfl, fun _ => rfl⟩

theorem Alike.symm (alike : Alike number first second) : Alike number second first :=
  ⟨alike.bare.symm,
    fun other => (alike.elsewhere fun same => other (alike.generation.symm.trans same)).symm⟩

theorem Alike.trans (left : Alike number first second) (right : Alike number second third) :
    Alike number first third :=
  ⟨left.bare.trans right.bare, fun other => (left.elsewhere other).trans
    (right.elsewhere fun same => other (left.generation.trans same))⟩

variable {b : Breaker} {now : Instant} {wall : Option Instant}

theorem tripsWithin_succ (b : Breaker) (badly : Nat) :
    b.tripsWithin (badly + 1) =
      (b.policy.readyToTrip b.tally.failed ||
        { b with tally := b.tally.failed }.tripsWithin badly) := by
  simp only [tripsWithin, List.range_succ_eq_map, List.any_cons, List.any_map]
  rfl

theorem weighed_closed (closed : b.mode = .closed) (well badly : Nat) :
    b.weighed well badly now wall =
      if b.tripsWithin badly then b.entered .opened now wall else b.scored well badly := by
  unfold weighed
  rw [closed]

theorem weighed_halfOpen (half : b.mode = .halfOpen) (well badly : Nat) :
    b.weighed well badly now wall =
      if 0 < badly then b.entered .opened now wall
      else if b.policy.maxProbes.toNat ≤ b.tally.successes.toNat + well then
        b.entered .closed now wall
      else b.scored well badly := by
  unfold weighed
  rw [half]

/-- A success of a closed breaker counts the same whether it is noted first or weighed
with the others. -/
theorem weighed_success (closed : b.mode = .closed) (well badly : Nat) :
    Alike b.generation ({ b with tally := b.tally.succeeded }.weighed well badly now wall)
      (b.weighed (well + 1) badly now wall) := by
  have same : { b with tally := b.tally.succeeded }.tripsWithin badly = b.tripsWithin badly := rfl
  rw [weighed_closed closed, weighed_closed (by exact closed), same]
  split
  · exact .refl _ _
  · exact ⟨rfl, fun other => absurd rfl other⟩

/-- So does a success of a half-open one. -/
theorem weighed_probe (half : b.mode = .halfOpen)
    (room : b.tally.successes.toNat < Tally.full) (well badly : Nat) :
    Alike b.generation ({ b with tally := b.tally.succeeded }.weighed well badly now wall)
      (b.weighed (well + 1) badly now wall) := by
  have next : b.tally.succeeded.successes.toNat + well = b.tally.successes.toNat + (well + 1) := by
    rw [show b.tally.succeeded.successes = oneMore b.tally.successes from rfl, toNat_oneMore room]
    omega
  rw [weighed_halfOpen half, weighed_halfOpen (by exact half), next]
  split
  · exact .refl _ _
  · split
    · exact .refl _ _
    · exact ⟨rfl, fun other => absurd rfl other⟩

/-- So does a failure that does not open a closed breaker. -/
theorem weighed_failed (closed : b.mode = .closed)
    (calm : b.policy.readyToTrip b.tally.failed = false) (well badly : Nat) :
    Alike b.generation ({ b with tally := b.tally.failed }.weighed well badly now wall)
      (b.weighed well (badly + 1) now wall) := by
  rw [weighed_closed closed, weighed_closed (by exact closed), tripsWithin_succ b, calm,
    Bool.false_or]
  split
  · exact .refl _ _
  · exact ⟨rfl, fun other => absurd rfl other⟩

/-- The failure that opens a closed breaker decides, whatever else there is. -/
theorem weighed_trip (closed : b.mode = .closed)
    (ready : b.policy.readyToTrip b.tally.failed = true) (well badly : Nat) :
    b.weighed well (badly + 1) now wall = b.entered .opened now wall := by
  rw [weighed_closed closed, tripsWithin_succ, ready, Bool.true_or, if_pos rfl]

/-- A half-open breaker opens at any failure. -/
theorem weighed_reopen (half : b.mode = .halfOpen) (well badly : Nat) :
    b.weighed well (badly + 1) now wall = b.entered .opened now wall := by
  rw [weighed_halfOpen half, if_pos (Nat.succ_pos _)]

/-- A completion that ends no generation, weighed together with the calls after it. -/
theorem Noted.weighed_joined {success : Bool} (noted : Noted b now wall success next)
    (joined : next.generation = b.generation) (shut : b.mode ≠ .opened)
    (room : b.mode = .halfOpen → b.tally.successes.toNat < Tally.full) (well badly : Nat) :
    Alike b.generation (next.weighed well badly now wall)
      (b.weighed (well + (success == true).toNat) (badly + (success == false).toNat) now wall) := by
  have other : b.generation + 1 ≠ b.generation := by grind
  cases noted with
  | success closed => exact weighed_success closed well badly
  | probe half few => exact weighed_probe half (room half) well badly
  | failure closed calm => exact weighed_failed closed calm well badly
  | close half enough => exact absurd joined other
  | trip closed ready => exact absurd joined other
  | reopen half => exact absurd joined other
  | ignored opened => exact absurd opened shut

/-- A completion that begins a generation decides for the calls after it. A success does
so only if no failure of the generation can follow. -/
theorem Noted.weighed_begun {success : Bool} (noted : Noted b now wall success next)
    (begun : next.generation = b.generation + 1)
    (last : b.mode = .halfOpen → b.policy.maxProbes ≤ b.tally.succeeded.successRun →
      success = true →
        badly = 0 ∧ b.policy.maxProbes.toNat ≤ b.tally.successes.toNat + (well + 1)) :
    b.weighed (well + (success == true).toNat) (badly + (success == false).toNat) now wall =
      next := by
  have other : b.generation ≠ b.generation + 1 := by grind
  cases noted with
  | trip closed ready => exact weighed_trip closed ready well badly
  | reopen half => exact weighed_reopen half well badly
  | close half enough =>
    obtain ⟨rfl, reached⟩ := last half enough rfl
    rw [weighed_halfOpen half]
    exact (if_neg (Nat.lt_irrefl 0)).trans (if_pos reached)
  | success closed => exact absurd begun other
  | probe half few => exact absurd begun other
  | failure closed calm => exact absurd begun other
  | ignored opened => exact absurd begun other

/-- Without a call that counts nothing changes. -/
theorem weighed_nothing
    (short : b.mode = .halfOpen → b.tally.successes.toNat < b.policy.maxProbes.toNat) :
    b.weighed 0 0 now wall = b := by
  unfold weighed
  split
  · rw [if_neg (by simp [tripsWithin])]
    rfl
  · rename_i half
    rw [if_neg (Nat.lt_irrefl 0), Nat.add_zero, if_neg (Nat.not_le.mpr (short half))]
    rfl
  · rfl

end Breaker

namespace Traffic

variable {t : Traffic} {policy : Policy} {call : Call} {ending : Ending}
  {batch rest : List (Call × Ending)} {era : Nat} {success : Bool} {now : Instant}
  {wall : Option Instant}

/-- The moves by which calls end one after the other at one reading. -/
def settling (batch : List (Call × Ending)) (reading : Reading) : List Move :=
  batch.map fun entry => .finish entry.1.number entry.2 reading

theorem run_settling_cons (t : Traffic) (reading : Reading) :
    t.run (settling ((call, ending) :: rest) reading) =
      (t.perform (.finish call.number ending reading)).run (settling rest reading) := rfl

/-- How many of these calls are of a generation and end well, or badly. -/
def ends (batch : List (Call × Ending)) (era : Nat) (success : Bool) : Nat :=
  batch.countP fun entry => entry.1.era == era && entry.2.success == success

theorem ends_cons_other (other : call.era ≠ era) (success : Bool) :
    ends ((call, ending) :: rest) era success = ends rest era success := by
  simp [ends, other]

theorem ends_cons_current (current : call.era = era) (success : Bool) :
    ends ((call, ending) :: rest) era success =
      ends rest era success + (ending.success == success).toNat := by
  cases same : ending.success == success <;> simp_all [ends]

theorem ends_total (batch : List (Call × Ending)) (era : Nat) :
    ends batch era true + ends batch era false =
      (batch.map Prod.fst).countP (·.era == era) := by
  induction batch with
  | nil => rfl
  | cons entry rest ih =>
    obtain ⟨call, ending⟩ := entry
    rw [List.map_cons, List.countP_cons, ← ih]
    by_cases current : call.era = era
    · rw [ends_cons_current current, ends_cons_current current]
      cases ending.success <;> simp [current] <;> omega
    · rw [ends_cons_other current, ends_cons_other current]
      simp [current]

/-- Distinct calls that are all under way. -/
structure Ready (t : Traffic) (batch : List (Call × Ending)) : Prop where
  distinct : (batch.map Prod.fst).Nodup
  underway : ∀ entry ∈ batch, entry.1 ∈ t.underway

theorem Ready.tail (ready : Ready t ((call, ending) :: rest)) (next : Breaker) :
    Ready ((t.onto next).land call ending) rest := by
  obtain ⟨fresh, distinct⟩ := List.nodup_cons.mp ready.distinct
  refine ⟨distinct, ?_⟩
  intro entry member
  have other : entry.1 ≠ call := by
    intro same
    rw [← same] at fresh
    exact fresh (List.mem_map.mpr ⟨entry, member, rfl⟩)
  exact (List.mem_erase_of_ne other).mpr (ready.underway entry (List.mem_cons_of_mem _ member))

/-- The calls that count among those that end are among those under way. -/
theorem Ready.ends_le (ready : Ready t batch) (era : Nat) :
    ends batch era true + ends batch era false ≤ t.underway.countP (·.era == era) := by
  have inside : (batch.map Prod.fst).Subperm t.underway := by
    refine List.subperm_of_subset ready.distinct ?_
    intro call member
    obtain ⟨entry, found, rfl⟩ := List.mem_map.mp member
    exact ready.underway entry found
  rw [ends_total]
  exact inside.countP_le _

theorem Booked.numbers (booked : Booked t) : (t.admitted.map (·.number)).Nodup :=
  booked.number ▸ List.nodup_range

/-- A call under way is found by its number. -/
theorem Booked.call?_number (booked : Booked t) (member : call ∈ t.underway) :
    t.call? call.number = some call := by
  cases found : t.call? call.number with
  | none =>
    have absent := List.find?_eq_none.mp found call member
    simp at absent
  | some other =>
    have same : other.number = call.number := by simpa using List.find?_some found
    have known := booked.underway (mem_of_call? found)
    rw [List.inj_on_of_nodup_map booked.numbers known (booked.underway member) same]

/-- The end of a call under way either comes too late for its generation or counts. -/
inductive Finished (t : Traffic) (call : Call) (ending : Ending) (now : Instant)
    (wall : Option Instant) : Traffic → Prop where
  | stale (elapsed : Breaker.Elapsed t.breaker now wall next)
      (older : call.era < (t.onto next).era) :
      Finished t call ending now wall ((t.onto next).land call ending)
  | counted (early : t.breaker.due now = false) (current : call.era = t.era)
      (noted : Breaker.Noted t.breaker now wall ending.success next) :
      Finished t call ending now wall ((t.onto next).land call ending)

theorem finish_finished (booked : Booked t) (member : call ∈ t.underway)
    (eras : (t.perform (.finish call.number ending ⟨some now, wall⟩)).era < UInt64.size) :
    Finished t call ending now wall (t.perform (.finish call.number ending ⟨some now, wall⟩)) := by
  have shift := perform_shift booked _ eras
  have named := booked.call?_number member
  generalize t.perform (.finish call.number ending ⟨some now, wall⟩) = after at shift ⊢
  cases shift with
  | deaf unseen => cases unseen
  | missing unknown => cases named.symm.trans unknown
  | lost unseen found => cases unseen
  | stale elapsed found older =>
    cases named.symm.trans found
    exact .stale elapsed older
  | counted early found current noted =>
    cases named.symm.trans found
    exact .counted early current noted

/-- Calls of earlier generations leave a breaker alone that has nothing due. -/
theorem settling_stale (booked : Booked t) (early : t.breaker.due now = false)
    (ready : Ready t batch) (older : ∀ entry ∈ batch, entry.1.era < t.era)
    (eras : (t.run (settling batch ⟨some now, wall⟩)).era < UInt64.size) :
    (t.run (settling batch ⟨some now, wall⟩)).breaker = t.breaker := by
  induction batch generalizing t with
  | nil => rfl
  | cons entry rest ih =>
    obtain ⟨call, ending⟩ := entry
    have member : call ∈ t.underway := ready.underway _ List.mem_cons_self
    rw [run_settling_cons] at eras ⊢
    have bound := Nat.lt_of_le_of_lt (run_grows _ _).era eras
    have finished := finish_finished booked member bound
    generalize t.perform (.finish call.number ending ⟨some now, wall⟩) = after at eras finished ⊢
    cases finished with
    | stale elapsed _ =>
      have tail := ready.tail t.breaker
      cases elapsed.eq_of_early early
      rw [onto_same] at eras tail ⊢
      exact ih (booked.land member _) early tail
        (fun other known => older other (List.mem_cons_of_mem _ known)) eras
    | counted _ current _ =>
      exact absurd current (Nat.ne_of_lt (older _ List.mem_cons_self))

/-- A completion that begins a generation leaves nothing to the calls after it. -/
theorem settling_begun (lawful : Lawful policy t) (member : call ∈ t.underway)
    (entered : next = t.breaker.entered target now wall)
    (ready : Ready ((t.onto next).land call ending) batch)
    (eras : (((t.onto next).land call ending).run (settling batch ⟨some now, wall⟩)).era <
      UInt64.size) :
    (((t.onto next).land call ending).run (settling batch ⟨some now, wall⟩)).breaker = next := by
  have begun : next.generation = t.breaker.generation + 1 := by rw [entered]; rfl
  have ahead : next.due now = false := by
    rw [entered]
    exact Breaker.due_of_begun lawful.openTimeout_pos rfl
  refine settling_stale ((lawful.booked.onto next).land member ending) ahead ready ?_ eras
  intro entry known
  have inside := lawful.booked.underway (List.mem_of_mem_erase (ready.underway entry known))
  have older := lawful.booked.era entry.1 inside
  rw [land_era, onto_era_next begun]
  omega

/-- When the last missing probe ends well, no other call that counts can end badly. -/
theorem Lawful.closing_alone (lawful : Lawful policy t) (half : t.breaker.mode = .halfOpen)
    (enough : t.breaker.policy.maxProbes ≤ t.breaker.tally.succeeded.successRun)
    (ready : Ready t ((call, ending) :: rest)) (current : call.era = t.era)
    (success : ending.success = true) :
    ends rest t.era false = 0 ∧ t.breaker.policy.maxProbes.toNat ≤
      t.breaker.tally.successes.toNat + (ends rest t.era true + 1) := by
  obtain ⟨last, alone⟩ := lawful.last_probe half enough
  have counted := (lawful.probing_successes half).1
  have others := ready.ends_le t.era
  rw [ends_cons_current current, ends_cons_current current, success] at others
  rw [lawful.keeps_policy]
  simp at others
  omega

/-- Calls that end at one reading with nothing due come to what they weigh. -/
theorem settling_weighed (lawful : Lawful policy t) (early : t.breaker.due now = false)
    (ready : Ready t batch) (eras : (t.run (settling batch ⟨some now, wall⟩)).era < UInt64.size) :
    Breaker.Alike t.breaker.generation (t.run (settling batch ⟨some now, wall⟩)).breaker
      (t.breaker.weighed (ends batch t.era true) (ends batch t.era false) now wall) := by
  -- The induction is on the calls still to end: as long as the generation lasts, the
  -- first of them and the rest weigh together what they weigh one after the other.
  induction batch generalizing t with
  | nil =>
    have short : t.breaker.mode = .halfOpen →
        t.breaker.tally.successes.toNat < t.breaker.policy.maxProbes.toNat := by
      intro half
      rw [(lawful.probing_successes half).1, lawful.keeps_policy]
      exact (lawful.probing half).2
    show Breaker.Alike _ t.breaker (t.breaker.weighed 0 0 now wall)
    rw [Breaker.weighed_nothing short]
    exact .refl _ _
  | cons entry rest ih =>
    obtain ⟨call, ending⟩ := entry
    have member : call ∈ t.underway := ready.underway _ List.mem_cons_self
    rw [run_settling_cons] at eras ⊢
    have bound := Nat.lt_of_le_of_lt (run_grows _ _).era eras
    have finished := finish_finished lawful.booked member bound
    generalize t.perform (.finish call.number ending ⟨some now, wall⟩) = after at eras finished ⊢
    cases finished with
    | stale elapsed older =>
      have tail := ready.tail t.breaker
      cases elapsed.eq_of_early early
      rw [onto_same] at eras older tail ⊢
      rw [ends_cons_other (Nat.ne_of_lt older), ends_cons_other (Nat.ne_of_lt older)]
      exact ih (lawful.stale member older) early tail eras
    | @counted next _ current noted =>
      have tail := ready.tail next
      rw [ends_cons_current current, ends_cons_current current]
      obtain ⟨shut, joined⟩ | ⟨target, entered⟩ | ⟨opened, _⟩ := noted.joins_or_begins
      · have same : next.generation = t.breaker.generation := by rw [joined]
        have nextEarly : next.due now = false := by rw [joined]; exact early
        have later := ih (lawful.counted member current noted) nextEarly tail eras
        simp only [land_era, onto_era_same same, land_breaker, onto_breaker, same] at later
        exact later.trans (noted.weighed_joined same shut lawful.probing_room _ _)
      · have begun : next.generation = t.breaker.generation + 1 := by rw [entered]; rfl
        have last half enough success :=
          lawful.closing_alone half enough ready current success
        rw [settling_begun lawful member entered tail eras, noted.weighed_begun begun last]
        exact .refl _ _
      · have older := lawful.opened_era opened call (lawful.booked.underway member)
        exact absurd current (Nat.ne_of_lt older)

/-- When the deadline has come, the first of the calls sets the timer off, and they all
are too late. -/
theorem settling_due (lawful : Lawful policy t) (due : t.breaker.due now = true)
    (ready : Ready t ((call, ending) :: rest))
    (eras : (t.run (settling ((call, ending) :: rest) ⟨some now, wall⟩)).era < UInt64.size) :
    (t.run (settling ((call, ending) :: rest) ⟨some now, wall⟩)).breaker =
      (t.breaker.refresh now wall).state := by
  have member : call ∈ t.underway := ready.underway _ List.mem_cons_self
  rw [run_settling_cons] at eras ⊢
  have bound := Nat.lt_of_le_of_lt (run_grows _ _).era eras
  have finished := finish_finished lawful.booked member bound
  generalize t.perform (.finish call.number ending ⟨some now, wall⟩) = after at eras finished ⊢
  cases finished with
  | @stale next elapsed older =>
    have booked := (lawful.booked.onto next).land member ending
    rw [← elapsed.eq_refresh]
    refine settling_stale booked (elapsed.settled lawful.openTimeout_pos) (ready.tail next) ?_ eras
    intro entry known
    have inside := ready.underway entry (List.mem_cons_of_mem _ known)
    have before := lawful.booked.era entry.1 (lawful.booked.underway inside)
    rw [land_era, elapsed_era elapsed, due]
    exact Nat.lt_succ_of_le before
  | counted early current noted => cases early.symm.trans due

/-- A move that cannot read the monotonic clock leaves the breaker alone. -/
theorem perform_unseen (t : Traffic) (unseen : move.reading.now = none) :
    (t.perform move).breaker = t.breaker := by
  cases move with
  | look reading =>
    have dark : reading.now = none := unseen
    simp [perform, Breaker.read, dark, Step.crash]
  | ask operation reading =>
    have dark : reading.now = none := unseen
    simp [perform, Breaker.ask, dark, Step.crash]
  | finish number ending reading =>
    have dark : reading.now = none := unseen
    simp only [perform, dark]
    split
    · rfl
    · simp [Breaker.conclude_state, Breaker.complete, dark, Step.crash, Step.after, lose]

theorem settling_unseen (t : Traffic) {reading : Reading} (unseen : reading.now = none) :
    (t.run (settling batch reading)).breaker = t.breaker := by
  induction batch generalizing t with
  | nil => rfl
  | cons entry rest ih => exact (ih _).trans (perform_unseen t unseen)

/-- What calls that end at one reading make of the breaker. If there are any, it depends
only on how many of those that count end well, and how many badly. -/
def settlement (t : Traffic) (batch : List (Call × Ending)) (reading : Reading) : Breaker :=
  match batch, reading.now with
  | _ :: _, some now =>
    if t.breaker.due now then (t.breaker.refresh now reading.wall).state
    else t.breaker.weighed (ends batch t.era true) (ends batch t.era false) now reading.wall
  | _, _ => t.breaker

theorem settling_settlement (lawful : Lawful policy t) (ready : Ready t batch) (reading : Reading)
    (eras : (t.run (settling batch reading)).era < UInt64.size) :
    Breaker.Alike t.breaker.generation (t.run (settling batch reading)).breaker
      (t.settlement batch reading) := by
  obtain ⟨now, wall⟩ := reading
  cases batch with
  | nil => exact .refl _ _
  | cons entry rest =>
    cases now with
    | none =>
      rw [settling_unseen t rfl]
      exact .refl _ _
    | some now =>
      simp only [settlement]
      cases due : t.breaker.due now with
      | true =>
        rw [settling_due lawful due ready eras]
        exact .refl _ _
      | false => exact settling_weighed lawful due ready eras

theorem settlement_perm (t : Traffic) (reading : Reading) (same : first.Perm second) :
    t.settlement first reading = t.settlement second reading := by
  have counts (success : Bool) : ends first t.era success = ends second t.era success :=
    same.countP_eq _
  cases first with
  | nil => rw [same.nil_eq]
  | cons entry rest =>
    cases second with
    | nil => cases same.symm.nil_eq
    | cons other others =>
      simp only [settlement, counts]
      cases reading.now <;> rfl

/-- Calls that end at one reading may do so in any order: the breaker comes out the
same, apart from the runs of a generation that goes on. -/
theorem completion_order_is_immaterial (created : Breaker.create name policy reading = .ok b)
    (script : List Move) (same : first.Perm second) (ready : Ready ((fresh b).run script) first)
    (moment : Reading)
    (firstEras : (((fresh b).run script).run (settling first moment)).era < UInt64.size)
    (secondEras : (((fresh b).run script).run (settling second moment)).era < UInt64.size) :
    Breaker.Alike ((fresh b).run script).breaker.generation
        (((fresh b).run script).run (settling first moment)).breaker
        (((fresh b).run script).run (settling second moment)).breaker ∧
      Breaker.Alike ((fresh b).run script).breaker.generation
        (((fresh b).run script).run (settling first moment)).breaker
        (((fresh b).run script).settlement first moment) := by
  have eras := Nat.lt_of_le_of_lt (run_grows _ (settling first moment)).era firstEras
  have lawful := run_lawful (.fresh created) eras
  generalize (fresh b).run script = t at ready firstEras secondEras lawful ⊢
  have readyToo : Ready t second := by
    constructor
    · exact (same.map Prod.fst).nodup_iff.mp ready.distinct
    · exact fun entry member => ready.underway entry (same.mem_iff.mpr member)
  have left := settling_settlement lawful ready moment firstEras
  have right := settling_settlement lawful readyToo moment secondEras
  rw [← settlement_perm t moment same] at right
  exact ⟨left.trans right.symm, left⟩

/-- A success and a failure: the failure opens the breaker in either order, at the first
or at the second end. -/
theorem completion_order_is_immaterial_to_trip :
    let script : List Move := [
      .ask "first" (.past 0),
      .ask "second" (.past 0)]
    let first : Call × Ending := (⟨0, ⟨0⟩, 0, .closed, .reference⟩, .succeeded)
    let second : Call × Ending := (⟨1, ⟨0⟩, 0, .closed, .reference⟩, .dropped)
    let moment : Reading := .past 5
    (((fresh .touchy).run script).run (settling [first, second] moment)).era < UInt64.size ∧
      (((fresh .touchy).run script).run (settling [second, first] moment)).era < UInt64.size ∧
      Ready ((fresh .touchy).run script) [first, second] ∧
      (((fresh .touchy).run script).run (settling [first, second] moment)).breaker.mode =
        .opened ∧
      Breaker.Alike ((fresh .touchy).run script).breaker.generation
        (((fresh .touchy).run script).run (settling [first, second] moment)).breaker
        (((fresh .touchy).run script).run (settling [second, first] moment)).breaker :=
  ⟨by decide, by decide, ⟨by decide, by decide⟩, by decide,
    (completion_order_is_immaterial Breaker.touchy_created _ (.swap _ _ _)
      ⟨by decide, by decide⟩ _ (by decide) (by decide)).1⟩

end Traffic
end Fusebox
