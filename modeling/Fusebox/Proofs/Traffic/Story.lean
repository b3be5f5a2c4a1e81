import Fusebox.Proofs.Breaker.Reports
import Fusebox.Proofs.Registry.Names
import Fusebox.Proofs.Traffic.Observation

/-! The story of a breaker. Its mode, the time of its last change, the log, the counters and the
gauge are written one by one, and they agree: the changes in the log lead from one to the next
and end with the present mode, the counters count them, and the gauge shows where they end. A
closed generation that follows another one is no part of the story. -/
namespace Fusebox

/-- A change of mode as it stands in the log, and what the wall clock showed to the move that
it was written at. -/
structure Change where
  source : Mode
  target : Mode
  generation : UInt64
  wall : Option Instant
deriving DecidableEq

/-- What is reported while the wall clock shows something. -/
abbrev Dispatch := Option Instant × Effect

namespace Change

/-- All that is reported of a change. -/
def dispatches (name : String) (change : Change) : List Dispatch :=
  (changeReport name change.source change.target change.generation).map (change.wall, ·)

/-- A breaker is made closed. That is not in the log, but what is there goes on from it. -/
def dawn (wall : Option Instant) : Change := ⟨.closed, .closed, 0, wall⟩

/-- One change may come right after another one. -/
def Precedes (earlier later : Change) : Prop :=
  earlier.target = later.source ∧ earlier.generation < later.generation

/-- The last one of the changes since a breaker was made. -/
def latest (wall : Option Instant) (changes : List Change) : Change :=
  changes.getLast?.getD (dawn wall)

end Change

/-- The change of mode of a breaker that the log is told of. -/
def Dispatch.change? (name : String) : Dispatch → Option Change
  | (wall, .event (.changed breaker source target generation)) =>
    if breaker = name then some ⟨source, target, generation, wall⟩ else none
  | _ => none

/-- The changes of mode of a breaker in the log. -/
def changesIn (name : String) (told : List Dispatch) : List Change :=
  told.filterMap (Dispatch.change? name)

/-- What is told of modes. -/
def modalPart (told : List Dispatch) : List Dispatch := told.filter (·.2.isModal)

namespace Traffic

/-- What a move reports. -/
def reports (t : Traffic) : Move → List Effect
  | .look reading => (t.breaker.read reading).effects
  | .ask operation reading => (t.breaker.ask operation reading).effects
  | .finish number ending reading =>
    match t.call? number with
    | none => []
    | some call => (t.breaker.conclude call.ticket ending reading).effects

/-- Whether a move finds on the clocks what it looks for there. -/
def served (t : Traffic) : Move → Bool
  | .look reading => (t.breaker.read reading).result.isOk
  | .ask operation reading => (t.breaker.ask operation reading).result.isOk
  | .finish number ending reading =>
    match t.call? number with
    | none => true
    | some call => (t.breaker.conclude call.ticket ending reading).result.isOk

/-- Whether every move of a script does. -/
def smooth (t : Traffic) : List Move → Bool
  | [] => true
  | move :: rest => t.served move && (t.perform move).smooth rest

/-- What a script reports. -/
def story (t : Traffic) : List Move → List Dispatch
  | [] => []
  | move :: rest => (t.reports move).map (move.reading.wall, ·) ++ (t.perform move).story rest

/-- A breaker that was made at a reading of the wall clock, and what has been told since. The
metrics were told of its making as well. -/
structure SameStory (founding : List Effect) (dawn : Option Instant) (told : List Dispatch)
    (b : Breaker) : Prop where
  first : ∀ change, (changesIn b.name told).head? = some change → change.source = .closed
  chain : (changesIn b.name told).IsChain Change.Precedes
  moves : ∀ change ∈ changesIn b.name told, change.source ≠ change.target
  last : b.mode = ((changesIn b.name told).getLast?.map Change.target).getD .closed
  dated : some b.changedAt = ((changesIn b.name told).getLast?.map Change.wall).getD dawn
  counted : ∀ source target,
    (Meters.recordAll {} (founding ++ told.map Prod.snd)).value
        (.transitions b.name source target) =
      (changesIn b.name told).countP fun change =>
        change.source = source ∧ change.target = target
  gauge : ((Meters.recordAll {} (founding ++ told.map Prod.snd)).gauge? b.name).map Mode.gauge =
    some b.mode.gauge

/-- A move that leaves the mode of a breaker as it was. -/
structure Untold (t : Traffic) (move : Move) : Prop where
  reports : ∀ effect ∈ t.reports move, effect.isModal = false
  mode : (t.perform move).breaker.mode = t.breaker.mode
  changedAt : (t.perform move).breaker.changedAt = t.breaker.changedAt

/-- What a story has come to: these changes of mode, in which nothing is left out. -/
structure Chronicle (name : String) (dawn : Option Instant) (told : List Dispatch)
    (changes : List Change) (b : Breaker) : Prop where
  told : modalPart told = changes.flatMap (·.dispatches name)
  name : b.name = name
  moves : ∀ change ∈ changes, change.source ≠ change.target
  chain : (Change.dawn dawn :: changes).IsChain Change.Precedes
  mode : (Change.latest dawn changes).target = b.mode
  dated : (Change.latest dawn changes).wall = some b.changedAt
  generation : (Change.latest dawn changes).generation ≤ b.generation

variable {t : Traffic} {b next : Breaker} {move : Move} {now : Instant} {wall : Option Instant}
  {policy : Policy} {name : String} {dawn : Option Instant} {told : List Dispatch}
  {changes : List Change} {effects : List Effect}

/-- A step that is voiced goes on with the story. -/
theorem Chronicle.extend (chronicle : Chronicle name dawn told changes b)
    (voiced : Breaker.Voiced b wall effects next) (same : next.name = b.name)
    (order : b.generation ≤ next.generation) :
    ∃ after, Chronicle name dawn (told ++ effects.map (wall, ·)) after next := by
  have modal : modalPart (told ++ effects.map (wall, ·)) =
      changes.flatMap (·.dispatches name) ++ (effects.filter Effect.isModal).map (wall, ·) := by
    rw [modalPart, List.filter_append, List.filter_map]
    exact congrArg (· ++ _) chronicle.told
  cases voiced with
  | silent untold mode changedAt =>
    refine ⟨changes, ?_⟩
    constructor
    · rw [modal, untold]
      exact List.append_nil _
    · exact same.trans chronicle.name
    · exact chronicle.moves
    · exact chronicle.chain
    · exact chronicle.mode.trans mode.symm
    · exact chronicle.dated.trans (congrArg some changedAt.symm)
    · exact UInt64.le_trans chronicle.generation order
  | changed reported other generation dated =>
    let change : Change := ⟨b.mode, next.mode, next.generation, wall⟩
    have later : b.generation < next.generation := by
      apply UInt64.lt_of_le_of_ne order
      rw [generation]
      intro stands
      grind
    have ends : Change.latest dawn (changes ++ [change]) = change := by
      simp [Change.latest]
    refine ⟨changes ++ [change], ?_⟩
    constructor
    · rw [modal, reported, List.flatMap_append, List.flatMap_singleton, chronicle.name]
      rfl
    · exact same.trans chronicle.name
    · intro found member
      rcases List.mem_append.mp member with old | new
      · exact chronicle.moves found old
      · cases List.mem_singleton.mp new
        exact other
    · rw [← List.cons_append, List.isChain_append]
      refine ⟨chronicle.chain, List.isChain_singleton _, ?_⟩
      intro last found first head
      rw [List.getLast?_cons] at found
      cases found
      cases head
      exact ⟨chronicle.mode, UInt64.lt_of_le_of_lt chronicle.generation later⟩
    · rw [ends]
    · rw [ends]
      exact dated
    · rw [ends]
      exact UInt64.le_refl _

/-- What has nothing to do with modes may be left out of what is looked through for modes. -/
theorem filterMap_modalPart {find : Dispatch → Option α}
    (modal : ∀ dispatch, dispatch.2.isModal = false → find dispatch = none)
    (told : List Dispatch) : (modalPart told).filterMap find = told.filterMap find := by
  rw [modalPart, List.filterMap_filter]
  refine List.filterMap_congr fun dispatch _ => ?_
  by_cases kept : dispatch.2.isModal = true
  · rw [if_pos kept]
  · rw [if_neg kept, modal dispatch (by simpa using kept)]

/-- Nothing else is looked through for modes than the log, the counters of changes and the
gauges. -/
theorem changesIn_modalPart (name : String) (told : List Dispatch) :
    changesIn name (modalPart told) = changesIn name told := by
  refine filterMap_modalPart (fun dispatch other => ?_) told
  unfold Dispatch.change?
  split
  · cases other
  · rfl

theorem gauge?_modalPart (name : String) (told : List Dispatch) :
    (modalPart told).filterMap (Effect.gauge? name ·.2) =
      told.filterMap (Effect.gauge? name ·.2) := by
  refine filterMap_modalPart (fun dispatch other => ?_) told
  obtain ⟨wall, effect⟩ := dispatch
  cases effect with
  | event event => rfl
  | count counter => rfl
  | gauge breaker mode => cases other

theorem count_modalPart (name : String) (source target : Mode) (told : List Dispatch) :
    ((modalPart told).filterMap (·.2.counter?)).count (.transitions name source target) =
      (told.filterMap (·.2.counter?)).count (.transitions name source target) := by
  let aside (counter : Counter) : Bool := !counter.ofCalls
  have kept : aside (.transitions name source target) = true := rfl
  refine (List.count_filter kept).symm.trans (Eq.trans ?_ (List.count_filter kept))
  rw [List.filter_filterMap, List.filter_filterMap]
  refine congrArg (List.count _) (filterMap_modalPart (fun dispatch other => ?_) told)
  obtain ⟨wall, effect⟩ := dispatch
  cases effect with
  | event event => rfl
  | gauge breaker mode => rfl
  | count counter =>
    cases counter with
    | transitions breaker source target => cases other
    | rejections breaker reason => rfl
    | calls breaker success => rfl

/-- The log has one entry for each change, -/
theorem changesIn_dispatches (name : String) (changes : List Change) :
    changesIn name (changes.flatMap (·.dispatches name)) = changes := by
  induction changes with
  | nil => rfl
  | cons change rest ih =>
    have here : changesIn name (change.dispatches name) = [change] := by
      simp [changesIn, Change.dispatches, changeReport, Dispatch.change?]
    rw [List.flatMap_cons, changesIn, List.filterMap_append]
    exact congrArg₂ (· ++ ·) here ih

/-- the gauge is set to the mode that it leads to, -/
theorem gauges_dispatches (name : String) (changes : List Change) :
    (changes.flatMap (·.dispatches name)).filterMap (Effect.gauge? name ·.2) =
      changes.map Change.target := by
  induction changes with
  | nil => rfl
  | cons change rest ih =>
    have here : (change.dispatches name).filterMap (Effect.gauge? name ·.2) = [change.target] := by
      simp [Change.dispatches, changeReport, Effect.gauge?]
    rw [List.flatMap_cons, List.filterMap_append, here, ih]
    rfl

/-- and its counter goes up by one. -/
theorem counters_dispatches (name : String) (changes : List Change) :
    (changes.flatMap (·.dispatches name)).filterMap (·.2.counter?) =
      changes.map fun change => .transitions name change.source change.target := by
  induction changes with
  | nil => rfl
  | cons change rest ih =>
    rw [List.flatMap_cons, List.filterMap_append, ih]
    rfl

/-- The making of a breaker counts no change, and sets the gauge. -/
structure Founding (name : String) (founding : List Effect) : Prop where
  counters : founding.filterMap Effect.counter? = []
  gauge : founding.filterMap (Effect.gauge? name) = [.closed]

theorem Chronicle.sameStory (chronicle : Chronicle name dawn told changes b)
    (founded : Founding name founding) : SameStory founding dawn told b := by
  obtain rfl := chronicle.name
  have found : changesIn b.name told = changes := by
    rw [← changesIn_modalPart, chronicle.told, changesIn_dispatches]
  obtain ⟨starts, chain⟩ := List.isChain_cons.mp chronicle.chain
  constructor
  · rw [found]
    intro change head
    exact (starts change head).1.symm
  · rw [found]
    exact chain
  · rw [found]
    exact chronicle.moves
  · rw [found, ← chronicle.mode]
    exact (Option.getD_map Change.target (Change.dawn dawn) changes.getLast?).symm
  · rw [found, ← chronicle.dated]
    exact (Option.getD_map Change.wall (Change.dawn dawn) changes.getLast?).symm
  · intro source target
    rw [Meters.recordAll_value, List.filterMap_append, List.count_append, founded.counters,
      List.filterMap_map]
    have counted := count_modalPart b.name source target told
    rw [chronicle.told, counters_dispatches, List.count_eq_countP, List.countP_map] at counted
    have zero : Meters.value {} (.transitions b.name source target) = 0 := rfl
    rw [found, zero, List.count_nil, Nat.zero_add, Nat.zero_add]
    refine counted.symm.trans (List.countP_congr fun change _ => ?_)
    simp
  · rw [Meters.recordAll_gauge?, List.filterMap_append, founded.gauge, List.filterMap_map]
    have gauges := gauge?_modalPart b.name told
    rw [chronicle.told, gauges_dispatches] at gauges
    have shown : (Effect.gauge? b.name ∘ Prod.snd : Dispatch → Option Mode) =
        (Effect.gauge? b.name ·.2) := rfl
    rw [shown, ← gauges, List.singleton_append, List.getLast?_cons, List.getLast?_map,
      ← chronicle.mode]
    exact congrArg (Option.map Mode.gauge ∘ some)
      (Option.getD_map Change.target (Change.dawn dawn) changes.getLast?)

/-- While generations are told apart, a call that still counts finds nothing due. -/
theorem Shift.timely (shift : Shift t (.finish number ending ⟨some now, wall⟩) after)
    (booked : Booked t) (found : t.call? number = some call) (eras : after.era < UInt64.size)
    (same : (t.breaker.refresh now wall).state.generation = call.ticket.generation) :
    t.breaker.due now = false := by
  cases shift with
  | deaf unseen => cases unseen
  | lost unseen known => cases unseen
  | missing unknown => cases unknown.symm.trans found
  | counted early known current noted => exact early
  | stale elapsed known older =>
    cases known.symm.trans found
    have member := booked.underway (mem_of_call? found)
    cases due : t.breaker.due now with
    | false => rfl
    | true =>
      have room : t.era + 1 < UInt64.size := by
        rw [land_era, elapsed_era elapsed, due] at eras
        exact eras
      have same := (congrArg Breaker.generation elapsed.eq_refresh).trans same
      exact due.symm.trans (booked.early_of_current member elapsed same room)

/-- A move that is served says of the mode of a breaker what becomes of it. -/
theorem Shift.voiced (shift : Shift t move (t.perform move)) (booked : Booked t)
    (eras : (t.perform move).era < UInt64.size) (heard : t.served move = true) :
    Breaker.Voiced t.breaker move.reading.wall (t.reports move) (t.perform move).breaker := by
  cases move with
  | look reading =>
    obtain ⟨now, wall⟩ := reading
    cases now with
    | none => cases heard
    | some now => exact Breaker.read_voiced heard
  | ask operation reading =>
    obtain ⟨now, wall⟩ := reading
    rw [ask_breaker]
    cases now with
    | none => cases heard
    | some now => exact Breaker.ask_voiced heard
  | finish number ending reading =>
    obtain ⟨now, wall⟩ := reading
    cases found : t.call? number with
    | none =>
      simp only [reports, perform, found]
      exact .silent rfl rfl rfl
    | some call =>
      rw [finish_breaker found, ← Breaker.conclude_state]
      simp only [served, reports, found] at heard ⊢
      cases now with
      | none =>
        rw [Breaker.conclude_completes] at heard
        cases heard
      | some now => exact Breaker.conclude_voiced heard (shift.timely booked found eras)

theorem Booked.generation_le (booked : Booked t) (after : Booked other) (order : t.era ≤ other.era)
    (eras : other.era < UInt64.size) : t.breaker.generation ≤ other.breaker.generation := by
  rw [booked.generation, after.generation, UInt64.le_iff_toNat_le,
    UInt64.toNat_ofNat_of_lt' eras, UInt64.toNat_ofNat_of_lt' (Nat.lt_of_le_of_lt order eras)]
  exact order

/-- The story goes on with every script in which no generation number starts over. -/
theorem Chronicle.run (chronicle : Chronicle name dawn told changes t.breaker)
    (lawful : Lawful policy t) (smooth : t.smooth script = true)
    (eras : (t.run script).era < UInt64.size) :
    ∃ after, Chronicle name dawn (told ++ t.story script) after (t.run script).breaker := by
  induction script generalizing t told changes with
  | nil =>
    rw [story, List.append_nil]
    exact ⟨changes, chronicle⟩
  | cons move rest ih =>
    obtain ⟨served, smooth⟩ := Bool.and_eq_true_iff.mp smooth
    have shift := run_shift lawful eras
    have next := shift.lawful lawful
    have bound := Nat.lt_of_le_of_lt (run_grows (t.perform move) rest).era eras
    have voiced := shift.voiced lawful.booked bound served
    have order := lawful.booked.generation_le next.booked (perform_grows t move).era bound
    obtain ⟨after, longer⟩ := chronicle.extend voiced (t.perform_name move) order
    rw [story, ← List.append_assoc]
    exact ih longer next smooth eras

theorem smooth_append (t : Traffic) (earlier later : List Move) :
    t.smooth (earlier ++ later) = (t.smooth earlier && (t.run earlier).smooth later) := by
  induction earlier generalizing t with
  | nil => rfl
  | cons move rest ih =>
    simp only [List.cons_append, smooth, ih, Bool.and_assoc]
    rfl

/-- Where the deadline of a closed generation has come, another closed generation follows. -/
theorem Shift.stays_closed (shift : Shift t move after) (shown : move.reading.now = some now)
    (closed : t.breaker.mode = .closed) (due : t.breaker.due now = true) :
    after.breaker.mode = .closed := by
  have timer {now : Instant} {wall : Option Instant} {next : Breaker}
      (elapsed : Breaker.Elapsed t.breaker now wall next) : next.mode = .closed := by
    cases elapsed with
    | early early => exact closed
    | renewed due mode => exact closed
    | probing due mode => cases closed.symm.trans mode
  cases shift with
  | deaf unseen => exact closed
  | missing unknown => exact closed
  | lost unseen found => exact closed
  | looked elapsed => exact timer elapsed
  | crashed elapsed probing => exact timer elapsed
  | refused elapsed refused => exact timer elapsed
  | admitted elapsed free =>
    have stays := timer elapsed
    exact stays
  | stale elapsed found older => exact timer elapsed
  | counted early found current noted =>
    cases shown
    cases early.symm.trans due

/-- A move that leaves the mode alone tells of no change. -/
theorem untold_of_voiced
    (voiced : Breaker.Voiced t.breaker wall (t.reports move) (t.perform move).breaker)
    (stays : (t.perform move).breaker.mode = t.breaker.mode) : Untold t move := by
  cases voiced with
  | silent untold mode changedAt =>
    refine ⟨fun effect member => ?_, mode, changedAt⟩
    have unsaid := List.filter_eq_nil_iff.mp untold effect member
    simpa using unsaid
  | changed told other generation dated => exact absurd stays.symm other

/-- A breaker is made at what the wall clock shows. -/
theorem created_dated (created : Breaker.create name policy reading = .ok b) :
    reading.wall = some b.changedAt := by
  unfold Breaker.create at created
  split at created
  · rename_i shown
    cases created
    exact shown
  · cases created
  · cases created

/-- A registry that makes a breaker sets its gauge. -/
theorem register_founding (created : Breaker.create name policy reading = .ok b) :
    Founding name (Registry.empty.register name policy reading).effects := by
  have unknown : Registry.empty.find? name = none := rfl
  simp only [Registry.register, unknown, created]
  exact ⟨rfl, by simp [Effect.gauge?]⟩

/-- Whatever moves are made, the log, the counters, the gauge and the time of the last change
tell of the same changes of mode, and these lead to the mode that the breaker is in. The deadline
of a closed generation makes no difference to any of them. -/
theorem records_tell_one_story (created : Breaker.create name policy reading = .ok b)
    (script : List Move) (smooth : (fresh b).smooth script = true)
    (eras : ((fresh b).run script).era < UInt64.size) :
    SameStory (Registry.empty.register name policy reading).effects reading.wall
        ((fresh b).story script) ((fresh b).run script).breaker ∧
      ∀ earlier move later now, script = earlier ++ move :: later →
        move.reading.now = some now → ((fresh b).run earlier).breaker.mode = .closed →
        ((fresh b).run earlier).breaker.due now = true →
        Untold ((fresh b).run earlier) move := by
  have lawful : Lawful policy (fresh b) := .fresh created
  constructor
  · have start : Chronicle name reading.wall [] [] (fresh b).breaker := by
      obtain ⟨-, closed, first, -⟩ := Breaker.create_eq created
      constructor
      · rfl
      · exact Registry.created_name created
      · intro change member
        cases member
      · exact List.isChain_singleton _
      · exact closed.symm
      · exact created_dated created
      · show (0 : UInt64) ≤ b.generation
        rw [first]
        exact UInt64.le_refl _
    obtain ⟨changes, chronicle⟩ := start.run lawful smooth eras
    exact chronicle.sameStory (register_founding created)
  · rintro earlier move later now rfl shown closed due
    rw [run_append] at eras
    rw [smooth_append, Bool.and_eq_true_iff] at smooth
    obtain ⟨-, smooth⟩ := smooth
    obtain ⟨served, -⟩ := Bool.and_eq_true_iff.mp smooth
    have before := run_lawful lawful (Nat.lt_of_le_of_lt (run_grows _ _).era eras)
    have shift := run_shift before eras
    have bound := Nat.lt_of_le_of_lt (run_grows _ later).era eras
    refine untold_of_voiced (shift.voiced before.booked bound served) ?_
    exact (shift.stays_closed shown closed due).trans closed.symm

/-- A failure opens the breaker, a call that comes too late changes nothing, a probe closes the
breaker again, and after a while a new closed generation begins, of which nothing is told. -/
theorem records_tell_one_story_of_outage :
    let outage : List Move := [
      .ask "first" (.past 0),
      .ask "slow" (.past 1),
      .finish 0 .failed (.past 2),
      .finish 1 .failed (.past 3),
      .ask "probe" (.past 12),
      .finish 2 .succeeded (.past 13)]
    let script := outage ++ [.look (.past 30)]
    let told := (fresh .forgetful).story script
    let t := (fresh .forgetful).run outage
    (fresh .forgetful).smooth script = true ∧
      ((fresh .forgetful).run script).era < UInt64.size ∧
      SameStory (Registry.empty.register "forgetful" .forgetful
          ⟨some .reference, some .reference⟩).effects (some .reference) told
        ((fresh .forgetful).run script).breaker ∧
      changesIn "forgetful" told = [
        ⟨.closed, .opened, 1, (Reading.past 2).wall⟩,
        ⟨.opened, .halfOpen, 2, (Reading.past 12).wall⟩,
        ⟨.halfOpen, .closed, 3, (Reading.past 13).wall⟩] ∧
      t.breaker.mode = .closed ∧
      (∃ now : Instant, now.nanos = 30 ∧ t.breaker.due now = true) ∧
      ((fresh .forgetful).run script).breaker.generation = 4 ∧
      Untold t (.look (.past 30)) := by
  intro outage script told t
  have smooth : (fresh .forgetful).smooth script = true := by decide
  have eras : ((fresh .forgetful).run script).era < UInt64.size := by decide
  obtain ⟨same, untold⟩ := records_tell_one_story Breaker.forgetful_created script smooth eras
  refine ⟨smooth, eras, same, by decide, by decide, ⟨⟨30, by decide⟩, rfl, by decide⟩, by decide,
    ?_⟩
  exact untold outage (.look (.past 30)) [] _ rfl rfl (by decide) (by decide)

end Traffic
end Fusebox
