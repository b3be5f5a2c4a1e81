import Fusebox.Proofs.Registry.Independence

/-! Breakers that are handed out. Whoever asks for a breaker by name is given a handle and makes
all calls through it, and may do so at any time while others ask for breakers themselves. A request
first looks for the name; if it is not there the request comes back to enter it, and by then
somebody else may have done so. Whatever is done in whatever order, it is what a registry does to
which the same things happen one after the other. -/
namespace Fusebox

/-- A breaker was given to somebody. -/
structure Grant where
  name : String
  /-- The policy it was asked for with; none if it was only looked up. -/
  policy : Option Policy
  handle : Nat

/-- Breakers, and the names that they go by. -/
structure Directory where
  /-- All breakers that were ever made, with their calls. A handle is a position among them. -/
  made : List Traffic := []
  /-- Which of them a name stands for. -/
  handle? : String → Option Nat := fun _ => none
  /-- All that have been given, the oldest first. -/
  grants : List Grant := []
  told : List Effect := []

/-- One thing that is done with a directory. To read all breakers is to list them and to look at
one after the other. -/
inductive Dealing where
  /-- A request for a breaker looks for the name. -/
  | seek (name : String) (policy : Policy)
  /-- A request that has not found the name enters it. -/
  | enter (name : String) (policy : Policy) (reading : Reading)
  /-- Somebody looks up a breaker. -/
  | find (name : String)
  /-- Somebody lists the names, or the handles. -/
  | list
  | call (handle : Nat) (move : Move)

/-- The move that a dealing makes on the breaker of a handle. -/
def Dealing.moveOn (handle : Nat) : Dealing → Option Move
  | .call other move => if other = handle then some move else none
  | .seek .. | .enter .. | .find _ | .list => none

namespace Directory

/-- The breaker of a name with its calls. -/
def unit? (d : Directory) (name : String) : Option Traffic :=
  (d.handle? name).bind (d.made[·]?)

/-- Somebody is given a breaker. -/
def grant (d : Directory) (given : Grant) (effects : List Effect) : Directory :=
  { d with grants := d.grants ++ [given], told := d.told ++ effects }

/-- Gives a breaker to a request that found its name. -/
def give (d : Directory) (name : String) (policy : Policy) (handle : Nat) : Directory :=
  match d.made[handle]? with
  | none => d
  | some t => d.grant ⟨name, some policy, handle⟩ (Registry.mismatch t.breaker policy)

/-- Gives a new breaker to the request that entered its name. -/
def found (d : Directory) (name : String) (policy : Policy) (new : Breaker) : Directory where
  made := d.made ++ [.fresh new]
  handle? other := if other = name then some d.made.length else d.handle? other
  grants := d.grants ++ [⟨name, some policy, d.made.length⟩]
  told := d.told ++ [.gauge name .closed, .event (.registered name new.policy)]

/-- Makes a move on the breaker of a handle. -/
def move (d : Directory) (handle : Nat) (t : Traffic) (motion : Move) : Directory :=
  { d with made := d.made.set handle (t.perform motion), told := d.told ++ t.reports motion }

def perform (d : Directory) : Dealing → Directory
  | .seek name policy =>
    match d.handle? name with
    | none => d
    | some handle => d.give name policy handle
  | .enter name policy reading =>
    match d.handle? name with
    | some handle => d.give name policy handle
    | none =>
      match Breaker.create name policy reading with
      | .error _ => d
      | .ok new => d.found name policy new
  | .find name =>
    match d.handle? name with
    | none => d
    | some handle => d.grant ⟨name, none, handle⟩ []
  | .list => d
  | .call handle move =>
    match d.made[handle]? with
    | none => d
    | some t => d.move handle t move

def run (d : Directory) (script : List Dealing) : Directory := script.foldl perform d

/-- What a dealing comes to for a registry. A request that finds its name reads no clock. -/
def deed? (d : Directory) : Dealing → Option Deed
  | .seek name policy => (d.handle? name).map fun _ => .register name policy ⟨none, none⟩
  | .enter name policy reading => some (.register name policy reading)
  | .find _ | .list => none
  | .call handle move => d.made[handle]?.map fun t => .call t.breaker.name move

def deeds (d : Directory) : List Dealing → List Deed
  | [] => []
  | dealing :: rest => (d.deed? dealing).toList ++ (d.perform dealing).deeds rest

/-- A name stands for the one breaker that has it. -/
def Indexed (d : Directory) : Prop :=
  ∀ name handle, d.handle? name = some handle ↔
    ∃ t, d.made[handle]? = some t ∧ t.breaker.name = name

/-- What a dealing can come to. -/
inductive Dealt (d : Directory) : Dealing → Directory → Prop where
  /-- A name or a handle is not there, or nothing is asked for. -/
  | idle (unheard : d.deed? dealing = none)
      (unmoved : ∀ handle t, d.made[handle]? = some t → dealing.moveOn handle = none) :
      Dealt d dealing d
  | requested (asks : dealing = .seek name policy ∨ ∃ reading, dealing = .enter name policy reading)
      (known : d.handle? name = some handle) (there : d.made[handle]? = some t) :
      Dealt d dealing
        (d.grant ⟨name, some policy, handle⟩ (Registry.mismatch t.breaker policy))
  | entered (missing : d.handle? name = none)
      (created : Breaker.create name policy reading = .ok new) :
      Dealt d (.enter name policy reading) (d.found name policy new)
  /-- The clocks cannot be read. -/
  | crashed (missing : d.handle? name = none)
      (crash : Breaker.create name policy reading = .error cause) :
      Dealt d (.enter name policy reading) d
  | lookedUp (known : d.handle? name = some handle) :
      Dealt d (.find name) (d.grant ⟨name, none, handle⟩ [])
  | called (there : d.made[handle]? = some t) :
      Dealt d (.call handle motion) (d.move handle t motion)

/-- A fleet has the same breakers under the same names. -/
def Mirrors (fleet : Fleet) (d : Directory) : Prop := ∀ name, fleet.unit? name = d.unit? name

variable {d : Directory} {fleet : Fleet} {name : String} {handle : Nat} {t : Traffic}
  {policy : Policy} {new : Breaker}

theorem Indexed.empty : Indexed {} := by
  intro name handle
  constructor
  · intro known
    cases known
  · rintro ⟨t, there, -⟩
    cases there

theorem Indexed.unit? (indexed : d.Indexed) (known : d.handle? name = some handle) :
    ∃ t, d.made[handle]? = some t ∧ t.breaker.name = name ∧ d.unit? name = some t := by
  obtain ⟨t, there, label⟩ := (indexed name handle).mp known
  refine ⟨t, there, label, ?_⟩
  rw [Directory.unit?, known]
  exact there

theorem Indexed.found (indexed : d.Indexed) (missing : d.handle? name = none)
    (label : new.name = name) (policy : Policy) : (d.found name policy new).Indexed := by
  intro other handle
  simp only [Directory.found]
  by_cases same : other = name
  · subst same
    rw [if_pos rfl]
    constructor
    · intro known
      cases known
      exact ⟨.fresh new, by simp, label⟩
    · rintro ⟨t, there, named⟩
      rw [List.getElem?_append] at there
      split at there
      -- No earlier breaker has the name, which would stand for it already.
      · cases missing.symm.trans ((indexed other handle).mpr ⟨t, there, named⟩)
      · have last := List.getElem?_eq_some_iff.mp there
        obtain ⟨inside, -⟩ := last
        simp only [List.length_singleton] at inside
        congr 1
        omega
  · rw [if_neg same]
    constructor
    · intro known
      obtain ⟨t, there, named⟩ := (indexed other handle).mp known
      refine ⟨t, ?_, named⟩
      obtain ⟨inside, -⟩ := List.getElem?_eq_some_iff.mp there
      rw [List.getElem?_append_left inside]
      exact there
    · rintro ⟨t, there, named⟩
      rw [List.getElem?_append] at there
      split at there
      · exact (indexed other handle).mpr ⟨t, there, named⟩
      · obtain ⟨inside, rfl⟩ := List.getElem?_eq_some_iff.mp there
        simp only [List.getElem_singleton] at named
        exact absurd (named.symm.trans label) same

theorem Indexed.move (indexed : d.Indexed) (there : d.made[handle]? = some t) (made : Move) :
    (d.move handle t made).Indexed := by
  intro name other
  refine (indexed name other).trans ?_
  simp only [Directory.move, List.getElem?_set]
  obtain ⟨inside, -⟩ := List.getElem?_eq_some_iff.mp there
  by_cases same : handle = other
  · subst same
    simp only [if_pos inside, ↓reduceIte, there, Option.some.injEq, exists_eq_left',
      Traffic.perform_name]
  · simp only [if_neg same]

theorem Indexed.request (indexed : d.Indexed) (known : d.handle? name = some handle)
    (asks : dealing = .seek name policy ∨ ∃ reading, dealing = .enter name policy reading) :
    ∃ t, d.made[handle]? = some t ∧ d.perform dealing =
      d.grant ⟨name, some policy, handle⟩ (Registry.mismatch t.breaker policy) := by
  obtain ⟨t, there, -⟩ := indexed.unit? known
  refine ⟨t, there, ?_⟩
  obtain rfl | ⟨reading, rfl⟩ := asks
  · simp only [perform, known, give, there]
  · simp only [perform, known, give, there]

theorem Indexed.dealt (indexed : d.Indexed) (dealing : Dealing) :
    Dealt d dealing (d.perform dealing) := by
  cases dealing with
  | list => exact .idle rfl fun _ _ _ => rfl
  | seek name policy =>
    cases known : d.handle? name with
    | none =>
      simp only [perform, known]
      exact .idle (by simp only [deed?, known, Option.map_none]) fun _ _ _ => rfl
    | some handle =>
      obtain ⟨t, there, step⟩ := indexed.request known (.inl rfl)
      rw [step]
      exact .requested (.inl rfl) known there
  | enter name policy reading =>
    cases known : d.handle? name with
    | none =>
      simp only [perform, known]
      cases created : Breaker.create name policy reading with
      | error cause => exact .crashed known created
      | ok new => exact .entered known created
    | some handle =>
      obtain ⟨t, there, step⟩ := indexed.request known (.inr ⟨reading, rfl⟩)
      rw [step]
      exact .requested (.inr ⟨reading, rfl⟩) known there
  | find name =>
    cases known : d.handle? name with
    | none =>
      simp only [perform, known]
      exact .idle rfl fun _ _ _ => rfl
    | some handle =>
      simp only [perform, known]
      exact .lookedUp known
  | call handle made =>
    cases there : d.made[handle]? with
    | none =>
      simp only [perform, there]
      refine .idle (by simp only [deed?, there, Option.map_none]) fun other t held => ?_
      apply if_neg
      rintro rfl
      cases there.symm.trans held
    | some t =>
      simp only [perform, there]
      exact .called there

theorem Dealt.indexed (dealt : Dealt d dealing next) (indexed : d.Indexed) : next.Indexed := by
  cases dealt with
  | idle unheard unmoved => exact indexed
  | requested asks known there => exact indexed
  | entered missing created => exact indexed.found missing (Registry.created_name created) _
  | crashed missing crash => exact indexed
  | lookedUp known => exact indexed
  | called there => exact indexed.move there _

theorem Indexed.perform (indexed : d.Indexed) (dealing : Dealing) :
    (d.perform dealing).Indexed := (indexed.dealt dealing).indexed indexed

theorem Indexed.run (indexed : d.Indexed) (script : List Dealing) : (d.run script).Indexed := by
  induction script generalizing d with
  | nil => exact indexed
  | cons dealing rest ih => exact ih (indexed.perform dealing)

theorem unit?_missing (missing : d.handle? name = none) : d.unit? name = none := by
  rw [unit?, missing]
  rfl

/-- A request for a known name says at most that the policy is another one. -/
theorem Mirrors.register_known (mirrors : Mirrors fleet d) (known : d.unit? name = some t)
    (policy : Policy) (reading : Reading) :
    Mirrors (fleet.perform (.register name policy reading)) d ∧
      fleet.reports (.register name policy reading) = Registry.mismatch t.breaker policy := by
  have there : fleet.unit? name = some t := (mirrors name).trans known
  constructor
  · intro other
    rw [fleet.register_unit?, mirrors]
    cases found : d.unit? other with
    | some _ => rfl
    | none =>
      have different : name ≠ other := by
        rintro rfl
        cases known.symm.trans found
      simp only [Deed.founds, if_neg different]
  · simp only [Fleet.reports, Registry.register, Fleet.registry_found there, Step.after, Step.pure,
      List.append_nil]

/-- A name that is entered gets a new breaker, and the others keep theirs. -/
theorem Mirrors.register_missing (mirrors : Mirrors fleet d) (missing : d.handle? name = none)
    (indexed : d.Indexed) (created : Breaker.create name policy reading = .ok new) :
    Mirrors (fleet.perform (.register name policy reading)) (d.found name policy new) ∧
      fleet.reports (.register name policy reading) =
        [.gauge name .closed, .event (.registered name new.policy)] := by
  have unknown := unit?_missing missing
  have vacant := (mirrors name).trans unknown
  constructor
  · intro other
    rw [fleet.register_unit?, mirrors]
    by_cases same : name = other
    · subst same
      have entered : (d.found name policy new).unit? name = some (.fresh new) := by
        simp [unit?, found]
      simp only [unknown, entered, Deed.founds, ↓reduceIte, created]
    · have kept : (d.found name policy new).unit? other = d.unit? other := by
        simp only [unit?, found, if_neg (Ne.symm same)]
        cases known : d.handle? other with
        | none => rfl
        | some handle =>
          obtain ⟨t, there, -⟩ := (indexed other handle).mp known
          obtain ⟨inside, -⟩ := List.getElem?_eq_some_iff.mp there
          simp only [Option.bind_some, List.getElem?_append_left inside]
      rw [kept]
      cases d.unit? other with
      | some _ => rfl
      | none => simp only [Deed.founds, if_neg same]
  · simp only [Fleet.reports, Registry.register, Fleet.registry_missing vacant, created]

/-- Nothing is entered if the clocks cannot be read. -/
theorem Mirrors.register_crashed (mirrors : Mirrors fleet d) (missing : d.handle? name = none)
    (crashed : Breaker.create name policy reading = .error cause) :
    Mirrors (fleet.perform (.register name policy reading)) d ∧
      fleet.reports (.register name policy reading) = [] := by
  have unknown := unit?_missing missing
  have vacant := (mirrors name).trans unknown
  constructor
  · intro other
    rw [fleet.register_unit?, mirrors]
    cases found : d.unit? other with
    | some _ => rfl
    | none =>
      by_cases same : name = other
      · subst same
        simp only [Deed.founds, ↓reduceIte, crashed]
      · simp only [Deed.founds, if_neg same]
  · simp only [Fleet.reports, Registry.register, Fleet.registry_missing vacant, crashed,
      Step.crash]

/-- A call by way of a handle is a call on the breaker that has the name. -/
theorem Mirrors.move (mirrors : Mirrors fleet d) (indexed : d.Indexed)
    (there : d.made[handle]? = some t) (made : Move) :
    Mirrors (fleet.perform (.call t.breaker.name made)) (d.move handle t made) ∧
      fleet.reports (.call t.breaker.name made) = t.reports made := by
  have known : d.handle? t.breaker.name = some handle :=
    (indexed _ handle).mpr ⟨t, there, rfl⟩
  have called : fleet.unit? t.breaker.name = some t := by
    rw [mirrors, unit?, known]
    exact there
  obtain ⟨inside, -⟩ := List.getElem?_eq_some_iff.mp there
  constructor
  · intro other
    rw [fleet.call_unit?, mirrors]
    simp only [unit?, Directory.move, List.getElem?_set]
    cases found : d.handle? other with
    | none => rfl
    | some place =>
      obtain ⟨u, held, label⟩ := (indexed other place).mp found
      simp only [Option.bind_some, held, Option.map_some]
      by_cases same : handle = place
      · subst same
        cases there.symm.trans held
        simp only [if_pos label, if_pos inside, ↓reduceIte]
      · have different : t.breaker.name ≠ other := by
          intro equal
          rw [equal] at known
          exact same (Option.some.inj (known.symm.trans found))
        simp only [if_neg different, if_neg same]
  · simp only [Fleet.reports, called]

/-- What is reported for the one deed of a dealing is told last. -/
theorem Mirrors.single {deed : Deed} {next : Directory} {effects : List Effect}
    (step : Mirrors (fleet.perform deed) next ∧ fleet.reports deed = effects)
    (told : next.told = d.told ++ effects) :
    Mirrors (fleet.run [deed]) next ∧ next.told = d.told ++ fleet.told [deed] := by
  refine ⟨step.1, ?_⟩
  rw [told, Fleet.told, step.2]
  exact congrArg _ (List.append_nil _).symm

/-- What is done with a directory is what its deeds do to a registry. -/
theorem Dealt.mirrors (dealt : Dealt d dealing next) (indexed : d.Indexed)
    (mirrors : Mirrors fleet d) :
    Mirrors (fleet.run (d.deed? dealing).toList) next ∧
      next.told = d.told ++ fleet.told (d.deed? dealing).toList := by
  cases dealt with
  | idle unheard unmoved =>
    rw [unheard]
    exact ⟨mirrors, (List.append_nil _).symm⟩
  | lookedUp known => exact ⟨mirrors, rfl⟩
  | crashed missing crash =>
    exact Mirrors.single (mirrors.register_crashed missing crash) (List.append_nil _).symm
  | entered missing created =>
    exact Mirrors.single (mirrors.register_missing missing indexed created) rfl
  | called there =>
    simp only [deed?, there, Option.map_some]
    exact Mirrors.single (mirrors.move indexed there _) rfl
  | requested asks known there =>
    obtain ⟨u, held, -, unit⟩ := indexed.unit? known
    cases there.symm.trans held
    obtain rfl | ⟨reading, rfl⟩ := asks
    · simp only [deed?, known, Option.map_some]
      exact Mirrors.single (mirrors.register_known unit _ _) rfl
    · exact Mirrors.single (mirrors.register_known unit _ reading) rfl

theorem Mirrors.perform (mirrors : Mirrors fleet d) (indexed : d.Indexed) (dealing : Dealing) :
    Mirrors (fleet.run (d.deed? dealing).toList) (d.perform dealing) ∧
      (d.perform dealing).told = d.told ++ fleet.told (d.deed? dealing).toList :=
  (indexed.dealt dealing).mirrors indexed mirrors

theorem Mirrors.run (mirrors : Mirrors fleet d) (indexed : d.Indexed) (script : List Dealing) :
    Mirrors (fleet.run (d.deeds script)) (d.run script) ∧
      (d.run script).told = d.told ++ fleet.told (d.deeds script) := by
  induction script generalizing d fleet with
  | nil => exact ⟨mirrors, (List.append_nil _).symm⟩
  | cons dealing rest ih =>
    obtain ⟨here, told⟩ := mirrors.perform indexed dealing
    obtain ⟨later, others⟩ := ih here (indexed.perform dealing)
    rw [deeds, Fleet.run_append, Fleet.told_append]
    refine ⟨later, others.trans ?_⟩
    rw [told, List.append_assoc]

/-- A directory that has been used, and the registry to which the same has happened. -/
theorem mirrors_run (script : List Dealing) :
    Mirrors (Fleet.run {} (deeds {} script)) (run {} script) ∧
      (run {} script).told = Fleet.told {} (deeds {} script) := by
  have start : Mirrors {} {} := fun _ => rfl
  exact start.run .empty script

end Directory
end Fusebox
