import Fusebox.Proofs.Registry.Fleet

/-! Looking is unobtrusive. Looks may be added to whatever happens to a registry, at any place
and in any way that there is to look: of a breaker whose reset interval is zero nothing else is
learned for all that. Nor does it make a difference to such a breaker whether its outages end
when the next one comes by, or at the deadline. -/
namespace Fusebox

/-- A deed of a script, and whether it was added to it. -/
structure Marked where
  deed : Deed
  added : Bool := false

/-- A script without what was added. -/
def bare (script : List Marked) : List Deed := (script.filter (!·.added)).map (·.deed)

/-- Both clocks can be read at every deed, and the monotonic clock does not go back. -/
inductive Steady : Instant → List Deed → Prop where
  | nil : Steady latest []
  | cons (shown : deed.reading = ⟨some now, some wall⟩) (order : latest ≤ now)
      (rest : Steady now deeds) : Steady latest (deed :: deeds)

namespace Fleet

/-- What is learned of the breaker of a name from one deed after the other. -/
def echoes (fleet : Fleet) (name : String) : List Deed → List Echo
  | [] => []
  | deed :: rest => fleet.echo name deed :: (fleet.perform deed).echoes name rest

/-- The same, from the deeds that were not added. -/
def bareEchoes (fleet : Fleet) (name : String) : List Marked → List Echo
  | [] => []
  | step :: rest =>
    let later := (fleet.perform step.deed).bareEchoes name rest
    if step.added then later else fleet.echo name step.deed :: later

/-- Every outage whose deadline has come by a reading ends at its deadline. -/
def prompt (fleet : Fleet) (reading : Reading) : Fleet :=
  match reading.now with
  | some now => ⟨fleet.units.map (·.prompt now reading.wall)⟩
  | none => fleet

/-- What is learned of a breaker where every outage ends at its deadline. -/
def promptEchoes (fleet : Fleet) (name : String) : List Deed → List Echo
  | [] => []
  | deed :: rest =>
    let ready := fleet.prompt deed.reading
    ready.echo name deed :: (ready.perform deed).promptEchoes name rest

/-- In two fleets the breakers of a name are akin, unless they have not been made yet. -/
inductive Kindred (name : String) (latest : Instant) (fleet other : Fleet) : Prop where
  | unmade (left : fleet.unit? name = none) (right : other.unit? name = none)
  | made (left : fleet.unit? name = some t) (right : other.unit? name = some twin)
      (akin : Traffic.Akin latest t twin) (never : policy.resetInterval.isZero = true)
      (reached : Traffic.Reached policy t) (followed : Traffic.Reached policy twin)

variable {fleet other : Fleet} {name : String} {latest now wall : Instant} {deed : Deed}
  {t : Traffic} {policy : Policy}

/-- From a deed nothing else is learned of the one breaker than of the other. -/
theorem Kindred.tells (kindred : Kindred name latest fleet other) (order : latest ≤ now)
    (shown : deed.reading = ⟨some now, some wall⟩) :
    deed.tells name (fleet.unit? name) = deed.tells name (other.unit? name) := by
  cases kindred with
  | unmade left right => rw [left, right]
  | @made t twin policy left right akin never reached followed =>
    have seen : (t.perform (.look ⟨some now, some wall⟩)).sight =
        (twin.perform (.look ⟨some now, some wall⟩)).sight := by
      rw [Traffic.look_elapses, Traffic.look_elapses, Traffic.elapse_sight,
        Traffic.elapse_sight, akin now order]
    have asked (query : Query) : query.reveals name (some
        (t.perform (.look ⟨some now, some wall⟩)).sight) =
        query.reveals name (some (twin.perform (.look ⟨some now, some wall⟩)).sight) := by
      rw [seen]
    rw [left, right]
    cases deed with
    | register label policy reading => rfl
    | inspect query reading =>
      cases shown
      exact asked query
    | request key sent reading =>
      cases shown
      simp only [Deed.tells, Deed.query?]
      split
      · exact asked _
      · rfl
    | call label move =>
      simp only [Deed.tells]
      split
      · exact (akin.step order shown).1
      · rfl

theorem perform_reached (found : fleet.unit? name = some t) (reached : Traffic.Reached policy t)
    (deed : Deed) :
    ∃ next, (fleet.perform deed).unit? name = some next ∧ Traffic.Reached policy next := by
  refine ⟨_, perform_found found deed, ?_⟩
  cases fleet.moveOn name deed with
  | none => exact reached
  | some move => exact Traffic.perform_reached reached move

/-- A breaker keeps its policy. -/
theorem run_reached {deeds : List Deed} (steady : Steady latest deeds)
    (found : fleet.unit? name = some t) (reached : Traffic.Reached policy t) :
    ∃ last, (fleet.run deeds).unit? name = some last ∧ Traffic.Reached policy last := by
  induction steady generalizing fleet t with
  | nil => exact ⟨t, found, reached⟩
  | cons shown order rest ih =>
    obtain ⟨next, found, reached⟩ := perform_reached found reached _
    exact ih found reached

/-- A deed keeps fleets kindred. A breaker that it makes is the same in both of them. -/
theorem Kindred.step (kindred : Kindred name latest fleet other) (order : latest ≤ now)
    (shown : deed.reading = ⟨some now, some wall⟩)
    (never : ∀ policy t, (fleet.perform deed).unit? name = some t →
      (other.perform deed).unit? name = some t → Traffic.Reached policy t →
      policy.resetInterval.isZero = true) :
    Kindred name now (fleet.perform deed) (other.perform deed) := by
  cases kindred with
  | unmade left right =>
    have left := perform_missing left deed
    have right := perform_missing right deed
    cases founds : deed.founds name with
    | none => exact .unmade (left.trans founds) (right.trans founds)
    | some t =>
      obtain ⟨policy, reached⟩ := Deed.founds_reached founds
      exact .made (left.trans founds) (right.trans founds) (.refl now t)
        (never policy t (left.trans founds) (right.trans founds) reached) reached reached
  | @made t twin policy left right akin zero reached followed =>
    have left := perform_shown shown left
    have right := perform_shown shown right
    cases moves : deed.moveOn name with
    | none =>
      rw [moves] at left right
      exact .made left right (akin.later order) zero reached followed
    | some move =>
      rw [moves] at left right
      have step := akin.step order ((Deed.moveOn_reading moves).trans shown)
      exact .made left right step.2 zero (Traffic.perform_reached reached move)
        (Traffic.perform_reached followed move)

/-- A look at the breakers of one fleet keeps them kindred as well. -/
theorem Kindred.look (kindred : Kindred name latest fleet other) (order : latest ≤ now)
    (shown : deed.reading = ⟨some now, some wall⟩) (looks : deed.looks = true) :
    Kindred name now fleet (other.perform deed) := by
  cases kindred with
  | unmade left right =>
    refine .unmade left ?_
    rw [perform_missing right]
    exact Deed.founds_none looks
  | made left right akin zero reached followed =>
    have right := perform_shown shown right
    have still := akin.later order
    cases moves : deed.moveOn name with
    | none =>
      rw [moves] at right
      exact .made left right still zero reached followed
    | some move =>
      cases (Deed.moveOn_look looks moves).trans (congrArg Move.look shown)
      rw [moves, Option.elim_some, Traffic.look_elapses] at right
      exact .made left right (still.elapse (followed.endless zero) (Int.le_refl _) _) zero
        reached (followed.quiet (Traffic.elapse_quiet _ _ _))

theorem prompt_unit? (fleet : Fleet) (now : Instant) (wall : Option Instant) (name : String) :
    (fleet.prompt ⟨some now, wall⟩).unit? name = (fleet.unit? name).map (·.prompt now wall) :=
  Registry.find?_renewed (fun t => t.prompt_name now wall) fleet.units name

theorem prompt_distinct (distinct : fleet.Distinct) (reading : Reading) :
    (fleet.prompt reading).Distinct := by
  obtain ⟨now, wall⟩ := reading
  cases now with
  | none => exact distinct
  | some now =>
    have same : (fleet.prompt ⟨some now, wall⟩).registry.names = fleet.registry.names := by
      simp only [prompt, registry, Registry.names, List.map_map]
      exact List.map_congr_left fun t _ => t.prompt_name now wall
    rw [Distinct, same]
    exact distinct

/-- So does ending the outages of one fleet at their deadlines. -/
theorem Kindred.prompt (kindred : Kindred name latest fleet other) (order : latest ≤ now)
    (shown : reading = ⟨some now, some wall⟩) : Kindred name now fleet (other.prompt reading) := by
  subst shown
  cases kindred with
  | unmade left right =>
    refine .unmade left ?_
    rw [prompt_unit?, right]
    rfl
  | @made t twin policy left right akin zero reached followed =>
    have ended : (other.prompt ⟨some now, some wall⟩).unit? name =
        some (twin.prompt now (some wall)) := by
      rw [prompt_unit?, right]
      rfl
    exact .made left ended (akin.prompt (followed.endless zero) order _) zero reached
      (followed.prompt now _)

/-- The breaker that a script makes has the policy it is made with. -/
theorem never_of_run {deeds : List Deed} (steady : Steady now deeds)
    (never : ∀ last, (fleet.run deeds).unit? name = some last →
      last.breaker.policy.resetInterval.isZero = true) :
    ∀ policy t, fleet.unit? name = some t → Traffic.Reached policy t →
      policy.resetInterval.isZero = true := by
  intro policy t found reached
  obtain ⟨last, there, lasting⟩ := run_reached steady found reached
  have zero := never last there
  rw [lasting.keeps_policy] at zero
  exact zero

/-- Nothing else is learned for all the looks that are added. -/
theorem Kindred.unobtrusive {script : List Marked} (kindred : Kindred name latest fleet other)
    (left : fleet.Distinct) (right : other.Distinct)
    (steady : Steady latest (script.map (·.deed)))
    (looks : ∀ step ∈ script, step.added = true → step.deed.looks = true)
    (never : ∀ last, (other.run (script.map (·.deed))).unit? name = some last →
      last.breaker.policy.resetInterval.isZero = true) :
    other.bareEchoes name script = fleet.echoes name (bare script) := by
  induction script generalizing fleet other latest with
  | nil => rfl
  | cons step rest ih =>
    obtain ⟨deed, added⟩ := step
    cases steady with
    | cons shown order steady =>
      have clear := perform_distinct right deed
      have others := fun step member => looks step (List.mem_cons_of_mem _ member)
      cases added with
      | true =>
        have next := kindred.look order shown (looks _ List.mem_cons_self rfl)
        exact ih next left clear steady others never
      | false =>
        have seen := kindred.tells order shown
        rw [← echo_tells left shown, ← echo_tells right shown] at seen
        have next := kindred.step order shown fun policy t _ found =>
          never_of_run steady never policy t found
        have later := ih next (perform_distinct left _) clear steady others never
        exact congrArg₂ List.cons seen.symm later

/-- Nor for outages that end at their deadlines. -/
theorem Kindred.punctual {deeds : List Deed} (kindred : Kindred name latest fleet other)
    (left : fleet.Distinct) (right : other.Distinct) (steady : Steady latest deeds)
    (never : ∀ last, (fleet.run deeds).unit? name = some last →
      last.breaker.policy.resetInterval.isZero = true) :
    other.promptEchoes name deeds = fleet.echoes name deeds := by
  induction steady generalizing fleet other with
  | nil => rfl
  | @cons latest now rest deed wall shown order steady ih =>
    have ready := kindred.prompt order shown
    have clear := prompt_distinct right deed.reading
    have seen := ready.tells (Int.le_refl _) shown
    rw [← echo_tells left shown, ← echo_tells clear shown] at seen
    have next := ready.step (Int.le_refl _) shown fun policy t found _ =>
      never_of_run steady never policy t found
    have later := ih next (perform_distinct left _) (perform_distinct clear _) never
    exact congrArg₂ List.cons seen.symm later

/-- Looks may be added to a run of a registry or taken from it, and outages may end as soon as
they can: nothing else is learned of a breaker whose reset interval is zero. What a request to
the admin interface tells is the answer to a question that can be asked of the registry. -/
theorem looking_is_unobtrusive {script : List Marked}
    (steady : Steady start (script.map (·.deed)))
    (looks : ∀ step ∈ script, step.added = true → step.deed.looks = true)
    (never : ∀ last, (run {} (script.map (·.deed))).unit? name = some last →
      last.breaker.policy.resetInterval.isZero = true) :
    bareEchoes {} name script = echoes {} name (bare script) ∧
      promptEchoes {} name (script.map (·.deed)) = echoes {} name (script.map (·.deed)) ∧
      ∀ key request reading, Admin.Answers key request reading := by
  have distinct : Distinct {} := List.nodup_nil
  have kindred : Kindred name start {} {} := .unmade rfl rfl
  exact ⟨kindred.unobtrusive distinct distinct steady looks never,
    kindred.punctual distinct distinct steady never, Admin.respond_answers⟩

/-- The breaker opens. Everybody looks when its timeout has passed, and so it is half-open
before the end of a call from before the outage comes too late, and before a probe is made. -/
theorem looking_is_unobtrusive_at_end_of_outage :
    let request : Admin.Request := ⟨"GET", "/admin/breakers/touchy", []⟩
    let founding : Deed := .register "touchy" .touchy (.past 0)
    let rest : List Marked := [
      ⟨.call "touchy" (.ask "first" (.past 1)), false⟩,
      ⟨.call "touchy" (.ask "slow" (.past 1)), false⟩,
      ⟨.call "touchy" (.finish 0 .failed (.past 2)), false⟩,
      ⟨.inspect .openNames (.past 12), true⟩,
      ⟨.request "" request (.past 13), true⟩,
      ⟨.call "touchy" (.finish 1 .failed (.past 14)), false⟩,
      ⟨.call "touchy" (.look (.past 14)), true⟩,
      ⟨.call "touchy" (.ask "probe" (.past 15)), false⟩,
      ⟨.inspect .all (.past 16), false⟩]
    let script : List Marked := ⟨founding, false⟩ :: rest
    bareEchoes {} "touchy" script = echoes {} "touchy" (bare script) ∧
      promptEchoes {} "touchy" (script.map (·.deed)) =
        echoes {} "touchy" (script.map (·.deed)) ∧
      echoes {} "touchy" (bare script) = [
        .nothing,
        .told (.ok (.ok ⟨0⟩)),
        .told (.ok (.ok ⟨0⟩)),
        .ended false,
        .ended true,
        .told (.ok (.ok ⟨2⟩)),
        .shown (.ok ⟨.halfOpen, 2, Tally.empty.admitted⟩)] := by
  intro request founding rest script
  have tail : Steady .reference (rest.map (·.deed)) := by
    repeat refine .cons rfl (by decide) ?_
    exact .nil
  have steady : Steady .reference (script.map (·.deed)) := .cons rfl (by decide) tail
  have made : (perform {} founding).unit? "touchy" = some (.fresh .touchy) := rfl
  have never : ∀ last, (run {} (script.map (·.deed))).unit? "touchy" = some last →
      last.breaker.policy.resetInterval.isZero = true := by
    intro last found
    obtain ⟨same, there, reached⟩ := run_reached tail made (.fresh Breaker.touchy_created)
    have split : run {} (script.map (·.deed)) = (perform {} founding).run (rest.map (·.deed)) := by
      simp only [script, run, List.map_cons, List.foldl_cons]
    rw [split, there] at found
    rw [← Option.some.inj found, reached.keeps_policy]
    rfl
  have looks : ∀ step ∈ script, step.added = true → step.deed.looks = true := by
    simp [script, rest, founding, Deed.looks]
  obtain ⟨unseen, prompt, _⟩ := looking_is_unobtrusive steady looks never
  exact ⟨unseen, prompt, rfl⟩

end Fleet
end Fusebox
