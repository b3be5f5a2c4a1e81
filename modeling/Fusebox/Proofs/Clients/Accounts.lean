import Fusebox.Proofs.Clients.Basic

/-! Every call is accounted for once. Whatever the clients of a breaker do, an operation is
started once if the breaker has admitted the call and never if it has not, the client gets what
the operation came to or hears that it was turned away, and the counters go up by one for every
call that was turned away or has ended, in whichever way, and for no other. -/
namespace Fusebox

namespace Client

/-- Whether the breaker admitted its call. -/
def admitted (client : Client ε α) : Bool :=
  match client.admission with
  | some (.ok _) => true
  | some (.error _) | none => false

/-- Whether the breaker turned it away for that reason. -/
def refusedFor (client : Client ε α) (reason : Rejection) : Bool :=
  match client.admission with
  | some (.error given) => given = reason
  | some (.ok _) | none => false

/-- Whether its call was admitted and has come to that end. To be dropped is to fail. -/
def ended (client : Client ε α) (success : Bool) : Bool :=
  client.admitted && match client.outcome with
    | some outcome => outcome.ending.success = success
    | none => client.dropped && !success

/-- Whether its call was admitted and has not ended. -/
def inFlight (client : Client ε α) : Bool :=
  client.admitted && client.outcome.isNone && !client.dropped

/-- Whether it has asked the breaker. A call that is never polled does not. -/
def began (client : Client ε α) : Bool := client.admission.isSome || client.answer.isSome

/-- The counter that goes up for it. -/
def entry? (client : Client ε α) (name : String) : Option Counter :=
  match client.admission, client.outcome with
  | some (.error reason), _ => some (.rejections name reason)
  | some (.ok _), some outcome => some (.calls name outcome.ending.success)
  | some (.ok _), none => if client.dropped then some (.calls name false) else none
  | none, _ => none

/-- Whether it got no answer but that a clock could not be read. -/
def letDown (client : Client ε α) : Bool :=
  match client.answer with
  | some (.error cause) => cause.ofClock
  | some (.ok _) | none => false

end Client

/-- What can have become of a client. -/
inductive Standing (name : String) : Client ε α → Prop where
  /-- It has not asked. If it has dropped its call it never will. -/
  | waiting : Standing name { operation, blocking, dropped }
  | unheard (clock : cause.ofClock = true) :
      Standing name { operation, blocking, answer := some (.error cause) }
  | refused : Standing name {
      operation, blocking
      admission := some (.error reason)
      answer := some (.ok (.error (.rejected name reason))) }
  | running : Standing name {
      operation, blocking
      phase := .running ticket
      admission := some (.ok ticket)
      starts := 1 }
  | ended {outcome : Outcome ε α} {answer : Except Crash (Reply ε α)}
      (heard : answer = outcome.answer ∨ ∃ cause, cause.ofClock = true ∧ answer = .error cause) :
      Standing name {
        operation, blocking, phase
        admission := some (.ok ticket)
        starts := 1
        outcome := some outcome
        answer := some answer }
  | dropped : Standing name {
      operation, blocking
      phase := .running ticket
      admission := some (.ok ticket)
      starts := 1
      dropped := true }

variable {name : String} {b : Breaker} {reading : Reading} {operation : String}
  {client : Client ε α}

namespace Breaker

/-- The timer and the end of a call crash for want of a wall clock only. -/
theorem Announced.fails (announced : Announced b now wall step) :
    step.result = .ok () ∨ step.result = .error .wallRange := by
  cases announced with
  | silent name mode changedAt => exact .inl rfl
  | changed other remark => exact .inl rfl
  | torn other remark => exact .inr rfl

theorem ask_ofClock (crashed : (b.ask operation reading).result = .error cause) :
    cause.ofClock = true := by
  obtain ⟨now, wall⟩ := reading
  cases now with
  | none =>
    cases crashed
    rfl
  | some now =>
    simp only [ask, Step.bind] at crashed
    rcases (refresh_announced b now wall).fails with fine | torn
    · rw [fine] at crashed
      dsimp only at crashed
      split at crashed <;> cases crashed
    · rw [torn] at crashed
      cases crashed
      rfl

theorem complete_ofClock {success : Bool}
    (crashed : (b.complete ticket success reading).result = .error cause) :
    cause.ofClock = true := by
  obtain ⟨now, wall⟩ := reading
  cases now with
  | none =>
    cases crashed
    rfl
  | some now =>
    rw [complete_received] at crashed
    simp only [Step.after, Step.bind] at crashed
    rcases (refresh_announced b now wall).fails with fine | torn
    · rw [fine] at crashed
      dsimp only at crashed
      split at crashed
      · cases crashed
      · rcases (note_announced (b.refresh now wall).state success now wall).fails with fine | torn
        · cases fine.symm.trans crashed
        · cases torn.symm.trans crashed
          rfl
    · rw [torn] at crashed
      cases crashed
      rfl

end Breaker

/-- A step of the breaker for one client, as it should be accounted for. -/
structure Attended (name : String) (client : Client ε α) (step : Step Report Breaker β) : Prop where
  named : step.state.name = name
  standing : Standing name client
  counted : Effect.callsIn (step.effects.map (·.effect)) = (client.entry? name).toList

namespace Attended

variable {label : Effect → Report} {ticket : Ticket} {outcome : Outcome ε α} {blocking : Bool}
  {step : Step Report Breaker β}

theorem map_faithful (faithful : ∀ effect, (label effect).effect = effect)
    (effects : List Effect) : (effects.map label).map (·.effect) = effects := by
  rw [List.map_map]
  exact (List.map_congr_left fun effect _ => faithful effect).trans (List.map_id _)

/-- To ask counts for what the breaker says to it. -/
theorem of_ask (named : b.name = name) (faithful : ∀ effect, (label effect).effect = effect)
    (state : step.state = (b.ask operation reading).state)
    (reports : step.effects = (b.ask operation reading).effects.map label)
    (standing : Standing name client)
    (heard : (client.entry? name).toList = match (b.ask operation reading).result with
      | .ok (.error reason) => [.rejections name reason]
      | _ => []) : Attended name client step := by
  subst named
  refine ⟨state ▸ Breaker.ask_name b operation reading, standing, ?_⟩
  rw [reports, map_faithful faithful]
  exact (Breaker.ask_callsIn b operation reading).trans heard.symm

/-- An operation that has ended counts as that, and the client hears of the outcome. -/
theorem of_finish (named : b.name = name) (faithful : ∀ effect, (label effect).effect = effect)
    (phase : CallPhase)
    (state : step.state = (b.finish given outcome reading).state)
    (reports : step.effects = (b.finish given outcome reading).effects.map label) :
    Attended name {
        operation, blocking, phase
        admission := some (.ok ticket)
        starts := 1
        outcome := some outcome
        answer := some (b.finish given outcome reading).result : Client ε α } step := by
  subst named
  refine ⟨?_, .ended ?_, ?_⟩
  · rw [state, Breaker.finish_state]
    exact (Breaker.conclude_discreet b given outcome.ending reading).name
  · refine (Breaker.finish_result b given outcome reading).imp id ?_
    rintro ⟨cause, crashed, told⟩
    rw [Breaker.conclude_completes] at crashed
    exact ⟨cause, Breaker.complete_ofClock crashed, told⟩
  · rw [reports, map_faithful faithful, Breaker.finish_effects, Breaker.conclude_callsIn]
    rfl

/-- What is reported before makes no difference if it counts no call. -/
theorem after (attended : Attended name client step)
    (quiet : Effect.callsIn (reports.map (·.effect)) = []) :
    Attended name client (step.after reports) := by
  refine ⟨attended.named, attended.standing, ?_⟩
  rw [← attended.counted, Step.after, List.map_append, Effect.callsIn_append, quiet]
  rfl

theorem enter (named : b.name = name) :
    Attended name (Client.asked { operation, blocking := true : Client ε α } b reading)
      ((b.ask operation reading).relabel (Effect.under span)) := by
  unfold Client.asked
  dsimp only
  split
  · rename_i cause crashed
    refine of_ask named (fun _ => rfl) rfl rfl (.unheard (Breaker.ask_ofClock crashed)) ?_
    rw [crashed]
    rfl
  · rename_i reason refused
    subst named
    refine of_ask rfl (fun _ => rfl) rfl rfl .refused ?_
    rw [refused]
    rfl
  · rename_i ticket admitted
    refine of_ask named (fun _ => rfl) rfl rfl .running ?_
    rw [admitted]
    rfl

/-- A poll goes on with an operation that was started. -/
theorem proceed (named : b.name = name) (operation : String) (blocking : Bool) (phase : CallPhase)
    (call : PendingCall) (ticket : Ticket) (progress : Progress ε α) (reading : Reading) :
    Attended name (Client.heard {
        operation, blocking, phase
        admission := some (.ok ticket)
        starts := 1
        outcome := progress.outcome? } (call.proceed b ticket progress reading).result)
      (call.proceed b ticket progress reading) := by
  cases progress with
  | pending => exact ⟨named, .running, rfl⟩
  | done outcome =>
    have heard (client : Client ε α) :
        client.heard (call.proceed b ticket (.done outcome) reading).result =
          { client with answer := some (b.finish ticket outcome reading).result } := by
      simp only [PendingCall.proceed, Step.map, Step.relabel]
      cases (b.finish ticket outcome reading).result <;> rfl
    rw [heard]
    exact of_finish named (fun _ => rfl) _ rfl rfl

theorem poll (named : b.name = name) (standing : Standing name client)
    (live : client.closed = false) (progress : Progress ε α) (entry exit : Reading) :
    Attended name (client.polled b progress entry exit)
      ((client.call b.name).poll b progress entry exit) := by
  cases standing with
  | unheard clock => cases live
  | refused => cases live
  | ended heard => cases live
  | dropped => cases live
  | @running operation blocking ticket =>
    have going := proceed named operation blocking (.running ticket)
      ⟨b.name, operation, .running ticket⟩ ticket progress exit
    cases progress <;> exact going
  | @waiting operation blocking dropped =>
    obtain rfl : dropped = false := live
    let call : PendingCall := ⟨b.name, operation, .waiting⟩
    unfold Client.polled
    dsimp only [Client.call, Rehearsal.startsNow, PendingCall.invoked]
    cases asked : (b.ask operation entry).result with
    | error cause =>
      rw [PendingCall.poll_crashed rfl asked]
      refine of_ask named (fun _ => rfl) rfl rfl (.unheard (Breaker.ask_ofClock asked)) ?_
      rw [asked]
      rfl
    | ok admission =>
      cases admission with
      | error reason =>
        subst named
        rw [Breaker.poll_refused rfl asked]
        refine of_ask rfl (fun _ => rfl) rfl rfl .refused ?_
        rw [asked]
        rfl
      | ok ticket =>
        have quiet := Breaker.ask_callsIn b operation entry
        rw [asked] at quiet
        rw [PendingCall.poll_admitted rfl asked]
        have same := (Breaker.ask_name b operation entry).trans named
        have going := proceed same operation blocking .waiting call ticket progress exit
        have told : ((b.ask operation entry).effects.map (Effect.under call.span)).map
            (·.effect) = (b.ask operation entry).effects := map_faithful (fun _ => rfl) _
        refine Attended.after ?_ ((congrArg Effect.callsIn told).trans quiet)
        cases progress <;> exact going

theorem leave (named : b.name = name) (standing : Standing name client)
    (live : client.closed = false) (held : client.ticket? = some ticket) (outcome : Outcome ε α)
    (reading : Reading) :
    Attended name (client.finished b ticket outcome reading)
      ((b.finish ticket outcome reading).relabel (Effect.under span)) := by
  cases standing with
  | waiting => cases held
  | unheard clock => cases live
  | refused => cases live
  | ended heard => cases live
  | dropped => cases live
  | running =>
    cases held
    exact of_finish named (fun _ => rfl) _ rfl rfl

/-- A call that is dropped has failed if it was admitted, and otherwise there is nothing to
account for. -/
theorem drop (named : b.name = name) (standing : Standing name client)
    (live : client.closed = false) (reading : Reading) :
    Attended name { client with dropped := true } ((client.call b.name).cancel b reading) := by
  cases standing with
  | unheard clock => cases live
  | refused => cases live
  | ended heard => cases live
  | dropped => cases live
  | waiting => exact ⟨named, .waiting, rfl⟩
  | @running operation blocking ticket =>
    subst named
    have counted := Breaker.conclude_callsIn b ticket .dropped reading
    refine ⟨(Breaker.conclude_discreet b ticket .dropped reading).name, .dropped, ?_⟩
    exact (congrArg Effect.callsIn (map_faithful (fun _ => rfl) _)).trans counted

end Attended

/-- One more element is looked through, in which there was nothing before. -/
theorem filterMap_set_perm (find : α → Option β) {list : List α} {old : α} (new : α)
    (found : list[number]? = some old) (nothing : find old = none) :
    ((list.set number new).filterMap find).Perm (list.filterMap find ++ (find new).toList) := by
  induction list generalizing number with
  | nil => cases found
  | cons first rest ih =>
    cases number with
    | zero =>
      cases found
      rw [List.set_cons_zero, List.filterMap_cons_none nothing]
      cases entry : find new with
      | none => rw [List.filterMap_cons_none entry, Option.toList_none, List.append_nil]
      | some value =>
        rw [List.filterMap_cons_some entry]
        exact (List.perm_append_singleton value _).symm
    | succ number =>
      have later := ih found
      rw [List.set_cons_succ]
      cases entry : find first with
      | none => rwa [List.filterMap_cons_none entry, List.filterMap_cons_none entry]
      | some value =>
        rw [List.filterMap_cons_some entry, List.filterMap_cons_some entry, List.cons_append]
        exact later.cons value

/-- The books: what has become of every client, and one entry for each that has been turned away
or whose call has ended. -/
structure Ledger (name : String) (t : Clientele ε α) : Prop where
  named : t.breaker.name = name
  standing : ∀ client ∈ t.clients, Standing name client
  entries : (Effect.callsIn t.effects).Perm (t.clients.filterMap (Client.entry? · name))

namespace Ledger

variable {t : Clientele ε α} {number : Nat} {step : Step Report Breaker β} {old new : Client ε α}

theorem follow_callsIn (t : Clientele ε α) (step : Step Report Breaker β) :
    Effect.callsIn (t.follow step).effects =
      Effect.callsIn t.effects ++ Effect.callsIn (step.effects.map (·.effect)) := by
  show Effect.callsIn ((t.reports ++ step.effects).map _) = _
  rw [List.map_append, Effect.callsIn_append]
  rfl

theorem join (ledger : Ledger name t) (attended : Attended name new step) :
    Ledger name ((t.follow step).join new) where
  named := attended.named
  standing := by
    intro client member
    rcases List.mem_append.mp member with before | added
    · exact ledger.standing client before
    · cases List.mem_singleton.mp added
      exact attended.standing
  entries := by
    have joined : ((t.follow step).join new).clients.filterMap (Client.entry? · name) =
        t.clients.filterMap (Client.entry? · name) ++ (new.entry? name).toList := by
      refine List.filterMap_append.trans (congrArg _ ?_)
      cases entry : new.entry? name with
      | none => exact List.filterMap_cons_none entry
      | some counter => exact List.filterMap_cons_some entry
    have counted := follow_callsIn t step
    rw [attended.counted] at counted
    rw [joined]
    exact counted ▸ ledger.entries.append_right _

theorem put (ledger : Ledger name t) (found : t.clients[number]? = some old)
    (nothing : old.entry? name = none) (attended : Attended name new step) :
    Ledger name ((t.follow step).put number new) where
  named := attended.named
  standing := by
    intro client member
    rcases List.mem_or_eq_of_mem_set member with before | rfl
    · exact ledger.standing client before
    · exact attended.standing
  entries := by
    have counted := follow_callsIn t step
    rw [attended.counted] at counted
    have entered := filterMap_set_perm (Client.entry? · name) new found nothing
    exact counted ▸ (ledger.entries.append_right _).trans entered.symm

theorem look (ledger : Ledger name t) (reading : Reading) :
    Ledger name (t.perform (.look reading)) where
  named := (Breaker.read_discreet t.breaker reading).name.trans ledger.named
  standing := ledger.standing
  entries := by
    have counted := follow_callsIn t ((t.breaker.read reading).relabel Effect.bare)
    have quiet := Breaker.read_callsIn t.breaker reading
    have bare : Effect.callsIn ((t.breaker.read reading).relabel Effect.bare |>.effects.map
        (·.effect)) = [] :=
      (congrArg Effect.callsIn (Attended.map_faithful (fun _ => rfl) _)).trans quiet
    rw [Clientele.perform, counted, bare, List.append_nil]
    exact ledger.entries

theorem start (ledger : Ledger name t) (operation : String) :
    Ledger name (t.perform (.start operation)) where
  named := ledger.named
  standing := by
    intro client member
    rcases List.mem_append.mp member with before | added
    · exact ledger.standing client before
    · cases List.mem_singleton.mp added
      exact .waiting
  entries := by
    have joined : (t.perform (.start operation)).clients.filterMap (Client.entry? · name) =
        t.clients.filterMap (Client.entry? · name) :=
      List.filterMap_append.trans (List.append_nil _)
    rw [joined]
    exact ledger.entries

/-- A client to whom something can still come is in the list of all, and has no entry. -/
theorem client?_spec (ledger : Ledger name t) (found : t.client? number blocking = some client) :
    t.clients[number]? = some client ∧ Standing name client ∧ client.closed = false ∧
      client.entry? name = none := by
  obtain ⟨there, live⟩ := Option.filter_eq_some_iff.mp found
  obtain ⟨-, live⟩ := Bool.and_eq_true_iff.mp live
  have live : client.closed = false := by simpa using live
  have standing := ledger.standing client (List.mem_of_getElem? there)
  refine ⟨there, standing, live, ?_⟩
  cases standing with
  | waiting => rfl
  | unheard clock => cases live
  | refused => cases live
  | running => rfl
  | ended heard => cases live
  | dropped => cases live

theorem perform (ledger : Ledger name t) (act : Act ε α) : Ledger name (t.perform act) := by
  cases act with
  | look reading => exact ledger.look reading
  | start operation => exact ledger.start operation
  | enter operation reading => exact ledger.join (.enter ledger.named)
  | leave number outcome reading =>
    simp only [Clientele.perform]
    split
    · exact ledger
    · rename_i client found
      obtain ⟨there, standing, live, nothing⟩ := ledger.client?_spec found
      split
      · exact ledger
      · rename_i ticket held
        exact ledger.put there nothing (.leave ledger.named standing live held outcome reading)
  | poll number progress entry exit =>
    simp only [Clientele.perform]
    split
    · exact ledger
    · rename_i client found
      obtain ⟨there, standing, live, nothing⟩ := ledger.client?_spec found
      exact ledger.put there nothing (.poll ledger.named standing live progress entry exit)
  | drop number reading =>
    simp only [Clientele.perform]
    split
    · exact ledger
    · rename_i client found
      obtain ⟨there, standing, live, nothing⟩ := ledger.client?_spec found
      exact ledger.put there nothing (.drop ledger.named standing live reading)

theorem run (ledger : Ledger name t) (script : List (Act ε α)) : Ledger name (t.run script) := by
  induction script generalizing t with
  | nil => exact ledger
  | cons act rest ih => exact ih (ledger.perform act)

theorem fresh (b : Breaker) : Ledger b.name (Clientele.fresh b : Clientele ε α) where
  named := rfl
  standing := by
    intro client member
    cases member
  entries := .nil

/-- The counters show how many clients there are with an entry of that kind. -/
theorem value (ledger : Ledger name t) (ofCalls : counter.ofCalls = true) :
    t.meters.value counter = t.clients.countP fun client => client.entry? name == some counter := by
  have zero : Meters.value {} counter = 0 := rfl
  rw [Clientele.meters, Meters.recordAll_value, zero, Nat.zero_add, ← Effect.count_callsIn ofCalls,
    ledger.entries.count_eq, List.count_filterMap]

end Ledger

namespace Client

theorem entry_rejected (client : Client ε α) (name : String) (reason : Rejection) :
    client.entry? name = some (.rejections name reason) ↔ client.refusedFor reason = true := by
  unfold entry? refusedFor
  cases client.admission with
  | none => simp
  | some admission =>
    cases admission with
    | error given => simp
    | ok ticket =>
      cases client.outcome with
      | some outcome => simp
      | none => by_cases gone : client.dropped <;> simp [gone]

theorem entry_ended (client : Client ε α) (name : String) (success : Bool) :
    client.entry? name = some (.calls name success) ↔ client.ended success = true := by
  unfold entry? ended admitted
  cases client.admission with
  | none => simp
  | some admission =>
    cases admission with
    | error given => simp
    | ok ticket =>
      cases client.outcome with
      | some outcome => simp
      | none =>
        cases client.dropped <;> cases success <;> simp

end Client

/-- Whoever has asked was turned away, or the call has ended, or is in flight; and no two of
these. -/
theorem Standing.once (standing : Standing name client) (heard : client.letDown = false) :
    client.began.toNat =
      (client.refusedFor .opened).toNat + (client.refusedFor .tooManyRequests).toNat +
        (client.ended true).toNat + (client.ended false).toNat + client.inFlight.toNat := by
  cases standing with
  | waiting => rfl
  | running => rfl
  | dropped => rfl
  | unheard clock => cases clock.symm.trans heard
  | @refused operation blocking reason => cases reason <;> rfl
  | @ended operation blocking phase ticket outcome answer told => cases outcome <;> rfl

theorem countP_cons_toNat (test : α → Bool) (first : α) (rest : List α) :
    (first :: rest).countP test = rest.countP test + (test first).toNat := by
  cases found : test first <;> simp [found]

theorem began_count {clients : List (Client ε α)}
    (standing : ∀ client ∈ clients, Standing name client)
    (heard : ∀ client ∈ clients, client.letDown = false) :
    clients.countP Client.began =
      clients.countP (·.refusedFor .opened) + clients.countP (·.refusedFor .tooManyRequests) +
        clients.countP (·.ended true) + clients.countP (·.ended false) +
        clients.countP Client.inFlight := by
  induction clients with
  | nil => rfl
  | cons client rest ih =>
    have first := (standing client List.mem_cons_self).once (heard client List.mem_cons_self)
    have later := ih (fun other member => standing other (.tail _ member))
      fun other member => heard other (.tail _ member)
    simp only [countP_cons_toNat]
    omega

/-- What a blocking call has inside is done once if the call is admitted, in the state that it
leaves then, and not at all if it is not. -/
structure RunsInside (r : Rehearsal α) (b : Breaker) (operation : String)
    (outcome : Outcome String α) : Prop where
  once : ∀ ticket, (b.ask operation r.reading).result = .ok (.ok ticket) → ∀ inside,
    r.guard b operation outcome inside =
      Rehearsal.leaving r.surrounding b.name ticket outcome (inside (r.entering b operation).1)
  never : (∀ ticket, (b.ask operation r.reading).result ≠ .ok (.ok ticket)) →
    ∃ reaction, ∀ inside, r.guard b operation outcome inside = reaction

theorem runsInside (r : Rehearsal α) (b : Breaker) (operation : String)
    (outcome : Outcome String α) : RunsInside r b operation outcome where
  once := by
    intro ticket admitted inside
    rw [Rehearsal.guard_eq, admitted]
  never := by
    intro unadmitted
    cases asked : (b.ask operation r.reading).result with
    | error cause => exact ⟨_, fun inside => by rw [Rehearsal.guard_eq, asked]⟩
    | ok admission =>
      cases admission with
      | error reason => exact ⟨_, fun inside => by rw [Rehearsal.guard_eq, asked]⟩
      | ok ticket => exact absurd asked (unadmitted ticket)

/-- All calls of a clientele on a breaker are accounted for. -/
structure Accounted (name : String) (t : Clientele ε α) : Prop where
  /-- An operation is started if and only if its call is admitted, and then once. -/
  started : ∀ client ∈ t.clients, client.starts = if client.admitted then 1 else 0
  refused : ∀ client ∈ t.clients, ∀ reason, client.refusedFor reason →
    client.answer = some (.ok (.error (.rejected name reason)))
  /-- Whoever gets an answer to an admitted call gets what the operation has come to. -/
  answered : ∀ client ∈ t.clients, client.admitted = true → ∀ answer,
    client.answer = some answer → ∃ outcome, client.outcome = some outcome ∧ answer = outcome.answer
  /-- No outcome is lost. -/
  returned : ∀ client ∈ t.clients, ∀ outcome, client.outcome = some outcome →
    client.admitted = true ∧ client.answer = some outcome.answer
  rejections : ∀ reason,
    t.meters.value (.rejections name reason) = t.clients.countP (·.refusedFor reason)
  calls : ∀ success, t.meters.value (.calls name success) = t.clients.countP (·.ended success)
  balance : t.clients.countP Client.began =
    t.meters.value (.rejections name .opened) + t.meters.value (.rejections name .tooManyRequests) +
      t.meters.value (.calls name true) + t.meters.value (.calls name false) +
      t.clients.countP Client.inFlight
  /-- To drop a call before it is polled changes nothing but that it will not be polled. -/
  unnoticed : ∀ number client reading, t.client? number false = some client →
    client.began = false → t.perform (.drop number reading) =
      t.put number { client with dropped := true } ∧ client.starts = 0

namespace Standing

theorem started (standing : Standing name client) :
    client.starts = if client.admitted then 1 else 0 := by
  cases standing <;> rfl

theorem refused_answer (standing : Standing name client) (refused : client.refusedFor reason) :
    client.answer = some (.ok (.error (.rejected name reason))) := by
  cases standing with
  | refused =>
    cases of_decide_eq_true refused
    rfl
  | _ => cases refused

/-- A client with an outcome was admitted and has the answer that goes with it. -/
theorem outcome_answer (standing : Standing name client) (heard : client.letDown = false)
    (ended : client.outcome = some outcome) :
    client.admitted = true ∧ client.answer = some outcome.answer := by
  cases standing with
  | ended known =>
    cases ended
    refine ⟨rfl, congrArg some (known.resolve_right ?_)⟩
    rintro ⟨cause, clock, rfl⟩
    cases clock.symm.trans heard
  | _ => cases ended

/-- An answer to an admitted call comes with an outcome. -/
theorem answer_outcome (standing : Standing name client) (admitted : client.admitted = true)
    (told : client.answer = some answer) : ∃ outcome, client.outcome = some outcome := by
  cases standing with
  | ended known => exact ⟨_, rfl⟩
  | waiting => cases admitted
  | unheard clock => cases admitted
  | refused => cases admitted
  | running => cases told
  | dropped => cases told

end Standing

theorem Ledger.accounted {t : Clientele ε α} (ledger : Ledger name t)
    (heard : ∀ client ∈ t.clients, client.letDown = false) : Accounted name t := by
  have rejections (reason : Rejection) :
      t.meters.value (.rejections name reason) = t.clients.countP (·.refusedFor reason) := by
    rw [ledger.value rfl]
    exact List.countP_congr fun client _ => beq_iff_eq.trans (client.entry_rejected name reason)
  have calls (success : Bool) :
      t.meters.value (.calls name success) = t.clients.countP (·.ended success) := by
    rw [ledger.value rfl]
    exact List.countP_congr fun client _ => beq_iff_eq.trans (client.entry_ended name success)
  constructor
  · intro client member
    exact (ledger.standing client member).started
  · intro client member reason refused
    exact (ledger.standing client member).refused_answer refused
  · intro client member admitted answer told
    have standing := ledger.standing client member
    obtain ⟨outcome, ended⟩ := standing.answer_outcome admitted told
    obtain ⟨-, right⟩ := standing.outcome_answer (heard client member) ended
    exact ⟨outcome, ended, Option.some.inj (told.symm.trans right)⟩
  · intro client member outcome ended
    exact (ledger.standing client member).outcome_answer (heard client member) ended
  · exact rejections
  · exact calls
  · rw [rejections, rejections, calls, calls]
    exact began_count ledger.standing heard
  · intro number client reading found idle
    obtain ⟨there, standing, live, -⟩ := ledger.client?_spec found
    cases standing with
    | waiting =>
      refine ⟨?_, rfl⟩
      simp [Clientele.perform, found, PendingCall.cancel, Client.call, Clientele.follow, Step.pure,
        Clientele.put]
    | unheard clock => cases live
    | _ => cases idle

/-- Whatever a breaker's clients do, in whatever order, and whatever their operations do: unless a
client is told that a clock could not be read, every call is accounted for once. -/
theorem every_call_is_accounted_for_once (b : Breaker) (script : List (Act ε α))
    (heard : ∀ client ∈ ((Clientele.fresh b).run script).clients, client.letDown = false) :
    Accounted b.name ((Clientele.fresh b).run script) ∧
      ∀ (r : Rehearsal α) (operation : String) (outcome : Outcome String α),
        RunsInside r b operation outcome :=
  ⟨((Ledger.fresh b).run script).accounted heard, fun r operation outcome =>
    runsInside r b operation outcome⟩

/-- One call fails and opens the breaker, one is turned away by it, one ends well but too late,
one is dropped as a probe while another one is turned away, and one is never polled. -/
theorem every_call_is_accounted_for_once_in_outage :
    let script : List (Act String Nat) := [
      .enter "first" (.past 0),
      .start "slow",
      .poll 1 .pending (.past 1) (.past 1),
      .start "forgotten",
      .drop 2 (.past 2),
      .leave 0 (.failure "unreachable") (.past 3),
      .enter "turned away" (.past 4),
      .poll 1 (.done (.value 7)) (.past 5) (.past 5),
      .start "probe",
      .poll 4 .pending (.past 13) (.past 13),
      .enter "one too many" (.past 14),
      .drop 4 (.past 15)]
    let t := (Clientele.fresh .touchy).run script
    (∀ client ∈ t.clients, client.letDown = false) ∧
      Accounted "touchy" t ∧
      t.breaker.mode = .opened ∧
      t.clients.countP Client.began = 5 ∧
      t.meters.value (.rejections "touchy" .opened) = 1 ∧
      t.meters.value (.rejections "touchy" .tooManyRequests) = 1 ∧
      t.meters.value (.calls "touchy" true) = 1 ∧
      t.meters.value (.calls "touchy" false) = 2 ∧
      t.clients.map (·.starts) = [1, 1, 0, 0, 1, 0] := by
  intro script t
  have heard : ∀ client ∈ t.clients, client.letDown = false := by decide
  obtain ⟨accounted, -⟩ := every_call_is_accounted_for_once .touchy script heard
  refine ⟨heard, accounted, ?_⟩
  decide

end Fusebox
