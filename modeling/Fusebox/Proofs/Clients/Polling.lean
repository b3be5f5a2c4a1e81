import Fusebox.Proofs.Clients.Basic

/-! A call that is polled and one that blocks are the same for the breaker. The polls that find
an operation unfinished leave no trace, so whatever happens between admission and completion
happens to both in the same way; only the reports of the completion stand in different places in
the log. A call that is dropped ends like one whose operation fails at that time. -/
namespace Fusebox

namespace Client

/-- Whether it has asked the breaker, and has its answer or waits for its operation. -/
def settled (client : Client ε α) : Bool :=
  !client.dropped && (client.answer.isSome || client.ticket?.isSome)

theorem asked_settled {client : Client ε α} (kept : client.dropped = false) (b : Breaker)
    (reading : Reading) : (client.asked b reading).settled = true := by
  unfold asked
  split <;> simp [settled, ticket?, kept]

theorem asked_operation (client : Client ε α) (b : Breaker) (reading : Reading) :
    (client.asked b reading).operation = client.operation := by
  unfold asked
  split <;> rfl

theorem asked_blocking (client : Client ε α) (b : Breaker) (reading : Reading) :
    (client.asked b reading).blocking = client.blocking := by
  unfold asked
  split <;> rfl

/-- A settled call is closed with an answer, or its operation is under way. -/
theorem settled_cases {client : Client ε α} (settled : client.settled = true) :
    (client.closed = true ∧ ∃ answer, client.answer = some answer) ∨
      client.closed = false ∧ ∃ ticket, client.phase = .running ticket := by
  simp only [Client.settled, Bool.and_eq_true, Bool.not_eq_true'] at settled
  obtain ⟨kept, settled⟩ := settled
  cases told : client.answer with
  | some answer => exact .inl ⟨by simp [closed, told], answer, rfl⟩
  | none =>
    refine .inr ⟨by simp [closed, told, kept], ?_⟩
    cases phase : client.phase with
    | waiting => simp [told, ticket?, phase] at settled
    | running ticket => exact ⟨ticket, rfl⟩

end Client

namespace PendingCall

theorem finish_name (b : Breaker) (ticket : Ticket) (outcome : Outcome ε α) (reading : Reading) :
    (b.finish ticket outcome reading).state.name = b.name := by
  rw [Breaker.finish_state]
  exact (Breaker.conclude_discreet b ticket outcome.ending reading).name

theorem proceed_name (call : PendingCall) (b : Breaker) (ticket : Ticket)
    (progress : Progress ε α) (reading : Reading) :
    (call.proceed b ticket progress reading).state.name = b.name := by
  cases progress with
  | pending => rfl
  | done outcome => exact finish_name b ticket outcome reading

theorem poll_name (call : PendingCall) (b : Breaker) (progress : Progress ε α)
    (entry exit : Reading) : (call.poll b progress entry exit).state.name = b.name := by
  cases phase : call.phase with
  | running ticket =>
    rw [poll_running phase]
    exact proceed_name call b ticket progress exit
  | waiting =>
    have asked := Breaker.ask_name b call.operation entry
    cases heard : (b.ask call.operation entry).result with
    | error cause =>
      rw [poll_crashed phase heard]
      exact asked
    | ok admission =>
      cases admission with
      | error reason =>
        rw [Breaker.poll_refused phase heard]
        exact asked
      | ok ticket =>
        rw [poll_admitted phase heard]
        exact (proceed_name call _ ticket progress exit).trans asked

theorem cancel_name (call : PendingCall) (b : Breaker) (reading : Reading) :
    (call.cancel b reading).state.name = b.name := by
  unfold cancel
  split
  · rfl
  · rename_i ticket _
    exact (Breaker.conclude_discreet b ticket .dropped reading).name

end PendingCall

namespace Clientele

variable {t : Clientele ε α} {number : Nat} {client : Client ε α} {act : Act ε α}

theorem perform_name (t : Clientele ε α) (act : Act ε α) :
    (t.perform act).breaker.name = t.breaker.name := by
  cases act with
  | enter operation reading => exact Breaker.ask_name t.breaker operation reading
  | start operation => rfl
  | look reading => exact (Breaker.read_discreet t.breaker reading).name
  | leave number outcome reading =>
    simp only [perform]
    split
    · rfl
    · split
      · rfl
      · exact PendingCall.finish_name t.breaker _ outcome reading
  | poll number progress entry exit =>
    simp only [perform]
    split
    · rfl
    · exact PendingCall.poll_name _ t.breaker progress entry exit
  | drop number reading =>
    simp only [perform]
    split
    · rfl
    · exact PendingCall.cancel_name _ t.breaker reading

theorem run_name (t : Clientele ε α) (script : List (Act ε α)) :
    (t.run script).breaker.name = t.breaker.name := by
  induction script generalizing t with
  | nil => rfl
  | cons act rest ih => exact (ih _).trans (t.perform_name act)

/-- No client is ever forgotten. -/
theorem perform_grows (t : Clientele ε α) (act : Act ε α) :
    t.clients.length ≤ (t.perform act).clients.length := by
  cases act with
  | enter operation reading => simp [perform, join, follow]
  | start operation => simp [perform, join]
  | look reading => exact Nat.le_refl _
  | leave number outcome reading =>
    simp only [perform]
    split
    · exact Nat.le_refl _
    · split
      · exact Nat.le_refl _
      · simp [put, follow]
  | poll number progress entry exit =>
    simp only [perform]
    split
    · exact Nat.le_refl _
    · simp [put, follow]
  | drop number reading =>
    simp only [perform]
    split
    · exact Nat.le_refl _
    · simp [put, follow]

theorem put_client? (t : Clientele ε α) (client : Client ε α) (different : other ≠ number)
    (blocking : Bool) :
    (t.put number client).client? other blocking = t.client? other blocking := by
  simp only [client?, put]
  rw [List.getElem?_set_ne different.symm]

theorem put_comm (t : Clientele ε α) (first second : Client ε α) (different : other ≠ number) :
    (t.put number first).put other second = (t.put other second).put number first := by
  simp only [put]
  rw [List.set_comm _ _ different.symm]

@[simp] theorem put_breaker (t : Clientele ε α) (client : Client ε α) :
    (t.put number client).breaker = t.breaker := rfl

theorem follow_pure (t : Clientele ε α) (value : β) : t.follow (.pure t.breaker value) = t := by
  simp [follow, Step.pure]

@[simp] theorem put_put (t : Clientele ε α) (old new : Client ε α) :
    (t.put number old).put number new = t.put number new := by
  simp [put]

theorem put_elsewhere (t : Clientele ε α) (client : Client ε α) (different : other ≠ number) :
    (t.put number client).clients[other]? = t.clients[other]? := by
  simp only [put]
  rw [List.getElem?_set_ne different.symm]

theorem put_there (known : number < t.clients.length) (client : Client ε α) :
    (t.put number client).clients[number]? = some client := by
  simp only [put]
  rw [List.getElem?_set_self known]

theorem put_self (known : t.clients[number]? = some client) : t.put number client = t := by
  obtain ⟨bound, found⟩ := List.getElem?_eq_some_iff.mp known
  simp only [put, ← found, List.set_getElem_self]

theorem put_join (known : number < t.clients.length) (client new : Client ε α) :
    (t.put number client).join new = (t.join new).put number client := by
  simp only [put, join]
  rw [List.set_append_left _ _ known]

/-- What others do does not depend on a client, and does nothing to it. -/
theorem perform_put (elsewhere : act.concerns number = false) (known : number < t.clients.length)
    (client : Client ε α) :
    (t.put number client).perform act = (t.perform act).put number client := by
  cases act with
  | enter operation reading =>
    exact put_join (t := t.follow ((t.breaker.ask operation reading).relabel _)) known client _
  | start operation => exact put_join known client _
  | look reading => rfl
  | leave other outcome reading =>
    have different : other ≠ number := by simpa [Act.concerns] using elsewhere
    simp only [perform, put_client? t client different]
    split
    · rfl
    · split
      · rfl
      · rename_i ticket _
        exact put_comm (t.follow ((t.breaker.finish ticket outcome reading).relabel _)) client _
          different
  | poll other progress entry exit =>
    have different : other ≠ number := by simpa [Act.concerns] using elsewhere
    simp only [perform, put_client? t client different]
    split
    · rfl
    · exact put_comm (t.follow _) client _ different
  | drop other reading =>
    have different : other ≠ number := by simpa [Act.concerns] using elsewhere
    simp only [perform, put_client? t client different]
    split
    · rfl
    · exact put_comm (t.follow _) client _ different

/-- Nothing can come any more of a client that is through with its call. -/
theorem client?_closed (known : number < t.clients.length) (closed : client.closed = true)
    (blocking : Bool) : (t.put number client).client? number blocking = none := by
  simp only [client?, put]
  rw [List.getElem?_set_self known]
  simp [Option.filter, closed]

theorem client?_live (known : number < t.clients.length) (live : client.closed = false) :
    (t.put number client).client? number client.blocking = some client := by
  simp only [client?, put]
  rw [List.getElem?_set_self known]
  simp [Option.filter, live]

/-- An act of a client that is through with its call is none. -/
theorem perform_closed (known : number < t.clients.length) (closed : client.closed = true)
    (own : act.concerns number = true) :
    (t.put number client).perform act = t.put number client := by
  cases act with
  | enter operation reading => cases own
  | start operation => cases own
  | look reading => cases own
  | leave other outcome reading =>
    obtain rfl : other = number := by simpa [Act.concerns] using own
    simp only [perform, client?_closed known closed]
  | poll other progress entry exit =>
    obtain rfl : other = number := by simpa [Act.concerns] using own
    simp only [perform, client?_closed known closed]
  | drop other reading =>
    obtain rfl : other = number := by simpa [Act.concerns] using own
    simp only [perform, client?_closed known closed]

/-- A poll that finds the operation of a settled call unfinished leaves no trace. -/
theorem perform_idle (known : number < t.clients.length) (polls : client.blocking = false)
    (settled : client.settled = true) (entry exit : Reading) :
    (t.put number client).perform (.poll number .pending entry exit) = t.put number client := by
  obtain ⟨closed, -⟩ | ⟨live, ticket, phase⟩ := client.settled_cases settled
  · exact perform_closed known closed (beq_self_eq_true number)
  · have found := client?_live known live
    rw [polls] at found
    have same : client.polled t.breaker .pending entry exit = client := by
      obtain ⟨operation, blocking, at_, admission, starts, outcome, dropped, answer⟩ := client
      cases phase
      simp [Client.polled, Client.call, PendingCall.poll, PendingCall.proceed, Step.pure,
        Client.heard, PendingCall.invoked, Progress.outcome?]
    have idle : (client.call t.breaker.name).poll t.breaker (.pending : Progress ε α) entry exit =
        .pure t.breaker (.pending { client.call t.breaker.name with phase := .running ticket }) :=
      PendingCall.poll_running phase
    simp only [perform, found, put_breaker, same, idle]
    exact (congrArg (put · number client) (follow_pure (t.put number client) _)).trans
      (put_put t client client)

/-- Others do what they do, and the client's own polls in between come to nothing. -/
theorem run_put (known : number < t.clients.length) (polls : client.blocking = false)
    (settled : client.settled = true) (between : List (Act ε α))
    (patient : ∀ act ∈ between, act.concerns number = true →
      ∃ entry exit, act = .poll number .pending entry exit) :
    (t.put number client).run between =
      (t.run (between.filter (!·.concerns number))).put number client := by
  induction between generalizing t with
  | nil => rfl
  | cons act rest ih =>
    have later : ∀ act ∈ rest, act.concerns number = true →
        ∃ entry exit, act = .poll number .pending entry exit := fun act member =>
      patient act (.tail _ member)
    by_cases own : act.concerns number = true
    · obtain ⟨entry, exit, rfl⟩ := patient act List.mem_cons_self own
      rw [List.filter_cons_of_neg (by simp [own])]
      have idle := perform_idle known polls settled entry exit
      exact (congrArg (run · rest) idle).trans (ih known later)
    · have elsewhere : act.concerns number = false := by simpa using own
      rw [List.filter_cons_of_pos (by simp [own])]
      refine (congrArg (run · rest) (perform_put elsewhere known client)).trans ?_
      exact ih (Nat.lt_of_lt_of_le known (t.perform_grows act)) later

theorem join_put (t : Clientele ε α) (old new : Client ε α) :
    (t.join old).put t.clients.length new = t.join new := by
  simp [put, join]

/-- One who comes and polls right away. -/
theorem start_and_poll (t : Clientele ε α) (operation : String) (progress : Progress ε α)
    (entry exit : Reading) :
    let client : Client ε α := { operation, blocking := false }
    t.run [.start operation, .poll t.clients.length progress entry exit] =
      (t.follow ((client.call t.breaker.name).poll t.breaker progress entry exit)).join
        (client.polled t.breaker progress entry exit) := by
  intro client
  have found : (t.join client).client? t.clients.length false = some client := by
    simp [client?, join, client, Client.closed, Option.filter]
  have came : t.perform (.start operation) = t.join client := rfl
  simp only [run, List.foldl_cons, List.foldl_nil, came]
  simp only [perform, found]
  exact join_put (t.follow ((client.call t.breaker.name).poll t.breaker progress entry exit))
    client _

/-- One who has asked like those that wait for the answer, but will poll from now on. -/
def entered (t : Clientele ε α) (operation : String) (reading : Reading) : Clientele ε α :=
  (t.perform (.enter operation reading)).put t.clients.length
    { Client.asked { operation, blocking := true } t.breaker reading with blocking := false }

theorem entered_eq (t : Clientele ε α) (operation : String) (reading : Reading) :
    t.entered operation reading =
      (t.follow ((t.breaker.ask operation reading).relabel
        (Effect.under ⟨t.breaker.name, operation⟩))).join
          { Client.asked { operation, blocking := true } t.breaker reading with
            blocking := false } :=
  join_put (t.follow ((t.breaker.ask operation reading).relabel _)) _ _

/-- A call that is turned away at the first poll has come to the same as one that waits, whatever
its operation would have done. -/
theorem start_and_poll_unadmitted {operation : String} {entry : Reading}
    (unadmitted : ∀ ticket, (t.breaker.ask operation entry).result ≠ .ok (.ok ticket))
    (progress : Progress ε α) (exit : Reading) :
    t.run [.start operation, .poll t.clients.length progress entry exit] =
      t.entered operation entry := by
  rw [entered_eq, start_and_poll]
  unfold Client.polled Client.asked
  dsimp only [Client.call, Rehearsal.startsNow, PendingCall.invoked]
  cases asked : (t.breaker.ask operation entry).result with
  | error cause =>
    rw [PendingCall.poll_crashed rfl asked]
    rfl
  | ok admission =>
    cases admission with
    | ok ticket => exact absurd asked (unadmitted ticket)
    | error reason =>
      rw [Breaker.poll_refused rfl asked]
      rfl

/-- So has one whose operation is found unfinished. -/
theorem start_and_poll_pending (t : Clientele ε α) (operation : String) (entry exit : Reading) :
    t.run [.start operation, .poll t.clients.length .pending entry exit] =
      t.entered operation entry := by
  by_cases admitted : ∃ ticket, (t.breaker.ask operation entry).result = .ok (.ok ticket)
  · obtain ⟨ticket, asked⟩ := admitted
    rw [entered_eq, start_and_poll]
    unfold Client.polled Client.asked
    dsimp only [Client.call, Rehearsal.startsNow, PendingCall.invoked]
    rw [asked, PendingCall.poll_admitted rfl asked]
    simp [PendingCall.proceed, Step.after, Step.pure, Client.heard, follow, Step.relabel,
      Progress.outcome?, Except.toOption, PendingCall.span]
  · exact start_and_poll_unadmitted (not_exists.mp admitted) .pending exit

theorem enter_known (t : Clientele ε α) (operation : String) (reading : Reading) :
    t.clients.length < (t.perform (.enter operation reading)).clients.length := by
  simp [perform, join, follow]

/-- What a call that blocks and one that is polled have come to, from before they ended. -/
structure SameCall (number : Nat) (span : Span) (before blocked polled : Clientele ε α) : Prop where
  breaker : polled.breaker = blocked.breaker
  /-- Both clients have got the same. -/
  answer : ∃ answer, blocked.clients[number]?.bind Client.answer = some answer ∧
    polled.clients[number]?.bind Client.answer = some answer
  others : ∀ other, other ≠ number → polled.clients[other]? = blocked.clients[other]?
  /-- The metrics and the log are told the same, in the same order. -/
  effects : polled.effects = blocked.effects
  /-- Only the end of the call is not in the same place in the log. -/
  spans : ∃ completion : List Effect,
    blocked.reports = before.reports ++ completion.map (Effect.under span) ∧
    polled.reports = before.reports ++ completion.map Effect.bare

/-- A call that was dropped and one whose operation has failed. -/
structure SameFailure (number : Nat) (failed dropped : Clientele ε α) : Prop where
  breaker : dropped.breaker = failed.breaker
  others : ∀ other, other ≠ number → dropped.clients[other]? = failed.clients[other]?
  meters : ∀ meters : Meters, meters.recordAll dropped.effects = meters.recordAll failed.effects

/-- The operation of one who waits for it ends. -/
theorem perform_leave (known : number < t.clients.length) (waits : client.blocking = true)
    (live : client.closed = false) (phase : client.phase = .running ticket) (outcome : Outcome ε α)
    (reading : Reading) :
    (t.put number client).perform (.leave number outcome reading) =
      (t.follow ((t.breaker.finish ticket outcome reading).relabel
        (Effect.under (client.span t.breaker.name)))).put number
          (client.finished t.breaker ticket outcome reading) := by
  have found := client?_live known live
  rw [waits] at found
  simp only [perform, found, Client.ticket?, phase]
  exact put_put (t.follow ((t.breaker.finish ticket outcome reading).relabel _)) client _

/-- The operation of one who polls is found to have ended. -/
theorem perform_poll_done (known : number < t.clients.length) (polls : client.blocking = false)
    (live : client.closed = false) (phase : client.phase = .running ticket) (outcome : Outcome ε α)
    (entry exit : Reading) :
    (t.put number client).perform (.poll number (.done outcome) entry exit) =
      (t.follow ((t.breaker.finish ticket outcome exit).relabel Effect.bare)).put number
        (client.finished t.breaker ticket outcome exit) := by
  have found := client?_live known live
  rw [polls] at found
  have going : (client.call t.breaker.name).poll t.breaker (.done outcome) entry exit =
      ((t.breaker.finish ticket outcome exit).relabel Effect.bare).map .ready :=
    PendingCall.poll_running phase
  have told : client.polled t.breaker (.done outcome) entry exit =
      client.finished t.breaker ticket outcome exit := by
    obtain ⟨operation, blocking, at_, admission, starts, _, dropped, answer⟩ := client
    cases phase
    simp only [Client.polled, Client.finished, going, Step.map, Step.relabel]
    cases (t.breaker.finish ticket outcome exit).result <;> rfl
  simp only [perform, found, put_breaker, going, told]
  exact put_put (t.follow ((t.breaker.finish ticket outcome exit).relabel Effect.bare)) client _

/-- Settled calls end in the same way, whether they block or are polled. -/
theorem sameCall_of_settled (known : number < t.clients.length) (waits : client.blocking = true)
    (settled : client.settled = true) (outcome : Outcome ε α) (entry exit : Reading) :
    SameCall number (client.span t.breaker.name) (t.put number client)
      ((t.put number client).perform (.leave number outcome exit))
      ((t.put number { client with blocking := false }).perform
        (.poll number (.done outcome) entry exit)) := by
  let polling : Client ε α := { client with blocking := false }
  obtain ⟨closed, answer, told⟩ | ⟨live, ticket, phase⟩ := client.settled_cases settled
  · have through : polling.closed = true := closed
    have blocked : (t.put number client).perform (.leave number outcome exit) =
        t.put number client := perform_closed known closed (beq_self_eq_true number)
    have polled : (t.put number polling).perform (.poll number (.done outcome) entry exit) =
        t.put number polling := perform_closed known through (beq_self_eq_true number)
    rw [blocked, polled]
    constructor
    · rfl
    · rw [put_there known, put_there known]
      exact ⟨answer, told, told⟩
    · intro other different
      rw [put_elsewhere t _ different, put_elsewhere t _ different]
    · rfl
    · exact ⟨[], (List.append_nil _).symm, (List.append_nil _).symm⟩
  · let ended := t.breaker.finish ticket outcome exit
    have alive : polling.closed = false := live
    have running : polling.phase = .running ticket := phase
    rw [perform_leave known waits live phase, perform_poll_done known rfl alive running]
    constructor
    · rfl
    · rw [put_there (t := t.follow _) known, put_there (t := t.follow _) known]
      exact ⟨ended.result, rfl, rfl⟩
    · intro other different
      rw [put_elsewhere (t.follow _) _ different, put_elsewhere (t.follow _) _ different]
      rfl
    · simp [effects, put, follow, Step.relabel, Function.comp_def, Effect.bare, Effect.under]
    · exact ⟨ended.effects, rfl, rfl⟩

/-- The metrics hear nothing of what is only written to the log. -/
theorem recordAll_event (meters : Meters) (before after : List Effect) (event : Event) :
    meters.recordAll (before ++ .event event :: after) = meters.recordAll (before ++ after) := by
  simp [Meters.recordAll, Meters.record]

/-- A settled call that is dropped ends like one whose operation fails. -/
theorem sameFailure_of_settled (known : number < t.clients.length)
    (waits : client.blocking = true) (settled : client.settled = true) (error : ε)
    (reading : Reading) :
    SameFailure number ((t.put number client).perform (.leave number (.failure error) reading))
      ((t.put number { client with blocking := false }).perform (.drop number reading)) := by
  let polling : Client ε α := { client with blocking := false }
  obtain ⟨closed, answer, told⟩ | ⟨live, ticket, phase⟩ := client.settled_cases settled
  · have through : polling.closed = true := closed
    have failed : (t.put number client).perform (.leave number (.failure error) reading) =
        t.put number client := perform_closed known closed (beq_self_eq_true number)
    have dropped : (t.put number polling).perform (.drop number reading) =
        t.put number polling := perform_closed known through (beq_self_eq_true number)
    rw [failed, dropped]
    refine ⟨rfl, fun other different => ?_, fun meters => rfl⟩
    rw [put_elsewhere t _ different, put_elsewhere t _ different]
  · let ended := t.breaker.complete ticket false reading
    have dropped : (t.put number polling).perform (.drop number reading) =
        (t.follow ((ended.after [.event (.operationDropped t.breaker.name)]).relabel
          Effect.bare)).put number { polling with dropped := true } := by
      have found : (t.put number polling).client? number false = some polling :=
        client?_live known live
      have going : (polling.call t.breaker.name).cancel t.breaker reading =
          (ended.after [.event (.operationDropped t.breaker.name)]).relabel Effect.bare := by
        simp [PendingCall.cancel, Client.call, polling, phase, ended, Breaker.abandon]
      simp only [perform, found, put_breaker, going]
      exact put_put (t.follow ((ended.after _).relabel Effect.bare)) polling _
    rw [perform_leave known waits live phase, dropped]
    refine ⟨rfl, fun other different => ?_, fun meters => ?_⟩
    · rw [put_elsewhere (t.follow _) _ different, put_elsewhere (t.follow _) _ different]
      rfl
    · have silent (event : Event) := recordAll_event meters t.effects ended.effects event
      have heard := (silent (.operationDropped t.breaker.name)).trans
        (silent (.operationFailed t.breaker.name)).symm
      simpa [effects, put, follow, Step.relabel, Step.after, Function.comp_def, Effect.bare,
        Effect.under, Breaker.finish, Breaker.settle, Step.map, ended] using heard

/-- A call has come to the same in both, apart from how far it seems to have come. -/
structure SameEnd (number : Nat) (once twice : Clientele ε α) : Prop where
  breaker : once.breaker = twice.breaker
  reports : once.reports = twice.reports
  answer : once.clients[number]?.bind Client.answer = twice.clients[number]?.bind Client.answer
  others : ∀ other, other ≠ number → once.clients[other]? = twice.clients[other]?

theorem start_and_poll_admitted {operation : String} {entry : Reading}
    (asked : (t.breaker.ask operation entry).result = .ok (.ok ticket)) (outcome : Outcome ε α)
    (exit : Reading) :
    SameEnd t.clients.length
      (t.run [.start operation, .poll t.clients.length (.done outcome) entry exit])
      ((t.entered operation entry).perform
        (.poll t.clients.length (.done outcome) entry exit)) := by
  let base := t.perform (.enter operation entry)
  let client : Client ε α :=
    { Client.asked { operation, blocking := true } t.breaker entry with blocking := false }
  let polling : Client ε α := { operation, blocking := false }
  let call : PendingCall := polling.call t.breaker.name
  let ended := (t.breaker.ask operation entry).state.finish ticket outcome exit
  have known : t.clients.length < base.clients.length := t.enter_known operation entry
  have live : client.closed = false := by simp [client, Client.asked, asked, Client.closed]
  have phase : client.phase = .running ticket := by simp [client, Client.asked, asked]
  have twice : (t.entered operation entry).perform
      (.poll t.clients.length (.done outcome) entry exit) =
      (base.follow (ended.relabel Effect.bare)).put t.clients.length
        (client.finished base.breaker ticket outcome exit) :=
    perform_poll_done known rfl live phase outcome entry exit
  have going : call.poll t.breaker (.done outcome) entry exit =
      ((ended.relabel Effect.bare).map .ready).after
        ((t.breaker.ask operation entry).effects.map (Effect.under call.span)) :=
    PendingCall.poll_admitted rfl asked
  have told : (polling.polled t.breaker (.done outcome) entry exit).answer = some ended.result := by
    simp only [Client.polled, call] at going ⊢
    simp only [going, Step.after, Step.map, Step.relabel]
    cases ended.result <;> rfl
  let asking := (t.follow (call.poll t.breaker (.done outcome) entry exit)).join
    (Client.asked { operation, blocking := true } t.breaker entry)
  have there : t.clients.length < asking.clients.length := known
  have once : t.run [.start operation, .poll t.clients.length (.done outcome) entry exit] =
      asking.put t.clients.length (polling.polled t.breaker (.done outcome) entry exit) :=
    (start_and_poll t operation (.done outcome) entry exit).trans (join_put _ _ _).symm
  rw [once, twice]
  constructor
  · simp only [put_breaker, asking, going]
    rfl
  · simp only [asking, going]
    simp [base, perform, join, follow, put, Step.after, Step.map, Step.relabel, call, polling,
      Client.call, PendingCall.span, Client.span]
  · rw [put_there there, put_there (t := base.follow _) known]
    exact told
  · intro other different
    rw [put_elsewhere _ _ different, put_elsewhere _ _ different]
    rfl

/-- A call whose first poll finds the operation finished has come to the same as one that has
entered and is polled as its operation ends. -/
theorem start_and_poll_done (t : Clientele ε α) (operation : String) (outcome : Outcome ε α)
    (entry exit : Reading) :
    SameEnd t.clients.length
      (t.run [.start operation, .poll t.clients.length (.done outcome) entry exit])
      ((t.entered operation entry).perform
        (.poll t.clients.length (.done outcome) entry exit)) := by
  by_cases admitted : ∃ ticket, (t.breaker.ask operation entry).result = .ok (.ok ticket)
  · obtain ⟨ticket, asked⟩ := admitted
    exact start_and_poll_admitted asked outcome exit
  · have closed : (Client.asked { operation, blocking := true } t.breaker entry :
        Client ε α).closed = true := by
      simp only [Client.closed, Client.asked]
      cases asked : (t.breaker.ask operation entry).result with
      | error cause => rfl
      | ok admission =>
        cases admission with
        | error reason => rfl
        | ok ticket => exact absurd ⟨ticket, asked⟩ admitted
    have once := start_and_poll_unadmitted (not_exists.mp admitted) (.done outcome) exit
    have twice : (t.entered operation entry).perform
        (.poll t.clients.length (.done outcome) entry exit) = t.entered operation entry :=
      perform_closed (t.enter_known operation entry) closed (beq_self_eq_true t.clients.length)
    rw [once, twice]
    exact ⟨rfl, rfl, rfl, fun other different => rfl⟩

/-- What others do comes to the same whatever a client has come to. -/
theorem run_elsewhere (known : number < t.clients.length) (client : Client ε α)
    (script : List (Act ε α)) (elsewhere : ∀ act ∈ script, act.concerns number = false) :
    (t.put number client).run script = (t.run script).put number client := by
  induction script generalizing t with
  | nil => rfl
  | cons act rest ih =>
    have first := perform_put (elsewhere act List.mem_cons_self) known client
    have later := ih (Nat.lt_of_lt_of_le known (t.perform_grows act)) fun act member =>
      elsewhere act (.tail _ member)
    exact (congrArg (run · rest) first).trans later

theorem run_grows (t : Clientele ε α) (script : List (Act ε α)) :
    t.clients.length ≤ (t.run script).clients.length := by
  induction script generalizing t with
  | nil => exact Nat.le_refl _
  | cons act rest ih => exact Nat.le_trans (t.perform_grows act) (ih _)

/-- What a call that blocks has come to when others have done what they do. -/
theorem run_blocking (t : Clientele ε α) (operation : String) (reading : Reading)
    (others : List (Act ε α)) (elsewhere : ∀ act ∈ others, act.concerns t.clients.length = false) :
    t.run (.enter operation reading :: others) =
      ((t.perform (.enter operation reading)).run others).put t.clients.length
        (Client.asked { operation, blocking := true } t.breaker reading) := by
  have here : (t.perform (.enter operation reading)).put t.clients.length
      (Client.asked { operation, blocking := true } t.breaker reading) =
      t.perform (.enter operation reading) := put_self List.getElem?_concat_length
  have later := run_elsewhere (t.enter_known operation reading)
    (Client.asked { operation, blocking := true } t.breaker reading) others elsewhere
  rw [here] at later
  exact later

/-- What a call that is polled in vain has come to then. -/
theorem run_polling (t : Clientele ε α) (operation : String) (entry exit : Reading)
    (between : List (Act ε α))
    (patient : ∀ act ∈ between, act.concerns t.clients.length = true →
      ∃ entry exit, act = .poll t.clients.length .pending entry exit) :
    t.run (.start operation :: .poll t.clients.length .pending entry exit :: between) =
      ((t.perform (.enter operation entry)).run
        (between.filter (!·.concerns t.clients.length))).put t.clients.length
          { Client.asked { operation, blocking := true } t.breaker entry with
            blocking := false } := by
  have came : t.run (.start operation :: .poll t.clients.length .pending entry exit :: between) =
      (t.entered operation entry).run between :=
    congrArg (run · between) (start_and_poll_pending t operation entry exit)
  let polling : Client ε α :=
    { Client.asked { operation, blocking := true } t.breaker entry with blocking := false }
  have polls : polling.blocking = false := rfl
  have settled : polling.settled = true :=
    Client.asked_settled rfl t.breaker entry
  rw [came]
  exact run_put (t.enter_known operation entry) polls settled between patient

/-- It makes no difference to a breaker, to the client or to anybody else whether a call blocks or
is polled, however often it is polled before its operation ends and whatever happens meanwhile:
only the reports of its end stand elsewhere in the log. And a call that is dropped has failed. The
clocks count as the call enters and as it ends; what they show at other polls does not. -/
theorem polled_calls_are_blocking_calls (t : Clientele ε α) (operation : String)
    (first last : Reading) (between : List (Act ε α))
    (patient : ∀ act ∈ between, act.concerns t.clients.length = true →
      ∃ entry exit, act = .poll t.clients.length .pending entry exit) :
    let number := t.clients.length
    let span : Span := ⟨t.breaker.name, operation⟩
    let blocking := t.run (.enter operation first :: between.filter (!·.concerns number))
    let polling (exit : Reading) :=
      t.run (.start operation :: .poll number .pending first exit :: between)
    (∀ outcome exit entry, SameCall number span blocking
        (blocking.perform (.leave number outcome last))
        ((polling exit).perform (.poll number (.done outcome) entry last))) ∧
      (∀ outcome, SameCall number span (t.run [.enter operation first])
        (t.run [.enter operation first, .leave number outcome last])
        (t.run [.start operation, .poll number (.done outcome) first last])) ∧
      ∀ error exit, SameFailure number (blocking.perform (.leave number (.failure error) last))
        ((polling exit).perform (.drop number last)) := by
  intro number span blocking polling
  let base := t.perform (.enter operation first)
  let after := base.run (between.filter (!·.concerns number))
  let client : Client ε α := Client.asked { operation, blocking := true } t.breaker first
  have known : number < base.clients.length := t.enter_known operation first
  have later : number < after.clients.length := Nat.lt_of_lt_of_le known (base.run_grows _)
  have waits : client.blocking = true := Client.asked_blocking _ _ _
  have settled : client.settled = true := Client.asked_settled rfl _ _
  have blocked : blocking = after.put number client := by
    refine t.run_blocking operation first _ fun act member => ?_
    simpa using (List.mem_filter.mp member).2
  have polled (exit : Reading) :
      polling exit = after.put number { client with blocking := false } :=
    t.run_polling operation first exit between patient
  have place (t' : Clientele ε α) (same : t'.breaker.name = t.breaker.name) :
      client.span t'.breaker.name = span := by
    rw [Client.span, Client.asked_operation, same]
  have name : base.breaker.name = t.breaker.name := t.perform_name _
  refine ⟨fun outcome exit entry => ?_, fun outcome => ?_, fun error exit => ?_⟩
  · have same := sameCall_of_settled later waits settled outcome entry last
    rwa [place _ ((base.run_name _).trans name), ← blocked, ← polled exit] at same
  · have same := sameCall_of_settled known waits settled outcome first last
    have here : base.put number client = base := put_self List.getElem?_concat_length
    rw [place _ name, here] at same
    have once := start_and_poll_done t operation outcome first last
    constructor
    · exact once.breaker.trans same.breaker
    · obtain ⟨got, waited, polled⟩ := same.answer
      exact ⟨got, waited, once.answer.trans polled⟩
    · intro other different
      exact (once.others other different).trans (same.others other different)
    · exact (congrArg (List.map Report.effect) once.reports).trans same.effects
    · obtain ⟨completion, waited, polled⟩ := same.spans
      exact ⟨completion, waited, once.reports.trans polled⟩
  · have same := sameFailure_of_settled later waits settled error last
    rwa [← blocked, ← polled exit] at same

/-- While a call is under way another one fails and opens the breaker, so the end comes too late.
That is the same for a call that blocks and for one that was polled three times in vain. A call
that enters and fails in one poll opens the breaker at the time when it fails. -/
theorem polled_calls_are_blocking_calls_across_trip :
    let t : Clientele String Nat := .fresh .touchy
    let trip : List (Act String Nat) := [
      .enter "other" (.past 2),
      .leave 1 (.failure "unreachable") (.past 3)]
    let between : List (Act String Nat) :=
      .poll 0 .pending (.past 1) (.past 1) :: trip ++ [.poll 0 .pending (.past 4) (.past 4)]
    let blocking := t.run (.enter "slow" (.past 0) :: trip)
    let polling := t.run (.start "slow" :: .poll 0 .pending (.past 0) (.past 0) :: between)
    let polledOnce :=
      t.run [.start "slow", .poll 0 (.done (.failure "unreachable")) (.past 0) (.past 5)]
    (∀ act ∈ between, act.concerns 0 = true → ∃ entry exit, act = .poll 0 .pending entry exit) ∧
      SameCall 0 ⟨"touchy", "slow"⟩ blocking
        (blocking.perform (.leave 0 (.value 7) (.past 5)))
        (polling.perform (.poll 0 (.done (.value 7)) (.past 5) (.past 5))) ∧
      SameCall 0 ⟨"touchy", "slow"⟩ (t.run [.enter "slow" (.past 0)])
        (t.run [.enter "slow" (.past 0), .leave 0 (.failure "unreachable") (.past 5)])
        polledOnce ∧
      SameFailure 0 (blocking.perform (.leave 0 (.failure "cancelled") (.past 5)))
        (polling.perform (.drop 0 (.past 5))) ∧
      blocking.breaker.mode = .opened ∧
      polledOnce.breaker.mode = .opened ∧ polledOnce.breaker.changedAt.nanos = 5 ∧
      (polling.perform (.drop 0 (.past 5))).meters.value (.calls "touchy" false) = 2 := by
  intro t trip between blocking polling polledOnce
  have patient : ∀ act ∈ between, act.concerns 0 = true →
      ∃ entry exit, act = .poll 0 .pending entry exit := by
    intro act member own
    simp only [between, trip, List.cons_append, List.nil_append, List.mem_cons, List.not_mem_nil,
      or_false] at member
    rcases member with rfl | rfl | rfl | rfl
    · exact ⟨_, _, rfl⟩
    · cases own
    · cases own
    · exact ⟨_, _, rfl⟩
  obtain ⟨ended, once, failed⟩ :=
    polled_calls_are_blocking_calls t "slow" (.past 0) (.past 5) between patient
  refine ⟨patient, ended (.value 7) (.past 0) (.past 5), once (.failure "unreachable"),
    failed "cancelled" (.past 0), ?_⟩
  decide

end Clientele
end Fusebox
