import Fusebox.Proofs.Shutdown.Backlog
import Mathlib.Data.Set.Card

/-! No receiver of the signal misses that it was triggered. Receivers come and go at any time, look
as often as they like, and outlive the sender. Whatever they do, each of them is told of as many
messages as were sent since it subscribed, the lost ones included, before it finds that there is
nothing new; and it finds that after two looks at most. -/
namespace Fusebox.ShutdownSignal

variable {signal : ShutdownSignal} {id : String} {past since : List Record} {owed : Nat}

/-- Where a script leaves a new signal. -/
def afterAll (script : List Command) : ShutdownSignal := (performAll {} script).1

/-- What a script does with a new signal, and what comes of it. -/
def history (script : List Command) : List Record :=
  List.zipWith Record.mk script (performAll {} script).2

/-- A receiver that has subscribed and is still there, and what was done since. -/
structure Listening (past : List Record) (id : String) (since : List Record) : Prop where
  subscribed : ∃ before, past = before ++ ⟨.subscribe id, .done⟩ :: since
  stays : ∀ record ∈ since, ¬record.Ends id

/-- What a receiver is told if it looks after a script. -/
def next (script : List Command) (id : String) : Answer :=
  ((afterAll script).perform (.receive id)).2

/-- How a receiver is served that looks after a script. -/
structure Served (script : List Command) (id : String) (since : List Record) : Prop where
  answered : ∃ what, next script id = .received what
  /-- It finds nothing just when it has been told of all messages since it subscribed. -/
  complete : next script id = .received .empty ∨ next script id = .received .closed ↔
    delivered id since + lost id since = triggered since
  /-- It is never told of more than these. -/
  sound : delivered id since + lost id since ≤ triggered since
  /-- What was done before it subscribed makes no difference to it. -/
  fresh : ∀ other, Listening (history other) id since → next other id = next script id
  /-- If it has not looked since the signal was triggered, it finds something. -/
  notified : ∀ earlier later, since = earlier ++ ⟨.trigger, .done⟩ :: later →
    (∀ record ∈ later, record.command ≠ .receive id) →
    next script id = .received .message ∨ ∃ missed, next script id = .received (.lagged missed)
  /-- If it has looked twice since the signal was triggered, it finds nothing. -/
  drained : ∀ earlier first between second later,
    since = earlier ++ ⟨.receive id, first⟩ :: between ++ ⟨.receive id, second⟩ :: later →
    ⟨.trigger, .done⟩ ∉ between → ⟨.trigger, .done⟩ ∉ later →
    next script id = .received (if .destroy ∈ script then .closed else .empty)

theorem performAll_append (signal : ShutdownSignal) (first second : List Command) :
    signal.performAll (first ++ second) =
      (((signal.performAll first).1.performAll second).1,
        (signal.performAll first).2 ++ ((signal.performAll first).1.performAll second).2) := by
  induction first generalizing signal with
  | nil => rfl
  | cons command rest ih =>
    simp only [List.cons_append, performAll, ih]

theorem length_performAll (signal : ShutdownSignal) (script : List Command) :
    (signal.performAll script).2.length = script.length := by
  induction script generalizing signal with
  | nil => rfl
  | cons command rest ih =>
    simp only [performAll, List.length_cons, ih]

theorem afterAll_concat (script : List Command) (command : Command) :
    afterAll (script ++ [command]) = ((afterAll script).perform command).1 := by
  rw [afterAll, performAll_append]
  rfl

theorem history_concat (script : List Command) (command : Command) :
    history (script ++ [command]) = history script ++ [(afterAll script).record command] := by
  rw [history, performAll_append, List.zipWith_append (length_performAll {} script).symm]
  rfl

/-- A receiver is there because it has just subscribed, or because it was and has stayed. -/
theorem listening_concat {record : Record} :
    Listening (past ++ [record]) id since ↔
      record = ⟨.subscribe id, .done⟩ ∧ since = [] ∨
      ∃ earlier, since = earlier ++ [record] ∧ Listening past id earlier ∧ ¬record.Ends id := by
  constructor
  · rintro ⟨⟨before, split⟩, stays⟩
    rcases List.eq_nil_or_concat' since with rfl | ⟨earlier, last, rfl⟩
    · have newest := List.append_inj_right' split rfl
      exact .inl ⟨List.head_eq_of_cons_eq newest, rfl⟩
    · rw [← List.cons_append, ← List.append_assoc] at split
      obtain ⟨rfl, newest⟩ := List.append_inj' split rfl
      cases newest
      refine .inr ⟨earlier, rfl, ⟨⟨before, rfl⟩, fun old member => ?_⟩, ?_⟩
      · exact stays old (List.mem_append_left _ member)
      · exact stays record (List.mem_append_right _ (.head _))
  · rintro (⟨rfl, rfl⟩ | ⟨earlier, rfl, ⟨⟨before, rfl⟩, stays⟩, still⟩)
    · exact ⟨⟨past, rfl⟩, fun _ member => nomatch member⟩
    · refine ⟨⟨before, by simp⟩, fun old member => ?_⟩
      rcases List.mem_append.mp member with old_ | new
      · exact stays old old_
      · rw [List.mem_singleton.mp new]
        exact still

/-- A receiver finds what it should, and all that was sent since it subscribed is accounted for. -/
structure Informed (signal : ShutdownSignal) (id : String) (since : List Record) : Prop where
  owes : signal.Owes id (waiting id since)
  accounted : delivered id since + lost id since + waiting id since = triggered since
  alive : signal.alive = true ↔ ∀ record ∈ since, record.command ≠ .destroy

/-- The receivers of a signal are those that listen, and all of them are informed. -/
structure Tracks (signal : ShutdownSignal) (past : List Record) : Prop where
  distinct : (signal.receivers.map Prod.fst).Nodup
  known : ∀ id, (signal.receivers.lookup id).isSome ↔ ∃ since, Listening past id since
  informed : ∀ id since, Listening past id since → signal.Informed id since

/-- Only its destruction ends a sender. -/
theorem perform_alive (signal : ShutdownSignal) (command : Command) :
    (signal.perform command).1.alive = true ↔ signal.alive = true ∧ command ≠ .destroy := by
  cases command with
  | subscribe other => cases alive : signal.alive <;> simp [perform, subscribe, alive]
  | trigger => cases alive : signal.alive <;> simp [perform, trigger, alive]
  | receiverCount => simp [perform]
  | drop other => simp [perform, drop]
  | destroy => simp [perform, destroy]
  | receive other =>
    simp only [perform, receive?]
    cases signal.receivers.lookup other <;> simp

/-- Who is there after a command has subscribed by it, or was there and has not been ended by it. -/
theorem perform_known (signal : ShutdownSignal) (command : Command) (id : String) :
    ((signal.perform command).1.receivers.lookup id).isSome ↔
      signal.record command = ⟨.subscribe id, .done⟩ ∨
      (signal.receivers.lookup id).isSome ∧ ¬(signal.record command).Ends id := by
  cases command with
  | subscribe other =>
    cases alive : signal.alive with
    | false => simp [perform, record, Record.Ends, alive]
    | true =>
      by_cases same : id = other
      · simp [perform, record, alive, subscribe, same]
      · simp [perform, record, Record.Ends, alive, subscribe, List.lookup_cons,
          beq_false_of_ne same, lookup_without _ same, Ne.symm same]
  | trigger => cases alive : signal.alive <;> simp [perform, trigger, record, Record.Ends, alive]
  | receiverCount => simp [perform, record, Record.Ends]
  | drop other =>
    by_cases same : id = other
    · simp [perform, drop, record, Record.Ends, same, lookup_gone]
    · simp [perform, drop, record, Record.Ends, lookup_without _ same, Ne.symm same]
  | destroy => simp [perform, destroy, record, Record.Ends]
  | receive other =>
    simp only [perform, receive?, record, Record.Ends]
    cases signal.receivers.lookup other with
    | none => simp
    | some seen =>
      simp only [Option.map_some, lookup_updated, Option.isSome_map]
      simp

/-- No two receivers have the same name. -/
theorem perform_distinct (distinct : (signal.receivers.map Prod.fst).Nodup) (command : Command) :
    ((signal.perform command).1.receivers.map Prod.fst).Nodup := by
  have kept (other : String) : ((signal.receivers.filter fun entry => entry.1 != other).map
      Prod.fst).Nodup := distinct.sublist (List.filter_sublist.map Prod.fst)
  cases command with
  | subscribe other =>
    cases alive : signal.alive with
    | false => simpa [perform, alive] using distinct
    | true =>
      simp only [perform, alive, ↓reduceIte, subscribe, List.map_cons, List.nodup_cons]
      refine ⟨fun member => ?_, kept other⟩
      obtain ⟨entry, still, rfl⟩ := List.mem_map.mp member
      simp at still
  | trigger => cases alive : signal.alive <;> simpa [perform, trigger, alive] using distinct
  | receiverCount => exact distinct
  | drop other => exact kept other
  | destroy => exact distinct
  | receive other =>
    simp only [perform, receive?]
    cases signal.receivers.lookup other with
    | none => exact distinct
    | some seen =>
      rw [Option.map_some, names_updated]
      exact distinct

theorem waiting_append (id : String) (earlier later : List Record) :
    waiting id (earlier ++ later) = later.foldl (Record.waiting id) (waiting id earlier) :=
  List.foldl_append

/-- A receiver can subscribe as long as the sender is there. -/
theorem record_eq_subscribed {command : Command} :
    signal.record command = ⟨.subscribe id, .done⟩ ↔
      command = .subscribe id ∧ signal.alive = true := by
  simp only [record, Record.mk.injEq]
  refine and_congr_right fun same => ?_
  subst same
  cases alive : signal.alive <;> simp [perform, alive]

theorem Informed.subscribed (alive : signal.alive = true) :
    (signal.perform (.subscribe id)).1.Informed id [] := by
  rw [perform, if_pos alive]
  refine ⟨⟨signal.sent, ?_, rfl⟩, rfl, ?_⟩
  · simp [subscribe]
  · simpa [subscribe] using alive

theorem Informed.step (informed : signal.Informed id since) {command : Command}
    (stays : ¬(signal.record command).Ends id) :
    (signal.perform command).1.Informed id (since ++ [signal.record command]) := by
  have accounts := perform_accounts informed.owes command
  have accounted := informed.accounted
  constructor
  · rw [waiting_append]
    exact perform_owes informed.owes stays
  · rw [waiting_append]
    simp only [delivered, lost, triggered, List.count_append, List.map_append, List.sum_append,
      List.foldl_cons, List.foldl_nil] at accounts accounted ⊢
    omega
  · rw [perform_alive, informed.alive, List.forall_mem_append, List.forall_mem_singleton]
    rfl

theorem tracks_new : Tracks {} [] := by
  have nobody (id : String) (since : List Record) : ¬Listening [] id since := by
    rintro ⟨⟨before, split⟩, -⟩
    simp at split
  exact ⟨.nil, fun id => by simp [nobody], fun id since there => absurd there (nobody id since)⟩

theorem Tracks.step (tracks : signal.Tracks past) (command : Command) :
    (signal.perform command).1.Tracks (past ++ [signal.record command]) := by
  constructor
  · exact perform_distinct tracks.distinct command
  · intro id
    simp only [perform_known, tracks.known, listening_concat]
    constructor
    · rintro (new | ⟨⟨earlier, there⟩, stays⟩)
      · exact ⟨[], .inl ⟨new, rfl⟩⟩
      · exact ⟨_, .inr ⟨earlier, rfl, there, stays⟩⟩
    · rintro ⟨since, ⟨new, -⟩ | ⟨earlier, -, there, stays⟩⟩
      · exact .inl new
      · exact .inr ⟨⟨earlier, there⟩, stays⟩
  · intro id since there
    rcases listening_concat.mp there with ⟨new, rfl⟩ | ⟨earlier, rfl, there, stays⟩
    · obtain ⟨rfl, alive⟩ := record_eq_subscribed.mp new
      exact .subscribed alive
    · exact (tracks.informed id earlier there).step stays

theorem tracks_history (script : List Command) : (afterAll script).Tracks (history script) := by
  induction script using List.reverseRecOn with
  | nil => exact tracks_new
  | append_singleton script command ih =>
    rw [afterAll_concat, history_concat]
    exact ih.step command

theorem alive_iff (script : List Command) :
    (afterAll script).alive = true ↔ .destroy ∉ script := by
  induction script using List.reverseRecOn with
  | nil => simp [afterAll, performAll]
  | append_singleton script command ih =>
    rw [afterAll_concat, perform_alive, ih]
    simp [not_or, eq_comm]

/-- There are as many receivers as have subscribed and are still there. -/
theorem Tracks.receiverCount (tracks : signal.Tracks past) :
    signal.receiverCount = {id | ∃ since, Listening past id since}.ncard := by
  have names : {id | ∃ since, Listening past id since} =
      ((signal.receivers.map Prod.fst).toFinset : Set String) := by
    ext id
    rw [Set.mem_ofPred_eq, ← tracks.known]
    simp
  rw [names, Set.ncard_coe_finset, List.toFinset_card_of_nodup tracks.distinct, List.length_map]
  rfl

/-- What waits for a receiver waits until it looks. -/
theorem le_foldl_waiting (unlooked : ∀ record ∈ since, record.command ≠ .receive id)
    (owed : Nat) : owed ≤ since.foldl (Record.waiting id) owed := by
  induction since generalizing owed with
  | nil => exact Nat.le_refl owed
  | cons record rest ih =>
    obtain ⟨here, rest_⟩ := List.forall_mem_cons.mp unlooked
    refine Nat.le_trans ?_ (ih rest_ _)
    rw [Record.waiting, if_neg here]
    split <;> omega

/-- Without a new message no more wait than did before. -/
theorem foldl_waiting_le (quiet : ⟨.trigger, .done⟩ ∉ since) (owed : Nat) :
    since.foldl (Record.waiting id) owed ≤ owed := by
  induction since generalizing owed with
  | nil => exact Nat.le_refl owed
  | cons record rest ih =>
    obtain ⟨here, rest_⟩ := not_or.mp (mt List.mem_cons.mpr quiet)
    refine Nat.le_trans (ih rest_ _) ?_
    rw [Record.waiting, if_neg (Ne.symm here)]
    split
    · exact left_le owed
    · exact Nat.le_refl owed

theorem Informed.next {script : List Command} (informed : (afterAll script).Informed id since) :
    next script id = .received ((afterAll script).found (waiting id since)) :=
  (perform_receive informed.owes).1

/-- A message that was sent since the last look waits. -/
theorem waiting_notified {earlier later : List Record}
    (unlooked : ∀ record ∈ later, record.command ≠ .receive id) :
    0 < waiting id (earlier ++ ⟨.trigger, .done⟩ :: later) := by
  rw [waiting_append, List.foldl_cons]
  refine Nat.lt_of_lt_of_le ?_ (le_foldl_waiting unlooked _)
  simp [Record.waiting]

/-- Nothing waits after two looks. -/
theorem waiting_drained {earlier between later : List Record} {first second : Answer}
    (quiet : ⟨.trigger, .done⟩ ∉ between) (still : ⟨.trigger, .done⟩ ∉ later) :
    waiting id (earlier ++ ⟨.receive id, first⟩ :: between ++ ⟨.receive id, second⟩ :: later) =
      0 := by
  have look (owed : Nat) (answer : Answer) :
      Record.waiting id owed ⟨.receive id, answer⟩ = left owed := by
    simp [Record.waiting]
  rw [List.append_assoc, waiting_append, List.cons_append, List.foldl_cons, List.foldl_append,
    List.foldl_cons, look, look]
  have few : between.foldl (Record.waiting id) (left (waiting id earlier)) ≤ 1 :=
    Nat.le_trans (foldl_waiting_le quiet _) (left_le_one _)
  rw [left_eq_zero few]
  exact Nat.le_zero.mp (foldl_waiting_le still 0)

theorem found_nothing (script : List Command) :
    (afterAll script).found 0 = if .destroy ∈ script then .closed else .empty := by
  have alive := alive_iff script
  by_cases destroyed : .destroy ∈ script
  · simpa [found, destroyed] using alive
  · simpa [found, destroyed] using alive

/-- A receiver finds nothing just when nothing waits for it. -/
theorem found_iff (signal : ShutdownSignal) (owed : Nat) :
    signal.found owed = .empty ∨ signal.found owed = .closed ↔ owed = 0 := by
  match owed with
  | 0 => cases alive : signal.alive <;> simp [found, alive]
  | 1 => simp [found]
  | more + 2 => simp [found]

theorem served {script : List Command} (there : Listening (history script) id since) :
    Served script id since := by
  have informed := (tracks_history script).informed id since there
  have accounted := informed.accounted
  constructor
  · exact ⟨_, informed.next⟩
  · have nothing := (afterAll script).found_iff (waiting id since)
    rw [informed.next, Answer.received.injEq, Answer.received.injEq, nothing]
    omega
  · omega
  · intro other there'
    have informed' := (tracks_history other).informed id since there'
    have same : (afterAll other).alive = (afterAll script).alive := by
      rw [Bool.eq_iff_iff, informed'.alive, informed.alive]
    rw [informed.next, informed'.next]
    unfold found
    rw [same]
  · rintro earlier later rfl unlooked
    rw [informed.next]
    match owed : waiting id (earlier ++ ⟨.trigger, .done⟩ :: later), waiting_notified unlooked with
    | 1, _ => exact .inl rfl
    | more + 2, _ => exact .inr ⟨more + 1, rfl⟩
  · rintro earlier first between second later rfl quiet still
    rw [informed.next, waiting_drained quiet still, found_nothing]

/-- No receiver of the signal misses that it was triggered, whatever is done with it, and the
receivers that are counted are those that have subscribed and are still there. -/
theorem no_receiver_misses_signal (script : List Command) :
    (∀ id since, Listening (history script) id since → Served script id since) ∧
      (afterAll script).receiverCount =
        {id | ∃ since, Listening (history script) id since}.ncard ∧
      ((afterAll script).perform .receiverCount).2 =
        if .destroy ∈ script then .destroyed
        else .count {id | ∃ since, Listening (history script) id since}.ncard := by
  have counted := (tracks_history script).receiverCount
  have alive := alive_iff script
  refine ⟨fun id since => served, counted, ?_⟩
  rw [perform, counted]
  by_cases destroyed : .destroy ∈ script
  · simpa [destroyed] using alive
  · simpa [destroyed] using alive

/-- One receiver looks after each message, and is replaced by another one that has nothing to find.
The other one does not look before the sender is gone, and finds both messages all the same. -/
theorem no_receiver_misses_signal_of_lost_sender :
    let script : List Command := [
      .trigger, .subscribe "admin", .subscribe "metrics",
      .trigger, .receive "metrics",
      .trigger, .receive "metrics", .subscribe "metrics",
      .destroy, .receive "admin", .receive "admin"]
    let late : List Record := [
      ⟨.subscribe "metrics", .done⟩,
      ⟨.trigger, .done⟩, ⟨.receive "metrics", .received .message⟩,
      ⟨.trigger, .done⟩, ⟨.receive "metrics", .received .message⟩, ⟨.subscribe "metrics", .done⟩,
      ⟨.destroy, .done⟩,
      ⟨.receive "admin", .received (.lagged 1)⟩, ⟨.receive "admin", .received .message⟩]
    let new := late.drop 6
    Listening (history script) "admin" late ∧ Listening (history script) "metrics" new ∧
      delivered "admin" late + lost "admin" late = 2 ∧ triggered late = 2 ∧
      next script "admin" = .received .closed ∧
      delivered "metrics" new + lost "metrics" new = 0 ∧ triggered new = 0 ∧
      {id | ∃ since, Listening (history script) id since}.ncard = 2 := by
  intro script late new
  obtain ⟨served, counted, -⟩ := no_receiver_misses_signal script
  have admin : Listening (history script) "admin" late :=
    ⟨⟨[⟨.trigger, .done⟩], by decide⟩, by decide⟩
  have metrics : Listening (history script) "metrics" new :=
    ⟨⟨(history script).take 7, by decide⟩, by decide⟩
  refine ⟨admin, metrics, rfl, rfl, ?_, rfl, rfl, counted.symm⟩
  exact (served "admin" late admin).drained (late.take 7) _ [] _ [] rfl (by decide) (by decide)

end Fusebox.ShutdownSignal
