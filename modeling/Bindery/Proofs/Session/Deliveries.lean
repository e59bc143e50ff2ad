import Bindery.Proofs.Session.Outcomes

/-!
# What sinks hear of

Calls are made one after the other, and sinks make none (`World.InTurn`). What the sinks have been
told of, with what the tasks of the call in progress will tell them, is then always what the frames
that have come in owe to the sinks of their moment (`World.Delivering.balance`): the frame of an
event owes its payload to each sink of the event, in the order in which they were added. When the
call has returned nothing is due any more. So a sink has heard of the frames of its event that came
in after it was added, of each once and in their order: `World.events_reach_sinks`.
-/

namespace Bindery.Session

open Bindery.Json

/-! ## Frames that are events -/

/-- What a text says if it is an event: the method that it names, and the payload. -/
def Incoming.event? (text : String) : Option (String × RawText) :=
  match parse text with
  | .ok frame =>
    match frame.message? with
    | some (.event method params) => some (method, params)
    | _ => none
  | .error _ => none

/-- A text announces an event with a payload. It has no id, and its method is the event; the payload
is the text of the parameters, which stands in the frame as it is, and an empty object if there are
none. -/
inductive Announces (text : String) (event : String) : RawText → Prop where
  | verbatim {frame : Incoming} {value : Doc} (hparse : Incoming.parse text = .ok frame)
      (hid : frame.id = none) (hmethod : frame.method = some event)
      (hvalue : Incoming.form.value? "params" (Json.parse text).doc = some value)
      (hnull : value ≠ .null) (hplace : value.text <:+: text.toList) :
      Announces text event ⟨String.ofList value.text⟩
  | empty {frame : Incoming} (hparse : Incoming.parse text = .ok frame)
      (hid : frame.id = none) (hmethod : frame.method = some event)
      (hvalue : ∀ value, Incoming.form.value? "params" (Json.parse text).doc = some value →
        value = .null) :
      Announces text event .emptyObject

namespace Incoming

theorem event?_eq_some_iff {text event : String} {params : RawText} :
    event? text = some (event, params) ↔
      ∃ frame, parse text = .ok frame ∧ frame.id = none ∧ frame.method = some event ∧
        frame.params.getD .emptyObject = params := by
  unfold event?
  cases hparse : parse text with
  | error e => simp
  | ok frame =>
    unfold message?
    cases hid : frame.id with
    | some id => simp [hid]
    | none => cases hmethod : frame.method <;> simp [hid, hmethod]

/-- **What an event says is in the frame.** -/
theorem event?_eq_some_iff_announces {text event : String} {params : RawText} :
    event? text = some (event, params) ↔ Announces text event params := by
  rw [event?_eq_some_iff]
  constructor
  · rintro ⟨frame, hparse, hid, hmethod, rfl⟩
    rcases payload_of_parse partOf_params rfl hparse with
      ⟨hnone, hnull⟩ | ⟨value, hvalue, hnull, hplace, hparams⟩
    · rw [hnone]
      exact .empty hparse hid hmethod hnull
    · rw [hparams]
      exact .verbatim hparse hid hmethod hvalue hnull hplace
  · intro h
    cases h with
    | @verbatim frame value hparse hid hmethod hvalue hnull hplace =>
      refine ⟨frame, hparse, hid, hmethod, ?_⟩
      rcases payload_of_parse partOf_params rfl hparse with
        ⟨-, hnone⟩ | ⟨value', hvalue', -, -, hparams⟩
      · exact absurd (hnone value hvalue) hnull
      · obtain rfl := Option.some.inj (hvalue.symm.trans hvalue')
        rw [hparams]
        rfl
    | @empty frame hparse hid hmethod hvalue =>
      refine ⟨frame, hparse, hid, hmethod, ?_⟩
      rcases payload_of_parse partOf_params rfl hparse with
        ⟨hparams, -⟩ | ⟨value, hvalue', hnull, -, -⟩
      · rw [hparams]
        rfl
      · exact absurd (hvalue value hvalue') hnull

end Incoming

/-- The sinks that hear of an event, each with the payload, in the order of the sinks. -/
def heardBy (sinks : List Sink) (event : String × RawText) : List (Sink × RawText) :=
  (sinks.filter (·.event == event.1)).map fun sink => (sink, event.2)

namespace Task

/-- The sink that a task adds. -/
def adds : Task → List Sink
  | .listen sink => [sink]
  | _ => []

/-- The event that a task brings in. -/
def brings : Task → List (String × RawText)
  | .receive text => (Incoming.event? text).toList
  | _ => []

/-- What a sink is told of by a task. -/
def tells : Task → List (Sink × RawText)
  | .notify sink params => [(sink, params)]
  | _ => []

/-- The task belongs to an event that has come in: sinks are about to be told of it. -/
def delivers : Task → Bool
  | .announce .. | .notify .. => true
  | _ => false

/-- What sinks will be told of when a task has run, with all that follows. -/
def owes (sinks : List Sink) : Task → List (Sink × RawText)
  | .announce event params => heardBy sinks (event, params)
  | .notify sink params => [(sink, params)]
  | _ => []

/-- The task belongs to the handling of an event, from the frame on. -/
def ofEvent (task : Task) : Bool := task.delivers || !task.brings.isEmpty

theorem owes_of_not_delivers {task : Task} (h : task.delivers = false) (sinks : List Sink) :
    task.owes sinks = [] := by
  cases task with
  | announce | notify => cases h
  | _ => rfl

theorem brings_of_delivers {task : Task} (h : task.delivers = true) : task.brings = [] := by
  cases task with
  | receive text => cases h
  | _ => rfl

theorem flatMap_owes_eq_nil {tasks : List Task} (h : ∀ t ∈ tasks, t.delivers = false)
    (sinks : List Sink) : tasks.flatMap (·.owes sinks) = [] :=
  List.flatMap_eq_nil_iff.mpr fun t ht => owes_of_not_delivers (h t ht) sinks

/-- The first task of a call is not one of those that tell sinks. -/
theorem delivers_of_first (ticket : Nat) (call : Call) : (call.task ticket).delivers = false := by
  cases call <;> rfl

end Task

namespace Dispatcher

/-- Sinks are added at the end, and stay. -/
theorem sinks_step (d : Dispatcher) (answer : Answer) (task : Task) :
    (d.step answer task).dispatcher.sinks = d.sinks ++ task.adds := by
  have hcomplete (id : UInt64) (outcome : Outcome) (missing : List Warning) :
      (d.complete id outcome missing).dispatcher.sinks = d.sinks := by
    rcases d.complete_cases id outcome missing with ⟨s, -, h⟩ | ⟨-, h⟩ <;> rw [h]
  cases task with
  | listen sink => rfl
  | enter s request =>
    refine .trans ?_ (List.append_nil _).symm
    simp only [step]
    rcases d.enter_cases s request with ⟨-, e, warnings, h⟩ | ⟨-, -, h⟩ <;> rw [h]
  | receive text =>
    refine .trans ?_ (List.append_nil _).symm
    simp only [step]
    rcases d.receive_cases text with ⟨warnings, h⟩ | ⟨id, outcome, h⟩ | ⟨event, params, h⟩ <;>
      rw [h]
  | withdraw id cause => exact (hcomplete _ _ _).trans (List.append_nil _).symm
  | respond id outcome => exact (hcomplete _ _ _).trans (List.append_nil _).symm
  | cancel key =>
    refine .trans ?_ (List.append_nil _).symm
    simp only [step]
    rcases d.cancel_cases key with ⟨id, -, h⟩ | ⟨-, h⟩ <;> rw [h]
  | _ => exact (List.append_nil _).symm

/-- The frame of an event is followed by the event alone. -/
theorem receive_of_event (d : Dispatcher) {text event : String} {params : RawText}
    (h : Incoming.event? text = some (event, params)) :
    d.receive text = { dispatcher := d, next := [.announce event params] } := by
  obtain ⟨frame, hparse, hid, hmethod, rfl⟩ := Incoming.event?_eq_some_iff.mp h
  have hmessage : frame.message? = some (.event event (frame.params.getD .emptyObject)) := by
    unfold Incoming.message?
    rw [hid, hmethod]
    rfl
  unfold receive
  rw [hparse]
  simp only [hmessage]

/-- What follows a task tells sinks of an event if and only if the task is of an event. -/
theorem delivers_of_mem_next {d : Dispatcher} {answer : Answer} {task t : Task}
    (h : t ∈ (d.step answer task).next) : t.delivers = task.ofEvent := by
  cases follows_of_mem_next h with
  | @readResponse text frame id hparse hid =>
    -- a frame with an id is no event, whatever method it names
    have hnone : Incoming.event? text = none := by
      refine Option.eq_none_iff_forall_ne_some.mpr fun ⟨event, params⟩ hevent => ?_
      obtain ⟨frame', hparse', hid', -⟩ := Incoming.event?_eq_some_iff.mp hevent
      obtain rfl := Except.ok.inj (hparse.symm.trans hparse')
      rw [hid] at hid'
      cases hid'
    rw [Task.ofEvent, Task.brings, hnone]
    rfl
  | @readEvent text frame method hparse hid hmethod =>
    have hevent : Incoming.event? text = some (method, frame.params.getD .emptyObject) :=
      Incoming.event?_eq_some_iff.mpr ⟨frame, hparse, hid, hmethod, rfl⟩
    rw [Task.ofEvent, Task.brings, hevent]
    rfl
  | _ => rfl

/-- What follows a task is of an event if and only if the task is. -/
theorem ofEvent_of_mem_next {d : Dispatcher} {answer : Answer} {task t : Task}
    (h : t ∈ (d.step answer task).next) : t.ofEvent = task.ofEvent := by
  have hbrings : t.brings = [] := by cases follows_of_mem_next h <;> rfl
  rw [← delivers_of_mem_next h, Task.ofEvent, hbrings]
  exact Bool.or_false _

/-- The handling of an event leaves the dispatcher as it is. -/
theorem dispatcher_step_of_ofEvent {d : Dispatcher} {answer : Answer} {task : Task}
    (h : task.ofEvent = true) : (d.step answer task).dispatcher = d := by
  cases task with
  | receive text =>
    cases hevent : Incoming.event? text with
    | some event =>
      have hreceive : d.step answer (.receive text) =
          { dispatcher := d, next := [.announce event.1 event.2] } := d.receive_of_event hevent
      rw [hreceive]
    | none =>
      rw [Task.ofEvent, Task.brings, hevent] at h
      cases h
  | announce | notify => rfl
  | _ => cases h

/-- What a task owes, and what it brings in, is what it tells and what its followers owe. -/
theorem owes_step (d : Dispatcher) (answer : Answer) (task : Task) :
    task.tells ++
        (d.step answer task).next.flatMap (·.owes (d.step answer task).dispatcher.sinks) =
      task.owes d.sinks ++ task.brings.flatMap (heardBy d.sinks) := by
  cases hof : task.ofEvent with
  | false =>
    have hnext : ∀ t ∈ (d.step answer task).next, t.delivers = false := fun t ht =>
      (delivers_of_mem_next ht).trans hof
    obtain ⟨hdelivers, hbrings⟩ := Bool.or_eq_false_iff.mp hof
    have hnothing : task.brings = [] := by simpa using hbrings
    rw [Task.flatMap_owes_eq_nil hnext, Task.owes_of_not_delivers hdelivers, hnothing]
    cases task with
    | notify => cases hdelivers
    | _ => rfl
  | true =>
    rw [dispatcher_step_of_ofEvent hof]
    cases task with
    | receive text =>
      cases hevent : Incoming.event? text with
      | none =>
        rw [Task.ofEvent, Task.brings, hevent] at hof
        cases hof
      | some event =>
        have hreceive : d.step answer (.receive text) =
            { dispatcher := d, next := [.announce event.1 event.2] } := d.receive_of_event hevent
        rw [hreceive, Task.brings, hevent]
        rfl
    | announce event params =>
      show ((d.sinksFor event).map fun sink => Task.notify sink params).flatMap
        (·.owes d.sinks) = heardBy d.sinks (event, params) ++ []
      rw [List.flatMap_map, List.append_nil]
      exact List.flatMap_pure_eq_map _ _
    | notify sink params => rfl
    | _ => cases hof

end Dispatcher

namespace World

/-! ## What frames owe to sinks -/

/-- The sinks that have been added, in order. -/
def added (past : List Occurrence) : List Sink := past.flatMap (·.task.adds)

@[simp] theorem added_append (past later : List Occurrence) :
    added (past ++ later) = added past ++ added later :=
  List.flatMap_append

/-- A sink is added by the task that adds it. -/
theorem not_mem_added {past : List Occurrence} {sink : Sink}
    (h : ∀ o ∈ past, o.task ≠ .listen sink) : sink ∉ added past := by
  intro hmem
  obtain ⟨o, ho, hadds⟩ := List.mem_flatMap.mp hmem
  apply h o ho
  cases htask : o.task with
  | listen s =>
    rw [htask] at hadds
    rw [List.mem_singleton.mp hadds]
  | _ =>
    rw [htask] at hadds
    exact absurd hadds List.not_mem_nil

/-- What sinks have been told of, in order. -/
def told (past : List Occurrence) : List (Sink × RawText) := past.flatMap (·.task.tells)

/-- The payloads that a sink has been told of, in order. -/
def heard (past : List Occurrence) (sink : Sink) : List RawText :=
  ((told past).filter (·.1 = sink)).map (·.2)

/-- What the events of `rest` owe to the sinks of their moment, in order; `past` is what has
happened before. -/
def owed (past : List Occurrence) : List Occurrence → List (Sink × RawText)
  | [] => []
  | o :: rest => o.task.brings.flatMap (heardBy (added past)) ++ owed (past ++ [o]) rest

@[simp] theorem owed_append (past first second : List Occurrence) :
    owed past (first ++ second) = owed past first ++ owed (past ++ first) second := by
  induction first generalizing past with
  | nil => rw [List.append_nil]; rfl
  | cons o first ih =>
    rw [List.cons_append, owed, owed, ih, List.append_assoc, List.append_assoc]
    rfl

theorem owed_snoc (past : List Occurrence) (o : Occurrence) :
    owed [] (past ++ [o]) = owed [] past ++ o.task.brings.flatMap (heardBy (added past)) := by
  rw [owed_append, List.nil_append, owed, owed, List.append_nil]

/-- The payloads of the events of one name, in order. -/
def payloadsOf (event : String) (past : List Occurrence) : List RawText :=
  ((past.flatMap (·.task.brings)).filter (·.1 = event)).map (·.2)

/-- Of one event, a sink hears as often as it stands among the sinks. -/
theorem filter_heardBy (sinks : List Sink) (event : String × RawText) (sink : Sink) :
    ((heardBy sinks event).filter (·.1 = sink)).map (·.2) =
      List.replicate (if event.1 = sink.event then sinks.count sink else 0) event.2 := by
  induction sinks with
  | nil => simp [heardBy]
  | cons s sinks ih =>
    unfold heardBy at ih ⊢
    by_cases hs : s = sink
    · subst hs
      by_cases hevent : s.event = event.1
      · rw [if_pos hevent.symm] at ih ⊢
        simp [hevent, ih, List.replicate_succ]
      · rw [if_neg (Ne.symm hevent)] at ih ⊢
        simp [hevent, ih]
    · by_cases hevent : s.event = event.1
      · simp [hevent, hs, ih, List.count_cons_of_ne hs]
      · simp [hevent, ih, List.count_cons_of_ne hs]

/-! ## One call after the other -/

/-- Calls are made one after the other, and sinks make none: a call begins when those before it have
returned, and none begins while a sink is told of something. Commands may make calls when they are
completed or asked for their parameters, and so may the writer. -/
inductive InTurn (limit : Nat) : World → Prop where
  | fresh : InTurn limit (fresh limit)
  | start {w : World} (run : InTurn limit w) (hquiet : w.Quiet) (call : Call) :
      InTurn limit (w.start call)
  | advance {w w' : World} {i : Nat} {answer : Answer} {nested : List Call} (run : InTurn limit w)
      (h : w.advance i answer nested = some w')
      (hsinks : ∀ sink params rest, w.calls[i]? = some (.notify sink params :: rest) →
        nested = []) : InTurn limit w'
  | reorder {w : World} {table : PendingTable} (run : InTurn limit w)
      (h : table.Perm w.dispatcher.pending) : InTurn limit (w.withPending table)

theorem InTurn.run {limit : Nat} {w : World} (h : InTurn limit w) :
    Run (World.fresh limit) w := by
  induction h with
  | fresh => exact .refl
  | start _ _ call ih => exact ih.step (.start _ call)
  | advance _ h _ ih => exact ih.step (.advance _ _ _ h)
  | reorder _ h ih => exact ih.step (.reorder _ _ h)

/-- If one list at most is not empty, its members are all members. -/
theorem flatten_of_alone {α : Type} {x : α} {xs : List α} {lists : List (List α)} {i : Nat}
    (halone : lists.countP (!·.isEmpty) ≤ 1) (hi : lists[i]? = some (x :: xs)) :
    lists.flatten = x :: xs ∧
      ∀ c, (lists.set i c).flatten = c ∧ (lists.set i c).countP (!·.isEmpty) ≤ 1 := by
  induction lists generalizing i with
  | nil => cases hi
  | cons l ls ih =>
    cases i with
    | zero =>
      obtain rfl : l = x :: xs := Option.some.inj hi
      have hnone : ls.countP (!·.isEmpty) = 0 := by
        rw [List.countP_cons_of_pos rfl] at halone
        omega
      have hempty : ls.flatten = [] := by
        refine List.flatten_eq_nil_iff.mpr fun l hl => ?_
        have hl := List.countP_eq_zero.mp hnone l hl
        simpa using hl
      refine ⟨by rw [List.flatten_cons, hempty, List.append_nil], fun c => ⟨?_, ?_⟩⟩
      · rw [List.set_cons_zero, List.flatten_cons, hempty, List.append_nil]
      · rw [List.set_cons_zero, List.countP_cons, hnone]
        split <;> omega
    | succ i =>
      have hlater : 0 < ls.countP (!·.isEmpty) :=
        List.countP_pos_iff.mpr ⟨x :: xs, List.mem_of_getElem? hi, rfl⟩
      obtain rfl : l = [] := by
        by_contra hl
        have hone : (!l.isEmpty) = true := by simpa using hl
        rw [List.countP_cons_of_pos (p := fun l : List α => !l.isEmpty) hone] at halone
        omega
      exact ih halone hi

/-- Of some tasks to run, those that tell sinks of an event come first. -/
inductive EventsFirst : List Task → Prop where
  | others {tasks : List Task} (h : ∀ t ∈ tasks, t.delivers = false) : EventsFirst tasks
  | due {task : Task} {later : List Task} (h : task.delivers = true) (rest : EventsFirst later) :
      EventsFirst (task :: later)

theorem EventsFirst.tail {task : Task} {later : List Task} (h : EventsFirst (task :: later)) :
    EventsFirst later := by
  cases h with
  | others h => exact .others fun t ht => h t (List.mem_cons_of_mem _ ht)
  | due _ rest => exact rest

theorem EventsFirst.not_delivers {task : Task} {later : List Task}
    (h : EventsFirst (task :: later)) (htask : task.delivers = false) :
    ∀ t ∈ later, t.delivers = false := by
  cases h with
  | others h => exact fun t ht => h t (List.mem_cons_of_mem _ ht)
  | due hdue _ =>
    rw [htask] at hdue
    cases hdue

theorem EventsFirst.append {tasks later : List Task} (h : EventsFirst later)
    (htasks : ∀ t ∈ tasks, t.delivers = true) : EventsFirst (tasks ++ later) := by
  induction tasks with
  | nil => exact h
  | cons t tasks ih =>
    exact .due (htasks t List.mem_cons_self) (ih fun t ht => htasks t (List.mem_cons_of_mem _ ht))

/-- What sinks have been told of, with what the tasks of the call in progress owe to them, is what
the events that have come in owe to them. -/
structure Delivering (w : World) : Prop where
  alone : w.calls.countP (!·.isEmpty) ≤ 1
  sinks : w.dispatcher.sinks = added w.history
  first : EventsFirst w.tasks
  balance : told w.history ++ w.tasks.flatMap (·.owes w.dispatcher.sinks) = owed [] w.history

/-- The one call in progress goes on with its first task. -/
theorem tasks_of_advance {w w' : World} {i : Nat} {answer : Answer} {nested : List Call}
    (halone : w.calls.countP (!·.isEmpty) ≤ 1) (h : w.advance i answer nested = some w') :
    ∃ task later, w.calls[i]? = some (task :: later) ∧ w.tasks = task :: later ∧
      w'.tasks = (if task.callsOut then tasksOf w.nextTicket nested else []) ++
        ((w.dispatcher.step answer task).next ++ later) ∧
      w'.calls.countP (!·.isEmpty) ≤ 1 ∧
      w'.dispatcher = (w.dispatcher.step answer task).dispatcher ∧
      w'.history = w.history ++ [⟨task, answer, w.dispatcher, w.dispatcher.step answer task⟩] := by
  unfold World.advance at h
  split at h
  · rename_i task later hcall
    obtain ⟨htasks, hset⟩ := flatten_of_alone halone hcall
    obtain rfl := Option.some.inj h
    refine ⟨task, later, hcall, htasks, ?_, (hset _).2, rfl, rfl⟩
    exact (hset _).1.trans (List.append_assoc _ _ _)
  · cases h

/-- What stands behind the first task owes as much when that has run, and what the task brings in is
not owed before it. -/
theorem owes_behind (d : Dispatcher) (answer : Answer) {task : Task} {later : List Task}
    (h : EventsFirst (task :: later)) :
    later.flatMap (·.owes (d.step answer task).dispatcher.sinks) =
        later.flatMap (·.owes d.sinks) ∧
      task.brings.flatMap (heardBy d.sinks) ++ later.flatMap (·.owes d.sinks) =
        later.flatMap (·.owes d.sinks) ++ task.brings.flatMap (heardBy d.sinks) := by
  cases h with
  | due hdelivers _ =>
    have hof : task.ofEvent = true := by rw [Task.ofEvent, hdelivers, Bool.true_or]
    rw [Dispatcher.dispatcher_step_of_ofEvent hof, Task.brings_of_delivers hdelivers]
    exact ⟨rfl, (List.append_nil _).symm⟩
  | others hnone =>
    have hlater : ∀ t ∈ later, t.delivers = false := fun t ht =>
      hnone t (List.mem_cons_of_mem _ ht)
    rw [Task.flatMap_owes_eq_nil hlater, Task.flatMap_owes_eq_nil hlater]
    exact ⟨rfl, List.append_nil _⟩

/-- A task runs, and the calls that are made from inside it begin. -/
theorem Delivering.of_ran {w w' : World} (h : Delivering w) {task : Task} {later inner : List Task}
    {answer : Answer} (htasks : w.tasks = task :: later)
    (htasks' : w'.tasks = inner ++ ((w.dispatcher.step answer task).next ++ later))
    (hinner : ∀ t ∈ inner, t.delivers = false) (hnone : task.ofEvent = true → inner = [])
    (halone : w'.calls.countP (!·.isEmpty) ≤ 1)
    (hdispatcher : w'.dispatcher = (w.dispatcher.step answer task).dispatcher)
    (hhistory : w'.history =
      w.history ++ [⟨task, answer, w.dispatcher, w.dispatcher.step answer task⟩]) :
    Delivering w' := by
  have hfirst : EventsFirst (task :: later) := htasks ▸ h.first
  have hnext : ∀ t ∈ (w.dispatcher.step answer task).next, t.delivers = task.ofEvent :=
    fun t ht => Dispatcher.delivers_of_mem_next ht
  refine ⟨halone, ?_, ?_, ?_⟩
  · rw [hdispatcher, Dispatcher.sinks_step, h.sinks, hhistory, added, added, List.flatMap_append,
      List.flatMap_singleton]
  · rw [htasks']
    cases hof : task.ofEvent with
    | true =>
      rw [hnone hof, List.nil_append]
      exact hfirst.tail.append fun t ht => (hnext t ht).trans hof
    | false =>
      have hdelivers := (Bool.or_eq_false_iff.mp hof).1
      refine .others fun t ht => ?_
      rcases List.mem_append.mp ht with ht | ht
      · exact hinner t ht
      · rcases List.mem_append.mp ht with ht | ht
        · exact (hnext t ht).trans hof
        · exact hfirst.not_delivers hdelivers t ht
  · have hbalance := h.balance
    rw [htasks, List.flatMap_cons] at hbalance
    have hstep := w.dispatcher.owes_step answer task
    obtain ⟨hlater, hbrings⟩ := owes_behind w.dispatcher answer hfirst
    have htold : told w'.history = told w.history ++ task.tells := by
      rw [hhistory, told, told, List.flatMap_append, List.flatMap_singleton]
    have howed : owed [] w'.history =
        owed [] w.history ++ task.brings.flatMap (heardBy w.dispatcher.sinks) := by
      rw [hhistory, owed_snoc, h.sinks]
    rw [htasks', List.flatMap_append, List.flatMap_append, Task.flatMap_owes_eq_nil hinner,
      List.nil_append, htold, howed, ← hbalance, hdispatcher, hlater, List.append_assoc,
      ← List.append_assoc task.tells, hstep, List.append_assoc (task.owes _), hbrings]
    simp only [List.append_assoc]

theorem InTurn.delivering {limit : Nat} {w : World} (h : InTurn limit w) : Delivering w := by
  induction h with
  | fresh =>
    exact ⟨Nat.zero_le _, rfl, .others fun _ h => absurd h List.not_mem_nil, rfl⟩
  | @start w run hquiet call ih =>
    have hnone : w.tasks = [] := List.flatten_eq_nil_iff.mpr hquiet
    have htasks : (w.start call).tasks = [call.task w.nextTicket] := by
      rw [tasks_start, hnone, List.nil_append]
    have hfirst : ∀ t ∈ (w.start call).tasks, t.delivers = false := by
      intro t ht
      rw [htasks, List.mem_singleton] at ht
      rw [ht]
      exact Task.delivers_of_first _ _
    refine ⟨?_, ih.sinks, .others hfirst, ?_⟩
    · have hcalls : w.calls.countP (!·.isEmpty) = 0 :=
        List.countP_eq_zero.mpr fun c hc => by simp [hquiet c hc]
      simp [World.start, List.countP_append, hcalls]
    · have hbalance := ih.balance
      rw [hnone, List.flatMap_nil] at hbalance
      rw [Task.flatMap_owes_eq_nil hfirst]
      exact hbalance
  | @advance w w' i answer nested run hadvance hsinks ih =>
    obtain ⟨task, later, hcall, htasks, htasks', halone, hdispatcher, hhistory⟩ :=
      tasks_of_advance ih.alone hadvance
    refine ih.of_ran htasks htasks' (fun t ht => ?_) (fun hof => ?_) halone hdispatcher hhistory
    · split at ht
      · obtain ⟨ticket, call, rfl⟩ := mem_tasksOf ht
        exact Task.delivers_of_first ticket call
      · exact absurd ht List.not_mem_nil
    · -- of the tasks of an event only one that tells a sink calls out, and sinks make no calls
      cases task with
      | notify sink params =>
        rw [hsinks sink params later hcall]
        rfl
      | receive | announce => rfl
      | _ => cases hof
  | @reorder w table run hperm ih => exact ⟨ih.alone, ih.sinks, ih.first, ih.balance⟩

/-- What a sink is owed once it stands among the sinks, until it is added again. -/
theorem filter_owed (past : List Occurrence) {rest : List Occurrence} {sink : Sink}
    (h : ∀ o ∈ rest, o.task ≠ .listen sink) :
    ((owed past rest).filter (·.1 = sink)).map (·.2) =
      (payloadsOf sink.event rest).flatMap (List.replicate ((added past).count sink)) := by
  induction rest generalizing past with
  | nil => rfl
  | cons o rest ih =>
    have hsame : (added (past ++ [o])).count sink = (added past).count sink := by
      have hother : sink ∉ added [o] := not_mem_added fun c hc => by
        rw [List.mem_singleton.mp hc]
        exact h o List.mem_cons_self
      rw [added_append, List.count_append, List.count_eq_zero.mpr hother, Nat.add_zero]
    have hlater := ih (past ++ [o]) fun c hc => h c (List.mem_cons_of_mem _ hc)
    rw [hsame] at hlater
    have hthis : ((o.task.brings.flatMap (heardBy (added past))).filter (·.1 = sink)).map (·.2) =
        ((o.task.brings.filter (·.1 = sink.event)).map (·.2)).flatMap
          (List.replicate ((added past).count sink)) := by
      induction o.task.brings with
      | nil => rfl
      | cons event events ihevents =>
        rw [List.flatMap_cons, List.filter_append, List.map_append, ihevents, filter_heardBy]
        by_cases hevent : event.1 = sink.event
        · simp [hevent]
        · simp [hevent]
    rw [owed, List.filter_append, List.map_append, hthis, hlater]
    simp only [payloadsOf, List.flatMap_cons, List.filter_append, List.map_append,
      List.flatMap_append]

/-- **Sinks hear of what comes in for them.** Let calls be made one after the other, and none by the
sinks. When the calls have returned:

* the sinks have been told of what the events that have come in owe to them, frame by frame, and for
  each frame in the order in which the sinks were added;
* so a sink that was added once has heard of the payloads of the events of its name that came in
  afterwards, in their order and of each once;
* an event is a frame without an id whose method names it, and the payload is the text of its
  parameters as it stands there, or an empty object if there are none or they are null;
* the handling of an event leaves the dispatcher as it is, and what follows the frame of an event,
  and nothing else, belongs to it: a frame with an id reaches no sink. -/
theorem events_reach_sinks {limit : Nat} {w : World} (h : InTurn limit w) (hquiet : w.Quiet) :
    told w.history = owed [] w.history ∧
    (∀ before o after sink, w.history = before ++ o :: after → o.task = .listen sink →
      (∀ c ∈ before ++ after, c.task ≠ .listen sink) →
      heard w.history sink = payloadsOf sink.event after) ∧
    (∀ text event params,
      Incoming.event? text = some (event, params) ↔ Announces text event params) ∧
    ∀ o ∈ w.history, (o.task.ofEvent = true → o.effect.dispatcher = o.before) ∧
      ∀ t ∈ o.effect.next, t.ofEvent = o.task.ofEvent := by
  have hbalance := h.delivering.balance
  have hnone : w.tasks = [] := List.flatten_eq_nil_iff.mpr hquiet
  rw [hnone, List.flatMap_nil, List.append_nil] at hbalance
  refine ⟨hbalance, fun before o after sink hhistory htask honce => ?_, fun _ _ _ =>
    Incoming.event?_eq_some_iff_announces, fun o ho => ?_⟩
  · have hsplit : w.history = before ++ [o] ++ after := by
      rw [hhistory, List.append_assoc, List.singleton_append]
    have hone : (added (before ++ [o])).count sink = 1 := by
      have hnew : sink ∉ added before :=
        not_mem_added fun c hc => honce c (List.mem_append_left _ hc)
      rw [added_append, List.count_append, List.count_eq_zero.mpr hnew, added,
        List.flatMap_singleton, htask, Task.adds, List.count_singleton_self]
    have hnothing : o.task.brings = [] := by
      rw [htask]
      rfl
    -- until the sink is added it is owed nothing, and then each payload once
    have hbefore := filter_owed [] fun c hc => honce c (List.mem_append_left _ hc)
    have hafter := filter_owed (before ++ [o]) fun c hc =>
      honce c (List.mem_append_right _ hc)
    have hzero : (added []).count sink = 0 := rfl
    rw [hzero] at hbefore
    rw [hone] at hafter
    rw [heard, hbalance, hsplit, owed_append, owed_snoc, hnothing, List.flatMap_nil,
      List.append_nil, List.nil_append, List.filter_append, List.map_append, hbefore, hafter]
    have hnever : (payloadsOf sink.event before).flatMap (List.replicate 0) = [] :=
      List.flatMap_eq_nil_iff.mpr fun _ _ => rfl
    rw [hnever, List.nil_append]
    exact List.flatMap_singleton' _
  · have heffect := h.run.effect_eq ho
    refine ⟨fun hof => ?_, fun t ht => ?_⟩
    · rw [heffect, Dispatcher.dispatcher_step_of_ofEvent hof]
    · rw [heffect] at ht
      exact Dispatcher.ofEvent_of_mem_next ht

/-- The moves make calls one after the other, and none from inside. -/
def playsInTurn (w : World) : List Move → Bool
  | [] => true
  | .start call :: rest => w.calls.all (·.isEmpty) && (w.start call).playsInTurn rest
  | .advance i answer nested :: rest =>
    nested.isEmpty &&
      match w.advance i answer nested with
      | some w' => w'.playsInTurn rest
      | none => false

theorem inTurn_of_plays {limit : Nat} {w : World} (h : InTurn limit w) {moves : List Move}
    (hmoves : w.playsInTurn moves = true) : ∃ w', w.play moves = some w' ∧ InTurn limit w' := by
  induction moves generalizing w with
  | nil => exact ⟨w, rfl, h⟩
  | cons move rest ih =>
    cases move with
    | start call =>
      obtain ⟨hquiet, hrest⟩ := Bool.and_eq_true_iff.mp hmoves
      refine ih (h.start (fun c hc => ?_) call) hrest
      exact List.isEmpty_iff.mp (List.all_eq_true.mp hquiet c hc)
    | advance i answer nested =>
      obtain ⟨hnested, hrest⟩ := Bool.and_eq_true_iff.mp hmoves
      obtain rfl := List.isEmpty_iff.mp hnested
      cases hadvance : w.advance i answer [] with
      | none =>
        rw [hadvance] at hrest
        cases hrest
      | some w' =>
        rw [hadvance] at hrest
        obtain ⟨w'', hplay, hw''⟩ := ih (h.advance hadvance fun _ _ _ _ => rfl) hrest
        refine ⟨w'', ?_, hw''⟩
        rw [play, hadvance]
        exact hplay

/-- A sink is added between two events that it listens for, one of which comes in without
parameters; another sink was there before. -/
def listeningMoves : List Move :=
  [.start (.listen ⟨"Page.loaded", 1⟩), .advance 0 {} [],
    .start (.receive "\x7b\"method\":\"Page.loaded\",\"params\":[ 1 ]\x7d"),
    .advance 1 {} [], .advance 1 {} [], .advance 1 {} [],
    .start (.listen ⟨"Page.loaded", 2⟩), .advance 2 {} [],
    .start (.receive "\x7b\"method\":\"Page.loaded\",\"params\":null\x7d"),
    .advance 3 {} [], .advance 3 {} [], .advance 3 {} [], .advance 3 {} [],
    .start (.receive "\x7b\"id\":7,\"method\":\"Page.loaded\"\x7d"),
    .advance 4 {} [], .advance 4 {} []]

/-- What `listeningMoves` lead to. -/
def twoListeners : World := (fresh 4).after listeningMoves

theorem events_reach_sinks_of_twoListeners :
    InTurn 4 twoListeners ∧ twoListeners.Quiet ∧
      told twoListeners.history = owed [] twoListeners.history ∧
      (told twoListeners.history).map (fun heard => (heard.1.key, heard.2.text)) =
        [(1, "[ 1 ]"), (1, "\x7b\x7d"), (2, "\x7b\x7d")] := by
  have hinTurn : InTurn 4 twoListeners := by
    have hmoves : (World.fresh 4).playsInTurn listeningMoves = true := by decide +kernel
    obtain ⟨w, hplay, hw⟩ := inTurn_of_plays .fresh hmoves
    rw [twoListeners, after, hplay]
    exact hw
  have hquiet : twoListeners.Quiet := by
    have hempty : twoListeners.calls.all (·.isEmpty) = true := by decide +kernel
    intro call hcall
    exact List.isEmpty_iff.mp (List.all_eq_true.mp hempty call hcall)
  exact ⟨hinTurn, hquiet, (events_reach_sinks hinTurn hquiet).1, by decide +kernel⟩

end World

end Bindery.Session
