import Bindery.Proofs.Session.Completion

/-!
# What leads to what

`Follows` lists every way in which one task follows another, each with what the dispatcher and the
outside world were like; nothing else can happen (`Dispatcher.follows_of_mem_next`). A run can be
taken back to the moment when a task ran (`World.Run.moment`), and a task that is to run is the
first one of a call or follows a task that has run (`World.Run.caused`). With both, whatever has
happened is traced to what made it happen.

The preparation of a submission, from its beginning to the table, comes to an end once
(`World.Run.settled_once`).
-/

namespace Bindery.Session

/-! ## One task after another -/

/-- On a dispatcher, and with the answer that was given, the second task follows the first. -/
inductive Follows (d : Dispatcher) (answer : Answer) : Task → Task → Prop where
  | refuseAtOnce {s : Submission} (hclosed : d.closed = true) :
      Follows d answer (.submit s) (.done s (.error .connectionClosed))
  | begin {s : Submission} (hopen : d.closed = false) : Follows d answer (.submit s) (.askParams s)
  | prepare {s : Submission} {params : Option Json.RawText} (hparams : answer.params = .ok params) :
      Follows d answer (.askParams s) (.number s params)
  | fail {s : Submission} {e : ProtocolError} (hparams : answer.params = .error e) :
      Follows d answer (.askParams s) (.done s (.error e))
  | number {s : Submission} {params : Option Json.RawText} :
      Follows d answer (.number s params) (.enter s ⟨d.nextId, s.command.method, params⟩)
  | refuseClosed {s : Submission} {request : Request} (hclosed : d.closed = true) :
      Follows d answer (.enter s request) (.done s (.error .connectionClosed))
  | refuseFull {s : Submission} {request : Request} (hopen : d.closed = false)
      (hfull : d.maxPending ≤ d.pending.length) :
      Follows d answer (.enter s request)
        (.done s (.error (.tooManyPending d.pending.length d.maxPending)))
  | enter {s : Submission} {request : Request} (hopen : d.closed = false)
      (hroom : d.pending.length < d.maxPending) :
      Follows d answer (.enter s request) (.write s request)
  | withdraw {s : Submission} {request : Request} {e : ProtocolError}
      (hwritten : answer.written = .error e) :
      Follows d answer (.write s request) (.withdraw request.id e)
  | failPending {id : UInt64} {s : Submission} {e : ProtocolError}
      (hfind : d.pending.find? id = some s) :
      Follows d answer (.withdraw id e) (.done s (.error e))
  | readResponse {text : String} {frame : Incoming} {id : UInt64}
      (hparse : Incoming.parse text = .ok frame) (hid : frame.id = some id) :
      Follows d answer (.receive text) (.respond id frame.outcome)
  | readEvent {text : String} {frame : Incoming} {method : String}
      (hparse : Incoming.parse text = .ok frame) (hid : frame.id = none)
      (hmethod : frame.method = some method) :
      Follows d answer (.receive text) (.announce method (frame.params.getD .emptyObject))
  | completePending {id : UInt64} {outcome : Outcome} {s : Submission}
      (hfind : d.pending.find? id = some s) :
      Follows d answer (.respond id outcome) (.done s outcome)
  | notify {event : String} {params : Json.RawText} {sink : Sink}
      (hsink : sink ∈ d.sinksFor event) :
      Follows d answer (.announce event params) (.notify sink params)
  | drain {id : UInt64} {s : Submission} (hmem : (id, s) ∈ d.pending) :
      Follows d answer .close (.done s (.error .connectionClosed))

namespace Dispatcher

variable {d : Dispatcher} {answer : Answer}

theorem mem_next_complete {id : UInt64} {outcome : Outcome} {missing : List Warning} {t : Task}
    (h : t ∈ (d.complete id outcome missing).next) :
    ∃ s, d.pending.find? id = some s ∧ t = .done s outcome := by
  rcases d.complete_cases id outcome missing with ⟨s, hfind, heq⟩ | ⟨-, heq⟩ <;> rw [heq] at h
  · exact ⟨s, hfind, List.mem_singleton.mp h⟩
  · exact absurd h List.not_mem_nil

/-- **What follows a task.** Each task that follows another does so in one of the listed ways. -/
theorem follows_of_mem_next {task t : Task} (h : t ∈ (d.step answer task).next) :
    Follows d answer task t := by
  cases task with
  | submit s =>
    obtain rfl := List.mem_singleton.mp h
    split
    · rename_i hclosed
      exact .refuseAtOnce hclosed
    · rename_i hopen
      exact .begin (Bool.eq_false_iff.mpr hopen)
  | askParams s =>
    obtain rfl := List.mem_singleton.mp h
    split
    · rename_i hparams
      exact .prepare hparams
    · rename_i hparams
      exact .fail hparams
  | number s params =>
    obtain rfl := List.mem_singleton.mp h
    exact .number
  | enter s request =>
    simp only [step, enter] at h
    split at h
    · rename_i hclosed
      obtain rfl := List.mem_singleton.mp h
      exact .refuseClosed hclosed
    · rename_i hopen
      split at h
      · rename_i hfull
        obtain rfl := List.mem_singleton.mp h
        exact .refuseFull (Bool.eq_false_iff.mpr hopen) hfull
      · rename_i hroom
        obtain rfl := List.mem_singleton.mp h
        exact .enter (Bool.eq_false_iff.mpr hopen) (Nat.lt_of_not_le hroom)
  | write s request =>
    simp only [step] at h
    split at h
    · exact absurd h List.not_mem_nil
    · rename_i hwritten
      obtain rfl := List.mem_singleton.mp h
      exact .withdraw hwritten
  | withdraw id cause =>
    obtain ⟨s, hfind, rfl⟩ := mem_next_complete h
    exact .failPending hfind
  | done s outcome => exact absurd h List.not_mem_nil
  | receive text =>
    simp only [step, receive] at h
    split at h
    · exact absurd h List.not_mem_nil
    · rename_i frame hparse
      unfold Incoming.message? at h
      -- an id makes a response of any frame; only without one does its method count
      split at h
      · rename_i id outcome hmessage
        obtain rfl := List.mem_singleton.mp h
        split at hmessage
        · rename_i id' hid
          obtain ⟨rfl, rfl⟩ := Message.response.inj (Option.some.inj hmessage)
          exact .readResponse hparse hid
        · obtain ⟨method, -, hevent⟩ := Option.map_eq_some_iff.mp hmessage
          cases hevent
      · rename_i method params hmessage
        obtain rfl := List.mem_singleton.mp h
        split at hmessage
        · cases hmessage
        · rename_i hid
          obtain ⟨method', hmethod, hevent⟩ := Option.map_eq_some_iff.mp hmessage
          obtain ⟨rfl, rfl⟩ := Message.event.inj hevent
          exact .readEvent hparse hid hmethod
      · exact absurd h List.not_mem_nil
  | respond id outcome =>
    obtain ⟨s, hfind, rfl⟩ := mem_next_complete h
    exact .completePending hfind
  | announce event params =>
    obtain ⟨sink, hsink, rfl⟩ := List.mem_map.mp h
    exact .notify hsink
  | notify sink params => exact absurd h List.not_mem_nil
  | listen sink => exact absurd h List.not_mem_nil
  | cancel key =>
    simp only [step] at h
    rcases d.cancel_cases key with ⟨id, -, heq⟩ | ⟨-, heq⟩ <;> rw [heq] at h <;>
      exact absurd h List.not_mem_nil
  | close =>
    obtain ⟨e, hmem, rfl⟩ := List.mem_map.mp h
    exact .drain hmem

end Dispatcher

/-! ## Moments of a run -/

/-- A task is the first one of a call, or follows one that has run. -/
inductive Caused (past : List Occurrence) (t : Task) : Prop where
  | begun {ticket : Nat} {call : Call} (h : t = call.task ticket)
  | followed {c : Occurrence} (hpast : c ∈ past) (h : Follows c.before c.answer c.task t)

theorem Caused.mono {past past' : List Occurrence} {t : Task} (h : Caused past t)
    (hsub : past <+: past') : Caused past' t := by
  cases h with
  | begun h => exact .begun h
  | followed hpast h => exact .followed (hsub.subset hpast) h

/-- The task stands at the beginning of a call. -/
def Task.begins : Task → Bool
  | .submit _ | .receive _ | .listen _ | .cancel _ | .close => true
  | _ => false

theorem Call.begins_task (call : Call) (ticket : Nat) : (call.task ticket).begins = true := by
  cases call <;> rfl

/-- Only the first task of a call has nothing before it that it follows. -/
theorem Caused.follows {past : List Occurrence} {t : Task} (h : Caused past t)
    (ht : t.begins = false) :
    ∃ c ∈ past, ∃ task, c.task = task ∧ Follows c.before c.answer task t := by
  cases h with
  | begun h =>
    rw [h, Call.begins_task] at ht
    cases ht
  | followed hpast h => exact ⟨_, hpast, _, rfl, h⟩

namespace World

/-- The world in which a task was about to run after a past, and the world that this led to. -/
structure Moment (past : List Occurrence) (o : Occurrence) (v : World) (nested : List Call)
    (later : List Task) (v' : World) : Prop where
  step : Step v v'
  past : v.history = past
  ran : Ran v o.task o.answer nested later v'
  before : o.before = v.dispatcher
  effect : o.effect = v.dispatcher.step o.answer o.task

/-- The move itself is a run. -/
theorem Moment.run {past : List Occurrence} {o : Occurrence} {v v' : World} {nested : List Call}
    {later : List Task} (h : Moment past o v nested later v') : Run v v' :=
  Run.refl.step h.step

theorem Moment.dispatcher {past : List Occurrence} {o : Occurrence} {v v' : World}
    {nested : List Call} {later : List Task} (h : Moment past o v nested later v') :
    v'.dispatcher = o.effect.dispatcher := by
  rw [h.ran.dispatcher, h.effect]

theorem Moment.history {past : List Occurrence} {o : Occurrence} {v v' : World}
    {nested : List Call} {later : List Task} (h : Moment past o v nested later v') :
    v'.history = past ++ [o] := by
  rw [h.ran.history, h.past, ← h.effect, ← h.before]

theorem Step.history_grows {w w' : World} (h : Step w w') : w.history <+: w'.history := by
  rcases h.cases_ran with ⟨call, rfl⟩ | ⟨task, answer, nested, later, hran⟩ | ⟨table, -, rfl⟩
  · exact List.prefix_rfl
  · rw [hran.history]
    exact List.prefix_append _ _
  · exact List.prefix_rfl

theorem Run.history_grows {v w : World} (h : Run v w) : v.history <+: w.history := by
  induction h with
  | refl => exact List.prefix_rfl
  | step _ hmove ih => exact ih.trans hmove.history_grows

/-- A run can be taken back to the moment of an occurrence that came after its beginning. -/
theorem Run.moment_after {v w : World} (h : Run v w) {past : List Occurrence} {o : Occurrence}
    (hafter : v.history <+: past) (hpast : past ++ [o] <+: w.history) :
    ∃ u nested later u', Run v u ∧ Moment past o u nested later u' ∧ Run u' w := by
  induction h with
  | refl =>
    have hle := hafter.length_le
    have hlt := hpast.length_le
    rw [List.length_append, List.length_singleton] at hlt
    omega
  | @step u w hrun hmove ih =>
    have earlier (hold : past ++ [o] <+: u.history) : ∃ u nested later u',
        Run v u ∧ Moment past o u nested later u' ∧ Run u' w := by
      obtain ⟨u₀, nested, later, u', hu, hmoment, hrest⟩ := ih hold
      exact ⟨u₀, nested, later, u', hu, hmoment, hrest.step hmove⟩
    -- only a task that runs adds to the history: the occurrence is this one, or an older one
    rcases hmove.cases_ran with ⟨call, rfl⟩ | ⟨task, answer, nested, later, hran⟩ | ⟨table, -, rfl⟩
    · exact earlier hpast
    · rw [hran.history] at hpast
      rcases List.prefix_concat_iff.mp hpast with hlast | hold
      · obtain ⟨rfl, heq⟩ := List.append_inj' hlast rfl
        obtain rfl := List.singleton_inj.mp heq
        exact ⟨u, nested, later, w, hrun, ⟨hmove, rfl, hran, rfl, rfl⟩, .refl⟩
      · exact earlier hold
    · exact earlier hpast

section Run

variable {limit : Nat} {w : World}

/-- **Every occurrence was a move.** A run can be taken back to the moment of an occurrence. -/
theorem Run.moment (h : Run (fresh limit) w) {past : List Occurrence} {o : Occurrence}
    (hpast : past ++ [o] <+: w.history) :
    ∃ v nested later v', Run (fresh limit) v ∧ Moment past o v nested later v' ∧ Run v' w :=
  h.moment_after List.nil_prefix hpast

theorem Run.moment_of_mem (h : Run (fresh limit) w) {o : Occurrence} (ho : o ∈ w.history) :
    ∃ past v nested later v',
      Run (fresh limit) v ∧ Moment past o v nested later v' ∧ Run v' w := by
  obtain ⟨past, later, hsplit⟩ := List.append_of_mem ho
  exact ⟨past, h.moment ⟨later, by rw [hsplit]; simp⟩⟩

/-- An occurrence did what its task does. -/
theorem Run.effect_eq (h : Run (fresh limit) w) {o : Occurrence} (ho : o ∈ w.history) :
    o.effect = o.before.step o.answer o.task := by
  obtain ⟨past, v, nested, later, v', -, hmoment, -⟩ := h.moment_of_mem ho
  rw [hmoment.effect, hmoment.before]

/-- **Nothing comes from nowhere.** A task that is to run is the first one of a call, or follows a
task that has run. -/
theorem Run.caused (h : Run (fresh limit) w) : ∀ t ∈ w.tasks, Caused w.history t := by
  induction h with
  | refl => intro t ht; exact absurd ht List.not_mem_nil
  | @step v w hrun hmove ih =>
    intro t ht
    have earlier (hold : t ∈ v.tasks) := (ih t hold).mono hmove.history_grows
    rcases hmove.cases_ran with ⟨call, rfl⟩ | ⟨task, answer, nested, later, hran⟩ | ⟨table, -, rfl⟩
    · rw [tasks_start] at ht
      rcases List.mem_append.mp ht with hold | hnew
      · exact earlier hold
      · exact .begun (List.mem_singleton.mp hnew)
    · -- a task begins a nested call, follows the one that ran, or had been waiting before
      rcases List.mem_append.mp (hran.after.mem_iff.mp ht) with hinner | ht
      · obtain ⟨ticket, call, rfl⟩ := mem_tasksOf hinner
        exact .begun rfl
      · rcases List.mem_append.mp ht with hnext | hlater
        · have hlast : ⟨task, answer, v.dispatcher, v.dispatcher.step answer task⟩ ∈ w.history := by
            rw [hran.history]
            exact List.mem_append_right _ List.mem_cons_self
          exact .followed hlast (Dispatcher.follows_of_mem_next hnext)
        · exact earlier (hran.before.mem_iff.mpr (List.mem_cons_of_mem task hlater))
    · exact earlier ht

/-- What has run had been about to run, so it has a cause in its past. -/
theorem Run.caused_of_ran (h : Run (fresh limit) w) {past : List Occurrence} {o : Occurrence}
    (hpast : past ++ [o] <+: w.history) : Caused past o.task := by
  obtain ⟨v, nested, later, v', hv, hmoment, -⟩ := h.moment hpast
  rw [← hmoment.past]
  exact hv.caused o.task (hmoment.ran.before.mem_iff.mpr List.mem_cons_self)

theorem Run.caused_of_mem (h : Run (fresh limit) w) {o : Occurrence} (ho : o ∈ w.history) :
    Caused w.history o.task := by
  obtain ⟨past, later, hsplit⟩ := List.append_of_mem ho
  have hpast : past ++ [o] <+: w.history := ⟨later, by rw [hsplit]; simp⟩
  exact (h.caused_of_ran hpast).mono ((List.prefix_append _ _).trans hpast)

end Run

end World

/-! ## Preparations come to an end -/

/-- The task prepares the submission, after its beginning. -/
def Task.prepares (s : Submission) : Task → Bool
  | .askParams s' | .number s' _ | .enter s' _ => decide (s' = s)
  | _ => false

theorem Task.prepares_first (s : Submission) (ticket : Nat) (call : Call) :
    (call.task ticket).prepares s = false := by
  cases call <;> rfl

/-- The preparation of the submission comes to an end: it is refused at once, it has no parameters,
or it comes to the table, which takes it or not. -/
def Occurrence.settles (s : Submission) (o : Occurrence) : Bool :=
  match o.task with
  | .submit s' => decide (s' = s) && o.before.closed
  | .askParams s' => decide (s' = s) && match o.answer.params with
    | .ok _ => false
    | .error _ => true
  | .enter s' _ => decide (s' = s)
  | _ => false

/-- A submission that begins, or whose preparation goes on, is prepared further or settled. -/
theorem Dispatcher.preparation_balance (d : Dispatcher) (answer : Answer) (task : Task)
    (s : Submission) :
    (d.preparation answer task).countP (Task.prepares s) +
        [(⟨task, answer, d, d.step answer task⟩ : Occurrence)].countP (Occurrence.settles s) =
      [task].countP (Task.prepares s) + task.submitted.count s := by
  cases task with
  | submit s' =>
    by_cases hs : s' = s <;> cases hclosed : d.closed <;>
      simp [preparation, Task.prepares, Occurrence.settles, Task.submitted, hs, hclosed]
  | askParams s' =>
    by_cases hs : s' = s <;> cases hparams : answer.params <;>
      simp [preparation, Task.prepares, Occurrence.settles, Task.submitted, hs, hparams]
  | number s' params => simp [preparation, Task.prepares, Occurrence.settles, Task.submitted]
  | enter s' request =>
    simp [preparation, Task.prepares, Occurrence.settles, Task.submitted]
  | _ => rfl

theorem Task.not_prepares_of_not_preparing (s : Submission) :
    ∀ t : Task, t.preparing = false → t.prepares s = false := by
  intro t ht
  cases t with
  | askParams s' => exact absurd ht (by simp [preparing])
  | number s' params => exact absurd ht (by simp [preparing])
  | enter s' request => exact absurd ht (by simp [preparing])
  | _ => rfl

/-- What is counted once at most is the same wherever it is found. -/
theorem eq_of_countP_le_one {α : Type} {p : α → Bool} {l : List α} (hone : l.countP p ≤ 1)
    {a b : α} (ha : a ∈ l) (hb : b ∈ l) (hpa : p a = true) (hpb : p b = true) : a = b := by
  have hmem := List.mem_filter.mpr ⟨ha, hpa⟩
  have hmem' := List.mem_filter.mpr ⟨hb, hpb⟩
  rw [List.countP_eq_length_filter] at hone
  cases hfound : l.filter p with
  | nil => rw [hfound] at hmem; exact absurd hmem List.not_mem_nil
  | cons first rest =>
    rw [hfound] at hmem hmem' hone
    obtain rfl : rest = [] := by
      simp only [List.length_cons] at hone
      exact List.eq_nil_of_length_eq_zero (by omega)
    rw [List.mem_singleton.mp hmem, List.mem_singleton.mp hmem']

namespace World

variable {limit : Nat} {w : World}

/-- Every submission that has begun is being prepared or has been settled. -/
theorem Run.preparation_balance (h : Run (fresh limit) w) (s : Submission) :
    w.tasks.countP (Task.prepares s) + w.history.countP (Occurrence.settles s) =
      w.submissions.count s := by
  induction h with
  | refl => rfl
  | @step v w hrun hmove ih =>
    rcases hmove.cases_ran with ⟨call, rfl⟩ | ⟨task, answer, nested, later, hran⟩ | ⟨table, -, rfl⟩
    · rw [countP_tasks_start (Task.prepares_first s)]
      exact ih
    · have htasks := hran.countP_tasks (Task.prepares_first s)
      rw [Dispatcher.countP_next _ _ _ (Task.not_prepares_of_not_preparing s)] at htasks
      have hstep := v.dispatcher.preparation_balance answer task s
      rw [hran.countP_history, hran.submissions_eq, List.count_append]
      omega
    · exact ih

/-- **A submission is settled once.** -/
theorem Run.countP_settles_le_one (h : Run (fresh limit) w) (s : Submission) :
    w.history.countP (Occurrence.settles s) ≤ 1 := by
  have hbalance := h.preparation_balance s
  have hcount := Reachable.count_submissions_le_one ⟨limit, h⟩ s
  omega

theorem Run.settled_once (h : Run (fresh limit) w) {s : Submission} {o o' : Occurrence}
    (ho : o ∈ w.history) (ho' : o' ∈ w.history) (hs : o.settles s = true)
    (hs' : o'.settles s = true) : o = o' :=
  eq_of_countP_le_one (h.countP_settles_le_one s) ho ho' hs hs'

end World

end Bindery.Session
