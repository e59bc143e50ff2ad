import Bindery.Proofs.Session.Continuations

/-!
# What holds of a dispatcher at any moment

Whatever calls are made on a dispatcher and however they interleave, a closed dispatcher has no
pending submission and stays closed, it never has more of them than allowed, each of them stands
under an id that no other submission has been given, and so do the frames that have been written.
A submission that finds the dispatcher closed, at its beginning or when it comes to the table, is
refused and leaves nothing behind: `World.dispatcher_invariant`.
-/

namespace Bindery.Session

/-- The task closes the dispatcher. -/
def Task.closes : Task → Bool
  | .close => true
  | _ => false

/-- The submission was open to be entered when its task came to the table, and had room there. -/
def Occurrence.Enters (o : Occurrence) (id : UInt64) (s : Submission) : Prop :=
  ∃ request, o.task = .enter s request ∧ request.id = id ∧ o.before.closed = false ∧
    o.before.pending.length < o.before.maxPending

/-! ## One step -/

namespace Dispatcher

variable (d : Dispatcher) (answer : Answer)

/-- No task moves the limit, and only closing closes. -/
theorem step_kept (task : Task) :
    (d.step answer task).dispatcher.maxPending = d.maxPending ∧
      (d.step answer task).dispatcher.closed = (d.closed || task.closes) := by
  have kept {after : Dispatcher} {task : Task} (hlimit : after.maxPending = d.maxPending)
      (hclosed : after.closed = d.closed) (htask : task.closes = false) :
      after.maxPending = d.maxPending ∧ after.closed = (d.closed || task.closes) :=
    ⟨hlimit, by rw [htask, Bool.or_false, hclosed]⟩
  cases task with
  | enter s request =>
    simp only [step]
    rcases d.enter_cases s request with ⟨-, e, warnings, h⟩ | ⟨-, -, h⟩ <;> rw [h] <;>
      exact kept rfl rfl rfl
  | withdraw id cause =>
    simp only [step]
    rcases d.complete_cases id (.error cause) [] with ⟨s, -, h⟩ | ⟨-, h⟩ <;> rw [h] <;>
      exact kept rfl rfl rfl
  | receive text =>
    simp only [step]
    rcases d.receive_cases text with ⟨warnings, h⟩ | ⟨id, outcome, h⟩ | ⟨event, params, h⟩ <;>
      rw [h] <;> exact kept rfl rfl rfl
  | respond id outcome =>
    simp only [step]
    rcases d.complete_cases id outcome [⟨"Response for unknown request", [("id", .count id.toNat)]⟩]
      with ⟨s, -, h⟩ | ⟨-, h⟩ <;> rw [h] <;> exact kept rfl rfl rfl
  | cancel key =>
    simp only [step]
    rcases d.cancel_cases key with ⟨id, -, h⟩ | ⟨-, h⟩ <;> rw [h] <;> exact kept rfl rfl rfl
  | close => exact ⟨rfl, (Bool.or_true _).symm⟩
  | _ => exact kept rfl rfl rfl

/-- The table grows only by a submission that is entered into an open dispatcher with room. -/
theorem step_pending_grows (task : Task) :
    (d.step answer task).dispatcher.pending.length ≤ d.pending.length ∨
      ∃ s request, task = .enter s request ∧ d.closed = false ∧
        d.pending.length < d.maxPending ∧
        (d.step answer task).dispatcher.pending = d.pending.insert request.id s := by
  rcases d.step_pending_cases answer task with h | ⟨id, h⟩ | ⟨s, request, rfl, h⟩ | h
  · exact .inl (Nat.le_of_eq (congrArg List.length h))
  · rw [h]
    exact .inl (List.length_filter_le _ _)
  · simp only [step] at h ⊢
    rcases d.enter_cases s request with ⟨-, e, warnings, heq⟩ | ⟨hopen, hroom, heq⟩
    · rw [heq]
      exact .inl (Nat.le_refl _)
    · exact .inr ⟨s, request, rfl, hopen, hroom, h⟩
  · rw [h]
    exact .inl (Nat.zero_le _)

/-- What is in the table after a task was there before, or is entered by it. -/
theorem enters_of_mem_pending {task : Task} {e : UInt64 × Submission}
    (h : e ∈ (d.step answer task).dispatcher.pending) :
    e ∈ d.pending ∨ Occurrence.Enters ⟨task, answer, d, d.step answer task⟩ e.1 e.2 := by
  rcases d.mem_pending_step answer h with hold | ⟨request, rfl, hid⟩
  · exact .inl hold
  · simp only [step] at h
    rcases d.enter_cases e.2 request with ⟨-, _, warnings, heq⟩ | ⟨hopen, hroom, -⟩
    · rw [heq] at h
      exact .inl h
    · exact .inr ⟨request, rfl, hid, hopen, hroom⟩

/-- A closed dispatcher has no pending submissions, and an open one no more than allowed. -/
structure InBounds (d : Dispatcher) : Prop where
  empty_of_closed : d.closed = true → d.pending = []
  pending_le : d.pending.length ≤ d.maxPending

variable {d answer}

theorem InBounds.step (h : d.InBounds) (task : Task) :
    (d.step answer task).dispatcher.InBounds := by
  obtain ⟨hlimit, hclosed⟩ := d.step_kept answer task
  -- a closed dispatcher takes nothing in, and the task that closes it empties the table
  rcases d.step_pending_grows answer task with hle | ⟨s, request, rfl, hopen, hroom, heq⟩
  · constructor
    · intro hafter
      rw [hclosed] at hafter
      rcases Bool.or_eq_true_iff.mp hafter with hbefore | hcloses
      · rw [h.empty_of_closed hbefore] at hle
        exact List.eq_nil_of_length_eq_zero (Nat.le_zero.mp hle)
      · cases task with
        | close => rfl
        | _ => cases hcloses
    · rw [hlimit]
      exact Nat.le_trans hle h.pending_le
  · constructor
    · intro hafter
      rw [hclosed, hopen] at hafter
      cases hafter
    · -- the entry takes the room that is left
      have hremove : (d.pending.remove request.id).length ≤ d.pending.length :=
        List.length_filter_le _ _
      rw [hlimit, heq, PendingTable.insert, List.length_append, List.length_singleton]
      omega

end Dispatcher

/-! ## Whole runs -/

namespace World

section Run

variable {limit : Nat} {w : World}

theorem Run.inBounds (h : Run (fresh limit) w) :
    w.dispatcher.InBounds ∧ w.dispatcher.maxPending = limit := by
  induction h with
  | refl => exact ⟨⟨fun _ => rfl, Nat.zero_le _⟩, rfl⟩
  | @step v w hrun hmove ih =>
    rcases hmove.cases_ran with ⟨call, rfl⟩ | ⟨task, answer, nested, later, hran⟩ |
      ⟨table, hperm, rfl⟩
    · exact ih
    · rw [hran.dispatcher]
      exact ⟨ih.1.step task, (v.dispatcher.step_kept answer task).1.trans ih.2⟩
    · refine ⟨⟨fun hclosed => ?_, ?_⟩, ih.2⟩
      · have hempty := ih.1.empty_of_closed hclosed
        rw [hempty] at hperm
        exact hperm.eq_nil
      · have hle := ih.1.pending_le
        rwa [← hperm.length_eq] at hle

/-- A dispatcher is closed if it has been closed once. -/
theorem Run.closed_iff (h : Run (fresh limit) w) :
    w.dispatcher.closed = true ↔ ∃ c ∈ w.history, c.task = .close := by
  induction h with
  | refl => simp [fresh]
  | @step v w hrun hmove ih =>
    rcases hmove.cases_ran with ⟨call, rfl⟩ | ⟨task, answer, nested, later, hran⟩ | ⟨table, -, rfl⟩
    · exact ih
    · have hcloses : task.closes = true ↔ task = .close := by
        cases task <;> simp [Task.closes]
      rw [hran.dispatcher, (v.dispatcher.step_kept answer task).2, Bool.or_eq_true_iff, ih, hcloses,
        hran.history]
      simp only [List.mem_append, List.mem_singleton, or_and_right, exists_or, exists_eq_left]
    · exact ih

theorem Run.closed_mono {v : World} (h : Run v w) (hclosed : v.dispatcher.closed = true) :
    w.dispatcher.closed = true := by
  induction h with
  | refl => exact hclosed
  | @step u w hrun hmove ih =>
    rcases hmove.cases_ran with ⟨call, rfl⟩ | ⟨task, answer, nested, later, hran⟩ | ⟨table, -, rfl⟩
    · exact ih
    · rw [hran.dispatcher, (u.dispatcher.step_kept answer task).2, ih, Bool.true_or]
    · exact ih

/-- What is pending was pending before, or has been entered since. -/
theorem Run.entered_since {v : World} (h : Run v w) :
    ∀ e ∈ w.dispatcher.pending,
      e ∈ v.dispatcher.pending ∨ ∃ c ∈ since v w, c.Enters e.1 e.2 := by
  induction h with
  | refl => exact fun e he => .inl he
  | @step u w hrun hmove ih =>
    intro e he
    have earlier (hold : e ∈ u.dispatcher.pending) :
        e ∈ v.dispatcher.pending ∨ ∃ c ∈ since v w, c.Enters e.1 e.2 := by
      refine (ih e hold).imp_right fun ⟨c, hc, henters⟩ => ⟨c, ?_, henters⟩
      rw [hrun.since_trans (Run.refl.step hmove)]
      exact List.mem_append_left _ hc
    rcases hmove.cases_ran with
      ⟨call, rfl⟩ | ⟨task, answer, nested, later, hran⟩ | ⟨table, hperm, rfl⟩
    · exact earlier he
    · rw [hran.dispatcher] at he
      rcases u.dispatcher.enters_of_mem_pending answer he with hold | henters
      · exact earlier hold
      · refine .inr ⟨_, ?_, henters⟩
        rw [hrun.since_append hran.history]
        exact List.mem_append_right _ List.mem_cons_self
    · exact earlier (hperm.mem_iff.mp he)

/-- Whatever is pending has been entered. -/
theorem Run.entered (h : Run (fresh limit) w) :
    ∀ e ∈ w.dispatcher.pending, ∃ c ∈ w.history, c.Enters e.1 e.2 :=
  fun e he => (h.entered_since e he).resolve_left List.not_mem_nil

end Run

end World

/-! ## The frames that are written -/

/-- The task carries a request of the given id to the table or to the writer. -/
def Task.carries (id : UInt64) : Task → Bool
  | .enter _ request | .write _ request => request.id == id
  | _ => false

theorem Task.carries_first (id : UInt64) (ticket : Nat) (call : Call) :
    (call.task ticket).carries id = false := by
  cases call <;> rfl

/-- The task hands a request of the given id to the writer. -/
def Task.writesAs (id : UInt64) : Task → Bool
  | .write _ request => request.id == id
  | _ => false

/-- A request is carried on by one task at a time, from the one that gives it its id to the one that
writes it. -/
theorem Dispatcher.countP_carries_next (d : Dispatcher) (answer : Answer) (task : Task)
    (id : UInt64) :
    (d.step answer task).next.countP (Task.carries id) + [task].countP (Task.writesAs id) ≤
      [task].countP (Task.carries id) + PendingTable.occupancy (d.issue task) id := by
  have none (hcarries : ∀ t, Follows d answer task t → t.carries id = false) :
      (d.step answer task).next.countP (Task.carries id) = 0 :=
    List.countP_eq_zero.mpr fun t ht => by simp [hcarries t (follows_of_mem_next ht)]
  cases task with
  | number s params =>
    simp [step, issue, PendingTable.occupancy, Task.carries, Task.writesAs]
  | enter s request =>
    simp only [step]
    rcases d.enter_cases s request with ⟨-, e, warnings, h⟩ | ⟨-, -, h⟩ <;>
      simp [h, Task.carries, Task.writesAs]
  | write s request =>
    rw [none (by intro t ht; cases ht; rfl)]
    simp [issue, PendingTable.occupancy, Task.carries, Task.writesAs]
  | _ =>
    rw [none (by intro t ht; cases ht <;> rfl)]
    exact Nat.zero_le _

namespace World

/-- The requests whose frames have been handed to the writer, in order. -/
def frames (w : World) : List Request :=
  w.history.filterMap fun o =>
    match o.task with
    | .write _ request => some request
    | _ => none

theorem count_ids_frames (w : World) (id : UInt64) :
    (w.frames.map (·.id)).count id = w.history.countP (·.task.writesAs id) := by
  unfold frames
  induction w.history with
  | nil => rfl
  | cons o rest ih =>
    rw [List.filterMap_cons, List.countP_cons, ← ih]
    cases htask : o.task with
    | write s request => simp [Task.writesAs, List.count_cons]
    | _ => simp [Task.writesAs]

section Run

variable {limit : Nat} {w : World}

/-- An id is on its way and in written frames as often as it has been given at most. -/
theorem Run.carried_le (h : Run (fresh limit) w) (id : UInt64) :
    w.tasks.countP (Task.carries id) + w.history.countP (·.task.writesAs id) ≤
      PendingTable.occupancy w.issued id := by
  induction h with
  | refl => exact Nat.le_refl _
  | @step v w hrun hmove ih =>
    rcases hmove.cases_ran with ⟨call, rfl⟩ | ⟨task, answer, nested, later, hran⟩ | ⟨table, -, rfl⟩
    · rw [countP_tasks_start (Task.carries_first id)]
      exact ih
    · have htasks := hran.countP_tasks (Task.carries_first id)
      -- a given id is new among the tasks, a written one goes from the tasks to the history
      have hstep := v.dispatcher.countP_carries_next answer task id
      rw [hran.countP_history, hran.issued_eq]
      unfold PendingTable.occupancy at *
      rw [List.countP_append]
      simp only [List.countP_singleton] at hstep htasks ⊢
      omega
    · exact ih

theorem Run.submissions_grow {v : World} (h : Run v w) : v.submissions <+: w.submissions := by
  induction h with
  | refl => exact List.prefix_rfl
  | step _ hmove ih => exact ih.trans hmove.submissions_prefix

/-- As long as the ids have not come round, none is given twice. -/
theorem IdsOK.issued_once (hids : IdsOK w) (hfew : w.issued.length < UInt64.size) (id : UInt64) :
    PendingTable.occupancy w.issued id ≤ 1 := by
  have hnodup : (w.issued.map (·.1)).Nodup := by
    rw [hids.ids]
    refine List.Nodup.map_on ?_ List.nodup_range
    intro j hj k hk heq
    have hnat := congrArg UInt64.toNat heq
    simp only [UInt64.toNat_ofNat', List.mem_range] at hnat hj hk
    unfold UInt64.size at hfew
    omega
  have hcount := List.nodup_iff_count_le_one.mp hnodup id
  rwa [List.count, List.countP_map] at hcount

end Run

end World

/-! ## Submissions that find the dispatcher closed -/

/-- The submission begins, or comes to the table, and finds the dispatcher closed. -/
def Occurrence.Refuses (o : Occurrence) (s : Submission) : Prop :=
  (o.task = .submit s ∨ ∃ request, o.task = .enter s request) ∧ o.before.closed = true

theorem Occurrence.Refuses.settles {o : Occurrence} {s : Submission} (h : o.Refuses s) :
    o.settles s = true := by
  obtain ⟨htask | ⟨request, htask⟩, hclosed⟩ := h <;> simp [Occurrence.settles, htask, hclosed]

theorem Occurrence.Enters.settles {o : Occurrence} {id : UInt64} {s : Submission}
    (h : o.Enters id s) : o.settles s = true := by
  obtain ⟨request, htask, -⟩ := h
  simp [Occurrence.settles, htask]

theorem Occurrence.Refuses.next_eq {o : Occurrence} {s : Submission} (h : o.Refuses s)
    (heffect : o.effect = o.before.step o.answer o.task) :
    o.effect.next = [.done s (.error .connectionClosed)] := by
  obtain ⟨htask | ⟨request, htask⟩, hclosed⟩ := h
  · simp [heffect, htask, Dispatcher.step, hclosed]
  · simp [heffect, htask, Dispatcher.step, Dispatcher.enter, hclosed]

namespace World

/-- What becomes of a submission that is refused because the dispatcher is closed: it never is in
the table, no frame of it is written, and it is completed with that cause once, or about to be. -/
structure Refused (w : World) (s : Submission) : Prop where
  unrecorded : ∀ o ∈ w.history, ∀ e ∈ o.effect.dispatcher.pending, e.2 ≠ s
  unwritten : ∀ o ∈ w.history, ∀ request, o.task ≠ .write s request
  completed : w.outcomesOf s = [.error .connectionClosed] ∨
    w.outcomesOf s = [] ∧ .done s (.error .connectionClosed) ∈ w.tasks

theorem mem_outcomesOf {w : World} {s : Submission} {outcome : Outcome} :
    outcome ∈ w.outcomesOf s ↔ ∃ o ∈ w.history, o.task = .done s outcome := by
  unfold outcomesOf
  rw [List.mem_filterMap]
  refine exists_congr fun o => and_congr_right fun _ => ?_
  cases htask : o.task with
  | done s' outcome' =>
    by_cases hs : s' = s <;> simp [hs]
  | _ => simp

section Run

variable {limit : Nat} {w : World}

/-- A submission that is refused is not entered, before or after. -/
theorem Run.not_enters_of_refuses (h : Run (fresh limit) w) {o c : Occurrence} {s : Submission}
    {id : UInt64} (ho : o ∈ w.history) (hrefuses : o.Refuses s) (hc : c ∈ w.history) :
    ¬ c.Enters id s := by
  intro henters
  obtain rfl := h.settled_once hc ho henters.settles hrefuses.settles
  obtain ⟨request, -, -, hopen, -⟩ := henters
  rw [hrefuses.2] at hopen
  cases hopen

/-- A submission that is refused is in the table at no moment. -/
theorem Run.ne_of_refuses (h : Run (fresh limit) w) {o : Occurrence} {s : Submission}
    (ho : o ∈ w.history) (hrefuses : o.Refuses s) {v : World} (hv : Run (fresh limit) v)
    (hvw : Run v w) : ∀ e ∈ v.dispatcher.pending, e.2 ≠ s := by
  rintro e he rfl
  obtain ⟨c, hc, henters⟩ := hv.entered e he
  exact h.not_enters_of_refuses ho hrefuses (hvw.history_grows.subset hc) henters

/-- No task finds or leaves a submission in the table that is refused. -/
theorem Run.ne_around_of_refuses (h : Run (fresh limit) w) {o c : Occurrence} {s : Submission}
    (ho : o ∈ w.history) (hrefuses : o.Refuses s) (hc : c ∈ w.history) :
    (∀ e ∈ c.before.pending, e.2 ≠ s) ∧ ∀ e ∈ c.effect.dispatcher.pending, e.2 ≠ s := by
  obtain ⟨past, v, nested, later, v', hv, hmoment, hrest⟩ := h.moment_of_mem hc
  constructor
  · rw [hmoment.before]
    exact h.ne_of_refuses ho hrefuses hv (hmoment.run.trans hrest)
  · rw [← hmoment.dispatcher]
    exact h.ne_of_refuses ho hrefuses (hv.step hmoment.step) hrest

/-- Only with the closed connection as its cause is a refused submission completed. -/
theorem Run.outcome_of_refuses (h : Run (fresh limit) w) {o : Occurrence} {s : Submission}
    (ho : o ∈ w.history) (hrefuses : o.Refuses s) {outcome : Outcome}
    (hcaused : Caused w.history (.done s outcome)) : outcome = .error .connectionClosed := by
  obtain ⟨c, hc, task, htask, hfollows⟩ := hcaused.follows rfl
  have absent {id : UInt64} (hfind : c.before.pending.find? id = some s) : False :=
    (h.ne_around_of_refuses ho hrefuses hc).1 _ (PendingTable.mem_of_find? hfind) rfl
  have sole (hsettles : c.settles s = true) : c = o :=
    h.settled_once hc ho hsettles hrefuses.settles
  cases hfollows with
  | refuseAtOnce => rfl
  | refuseClosed => rfl
  | drain => rfl
  | failPending hfind => exact (absent hfind).elim
  | completePending hfind => exact (absent hfind).elim
  | fail hparams =>
    obtain rfl := sole (by simp [Occurrence.settles, htask, hparams])
    rcases hrefuses.1 with heq | ⟨request, heq⟩ <;> rw [htask] at heq <;> cases heq
  | refuseFull hopen =>
    obtain rfl := sole (by simp [Occurrence.settles, htask])
    rw [hrefuses.2] at hopen
    cases hopen

/-- A submission that has been settled, is in no table and has not been cancelled is completed, or
about to be. -/
theorem Run.done_of_settled (h : Run (fresh limit) w) (hfew : w.submissions.length < UInt64.size)
    {o : Occurrence} {s : Submission} (ho : o ∈ w.history) (hsettles : o.settles s = true)
    (hpending : ∀ e ∈ w.dispatcher.pending, e.2 ≠ s)
    (hkept : ∀ c ∈ w.history, c.cancels s = false) :
    (w.outcomesOf s).length = 1 ∨
      w.outcomesOf s = [] ∧ ∃ outcome, .done s outcome ∈ w.tasks := by
  have hreach : w.Reachable := ⟨limit, h⟩
  have hbalance := hreach.balance hfew s
  have hprepared := h.preparation_balance s
  have hcount := hreach.count_submissions_le_one s
  have hsettled : 0 < w.history.countP (Occurrence.settles s) :=
    List.countP_pos_iff.mpr ⟨o, ho, hsettles⟩
  have hentries : PendingTable.entriesOf w.dispatcher.pending s = 0 :=
    List.countP_eq_zero.mpr fun e he => by simpa using hpending e he
  have hcancels : w.history.countP (Occurrence.cancels s) = 0 :=
    List.countP_eq_zero.mpr fun c hc => by simp [hkept c hc]
  -- the balance leaves two places for it: its outcomes, and the tasks that hold it
  rcases Nat.eq_zero_or_pos (w.tasks.countP (Task.holds s)) with hnone | hheld
  · rw [length_outcomesOf]
    exact .inl (by omega)
  · -- what holds the submission does not prepare it any more
    obtain ⟨t, ht, hholds⟩ := List.countP_pos_iff.mp hheld
    have hnoprep : w.tasks.countP (Task.prepares s) = 0 := by omega
    have hdone := List.countP_eq_zero.mp hnoprep t ht
    refine .inr ⟨List.eq_nil_of_length_eq_zero (by rw [length_outcomesOf]; omega), ?_⟩
    cases t with
    | done s' outcome =>
      obtain rfl : s' = s := of_decide_eq_true hholds
      exact ⟨outcome, ht⟩
    | askParams s' => exact absurd hholds hdone
    | number s' params => exact absurd hholds hdone
    | enter s' request => exact absurd hholds hdone
    | _ => cases hholds

/-- **A submission that finds the dispatcher closed is refused.** -/
theorem Run.refused (h : Run (fresh limit) w) (hfew : w.submissions.length < UInt64.size)
    {o : Occurrence} {s : Submission} (ho : o ∈ w.history) (hrefuses : o.Refuses s) :
    w.Refused s := by
  refine ⟨fun c hc => (h.ne_around_of_refuses ho hrefuses hc).2, fun c hc request htask => ?_, ?_⟩
  · have hcaused := h.caused_of_mem hc
    rw [htask] at hcaused
    -- only what has been entered is written
    obtain ⟨b, hb, task, hbtask, hfollows⟩ := hcaused.follows rfl
    cases hfollows with
    | enter hopen hroom =>
      exact h.not_enters_of_refuses ho hrefuses hb ⟨request, hbtask, rfl, hopen, hroom⟩
  · have hkept (c : Occurrence) (hc : c ∈ w.history) : c.cancels s = false := by
      have hbefore := (h.ne_around_of_refuses ho hrefuses hc).1
      have hany : c.before.pending.any (·.2 = s) = false :=
        List.any_eq_false.mpr fun e he => by simpa using hbefore e he
      unfold Occurrence.cancels
      rw [hany, Bool.and_false, Bool.false_and]
    rcases h.done_of_settled hfew ho hrefuses.settles (h.ne_of_refuses ho hrefuses h .refl) hkept
      with hdone | ⟨hnone, outcome, hwaiting⟩
    · obtain ⟨outcome, hsole⟩ := List.length_eq_one_iff.mp hdone
      obtain ⟨c, hc, htask⟩ := mem_outcomesOf.mp (hsole ▸ List.mem_cons_self)
      have hcaused := h.caused_of_mem hc
      rw [htask] at hcaused
      rw [hsole, h.outcome_of_refuses ho hrefuses hcaused]
      exact .inl rfl
    · rw [h.outcome_of_refuses ho hrefuses (h.caused _ hwaiting)] at hwaiting
      exact .inr ⟨hnone, hwaiting⟩

/-- A submission that is entered takes the place of no other one. -/
theorem Run.enters_beside (h : Run (fresh limit) w) (hfew : w.submissions.length < UInt64.size)
    {o : Occurrence} (ho : o ∈ w.history) {s : Submission} {request : Request}
    (htask : o.task = .enter s request) : ∀ e ∈ o.before.pending, e.1 ≠ request.id := by
  obtain ⟨past, v, nested, later, v', hv, hmoment, hrest⟩ := h.moment_of_mem ho
  have hfewer : v.submissions.length < UInt64.size :=
    Nat.lt_of_le_of_lt (hmoment.run.trans hrest).submissions_grow.length_le hfew
  -- the id stands with the task, so it stands nowhere in the table
  have hlive := (Reachable.idsOK ⟨limit, hv⟩ hfewer).live_le_one request.id
  have hhere : 0 < v.tasks.countP (Task.entersAs request.id) :=
    List.countP_pos_iff.mpr ⟨o.task, hmoment.ran.before.mem_iff.mpr List.mem_cons_self, by
      rw [htask]
      exact beq_self_eq_true _⟩
  have hnone : v.dispatcher.pending.occupancy request.id = 0 := by
    unfold live at hlive
    omega
  intro e he heq
  rw [hmoment.before] at he
  exact List.countP_eq_zero.mp hnone e he (beq_iff_eq.mpr heq)

end Run

/-- The number of the next request: the counter of the ids, if it had no end. -/
def nextNumber (w : World) : Nat := w.issued.length + 1

/-- **What holds of a dispatcher at any moment.** A closed one has nothing pending, and an open one
no more than allowed. What is pending stands under an id that has been counted to and has been given
to it alone, so that entering a submission replaces no other one, and no two written frames share an
id. The counter is the number of the next request, as a word: only the last of the 2^64 - 1 ids
takes it back to zero, and up to that all that is pending is below it. A dispatcher is closed from
its first closing on, and a submission that begins, or comes to the table, after that is refused. -/
theorem dispatcher_invariant {limit : Nat} {w : World} (h : Run (fresh limit) w)
    (hfew : w.submissions.length < UInt64.size) :
    (w.dispatcher.closed = true → w.dispatcher.pending = []) ∧
    w.dispatcher.pending.length ≤ limit ∧
    (∀ e ∈ w.dispatcher.pending,
      e.1.toNat < w.nextNumber ∧ w.issued.filter (·.1 == e.1) = [e]) ∧
    (w.dispatcher.nextId = UInt64.ofNat w.nextNumber ∧
      (w.nextNumber < UInt64.size → ∀ e ∈ w.dispatcher.pending, e.1 < w.dispatcher.nextId)) ∧
    (∀ o ∈ w.history, ∀ s request, o.task = .enter s request →
      ∀ e ∈ o.before.pending, e.1 ≠ request.id) ∧
    (w.frames.map (·.id)).Nodup ∧
    ((w.dispatcher.closed = true ↔ ∃ c ∈ w.history, c.task = .close) ∧
      ∀ w', Run w w' → w.dispatcher.closed = true → w'.dispatcher.closed = true) ∧
    (∀ past o s, past ++ [o] <+: w.history → (∃ c ∈ past, c.task = .close) →
      (o.task = .submit s ∨ ∃ request, o.task = .enter s request) →
      o.effect.next = [.done s (.error .connectionClosed)] ∧ w.Refused s) := by
  have hids := Reachable.idsOK ⟨limit, h⟩ hfew
  have hissued : w.issued.length < UInt64.size := by
    have hle := Reachable.issued_le_submissions ⟨limit, h⟩
    omega
  have honce := hids.issued_once hissued
  have hnumber (e : UInt64 × Submission) (he : e ∈ w.dispatcher.pending) :
      e.1.toNat < w.nextNumber := by
    obtain ⟨k, hk, hid⟩ := hids.number_of_issued (hids.pending_issued e he)
    rw [hid, UInt64.toNat_ofNat', nextNumber]
    have hmod := Nat.mod_le (k + 1) (2 ^ 64)
    omega
  refine ⟨h.inBounds.1.empty_of_closed, ?_, fun e he => ⟨hnumber e he, ?_⟩,
    ⟨hids.next_id, fun hroom e he => ?_⟩, fun o ho s request => h.enters_beside hfew ho,
    ?_, ⟨h.closed_iff, fun w' hrun => hrun.closed_mono⟩, fun past o s hpast hclose htask => ?_⟩
  · have hle := h.inBounds.1.pending_le
    rwa [h.inBounds.2] at hle
  · have hgiven := hids.pending_issued e he
    exact PendingTable.filter_eq_of_find? (honce e.1) (PendingTable.find?_of_mem (honce e.1) hgiven)
  · rw [UInt64.lt_iff_toNat_lt, hids.next_id, UInt64.toNat_ofNat', ← nextNumber,
      Nat.mod_eq_of_lt hroom]
    exact hnumber e he
  · refine List.nodup_iff_count_le_one.mpr fun id => ?_
    have hcarried := h.carried_le id
    have hgiven := honce id
    rw [count_ids_frames]
    omega
  · obtain ⟨v, nested, later, v', hv, hmoment, hrest⟩ := h.moment hpast
    have hrefuses : o.Refuses s := by
      refine ⟨htask, ?_⟩
      rw [hmoment.before, hv.closed_iff, hmoment.past]
      exact hclose
    have ho : o ∈ w.history := hpast.subset (List.mem_append_right _ List.mem_cons_self)
    exact ⟨hrefuses.next_eq (h.effect_eq ho), h.refused hfew ho hrefuses⟩

/-- A submission is pending and another one on its way to the table when the dispatcher is closed;
a third one begins after that. -/
def closingMoves : List Move :=
  [.start (.submit ⟨1, "Page.enable"⟩), .advance 0 {} [], .advance 0 {} [], .advance 0 {} [],
    .advance 0 {} [], .advance 0 {} [],
    .start (.submit ⟨2, "Page.disable"⟩), .advance 1 {} [], .advance 1 {} [], .advance 1 {} [],
    .start .close, .advance 2 {} [], .advance 1 {} [], .advance 1 {} [],
    .start (.submit ⟨3, "Page.reload"⟩), .advance 3 {} []]

/-- What `closingMoves` lead to, with room for two pending submissions. -/
def closedMidway : World := ((fresh 2).play closingMoves).getD (fresh 2)

theorem dispatcher_invariant_of_closedMidway :
    Run (fresh 2) closedMidway ∧ closedMidway.submissions.length < UInt64.size ∧
      closedMidway.dispatcher.closed = true ∧ closedMidway.dispatcher.pending = [] ∧
      closedMidway.Refused ⟨1, 2, "Page.disable"⟩ ∧ closedMidway.Refused ⟨3, 3, "Page.reload"⟩ := by
  have hplay : (fresh 2).play closingMoves = some closedMidway := rfl
  have hrun : Run (fresh 2) closedMidway := run_of_play hplay
  have hfew : closedMidway.submissions.length < UInt64.size := by decide
  obtain ⟨hempty, -, -, -, -, -, -, hrefused⟩ := dispatcher_invariant hrun hfew
  have hclosing : ∃ c ∈ closedMidway.history.take 9, c.task = .close :=
    ⟨_, List.mem_of_getElem? (i := 8) rfl, rfl⟩
  have hclosing' : ∃ c ∈ closedMidway.history.take 11, c.task = .close :=
    ⟨_, List.mem_of_getElem? (i := 8) rfl, rfl⟩
  refine ⟨hrun, hfew, rfl, hempty rfl, ?_, ?_⟩
  · exact (hrefused (closedMidway.history.take 9) _ _ ⟨closedMidway.history.drop 10, rfl⟩ hclosing
      (.inr ⟨_, rfl⟩)).2
  · exact (hrefused (closedMidway.history.take 11) _ _ ⟨closedMidway.history.drop 12, rfl⟩ hclosing'
      (.inl rfl)).2

end World

end Bindery.Session
