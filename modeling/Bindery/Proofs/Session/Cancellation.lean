import Bindery.Proofs.Session.Continuations
import Bindery.Proofs.Session.Invariant

/-!
# What a cancellation leaves behind

A command may be submitted several times, and a cancellation takes one of its submissions out of the
table. So whether the command is completed later is a question of how many submissions of it are
held when it is cancelled, by entries of the table and by tasks (`World.heldFor`). The number only
grows by submitting the command (`World.Run.heldFor_le`), and as long as it is not zero a completion
can come (`World.exists_completion`). A cancelled command is therefore forgotten exactly if it was
held once: `World.forgets_iff_held_once`.
-/

namespace Bindery.Session

/-! ## Submissions of one command -/

/-- The task still has to enter a submission of the command into the table, or to complete it. -/
def Task.holdsFor (key : Nat) : Task → Bool
  | .askParams s | .number s _ | .enter s _ | .done s _ => s.command.key == key
  | _ => false

theorem Task.holdsFor_first (key ticket : Nat) (call : Call) :
    (call.task ticket).holdsFor key = false := by
  cases call <;> rfl

/-- The task completes a submission of the command. -/
def Task.completesFor (key : Nat) : Task → Bool
  | .done s _ => s.command.key == key
  | _ => false

namespace PendingTable

variable {table : PendingTable} {id : UInt64} {s : Submission}

/-- How many entries a command has. -/
def entriesFor (table : PendingTable) (key : Nat) : Nat :=
  table.countP (·.2.command.key == key)

/-- Taking out a submission takes away its entry at least. -/
theorem countP_remove_add_le (p : UInt64 × Submission → Bool) (h : table.find? id = some s) :
    (table.remove id).countP p + [(id, s)].countP p ≤ table.countP p := by
  have hfound : [(id, s)].countP p ≤ (table.filter (·.1 == id)).countP p := by
    refine List.Sublist.countP_le (List.singleton_sublist.mpr ?_)
    exact List.mem_filter.mpr ⟨mem_of_find? h, beq_self_eq_true id⟩
  rw [List.countP_eq_countP_filter_add table p (·.1 == id), Nat.add_comm]
  exact Nat.add_le_add_right hfound _

theorem entriesFor_insert_le (table : PendingTable) (id : UInt64) (s : Submission) (key : Nat) :
    (table.insert id s).entriesFor key ≤
      table.entriesFor key + if s.command.key = key then 1 else 0 := by
  unfold entriesFor insert
  simp only [List.countP_append, List.countP_singleton, beq_iff_eq]
  exact Nat.add_le_add_right (countP_remove_le _ _ _) _

@[simp] theorem occupancy_remove_self (table : PendingTable) (id : UInt64) :
    (table.remove id).occupancy id = 0 :=
  List.countP_eq_zero.mpr fun e he => by simpa using (List.mem_filter.mp he).2

/-- The command whose entry is found has one entry fewer when that one is taken out. -/
theorem entriesFor_remove_idOf? {key : Nat} (hone : ∀ id, table.occupancy id ≤ 1)
    (h : table.idOf? key = some id) :
    (table.remove id).entriesFor key + 1 = table.entriesFor key := by
  obtain ⟨e, hfind, rfl⟩ := Option.map_eq_some_iff.mp h
  have hkey : (e.2.command.key == key) = true := by simpa using List.find?_some hfind
  have hremove := countP_remove (·.2.command.key == key) (hone e.1)
    (find?_of_mem (hone e.1) (List.mem_of_find?_eq_some hfind))
  rw [List.countP_singleton, if_pos hkey] at hremove
  exact hremove.symm

theorem entriesFor_of_idOf?_eq_none {key : Nat} (h : table.idOf? key = none) :
    table.entriesFor key = 0 :=
  List.countP_eq_zero.mpr (List.find?_eq_none.mp (Option.map_eq_none_iff.mp h))

end PendingTable

namespace Dispatcher

variable (d : Dispatcher) (key : Nat)

theorem complete_heldFor_le (id : UInt64) (outcome : Outcome) (missing : List Warning) :
    (d.complete id outcome missing).next.countP (Task.holdsFor key) +
        PendingTable.entriesFor (d.complete id outcome missing).dispatcher.pending key ≤
      PendingTable.entriesFor d.pending key := by
  rcases d.complete_cases id outcome missing with ⟨s, hfind, h⟩ | ⟨-, h⟩
  · have hremove := PendingTable.countP_remove_add_le (·.2.command.key == key) hfind
    rw [h, Nat.add_comm]
    exact hremove
  · rw [h]
    exact Nat.le_of_eq (Nat.zero_add _)

/-- **What a task does with the submissions of a command.** It hands them on, drops or completes
them; only by submitting the command it adds one. -/
theorem step_heldFor_le (answer : Answer) (task : Task) :
    (d.step answer task).next.countP (Task.holdsFor key) +
        PendingTable.entriesFor (d.step answer task).dispatcher.pending key +
        [task].countP (Task.completesFor key) ≤
      [task].countP (Task.holdsFor key) + PendingTable.entriesFor d.pending key +
        [task].countP (Task.submits key) := by
  cases task with
  | submit s =>
    simp only [step]
    split <;> simp [Task.holdsFor, Task.completesFor, Task.submits, Nat.add_comm]
  | askParams s =>
    simp only [step]
    split <;> simp [Task.holdsFor, Task.completesFor, Task.submits]
  | number s params => simp [step, Task.holdsFor, Task.completesFor, Task.submits]
  | enter s request =>
    simp only [step]
    rcases d.enter_cases s request with ⟨-, e, warnings, h⟩ | ⟨-, -, h⟩
    · simp [h, Task.holdsFor, Task.completesFor, Task.submits]
    · have hinsert := PendingTable.entriesFor_insert_le d.pending request.id s key
      simp only [h, List.countP_singleton, Task.holdsFor, Task.completesFor, Task.submits,
        beq_iff_eq, Bool.false_eq_true, if_false]
      omega
  | write s request =>
    simp only [step]
    split <;> simp [Task.holdsFor, Task.completesFor, Task.submits]
  | withdraw id cause =>
    have hle := d.complete_heldFor_le key id (.error cause) []
    simpa [step, Task.holdsFor, Task.completesFor, Task.submits] using hle
  | done s outcome =>
    simp only [step, List.countP_nil, List.countP_singleton, Task.holdsFor, Task.completesFor,
      Task.submits, beq_iff_eq]
    omega
  | receive text =>
    simp only [step]
    rcases d.receive_cases text with ⟨warnings, h⟩ | ⟨id, outcome, h⟩ | ⟨event, params, h⟩ <;>
      simp [h, Task.holdsFor, Task.completesFor, Task.submits]
  | respond id outcome =>
    have hle := d.complete_heldFor_le key id outcome
      [⟨"Response for unknown request", [("id", .count id.toNat)]⟩]
    simpa [step, Task.holdsFor, Task.completesFor, Task.submits] using hle
  | announce event params =>
    have hnone : ((d.sinksFor event).map fun sink => Task.notify sink params).countP
        (Task.holdsFor key) = 0 := by
      rw [List.countP_map]
      exact List.countP_eq_zero.mpr fun sink _ => by simp [Task.holdsFor]
    simp [step, hnone, Task.holdsFor, Task.completesFor, Task.submits]
  | cancel key' =>
    simp only [step]
    rcases d.cancel_cases key' with ⟨id, -, h⟩ | ⟨-, h⟩
    · have hremove := PendingTable.countP_remove_le (·.2.command.key == key) d.pending id
      simpa [h, PendingTable.entriesFor, Task.holdsFor, Task.completesFor, Task.submits]
        using hremove
    · simp [h, Task.holdsFor, Task.completesFor, Task.submits]
  | close =>
    -- each entry becomes the task that completes its submission
    have hdrained : (d.pending.map fun e => Task.done e.2 (.error .connectionClosed)).countP
        (Task.holdsFor key) = PendingTable.entriesFor d.pending key := by
      rw [List.countP_map]
      rfl
    simp [step, hdrained, PendingTable.entriesFor, Task.holdsFor, Task.completesFor, Task.submits]
  | _ => simp [step, Task.holdsFor, Task.completesFor, Task.submits]

/-- An id that a task brings into the table stands there once. -/
theorem occupancy_step_le_one (answer : Answer) (task : Task)
    (hone : ∀ id, d.pending.occupancy id ≤ 1) (id : UInt64) :
    PendingTable.occupancy (d.step answer task).dispatcher.pending id ≤ 1 := by
  rcases d.step_pending_cases answer task with heq | ⟨id', heq⟩ | ⟨s, request, -, heq⟩ | heq <;>
    rw [heq]
  · exact hone id
  · exact Nat.le_trans (PendingTable.countP_remove_le _ _ _) (hone id)
  · by_cases hid : request.id = id
    · have hremoved := PendingTable.occupancy_remove_self d.pending id
      unfold PendingTable.insert PendingTable.occupancy at *
      rw [hid, List.countP_append, hremoved]
      simp
    · have hle := PendingTable.occupancy_insert_le d.pending request.id s id
      rw [if_neg hid] at hle
      exact Nat.le_trans hle (hone id)
  · exact Nat.zero_le _

/-- A cancellation that finds its command takes one entry of it away; otherwise there was none. -/
theorem entriesFor_cancel (hone : ∀ id, d.pending.occupancy id ≤ 1) :
    ((d.cancel key).cancelled = true ∧
        PendingTable.entriesFor (d.cancel key).dispatcher.pending key + 1 =
          PendingTable.entriesFor d.pending key) ∨
      ((d.cancel key).cancelled = false ∧
        PendingTable.entriesFor (d.cancel key).dispatcher.pending key = 0) := by
  rcases d.cancel_cases key with ⟨id, hid, h⟩ | ⟨hnone, h⟩ <;> rw [h]
  · exact .inl ⟨rfl, PendingTable.entriesFor_remove_idOf? hone hid⟩
  · exact .inr ⟨rfl, PendingTable.entriesFor_of_idOf?_eq_none hnone⟩

theorem next_cancel : (d.cancel key).next = [] := by
  rcases d.cancel_cases key with ⟨id, -, h⟩ | ⟨-, h⟩ <;> rw [h]

end Dispatcher

namespace World

/-- How many submissions of a command there are, in the table and with tasks, that may still be
completed. -/
def heldFor (w : World) (key : Nat) : Nat :=
  w.tasks.countP (Task.holdsFor key) + PendingTable.entriesFor w.dispatcher.pending key

theorem Ran.heldFor_le {w w' : World} {task : Task} {answer : Answer} {nested : List Call}
    {later : List Task} (h : Ran w task answer nested later w') (key : Nat) :
    w'.heldFor key + [task].countP (Task.completesFor key) ≤
      w.heldFor key + [task].countP (Task.submits key) := by
  have htasks := h.countP_tasks (Task.holdsFor_first key)
  have hstep := w.dispatcher.step_heldFor_le key answer task
  unfold heldFor
  rw [h.dispatcher]
  omega

/-- **Submissions of a command are not multiplied.** In a stretch of a run it is completed no more
often than it was held at the beginning and has been submitted since. -/
theorem Run.heldFor_le {v w : World} (h : Run v w) (key : Nat) :
    w.heldFor key + (since v w).countP (·.task.completesFor key) ≤
      v.heldFor key + (since v w).countP (·.task.submits key) := by
  induction h with
  | refl => rw [since_self]; exact Nat.le_refl _
  | @step u w hrun hmove ih =>
    rcases hmove.cases_ran with
      ⟨call, rfl⟩ | ⟨task, answer, nested, later, hran⟩ | ⟨table, hperm, rfl⟩
    · have hheld : (u.start call).heldFor key = u.heldFor key := by
        unfold heldFor
        rw [countP_tasks_start (Task.holdsFor_first key)]
        rfl
      rw [hheld]
      exact ih
    · have hle := hran.heldFor_le key
      rw [hrun.since_append hran.history, List.countP_append, List.countP_append]
      simp only [List.countP_singleton] at hle ⊢
      omega
    · have hheld : (u.withPending table).heldFor key = u.heldFor key := by
        unfold heldFor
        have hcount := hperm.countP_eq (·.2.command.key == key)
        exact congrArg (u.tasks.countP (Task.holdsFor key) + ·) hcount
      rw [hheld]
      exact ih

theorem Run.occupancy_le_one {limit : Nat} {w : World} (h : Run (fresh limit) w) (id : UInt64) :
    PendingTable.occupancy w.dispatcher.pending id ≤ 1 := by
  induction h generalizing id with
  | refl => exact Nat.zero_le _
  | @step v w _ hmove ih =>
    rcases hmove.cases_ran with
      ⟨call, rfl⟩ | ⟨task, answer, nested, later, hran⟩ | ⟨table, hperm, rfl⟩
    · exact ih id
    · rw [hran.dispatcher]
      exact v.dispatcher.occupancy_step_le_one answer task ih id
    · have hcount : PendingTable.occupancy table id =
          PendingTable.occupancy v.dispatcher.pending id := hperm.countP_eq _
      exact Nat.le_trans (Nat.le_of_eq hcount) (ih id)

/-- How often a command has been submitted. -/
def submissionsFor (w : World) (key : Nat) : Nat :=
  w.history.countP (·.task.submits key)

/-- A command is held and has been completed no more often than it has been submitted. -/
theorem Run.heldFor_le_submissionsFor {limit : Nat} {w : World} (h : Run (fresh limit) w)
    (key : Nat) :
    w.heldFor key + w.history.countP (·.task.completesFor key) ≤ w.submissionsFor key := by
  have hle := h.heldFor_le key
  have hsince : since (fresh limit) w = w.history := rfl
  have hnone : (fresh limit).heldFor key = 0 := rfl
  rw [hsince, hnone, Nat.zero_add] at hle
  exact hle

/-! ## Commands that are forgotten -/

/-- From now on the command is completed only if it is submitted again. -/
def Forgets (v : World) (key : Nat) : Prop :=
  ∀ w, RunWithout key v w → ∀ o ∈ since v w, o.task.completesFor key = false

theorem forgets_of_not_held {v : World} {key : Nat} (h : v.heldFor key = 0) : v.Forgets key := by
  intro w hrun o ho
  have hle := hrun.run.heldFor_le key
  have hunsubmitted : (since v w).countP (·.task.submits key) = 0 :=
    List.countP_eq_zero.mpr fun c hc => by simp [hrun.unsubmitted c hc]
  have hnone : (since v w).countP (·.task.completesFor key) = 0 := by omega
  simpa using List.countP_eq_zero.mp hnone o ho

/-- A completion of the command can come before it is submitted again. -/
def CanComplete (v : World) (key : Nat) : Prop :=
  ∃ w, RunWithout key v w ∧ ∃ o ∈ since v w, o.task.completesFor key = true

theorem CanComplete.after {u v : World} {key : Nat} (hrun : RunWithout key u v)
    (h : v.CanComplete key) : u.CanComplete key := by
  obtain ⟨w, hw, o, ho, hcompletes⟩ := h
  refine ⟨w, hrun.trans hw, o, ?_, hcompletes⟩
  rw [hrun.run.since_trans hw.run]
  exact List.mem_append_right _ ho

/-- A run of one task that submits nothing. -/
theorem runWithout_of_since {v w : World} {key : Nat} {o : Occurrence} (hrun : Run v w)
    (hsince : since v w = [o]) (ho : o.task.submits key = false) : RunWithout key v w := by
  refine ⟨hrun, fun c hc => ?_⟩
  rw [hsince] at hc
  obtain rfl := List.mem_singleton.mp hc
  exact ho

theorem canComplete_of_done_next {v : World} {i key : Nat} {s : Submission} {outcome : Outcome}
    {rest : List Task} (hcall : v.calls[i]? = some (.done s outcome :: rest))
    (hkey : s.command.key = key) : v.CanComplete key := by
  obtain ⟨w, hrun, hsince, -, -⟩ := exists_advance hcall {}
  refine ⟨w, runWithout_of_since hrun hsince rfl, _, hsince ▸ List.mem_cons_self, ?_⟩
  simpa [Task.completesFor] using hkey

/-- What is pending is completed if the dispatcher is closed. -/
theorem canComplete_of_pending {v : World} {key : Nat} {e : UInt64 × Submission}
    (he : e ∈ v.dispatcher.pending) (hkey : e.2.command.key = key) : v.CanComplete key := by
  have hstart : RunWithout key v (v.start .close) :=
    ⟨Run.refl.step (.start v .close), fun o ho => absurd (since_self v ▸ ho) List.not_mem_nil⟩
  obtain ⟨u, hrun, hsince, -, hcall⟩ := exists_advance (calls_start v .close) {}
  refine CanComplete.after (hstart.trans (runWithout_of_since hrun hsince rfl)) ?_
  obtain ⟨before, after, hsplit⟩ := List.append_of_mem he
  have hnext : ((v.start .close).dispatcher.step {} (Call.close.task v.nextTicket)).next =
      before.map (fun e => Task.done e.2 (.error .connectionClosed)) ++
        .done e.2 (.error .connectionClosed) ::
          after.map fun e => Task.done e.2 (.error .connectionClosed) := by
    change v.dispatcher.pending.map _ = _
    rw [hsplit, List.map_append, List.map_cons]
  rw [hnext, List.append_nil] at hcall
  have hbefore : ∀ t ∈ before.map (fun e => Task.done e.2 (.error .connectionClosed)),
      t.submits key = false := by
    intro t ht
    obtain ⟨e', -, rfl⟩ := List.mem_map.mp ht
    rfl
  obtain ⟨u', hrun', hcall'⟩ := exists_run_through hcall hbefore
  exact .after hrun' (canComplete_of_done_next hcall' hkey)

/-- What comes to the table is completed: at once if it is refused, else by closing the
dispatcher. -/
theorem canComplete_of_enter_next {v : World} {i key : Nat} {s : Submission} {request : Request}
    {rest : List Task} (hcall : v.calls[i]? = some (.enter s request :: rest))
    (hkey : s.command.key = key) : v.CanComplete key := by
  obtain ⟨w, hrun, hsince, hdispatcher, hnext⟩ := exists_advance hcall {}
  refine .after (runWithout_of_since hrun hsince rfl) ?_
  simp only [Dispatcher.step] at hdispatcher hnext
  rcases v.dispatcher.enter_cases s request with ⟨-, e, warnings, h⟩ | ⟨-, -, h⟩ <;>
    rw [h] at hdispatcher hnext
  · exact canComplete_of_done_next hnext hkey
  · refine canComplete_of_pending (e := (request.id, s)) ?_ hkey
    rw [hdispatcher]
    exact List.mem_append_right _ List.mem_cons_self

/-- A task that holds a submission of the command and runs next leads to its completion, if a
command without parameters is refused and what is in the table is drained. -/
theorem canComplete_of_holds_next {v : World} {i key : Nat} {t : Task} {rest : List Task}
    (hcall : v.calls[i]? = some (t :: rest)) (ht : t.holdsFor key = true) : v.CanComplete key := by
  obtain ⟨w, hrun, hsince, -, hnext⟩ :=
    exists_advance hcall { params := .error .connectionClosed }
  cases t with
  | askParams s =>
    exact .after (runWithout_of_since hrun hsince rfl)
      (canComplete_of_done_next hnext (beq_iff_eq.mp ht))
  | number s params =>
    exact .after (runWithout_of_since hrun hsince rfl)
      (canComplete_of_enter_next hnext (beq_iff_eq.mp ht))
  | enter s request => exact canComplete_of_enter_next hcall (beq_iff_eq.mp ht)
  | done s outcome => exact canComplete_of_done_next hcall (beq_iff_eq.mp ht)
  | _ => cases ht

/-- **What is held can be completed.** Unless the command is about to be submitted again by a call
in progress, some continuation completes it first. -/
theorem exists_completion {v : World} {key : Nat} (hheld : 0 < v.heldFor key)
    (hwaiting : ∀ t ∈ v.tasks, t.submits key = false) : v.CanComplete key := by
  rcases Nat.add_pos_iff_pos_or_pos.mp hheld with htasks | hentries
  · obtain ⟨t, ht, hholds⟩ := List.countP_pos_iff.mp htasks
    obtain ⟨call, hcall, htcall⟩ := List.mem_flatten.mp ht
    obtain ⟨i, hi⟩ := List.mem_iff_getElem?.mp hcall
    obtain ⟨before, after, rfl⟩ := List.append_of_mem htcall
    -- the call it waits in is brought to the point where it runs next
    have hbefore (t' : Task) (ht' : t' ∈ before) : t'.submits key = false :=
      hwaiting t' (List.mem_flatten.mpr ⟨_, hcall, List.mem_append_left _ ht'⟩)
    obtain ⟨u, hrun, hcall'⟩ := exists_run_through hi hbefore
    exact .after hrun (canComplete_of_holds_next hcall' hholds)
  · obtain ⟨e, he, hkey⟩ := List.countP_pos_iff.mp hentries
    exact canComplete_of_pending he (beq_iff_eq.mp hkey)

/-! ## Cancellations -/

/-- A cancellation that finds its command takes one submission of it away. -/
theorem Ran.heldFor_cancel {v w : World} {key : Nat} {answer : Answer} {nested : List Call}
    {later : List Task} (hran : Ran v (.cancel key) answer nested later w)
    (hone : ∀ id, PendingTable.occupancy v.dispatcher.pending id ≤ 1)
    (hfound : (v.dispatcher.cancel key).cancelled = true) :
    w.heldFor key + 1 = v.heldFor key := by
  have htasks := hran.countP_tasks (Task.holdsFor_first key)
  simp only [Dispatcher.step, Dispatcher.next_cancel, List.countP_nil, List.countP_singleton,
    Task.holdsFor, Bool.false_eq_true, if_false] at htasks
  unfold heldFor
  rw [hran.dispatcher, Dispatcher.step]
  rcases v.dispatcher.entriesFor_cancel key hone with ⟨-, hentries⟩ | ⟨hmissed, -⟩
  · omega
  · rw [hfound] at hmissed
    cases hmissed

/-- **When a cancelled command is never completed.** A cancellation that finds its command keeps it
from being completed, until it is submitted again, exactly if it was held once: by the entry that
was found and by nothing else. A command that has not been submitted twice is held once. For the
other direction no submission of it may be waiting in a call in progress, as what comes after that
one in the call cannot be reached without it. -/
theorem forgets_iff_held_once {limit : Nat} {v w : World} (hv : Run (fresh limit) v) {i key : Nat}
    {rest : List Task} (hcall : v.calls[i]? = some (.cancel key :: rest)) {answer : Answer}
    {nested : List Call} (hmove : v.advance i answer nested = some w)
    (hfound : (v.dispatcher.cancel key).cancelled = true) :
    (v.heldFor key = 1 → w.Forgets key) ∧
    ((∀ t ∈ v.tasks, t.submits key = false) → w.Forgets key → v.heldFor key = 1) ∧
    (v.submissionsFor key ≤ 1 → v.heldFor key = 1) := by
  obtain ⟨later, hran⟩ := ran_of_advance hcall hmove
  have hheld := hran.heldFor_cancel hv.occupancy_le_one hfound
  refine ⟨fun hone => forgets_of_not_held (by omega), fun hwaiting hforgets => ?_, fun honce => ?_⟩
  · by_contra hmany
    -- the cancellation leaves another submission behind, which can be completed
    have hwaiting' (t : Task) (ht : t ∈ w.tasks) : t.submits key = false := by
      rcases List.mem_append.mp (hran.after.mem_iff.mp ht) with hinner | ht
      · exact absurd hinner List.not_mem_nil
      · rcases List.mem_append.mp ht with hnext | hlater
        · exact Dispatcher.not_submits_of_mem_next hnext key
        · exact hwaiting t (hran.before.mem_iff.mpr (List.mem_cons_of_mem _ hlater))
    obtain ⟨u, hrun, o, ho, hcompletes⟩ := exists_completion (by omega) hwaiting'
    rw [hforgets u hrun o ho] at hcompletes
    cases hcompletes
  · have hle := hv.heldFor_le_submissionsFor key
    omega

/-- A command is submitted, and cancelled while it is pending. -/
def submittedOnce : World :=
  (fresh 8).after [.start (.submit ⟨7, "Page.enable"⟩), .advance 0 {} [], .advance 0 {} [],
    .advance 0 {} [], .advance 0 {} [], .advance 0 {} [], .start (.cancel 7)]

/-- A command is submitted twice, and cancelled while it is pending under two ids. -/
def submittedTwice : World :=
  submittedOnce.after [.start (.submit ⟨7, "Page.enable"⟩), .advance 2 {} [], .advance 2 {} [],
    .advance 2 {} [], .advance 2 {} [], .advance 2 {} []]

/-- The world after the cancellation. -/
def cancelledIn (v : World) : World := v.after [.advance 1 {} []]

theorem run_submittedOnce : Run (fresh 8) submittedOnce := run_after _ _

theorem run_submittedTwice : Run (fresh 8) submittedTwice :=
  run_submittedOnce.trans (run_after _ _)

theorem forgets_iff_held_once_of_submittedTwice :
    (cancelledIn submittedOnce).Forgets 7 ∧ ¬ (cancelledIn submittedTwice).Forgets 7 := by
  have hmove : submittedOnce.advance 1 {} [] = some (cancelledIn submittedOnce) := rfl
  have hmove' : submittedTwice.advance 1 {} [] = some (cancelledIn submittedTwice) := rfl
  have honce := forgets_iff_held_once run_submittedOnce rfl hmove rfl
  have htwice := forgets_iff_held_once run_submittedTwice rfl hmove' rfl
  refine ⟨honce.1 (honce.2.2 (by decide)), fun hforgets => ?_⟩
  have hheld : submittedTwice.heldFor 7 = 1 := htwice.2.1 (by decide) hforgets
  exact absurd hheld (by decide)

/-- A command that is pending twice is completed after its cancellation, if the dispatcher is closed
then. -/
theorem not_forall_forgets : ¬ ∀ (limit : Nat) (v w : World) (i key : Nat) (rest : List Task)
    (answer : Answer) (nested : List Call), Run (fresh limit) v →
      v.calls[i]? = some (.cancel key :: rest) → v.advance i answer nested = some w →
      (v.dispatcher.cancel key).cancelled = true → w.Forgets key := by
  intro h
  have hforgets := h 8 submittedTwice _ 1 7 [] {} [] run_submittedTwice rfl rfl rfl
  let closed :=
    (cancelledIn submittedTwice).after [.start .close, .advance 3 {} [], .advance 3 {} []]
  have hrun : Run (cancelledIn submittedTwice) closed := run_after _ _
  have hunsubmitted : ∀ o ∈ since (cancelledIn submittedTwice) closed,
      o.task.submits 7 = false := by decide
  have hcompleted : ∃ o ∈ since (cancelledIn submittedTwice) closed,
      o.task.completesFor 7 = true := by decide
  obtain ⟨o, ho, hcompletes⟩ := hcompleted
  have hnever := hforgets closed ⟨hrun, hunsubmitted⟩ o ho
  rw [hnever] at hcompletes
  cases hcompletes

end World

end Bindery.Session
