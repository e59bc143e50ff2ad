import Bindery.Proofs.Session.RequestIds
import Mathlib.Data.List.Nodup

/-!
# What becomes of a submission

A submission that has begun is at one place: with a task that still has to enter or to complete it,
in the table, completed, or cancelled. Each task moves it from one of these to the next
(`Dispatcher.step_balance`), so that in every reachable world the places hold as many as there were
to begin with (`World.Reachable.balance`), which is one, as no two submissions share a ticket
(`World.Reachable.ticketsOK`). When no call is in progress, no task holds it any more:
`World.one_fate_of_quiet`.
-/

namespace Bindery.Session

/-! ## Where a submission can be -/

/-- The task still has to enter the submission into the table or to complete it. -/
def Task.holds (s : Submission) : Task → Bool
  | .askParams s' | .number s' _ | .enter s' _ | .done s' _ => decide (s' = s)
  | _ => false

theorem Task.holds_first (s : Submission) (ticket : Nat) (call : Call) :
    (call.task ticket).holds s = false := by
  cases call <;> rfl

/-- The task completes the submission. -/
def Task.completes (s : Submission) : Task → Bool
  | .done s' _ => decide (s' = s)
  | _ => false

/-- How many entries a submission has. -/
def PendingTable.entriesOf (table : PendingTable) (s : Submission) : Nat :=
  table.countP fun e => decide (e.2 = s)

theorem PendingTable.any_eq_entriesOf_pos (table : PendingTable) (s : Submission) :
    table.any (·.2 = s) = decide (0 < table.entriesOf s) := by
  rw [PendingTable.entriesOf, Bool.eq_iff_iff, decide_eq_true_eq, List.countP_pos_iff,
    List.any_eq_true]

/-- A cancellation that found a command has taken this submission of it out of the table. -/
def Occurrence.cancels (s : Submission) (o : Occurrence) : Bool :=
  o.effect.cancelled && o.before.pending.any (·.2 = s) && !o.effect.dispatcher.pending.any (·.2 = s)

namespace Dispatcher

variable (d : Dispatcher) (s : Submission)

/-- Completing the submission of an id moves it from the table to the task that completes it. -/
theorem complete_balance {id : UInt64} (hone : d.pending.occupancy id ≤ 1) (outcome : Outcome)
    (missing : List Warning) :
    (d.complete id outcome missing).next.countP (Task.holds s) +
        PendingTable.entriesOf (d.complete id outcome missing).dispatcher.pending s =
      PendingTable.entriesOf d.pending s := by
  rcases d.complete_cases id outcome missing with ⟨s', hfind, h⟩ | ⟨-, h⟩
  · have hremove := PendingTable.countP_remove (fun e => decide (e.2 = s)) hone hfind
    rw [h]
    unfold PendingTable.entriesOf
    simp only [List.countP_singleton, Task.holds, decide_eq_true_eq] at hremove ⊢
    omega
  · rw [h]
    exact Nat.zero_add _

/-- Entering a submission moves it into the table, or to the task that refuses it. -/
theorem enter_balance (s' : Submission) {request : Request}
    (hfresh : d.pending.occupancy request.id = 0) :
    (d.enter s' request).next.countP (Task.holds s) +
        PendingTable.entriesOf (d.enter s' request).dispatcher.pending s =
      PendingTable.entriesOf d.pending s + if s' = s then 1 else 0 := by
  rcases d.enter_cases s' request with ⟨-, e, warnings, h⟩ | ⟨-, -, h⟩
  · rw [h]
    simp only [List.countP_singleton, Task.holds, decide_eq_true_eq]
    omega
  · rw [h]
    simp only [PendingTable.insert, PendingTable.remove_eq_self hfresh, PendingTable.entriesOf,
      List.countP_append, List.countP_singleton, Task.holds, decide_eq_true_eq]
    simp

/-- Cancelling takes one submission out of the table, which then counts as cancelled. -/
theorem cancel_balance (key : Nat) (hone : ∀ id, d.pending.occupancy id ≤ 1)
    (hentry : d.pending.entriesOf s ≤ 1) (answer : Answer) :
    PendingTable.entriesOf (d.cancel key).dispatcher.pending s +
        [(⟨.cancel key, answer, d, d.cancel key⟩ : Occurrence)].countP (Occurrence.cancels s) =
      PendingTable.entriesOf d.pending s := by
  rcases d.cancel_cases key with ⟨id, hid, h⟩ | ⟨-, h⟩
  · obtain ⟨s', hfind⟩ := PendingTable.find?_of_idOf? hid
    have hremove := PendingTable.countP_remove (fun e => decide (e.2 = s)) (hone id) hfind
    rw [h]
    simp only [List.countP_singleton, Occurrence.cancels, PendingTable.any_eq_entriesOf_pos,
      Bool.true_and, Bool.and_eq_true, Bool.not_eq_true', decide_eq_true_eq,
      decide_eq_false_iff_not]
    unfold PendingTable.entriesOf at *
    simp only [List.countP_singleton] at hremove
    -- the submission counts as cancelled exactly if the entry that goes was its only one
    split <;> split at hremove <;> omega
  · rw [h]
    rfl

/-- A task that is no cancellation hands a submission on. -/
theorem handover_balance (answer : Answer) {task : Task}
    (hone : ∀ id, d.pending.occupancy id + [task].countP (Task.entersAs id) ≤ 1)
    (hcancel : ∀ key, task ≠ .cancel key) :
    (d.step answer task).next.countP (Task.holds s) +
        PendingTable.entriesOf (d.step answer task).dispatcher.pending s +
        [task].countP (Task.completes s) =
      [task].countP (Task.holds s) + PendingTable.entriesOf d.pending s +
        task.submitted.count s := by
  have hentries (id : UInt64) : d.pending.occupancy id ≤ 1 :=
    Nat.le_trans (Nat.le_add_right _ _) (hone id)
  cases task with
  | submit s' =>
    simp only [step, Task.submitted]
    split <;> simp [Task.holds, Task.completes, List.count_singleton] <;> omega
  | askParams s' =>
    simp only [step, Task.submitted]
    split <;> simp [Task.holds, Task.completes]
  | number s' params => simp [step, Task.holds, Task.completes, Task.submitted]
  | enter s' request =>
    -- the id stands with this task already, so no entry is replaced
    have hfresh : d.pending.occupancy request.id = 0 := by
      have hone := hone request.id
      simp only [List.countP_singleton, Task.entersAs, beq_self_eq_true, if_true] at hone
      omega
    have hbalance := d.enter_balance s s' hfresh
    simp only [step, List.countP_singleton, Task.holds, Task.completes, Task.submitted,
      List.count_nil, decide_eq_true_eq, Bool.false_eq_true, if_false] at hbalance ⊢
    omega
  | write s' request =>
    simp only [step, Task.submitted]
    split <;> simp [Task.holds, Task.completes]
  | withdraw id cause =>
    have hbalance := d.complete_balance s (hentries id) (.error cause) []
    simp only [step, List.countP_singleton, Task.holds, Task.completes, Task.submitted,
      List.count_nil, Bool.false_eq_true, if_false] at hbalance ⊢
    omega
  | done s' outcome =>
    simp only [step, List.countP_nil, List.countP_singleton, Task.holds, Task.completes,
      Task.submitted, List.count_nil, decide_eq_true_eq]
    omega
  | receive text =>
    simp only [step, Task.submitted]
    rcases d.receive_cases text with ⟨warnings, h⟩ | ⟨id, outcome, h⟩ | ⟨event, params, h⟩ <;>
      simp [h, Task.holds, Task.completes]
  | respond id outcome =>
    have hbalance := d.complete_balance s (hentries id) outcome
      [⟨"Response for unknown request", [("id", .count id.toNat)]⟩]
    simp only [step, List.countP_singleton, Task.holds, Task.completes, Task.submitted,
      List.count_nil, Bool.false_eq_true, if_false] at hbalance ⊢
    omega
  | announce event params =>
    have hnone : ((d.sinksFor event).map fun sink => Task.notify sink params).countP
        (Task.holds s) = 0 := by
      rw [List.countP_map]
      exact List.countP_eq_zero.mpr fun sink _ => by simp [Task.holds]
    simp [step, hnone, Task.holds, Task.completes, Task.submitted]
  | notify sink params => simp [step, Task.holds, Task.completes, Task.submitted]
  | listen sink => simp [step, Task.holds, Task.completes, Task.submitted]
  | cancel key => exact absurd rfl (hcancel key)
  | close =>
    -- each entry becomes the task that completes its submission
    have hdrained : (d.pending.map fun e => Task.done e.2 (.error .connectionClosed)).countP
        (Task.holds s) = PendingTable.entriesOf d.pending s := by
      rw [List.countP_map]
      rfl
    simp [step, hdrained, PendingTable.entriesOf, Task.holds, Task.completes, Task.submitted]

theorem cancelled_step (answer : Answer) {task : Task} (hcancel : ∀ key, task ≠ .cancel key) :
    (d.step answer task).cancelled = false := by
  have hcomplete (id : UInt64) (outcome : Outcome) (missing : List Warning) :
      (d.complete id outcome missing).cancelled = false := by
    rcases d.complete_cases id outcome missing with ⟨s, -, h⟩ | ⟨-, h⟩ <;> rw [h]
  cases task with
  | enter s request =>
    simp only [step]
    rcases d.enter_cases s request with ⟨-, e, warnings, h⟩ | ⟨-, -, h⟩ <;> rw [h]
  | withdraw id cause => exact hcomplete _ _ _
  | respond id outcome => exact hcomplete _ _ _
  | receive text =>
    simp only [step]
    rcases d.receive_cases text with ⟨warnings, h⟩ | ⟨id, outcome, h⟩ | ⟨event, params, h⟩ <;>
      rw [h]
  | cancel key => exact absurd rfl (hcancel key)
  | _ => rfl

/-- **What a task does with a submission.** It goes from where it is to where it is next: nothing is
lost, and nothing is doubled. -/
theorem step_balance (answer : Answer) {task : Task}
    (hone : ∀ id, d.pending.occupancy id + [task].countP (Task.entersAs id) ≤ 1)
    (hentry : d.pending.entriesOf s ≤ 1) :
    (d.step answer task).next.countP (Task.holds s) +
        PendingTable.entriesOf (d.step answer task).dispatcher.pending s +
        [task].countP (Task.completes s) +
        [(⟨task, answer, d, d.step answer task⟩ : Occurrence)].countP (Occurrence.cancels s) =
      [task].countP (Task.holds s) + PendingTable.entriesOf d.pending s +
        task.submitted.count s := by
  by_cases hcancel : ∃ key, task = .cancel key
  · obtain ⟨key, rfl⟩ := hcancel
    have hbalance := d.cancel_balance s key
      (fun id => Nat.le_trans (Nat.le_add_right _ _) (hone id)) hentry answer
    have hnext : (d.cancel key).next = [] := by
      rcases d.cancel_cases key with ⟨id, -, h⟩ | ⟨-, h⟩ <;> rw [h]
    simp only [step, hnext, List.countP_nil, List.countP_singleton, Task.holds, Task.completes,
      Task.submitted, List.count_nil, Bool.false_eq_true, if_false, Nat.zero_add, Nat.add_zero]
      at hbalance ⊢
    exact hbalance
  · -- only a cancellation counts as one
    have hcancel : ∀ key, task ≠ .cancel key := fun key h => hcancel ⟨key, h⟩
    have hnothing : [(⟨task, answer, d, d.step answer task⟩ : Occurrence)].countP
        (Occurrence.cancels s) = 0 := by
      simp [Occurrence.cancels, d.cancelled_step answer hcancel]
    rw [hnothing]
    exact d.handover_balance s answer hone hcancel

end Dispatcher

/-! ## Tickets -/

namespace World

/-- The tickets of the submissions that have begun, and of those that are about to. -/
def tickets (w : World) : List Nat :=
  (w.submissions ++ w.tasks.flatMap Task.submitted).map (·.ticket)

/-- No two submissions share a ticket, and the tickets from the next one on are free. -/
structure TicketsOK (w : World) : Prop where
  nodup : w.tickets.Nodup
  lt_next : ∀ ticket ∈ w.tickets, ticket < w.nextTicket

/-- Calls that begin take tickets from the given one on, each at most one. -/
theorem tickets_tasksOf (ticket : Nat) (calls : List Call) :
    (((tasksOf ticket calls).flatMap Task.submitted).map (·.ticket)).Sublist
      (List.range' ticket calls.length) := by
  induction calls generalizing ticket with
  | nil => exact List.Sublist.slnil
  | cons call rest ih =>
    rw [List.length_cons, List.range'_succ]
    cases call with
    | submit command => exact (ih (ticket + 1)).cons_cons ticket
    | _ => exact (ih (ticket + 1)).cons ticket

/-- New tickets, taken from the next one on, are like no old ones. -/
theorem TicketsOK.extend {w w' : World} {count : Nat} {new : List Nat} (h : TicketsOK w)
    (hnew : new.Sublist (List.range' w.nextTicket count))
    (htickets : w'.tickets.Perm (w.tickets ++ new)) (hnext : w'.nextTicket = w.nextTicket + count) :
    TicketsOK w' := by
  have hrange (ticket : Nat) (hmem : ticket ∈ new) :
      w.nextTicket ≤ ticket ∧ ticket < w.nextTicket + count :=
    List.mem_range'_1.mp (hnew.mem hmem)
  constructor
  · refine htickets.nodup_iff.mpr (List.nodup_append.mpr ⟨h.nodup, ?_, ?_⟩)
    · exact List.Nodup.sublist hnew List.nodup_range'
    · intro old hold ticket hmem heq
      have hlt := h.lt_next old hold
      have hle := (hrange ticket hmem).1
      omega
  · intro ticket hmem
    rw [hnext]
    rcases List.mem_append.mp (htickets.mem_iff.mp hmem) with hold | hmem
    · have hlt := h.lt_next ticket hold
      omega
    · exact (hrange ticket hmem).2

/-- A submission is only begun from outside: no task is followed by one that submits. -/
theorem submitted_next (d : Dispatcher) (answer : Answer) (task : Task) :
    (d.step answer task).next.flatMap Task.submitted = [] := by
  refine List.flatMap_eq_nil_iff.mpr fun t ht => ?_
  cases t with
  | submit s =>
    have hprep := d.mem_preparation_of_mem_next answer rfl ht
    cases task with
    | submit s' =>
      simp only [Dispatcher.preparation] at hprep
      split at hprep <;> simp at hprep
    | askParams s' =>
      simp only [Dispatcher.preparation] at hprep
      split at hprep <;> simp at hprep
    | _ => simp [Dispatcher.preparation] at hprep
  | _ => rfl

theorem Ran.tickets_perm {w w' : World} {task : Task} {answer : Answer} {nested : List Call}
    {later : List Task} (h : Ran w task answer nested later w') :
    w'.tickets.Perm (w.tickets ++
      ((tasksOf w.nextTicket nested).flatMap Task.submitted).map (·.ticket)) := by
  have hafter := h.after.flatMap_right Task.submitted
  have hbefore := h.before.flatMap_right Task.submitted
  simp only [List.flatMap_append, List.flatMap_cons, submitted_next, List.nil_append]
    at hafter hbefore
  unfold tickets
  rw [h.submissions_eq, ← List.map_append]
  refine List.Perm.map _ ?_
  calc w.submissions ++ task.submitted ++ w'.tasks.flatMap Task.submitted
      |>.Perm (w.submissions ++ task.submitted ++
          ((tasksOf w.nextTicket nested).flatMap Task.submitted ++ later.flatMap Task.submitted)) :=
        hafter.append_left _
    _ |>.Perm (w.submissions ++ (task.submitted ++ later.flatMap Task.submitted) ++
          (tasksOf w.nextTicket nested).flatMap Task.submitted) := by
        simp only [List.append_assoc]
        exact (List.perm_append_comm.append_left _).append_left _
    _ |>.Perm (w.submissions ++ w.tasks.flatMap Task.submitted ++
          (tasksOf w.nextTicket nested).flatMap Task.submitted) :=
        (hbefore.symm.append_left _).append_right _

/-- **Tickets tell submissions apart.** -/
theorem Reachable.ticketsOK {w : World} (h : w.Reachable) : TicketsOK w := by
  obtain ⟨maxPending, hrun⟩ := h
  induction hrun with
  | refl => exact ⟨List.nodup_nil, fun ticket hmem => absurd hmem List.not_mem_nil⟩
  | @step v w _ hmove ih =>
    rcases hmove.cases_ran with ⟨call, rfl⟩ | ⟨task, answer, nested, later, hran⟩ | ⟨table, -, rfl⟩
    · refine ih.extend (tickets_tasksOf v.nextTicket [call]) (List.Perm.of_eq ?_) rfl
      unfold tickets
      rw [tasks_start, List.flatMap_append, ← List.append_assoc, List.map_append]
      rfl
    · exact ih.extend (tickets_tasksOf _ nested) hran.tickets_perm hran.nextTicket
    · exact ⟨ih.nodup, ih.lt_next⟩

theorem Reachable.count_submissions_le_one {w : World} (h : w.Reachable) (s : Submission) :
    w.submissions.count s ≤ 1 := by
  have hnodup := h.ticketsOK.nodup
  unfold tickets at hnodup
  exact List.nodup_iff_count_le_one.mp (hnodup.of_map _).of_append_left s

/-! ## Fates -/

/-- Every submission that has begun is at one place. -/
theorem Reachable.balance {w : World} (h : w.Reachable) (hfew : w.submissions.length < UInt64.size)
    (s : Submission) :
    w.tasks.countP (Task.holds s) + PendingTable.entriesOf w.dispatcher.pending s +
        w.history.countP (·.task.completes s) + w.history.countP (Occurrence.cancels s) =
      w.submissions.count s := by
  obtain ⟨maxPending, hrun⟩ := h
  induction hrun with
  | refl => rfl
  | @step v w hrun hmove ih =>
    have hreach : v.Reachable := ⟨maxPending, hrun⟩
    have hfewer := Nat.lt_of_le_of_lt hmove.submissions_prefix.length_le hfew
    have hv := ih hfewer
    rcases hmove.cases_ran with
      ⟨call, rfl⟩ | ⟨task, answer, nested, later, hran⟩ | ⟨table, hperm, rfl⟩
    · rw [countP_tasks_start (Task.holds_first s)]
      exact hv
    · -- what a task does with an id is about one entry, as each id stands at one place
      have hids := hreach.idsOK hfewer
      have hone (id : UInt64) :
          v.dispatcher.pending.occupancy id + [task].countP (Task.entersAs id) ≤ 1 := by
        have hlive := hids.live_le_one id
        unfold live at hlive
        rw [hran.before.countP_eq, List.countP_cons] at hlive
        rw [List.countP_singleton]
        omega
      have hentry : v.dispatcher.pending.entriesOf s ≤ 1 := by
        have hcount := hreach.count_submissions_le_one s
        omega
      have htasks := hran.countP_tasks (Task.holds_first s)
      have hstep := v.dispatcher.step_balance s answer hone hentry
      rw [hran.countP_history, hran.countP_history, hran.submissions_eq, List.count_append,
        hran.dispatcher]
      simp only [List.countP_singleton] at hstep htasks ⊢
      omega
    · have hentries : PendingTable.entriesOf (v.withPending table).dispatcher.pending s =
          PendingTable.entriesOf v.dispatcher.pending s := hperm.countP_eq _
      rw [hentries]
      exact hv

theorem length_outcomesOf (w : World) (s : Submission) :
    (w.outcomesOf s).length = w.history.countP (·.task.completes s) := by
  unfold outcomesOf
  induction w.history with
  | nil => rfl
  | cons o rest ih =>
    rw [List.filterMap_cons, List.countP_cons]
    cases htask : o.task with
    | done s' outcome =>
      by_cases hs : s' = s
      · simp only [hs, if_true, List.length_cons, ih, Task.completes, decide_true]
      · simp only [hs, if_false, ih, Task.completes, decide_false, Bool.false_eq_true, Nat.add_zero]
    | _ => exact ih

end World

/-- What has become of a submission when no call is in progress. -/
inductive Fate where
  /-- It has been completed, once. -/
  | completed
  /-- It awaits the response under the id that its request got. -/
  | pending
  /-- A cancellation has taken it out of the table. -/
  | cancelled
  deriving DecidableEq, Repr

/-- Fates that are counted once in all are one fate. -/
theorem Fate.existsUnique_of_sum_eq_one {count : Fate → Nat}
    (h : count .completed + count .pending + count .cancelled = 1) :
    ∃! fate, 0 < count fate := by
  have hcases : 0 < count .completed ∨ 0 < count .pending ∨ 0 < count .cancelled := by omega
  rcases hcases with hfate | hfate | hfate
  · refine ⟨.completed, hfate, fun other hother => ?_⟩
    cases other with
    | completed => rfl
    | _ => omega
  · refine ⟨.pending, hfate, fun other hother => ?_⟩
    cases other with
    | pending => rfl
    | _ => omega
  · refine ⟨.cancelled, hfate, fun other hother => ?_⟩
    cases other with
    | cancelled => rfl
    | _ => omega

namespace World

/-- The submission has come to a fate. -/
def HasFate (w : World) (s : Submission) : Fate → Prop
  | .completed => (w.outcomesOf s).length = 1
  | .pending => ∃ id, (id, s) ∈ w.issued ∧ w.dispatcher.pending.find? id = some s
  | .cancelled => ∃ o ∈ w.history, o.cancels s = true

theorem hasFate_pending_iff {w : World} (hids : IdsOK w) (s : Submission) :
    w.HasFate s .pending ↔ 0 < PendingTable.entriesOf w.dispatcher.pending s := by
  unfold PendingTable.entriesOf
  rw [List.countP_pos_iff]
  constructor
  · rintro ⟨id, -, hfind⟩
    exact ⟨(id, s), PendingTable.mem_of_find? hfind, by simp⟩
  · rintro ⟨⟨id, s'⟩, hmem, hs⟩
    obtain rfl : s' = s := by simpa using hs
    have hone : w.dispatcher.pending.occupancy id ≤ 1 :=
      Nat.le_trans (Nat.le_add_right _ _) (hids.live_le_one id)
    exact ⟨id, hids.pending_issued _ hmem, PendingTable.find?_of_mem hone hmem⟩

theorem hasFate_cancelled_iff (w : World) (s : Submission) :
    w.HasFate s .cancelled ↔ 0 < w.history.countP (Occurrence.cancels s) := by
  rw [List.countP_pos_iff]
  rfl

/-- How often a submission is found with a fate. -/
def fateCount (w : World) (s : Submission) : Fate → Nat
  | .completed => w.history.countP (·.task.completes s)
  | .pending => PendingTable.entriesOf w.dispatcher.pending s
  | .cancelled => w.history.countP (Occurrence.cancels s)

theorem hasFate_iff {w : World} (hids : IdsOK w) {s : Submission}
    (hone : w.fateCount s .completed ≤ 1) (fate : Fate) :
    w.HasFate s fate ↔ 0 < w.fateCount s fate := by
  cases fate with
  | completed =>
    simp only [fateCount, HasFate, length_outcomesOf] at hone ⊢
    omega
  | pending => exact hasFate_pending_iff hids s
  | cancelled => exact hasFate_cancelled_iff w s

theorem tasks_of_quiet {w : World} (h : w.Quiet) : w.tasks = [] :=
  List.flatten_eq_nil_iff.mpr h

/-- **One fate for each submission.** Whatever the calls on a dispatcher do to one another, no two
submissions are mistaken for one another and none is completed twice; and when no call is in
progress, each that was made has been completed, or is pending, or was cancelled, and only one of
these. -/
theorem one_fate_of_quiet {w : World} (h : w.Reachable)
    (hfew : w.submissions.length < UInt64.size) :
    (w.submissions.map (·.ticket)).Nodup ∧ (∀ s, (w.outcomesOf s).length ≤ 1) ∧
      (w.Quiet → ∀ s ∈ w.submissions, ∃! fate, w.HasFate s fate) := by
  refine ⟨?_, fun s => ?_, fun hquiet s hs => ?_⟩
  · have hnodup := h.ticketsOK.nodup
    unfold tickets at hnodup
    rw [List.map_append] at hnodup
    exact hnodup.of_append_left
  · have hbalance := h.balance hfew s
    have hcount := h.count_submissions_le_one s
    rw [length_outcomesOf]
    omega
  · have hbalance := h.balance hfew s
    have hbegun : w.submissions.count s = 1 :=
      Nat.le_antisymm (h.count_submissions_le_one s) (List.one_le_count_iff.mpr hs)
    rw [tasks_of_quiet hquiet, List.countP_nil, hbegun] at hbalance
    have hsum : w.fateCount s .completed + w.fateCount s .pending +
        w.fateCount s .cancelled = 1 := by
      simp only [fateCount]
      omega
    have hfate := hasFate_iff (h.idsOK hfew) (s := s) (by omega)
    simpa only [hfate] using Fate.existsUnique_of_sum_eq_one hsum

/-- Three submissions: the frame of the first is not written, the second is cancelled from inside
the writer while the frame of the third is written. -/
def threeMoves : List Move :=
  [.start (.submit ⟨1, "Page.enable"⟩), .advance 0 {} [], .advance 0 {} [], .advance 0 {} [],
    .advance 0 {} [],
    .start (.submit ⟨2, "Page.disable"⟩), .advance 1 {} [], .advance 1 {} [], .advance 1 {} [],
    .advance 0 { written := .error .connectionClosed } [], .advance 0 {} [], .advance 0 {} [],
    .advance 1 {} [], .advance 1 {} [],
    .start (.submit ⟨3, "Page.reload"⟩), .advance 2 {} [], .advance 2 {} [], .advance 2 {} [],
    .advance 2 {} [], .advance 2 {} [.cancel 2], .advance 2 {} []]

/-- What `threeMoves` lead to, with room for two pending submissions. -/
def threeFates : World := ((fresh 2).play threeMoves).getD (fresh 2)

theorem one_fate_of_threeFates :
    threeFates.Reachable ∧ threeFates.submissions.length < UInt64.size ∧ threeFates.Quiet ∧
      threeFates.submissions =
        [⟨0, 1, "Page.enable"⟩, ⟨1, 2, "Page.disable"⟩, ⟨2, 3, "Page.reload"⟩] ∧
      ∀ s ∈ threeFates.submissions, ∃! fate, threeFates.HasFate s fate := by
  have hplay : (fresh 2).play threeMoves = some threeFates := rfl
  have hreach : threeFates.Reachable := ⟨2, run_of_play hplay⟩
  have hfew : threeFates.submissions.length < UInt64.size := by decide
  have hquiet : threeFates.Quiet := by
    unfold Quiet
    decide
  exact ⟨hreach, hfew, hquiet, by decide, (one_fate_of_quiet hreach hfew).2.2 hquiet⟩

end World

end Bindery.Session
