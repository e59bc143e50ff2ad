import Bindery.Proofs.Session.Moves

/-!
# The ids of requests

Every request gets an id of its own as long as fewer than 2^64 submissions have begun
(`Reachable.idsOK`): the ids count up from one, a submission uses at most one of them
(`Reachable.issued_le_submissions`), and an id stands at one place only, in the table or in a
request that is on its way there.

With ids that stand at one place, what the table does for an id is about one entry:
`PendingTable.countP_remove` says what taking a submission out changes.
-/

namespace Bindery.Session

/-! ## The table of pending submissions -/

namespace PendingTable

variable {table : PendingTable} {id : UInt64} {s : Submission}

/-- How many entries stand under an id. -/
def occupancy (table : PendingTable) (id : UInt64) : Nat :=
  table.countP (·.1 == id)

theorem countP_remove_le (p : UInt64 × Submission → Bool) (table : PendingTable) (id : UInt64) :
    (table.remove id).countP p ≤ table.countP p :=
  List.filter_sublist.countP_le

theorem remove_eq_self (h : table.occupancy id = 0) : table.remove id = table := by
  refine List.filter_eq_self.mpr fun e he => ?_
  have hne := List.countP_eq_zero.mp h e he
  simpa using hne

theorem mem_of_find? (h : table.find? id = some s) : (id, s) ∈ table := by
  obtain ⟨e, hfind, rfl⟩ := Option.map_eq_some_iff.mp h
  have hid : e.1 = id := by simpa using List.find?_some hfind
  rw [← hid]
  exact List.mem_of_find?_eq_some hfind

/-- The one entry of an id is the one that is found. -/
theorem filter_eq_of_find? (hone : table.occupancy id ≤ 1) (h : table.find? id = some s) :
    table.filter (·.1 == id) = [(id, s)] := by
  have hmem : (id, s) ∈ table.filter (·.1 == id) :=
    List.mem_filter.mpr ⟨mem_of_find? h, by simp⟩
  rw [occupancy, List.countP_eq_length_filter] at hone
  cases hentries : table.filter (·.1 == id) with
  | nil => rw [hentries] at hmem; exact absurd hmem List.not_mem_nil
  | cons e rest =>
    rw [hentries] at hmem hone
    obtain rfl : rest = [] := by
      simp only [List.length_cons] at hone
      exact List.eq_nil_of_length_eq_zero (by omega)
    rw [List.mem_singleton.mp hmem]

/-- Taking out a submission takes away its entry, and no other one. -/
theorem countP_remove (p : UInt64 × Submission → Bool) (hone : table.occupancy id ≤ 1)
    (h : table.find? id = some s) :
    table.countP p = (table.remove id).countP p + [(id, s)].countP p := by
  rw [List.countP_eq_countP_filter_add table p (·.1 == id), filter_eq_of_find? hone h, Nat.add_comm]
  rfl

theorem find?_of_mem (hone : table.occupancy id ≤ 1) (hmem : (id, s) ∈ table) :
    table.find? id = some s := by
  cases hfind : table.find? id with
  | none =>
    have hnone := List.find?_eq_none.mp (Option.map_eq_none_iff.mp hfind) _ hmem
    simp at hnone
  | some s' =>
    have hmem' : (id, s) ∈ table.filter (·.1 == id) := List.mem_filter.mpr ⟨hmem, by simp⟩
    rw [filter_eq_of_find? hone hfind] at hmem'
    simp only [List.mem_singleton, Prod.mk.injEq, true_and] at hmem'
    rw [hmem']

/-- The id found for a command is the id of an entry. -/
theorem find?_of_idOf? {key : Nat} (h : table.idOf? key = some id) :
    ∃ s, table.find? id = some s := by
  obtain ⟨e, hfind, rfl⟩ := Option.map_eq_some_iff.mp h
  have hmem := List.mem_of_find?_eq_some hfind
  cases hentry : table.find? e.1 with
  | some s => exact ⟨s, rfl⟩
  | none =>
    have hnone := List.find?_eq_none.mp (Option.map_eq_none_iff.mp hentry) e hmem
    simp at hnone

theorem occupancy_insert_le (table : PendingTable) (id : UInt64) (s : Submission) (id' : UInt64) :
    (table.insert id s).occupancy id' ≤ table.occupancy id' + if id = id' then 1 else 0 := by
  unfold occupancy insert
  rw [List.countP_append]
  have := countP_remove_le (·.1 == id') table id
  by_cases h : id = id'
  · simp only [List.countP_singleton, beq_iff_eq, h, if_true]
    have := countP_remove_le (·.1 == id') table id'
    omega
  · simp only [List.countP_singleton, beq_iff_eq, h, if_false]
    omega

end PendingTable

/-! ## Operations on a dispatcher -/

namespace Dispatcher

variable (d : Dispatcher)

/-- A submission is refused by a dispatcher that is closed or full, which stays as it is; otherwise
it goes into the table, and its frame is written next. -/
theorem enter_cases (s : Submission) (request : Request) :
    ((d.closed ∨ d.maxPending ≤ d.pending.length) ∧ ∃ e warnings,
        d.enter s request = ⟨d, [.done s (.error e)], warnings, false⟩) ∨
      (d.closed = false ∧ d.pending.length < d.maxPending ∧
        d.enter s request = ⟨{ d with pending := d.pending.insert request.id s },
          [.write s request], [], false⟩) := by
  unfold enter
  simp only
  split
  · rename_i hclosed
    exact .inl ⟨.inl hclosed, _, _, rfl⟩
  · rename_i hopen
    split
    · rename_i hfull
      exact .inl ⟨.inr hfull, _, _, rfl⟩
    · rename_i hroom
      exact .inr ⟨Bool.eq_false_iff.mpr hopen, Nat.lt_of_not_le hroom, rfl⟩

/-- The submission of an id leaves the table to be completed, if there is one. -/
theorem complete_cases (id : UInt64) (outcome : Outcome) (missing : List Warning) :
    (∃ s, d.pending.find? id = some s ∧ d.complete id outcome missing =
        ⟨{ d with pending := d.pending.remove id }, [.done s outcome], [], false⟩) ∨
      (d.pending.find? id = none ∧
        d.complete id outcome missing = ⟨d, [], missing, false⟩) := by
  unfold complete
  cases hfind : d.pending.find? id with
  | some s => exact .inl ⟨s, rfl, rfl⟩
  | none => exact .inr ⟨rfl, rfl⟩

/-- A frame leaves the dispatcher as it is, and at most a response or an event comes of it. -/
theorem receive_cases (text : String) :
    (∃ warnings, d.receive text = ⟨d, [], warnings, false⟩) ∨
      (∃ id outcome, d.receive text = ⟨d, [.respond id outcome], [], false⟩) ∨
      ∃ event params, d.receive text = ⟨d, [.announce event params], [], false⟩ := by
  unfold receive
  split
  · exact .inl ⟨_, rfl⟩
  · split
    · exact .inr (.inl ⟨_, _, rfl⟩)
    · exact .inr (.inr ⟨_, _, rfl⟩)
    · exact .inl ⟨_, rfl⟩

/-- A cancellation takes the submission of one id out of the table, if the command is pending. -/
theorem cancel_cases (key : Nat) :
    (∃ id, d.pending.idOf? key = some id ∧
        d.cancel key = ⟨{ d with pending := d.pending.remove id }, [], [], true⟩) ∨
      (d.pending.idOf? key = none ∧ d.cancel key = ⟨d, [], [], false⟩) := by
  unfold cancel
  cases hid : d.pending.idOf? key with
  | some id => exact .inl ⟨id, rfl, rfl⟩
  | none => exact .inr ⟨rfl, rfl⟩

end Dispatcher

/-! ## Preparations -/

/-- The task comes before the request of a submission stands in the table. -/
def Task.preparing : Task → Bool
  | .submit _ | .askParams _ | .number .. | .enter .. => true
  | _ => false

/-- The preparation that follows a task. -/
def Dispatcher.preparation (d : Dispatcher) (answer : Answer) : Task → List Task
  | .submit s => if d.closed then [] else [.askParams s]
  | .askParams s =>
    match answer.params with
    | .ok params => [.number s params]
    | .error _ => []
  | .number s params => [.enter s ⟨d.nextId, s.command.method, params⟩]
  | _ => []

/-- Of the tasks that follow a task, at most one is a preparation. -/
theorem Dispatcher.countP_next (d : Dispatcher) (answer : Answer) (task : Task) {p : Task → Bool}
    (hp : ∀ t : Task, t.preparing = false → p t = false) :
    (d.step answer task).next.countP p = (d.preparation answer task).countP p := by
  have hdone (s : Submission) (outcome : Outcome) : p (.done s outcome) = false := hp _ rfl
  have hcomplete (id : UInt64) (outcome : Outcome) (missing : List Warning) :
      (d.complete id outcome missing).next.countP p = 0 := by
    rcases d.complete_cases id outcome missing with ⟨s, -, h⟩ | ⟨-, h⟩ <;> simp [h, hdone]
  cases task with
  | submit s =>
    simp only [step, preparation]
    split <;> simp [hdone]
  | askParams s =>
    simp only [step, preparation]
    cases answer.params <;> simp [hdone]
  | number s params => rfl
  | enter s request =>
    simp only [step, preparation]
    rcases d.enter_cases s request with ⟨-, e, warnings, h⟩ | ⟨-, -, h⟩ <;>
      simp [h, hdone, hp (.write s request) rfl]
  | write s request =>
    simp only [step, preparation]
    cases answer.written <;> simp [hp (.withdraw _ _) rfl]
  | withdraw id cause => exact hcomplete id (.error cause) []
  | done s outcome => rfl
  | receive text =>
    simp only [step, preparation]
    rcases d.receive_cases text with ⟨warnings, h⟩ | ⟨id, outcome, h⟩ | ⟨event, params, h⟩
    · simp [h]
    · simp [h, hp (.respond id outcome) rfl]
    · simp [h, hp (.announce event params) rfl]
  | respond id outcome => exact hcomplete id outcome _
  | announce event params =>
    simp only [step, preparation, List.countP_nil, List.countP_eq_zero, List.mem_map]
    rintro t ⟨sink, -, rfl⟩
    simp [hp (.notify sink params) rfl]
  | notify sink params => rfl
  | listen sink => rfl
  | cancel key =>
    simp only [step, preparation]
    rcases d.cancel_cases key with ⟨id, -, h⟩ | ⟨-, h⟩ <;> rw [h]
  | close =>
    simp only [step, preparation, List.countP_nil, List.countP_eq_zero, List.mem_map]
    rintro t ⟨e, -, rfl⟩
    simp [hdone]

/-- The task enters a request of the given id. -/
def Task.entersAs (id : UInt64) : Task → Bool
  | .enter _ request => request.id == id
  | _ => false

theorem Task.entersAs_first (id : UInt64) (ticket : Nat) (call : Call) :
    (call.task ticket).entersAs id = false := by
  cases call <;> rfl

/-- The task comes before its request has an id. -/
def Task.awaitsId : Task → Bool
  | .askParams _ | .number .. => true
  | _ => false

theorem Task.awaitsId_first (ticket : Nat) (call : Call) : (call.task ticket).awaitsId = false := by
  cases call <;> rfl

theorem Task.not_entersAs_of_not_preparing (id : UInt64) :
    ∀ t : Task, t.preparing = false → t.entersAs id = false := by
  intro t ht
  cases t with
  | enter s request => exact absurd ht (by simp [preparing])
  | _ => rfl

theorem Task.not_awaitsId_of_not_preparing :
    ∀ t : Task, t.preparing = false → t.awaitsId = false := by
  intro t ht
  cases t with
  | askParams s => exact absurd ht (by simp [preparing])
  | number s params => exact absurd ht (by simp [preparing])
  | _ => rfl

namespace Dispatcher

/-- The id that a task gives to a request, with the submission that gets it. -/
def issue (d : Dispatcher) : Task → List (UInt64 × Submission)
  | .number s _ => [(d.nextId, s)]
  | _ => []

variable (d : Dispatcher) (answer : Answer)

/-- The counter moves by the ids that are given. -/
theorem step_nextId (task : Task) :
    (d.step answer task).dispatcher.nextId = d.nextId + UInt64.ofNat (d.issue task).length := by
  have hcomplete (id : UInt64) (outcome : Outcome) (missing : List Warning) :
      (d.complete id outcome missing).dispatcher.nextId = d.nextId := by
    rcases d.complete_cases id outcome missing with ⟨s, -, h⟩ | ⟨-, h⟩ <;> rw [h]
  have hkept {after : Dispatcher} (h : after.nextId = d.nextId) :
      after.nextId = d.nextId + UInt64.ofNat 0 := by
    rw [h]
    exact (UInt64.add_zero _).symm
  cases task with
  | number s params => rfl
  | enter s request =>
    refine hkept ?_
    simp only [step]
    rcases d.enter_cases s request with ⟨-, e, warnings, h⟩ | ⟨-, -, h⟩ <;> rw [h]
  | withdraw id cause => exact hkept (hcomplete _ _ _)
  | respond id outcome => exact hkept (hcomplete _ _ _)
  | receive text =>
    refine hkept ?_
    simp only [step]
    rcases d.receive_cases text with ⟨warnings, h⟩ | ⟨id, outcome, h⟩ | ⟨event, params, h⟩ <;>
      rw [h]
  | cancel key =>
    refine hkept ?_
    simp only [step]
    rcases d.cancel_cases key with ⟨id, -, h⟩ | ⟨-, h⟩ <;> rw [h]
  | _ => exact hkept rfl

/-- What a task can do to the table: nothing, take an id out, enter a submission, or empty it. -/
theorem step_pending_cases (task : Task) :
    (d.step answer task).dispatcher.pending = d.pending ∨
      (∃ id, (d.step answer task).dispatcher.pending = d.pending.remove id) ∨
      (∃ s request, task = .enter s request ∧
        (d.step answer task).dispatcher.pending = d.pending.insert request.id s) ∨
      (d.step answer task).dispatcher.pending = [] := by
  have hcomplete (id : UInt64) (outcome : Outcome) (missing : List Warning) :
      (d.complete id outcome missing).dispatcher.pending = d.pending ∨
        (d.complete id outcome missing).dispatcher.pending = d.pending.remove id := by
    rcases d.complete_cases id outcome missing with ⟨s, -, h⟩ | ⟨-, h⟩
    · exact .inr (by rw [h])
    · exact .inl (by rw [h])
  cases task with
  | enter s request =>
    simp only [step]
    rcases d.enter_cases s request with ⟨-, e, warnings, h⟩ | ⟨-, -, h⟩
    · exact .inl (by rw [h])
    · exact .inr (.inr (.inl ⟨s, request, rfl, by rw [h]⟩))
  | withdraw id cause => exact (hcomplete id _ _).imp_right fun h => .inl ⟨id, h⟩
  | respond id outcome => exact (hcomplete id _ _).imp_right fun h => .inl ⟨id, h⟩
  | receive text =>
    simp only [step]
    rcases d.receive_cases text with ⟨warnings, h⟩ | ⟨id, outcome, h⟩ | ⟨event, params, h⟩ <;>
      exact .inl (by rw [h])
  | cancel key =>
    simp only [step]
    rcases d.cancel_cases key with ⟨id, -, h⟩ | ⟨-, h⟩
    · exact .inr (.inl ⟨id, by rw [h]⟩)
    · exact .inl (by rw [h])
  | close => exact .inr (.inr (.inr rfl))
  | _ => exact .inl rfl

/-- What is in the table after a task was there before, or has been entered by the task. -/
theorem mem_pending_step {task : Task} {e : UInt64 × Submission}
    (h : e ∈ (d.step answer task).dispatcher.pending) :
    e ∈ d.pending ∨ ∃ request, task = .enter e.2 request ∧ request.id = e.1 := by
  rcases d.step_pending_cases answer task with heq | ⟨id, heq⟩ | ⟨s, request, rfl, heq⟩ | heq <;>
    rw [heq] at h
  · exact .inl h
  · exact .inl (List.mem_of_mem_filter h)
  · rcases List.mem_append.mp h with hold | hnew
    · exact .inl (List.mem_of_mem_filter hold)
    · obtain rfl := List.mem_singleton.mp hnew
      exact .inr ⟨request, rfl, rfl⟩
  · exact absurd h List.not_mem_nil

/-- An id that a task brings into the table is the id of the request that the task enters. -/
theorem occupancy_step_le (task : Task) (id : UInt64) :
    PendingTable.occupancy (d.step answer task).dispatcher.pending id ≤
      PendingTable.occupancy d.pending id + [task].countP (Task.entersAs id) := by
  rcases d.step_pending_cases answer task with heq | ⟨id', heq⟩ | ⟨s, request, rfl, heq⟩ | heq <;>
    rw [heq]
  · exact Nat.le_add_right _ _
  · exact Nat.le_trans (PendingTable.countP_remove_le _ _ _) (Nat.le_add_right _ _)
  · simp only [List.countP_singleton, Task.entersAs, beq_iff_eq]
    exact PendingTable.occupancy_insert_le _ _ _ _
  · exact Nat.zero_le _

/-- A submission that begins may come to await an id, and one that gets its id awaits none. -/
theorem issue_add_awaitsId_le (task : Task) :
    (d.issue task).length + (d.preparation answer task).countP Task.awaitsId ≤
      [task].countP Task.awaitsId + task.submitted.length := by
  cases task with
  | submit s =>
    simp only [issue, preparation]
    split <;> simp [Task.submitted, Task.awaitsId]
  | askParams s =>
    simp only [issue, preparation]
    split <;> simp [Task.awaitsId]
  | number s params => exact Nat.le_refl _
  | _ => exact Nat.zero_le _

/-- A task gives an id to the request that is entered next, or none of both happens. -/
theorem issue_cases (task : Task) :
    (∃ s params, task = .number s params) ∨
      (d.issue task = [] ∧ ∀ id, (d.preparation answer task).countP (Task.entersAs id) = 0) := by
  cases task with
  | number s params => exact .inl ⟨s, params, rfl⟩
  | submit s =>
    refine .inr ⟨rfl, fun id => ?_⟩
    simp only [preparation]
    split <;> rfl
  | askParams s =>
    refine .inr ⟨rfl, fun id => ?_⟩
    simp only [preparation]
    split <;> rfl
  | _ => exact .inr ⟨rfl, fun id => rfl⟩

/-- A preparation that follows a task is the one that the task leads to. -/
theorem mem_preparation_of_mem_next {task t : Task} (ht : t.preparing = true)
    (h : t ∈ (d.step answer task).next) : t ∈ d.preparation answer task := by
  classical
  -- tasks equal to `t` are counted, which is what is known of the tasks that follow
  have hcount := d.countP_next answer task (p := fun t' => t'.preparing && decide (t' = t)) <| by
    intro t' ht'
    simp [ht']
  have hpos : 0 < (d.step answer task).next.countP fun t' => t'.preparing && decide (t' = t) :=
    List.countP_pos_iff.mpr ⟨t, h, by simp [ht]⟩
  rw [hcount] at hpos
  obtain ⟨t', hmem, ht'⟩ := List.countP_pos_iff.mp hpos
  simp only [Bool.and_eq_true, decide_eq_true_eq] at ht'
  rwa [← ht'.2]

end Dispatcher

/-! ## The ids of a world -/

namespace World

/-- The ids that have been given to requests, in order, each with the submission that got it. -/
def issued (w : World) : List (UInt64 × Submission) :=
  w.history.flatMap fun o => o.before.issue o.task

/-- At how many places an id stands: in the table, and in requests that are about to be entered. -/
def live (w : World) (id : UInt64) : Nat :=
  w.dispatcher.pending.occupancy id + w.tasks.countP (Task.entersAs id)

/-- The ids are in order: they have been counted up from one, those in use have been issued, and
each is in use at one place. -/
structure IdsOK (w : World) : Prop where
  ids : w.issued.map (·.1) = (List.range w.issued.length).map fun k => UInt64.ofNat (k + 1)
  next_id : w.dispatcher.nextId = UInt64.ofNat (w.issued.length + 1)
  live_le_one : ∀ id, w.live id ≤ 1
  pending_issued : ∀ e ∈ w.dispatcher.pending, e ∈ w.issued
  entering_issued : ∀ s request, .enter s request ∈ w.tasks → (request.id, s) ∈ w.issued

theorem Ran.issued_eq {w w' : World} {task : Task} {answer : Answer} {nested : List Call}
    {later : List Task} (h : Ran w task answer nested later w') :
    w'.issued = w.issued ++ w.dispatcher.issue task := by
  unfold issued
  rw [h.history, List.flatMap_append, List.flatMap_singleton]

/-- Every id has been taken by a submission, and those that are about to take one are counted on
top. -/
theorem Reachable.issued_le_submissions {w : World} (h : w.Reachable) :
    w.issued.length + w.tasks.countP Task.awaitsId ≤ w.submissions.length := by
  obtain ⟨maxPending, hrun⟩ := h
  induction hrun with
  | refl => exact Nat.le_refl _
  | @step v w _ hmove ih =>
  rcases hmove.cases_ran with ⟨call, rfl⟩ | ⟨task, answer, nested, later, hran⟩ | ⟨table, -, rfl⟩
  · rw [countP_tasks_start Task.awaitsId_first]
    exact ih
  · -- the task leaves the ids and those who await one together no more than the submissions
    have htasks := hran.countP_tasks Task.awaitsId_first
    rw [Dispatcher.countP_next _ _ _ Task.not_awaitsId_of_not_preparing] at htasks
    rw [hran.issued_eq, hran.submissions_eq, List.length_append,
      List.length_append]
    have hstep := v.dispatcher.issue_add_awaitsId_le answer task
    omega
  · exact ih

/-- The number of an id that has been given. -/
theorem IdsOK.number_of_issued {w : World} (hids : IdsOK w) {id : UInt64} {s : Submission}
    (h : (id, s) ∈ w.issued) : ∃ k < w.issued.length, id = UInt64.ofNat (k + 1) := by
  have hmem : id ∈ w.issued.map (·.1) := List.mem_map_of_mem h
  rw [hids.ids] at hmem
  obtain ⟨k, hk, rfl⟩ := List.mem_map.mp hmem
  exact ⟨k, List.mem_range.mp hk, rfl⟩

/-- An id in use has been issued. -/
theorem IdsOK.issued_of_live {w : World} (hids : IdsOK w) {id : UInt64} (h : 0 < w.live id) :
    ∃ s, (id, s) ∈ w.issued := by
  rcases Nat.add_pos_iff_pos_or_pos.mp h with hpending | hentering
  · obtain ⟨e, he, hid⟩ := List.countP_pos_iff.mp hpending
    exact ⟨e.2, by simpa [← beq_iff_eq.mp hid] using hids.pending_issued e he⟩
  · obtain ⟨t, ht, hid⟩ := List.countP_pos_iff.mp hentering
    cases t with
    | enter s request =>
      exact ⟨s, by simpa [← beq_iff_eq.mp hid] using hids.entering_issued s request ht⟩
    | _ => cases hid

/-- The next id has not been issued, as long as the ids have not come round. -/
theorem IdsOK.nextId_not_issued {w : World} (hids : IdsOK w)
    (hfew : w.issued.length + 1 < UInt64.size) (s : Submission) :
    (w.dispatcher.nextId, s) ∉ w.issued := by
  intro hissued
  -- an issued id has been counted to before, and below 2^64 the count does not repeat
  obtain ⟨k, hk, hid⟩ := hids.number_of_issued hissued
  rw [hids.next_id] at hid
  have hnat := congrArg UInt64.toNat hid
  simp only [UInt64.toNat_ofNat'] at hnat
  unfold UInt64.size at hfew
  omega

/-- Nor is it in use. -/
theorem IdsOK.live_nextId {w : World} (hids : IdsOK w) (hfew : w.issued.length + 1 < UInt64.size) :
    w.live w.dispatcher.nextId = 0 := by
  by_contra hlive
  obtain ⟨s, hissued⟩ := hids.issued_of_live (Nat.pos_of_ne_zero hlive)
  exact hids.nextId_not_issued hfew s hissued

section Ran

variable {w w' : World} {task : Task} {answer : Answer} {nested : List Call} {later : List Task}

/-- An id comes to a new place only with the preparation that follows the task. -/
theorem Ran.live_le (h : Ran w task answer nested later w') (id : UInt64) :
    w'.live id ≤ w.live id + (w.dispatcher.preparation answer task).countP (Task.entersAs id) := by
  have htasks := h.countP_tasks (Task.entersAs_first id)
  rw [Dispatcher.countP_next _ _ _ (Task.not_entersAs_of_not_preparing id)] at htasks
  have hpending := w.dispatcher.occupancy_step_le answer task id
  rw [← h.dispatcher] at hpending
  unfold live
  omega

theorem IdsOK.live_le_one_ran (hids : IdsOK w) (h : Ran w task answer nested later w')
    (hfew : w.issued.length + (w.dispatcher.issue task).length < UInt64.size) (id : UInt64) :
    w'.live id ≤ 1 := by
  have hlive := h.live_le id
  have hle := hids.live_le_one id
  rcases w.dispatcher.issue_cases answer task with ⟨s, params, rfl⟩ | ⟨-, hnone⟩
  · -- the id that is given is the next one, which stood nowhere
    have hfresh := hids.live_nextId hfew
    by_cases hid : w.dispatcher.nextId = id
    · subst hid
      have hone := List.countP_le_length (l := w.dispatcher.preparation answer (.number s params))
        (p := Task.entersAs w.dispatcher.nextId)
      simp only [Dispatcher.preparation, List.length_singleton] at hone hlive
      omega
    · simp only [Dispatcher.preparation, List.countP_singleton, Task.entersAs, beq_iff_eq, hid,
        if_false] at hlive
      omega
  · rw [hnone] at hlive
    omega

/-- A request that is about to be entered was so before, or has just been given its id. -/
theorem IdsOK.entering_issued_ran (hids : IdsOK w) (h : Ran w task answer nested later w')
    {s : Submission} {request : Request} (hmem : .enter s request ∈ w'.tasks) :
    (request.id, s) ∈ w'.issued := by
  rw [h.issued_eq]
  rcases List.mem_append.mp (h.after.mem_iff.mp hmem) with hinner | hmem
  · -- no call begins by entering a request
    obtain ⟨ticket, call, hcall⟩ := mem_tasksOf hinner
    cases call <;> cases hcall
  · rcases List.mem_append.mp hmem with hnext | hlater
    · have hprep := w.dispatcher.mem_preparation_of_mem_next answer rfl hnext
      rcases w.dispatcher.issue_cases answer task with ⟨s', params, rfl⟩ | ⟨-, hnone⟩
      · simp only [Dispatcher.preparation, List.mem_singleton, Task.enter.injEq] at hprep
        obtain ⟨rfl, rfl⟩ := hprep
        exact List.mem_append_right _ List.mem_cons_self
      · have hzero := List.countP_eq_zero.mp (hnone request.id) _ hprep
        simp [Task.entersAs] at hzero
    · have hwaiting := h.before.mem_iff.mpr (List.mem_cons_of_mem task hlater)
      exact List.mem_append_left _ (hids.entering_issued s request hwaiting)

/-- Running a task keeps the ids in order, unless they would come round. -/
theorem IdsOK.ran (hids : IdsOK w) (h : Ran w task answer nested later w')
    (hfew : w.issued.length + (w.dispatcher.issue task).length < UInt64.size) : IdsOK w' := by
  have hnextId := w.dispatcher.step_nextId answer task
  rw [← h.dispatcher] at hnextId
  have hissued := h.issued_eq
  refine ⟨?_, ?_, hids.live_le_one_ran h hfew, fun e he => ?_,
    fun s request => hids.entering_issued_ran h⟩
  · rcases w.dispatcher.issue_cases answer task with ⟨s, params, rfl⟩ | ⟨hnone, -⟩
    · rw [hissued]
      simp only [Dispatcher.issue, List.map_append, List.length_append, List.map_cons, List.map_nil,
        List.length_cons, List.length_nil, Nat.zero_add, List.range_succ, hids.ids, hids.next_id]
    · rw [hissued, hnone, List.append_nil]
      exact hids.ids
  · rw [hnextId, hissued, List.length_append, hids.next_id, ← UInt64.ofNat_add]
    congr 1
    omega
  · rw [hissued]
    rw [h.dispatcher] at he
    rcases w.dispatcher.mem_pending_step answer he with hold | ⟨request, rfl, hid⟩
    · exact List.mem_append_left _ (hids.pending_issued e hold)
    · have hentered := hids.entering_issued e.2 request (h.before.mem_iff.mpr List.mem_cons_self)
      rw [hid] at hentered
      exact List.mem_append_left _ hentered

end Ran

/-- **The ids are in order.** As long as fewer than 2^64 submissions have begun, whatever the
calls do to one another. -/
theorem Reachable.idsOK {w : World} (h : w.Reachable) (hfew : w.submissions.length < UInt64.size) :
    IdsOK w := by
  obtain ⟨maxPending, hrun⟩ := h
  induction hrun with
  | refl =>
    refine ⟨rfl, rfl, fun id => Nat.zero_le _, fun e he => ?_, fun s request hmem => ?_⟩
    · exact absurd he List.not_mem_nil
    · exact absurd hmem List.not_mem_nil
  | @step v w hrun hmove ih =>
    have hv := ih (Nat.lt_of_le_of_lt hmove.submissions_prefix.length_le hfew)
    rcases hmove.cases_ran with
      ⟨call, rfl⟩ | ⟨task, answer, nested, later, hran⟩ | ⟨table, hperm, rfl⟩
    · refine ⟨hv.ids, hv.next_id, fun id => ?_, hv.pending_issued, fun s request hmem => ?_⟩
      · unfold live
        rw [countP_tasks_start (Task.entersAs_first id)]
        exact hv.live_le_one id
      · rw [tasks_start] at hmem
        rcases List.mem_append.mp hmem with hold | hnew
        · exact hv.entering_issued s request hold
        · have hcall := List.mem_singleton.mp hnew
          cases call <;> cases hcall
    · refine hv.ran hran ?_
      have hw : w.Reachable := ⟨maxPending, hrun.step hmove⟩
      have hle := hw.issued_le_submissions
      rw [hran.issued_eq, List.length_append] at hle
      omega
    · refine ⟨hv.ids, hv.next_id, fun id => ?_, fun e he => ?_, hv.entering_issued⟩
      · have hcount := hperm.countP_eq (·.1 == id)
        have hone := hv.live_le_one id
        unfold live PendingTable.occupancy at *
        rw [show (v.withPending table).dispatcher.pending = table from rfl, hcount]
        exact hone
      · exact hv.pending_issued e (hperm.mem_iff.mp he)

end World

end Bindery.Session
