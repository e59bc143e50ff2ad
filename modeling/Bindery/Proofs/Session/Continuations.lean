import Bindery.Proofs.Session.Causes

/-!
# What can still happen

`World.since` is what has happened between two moments of a run. Two facts about calls in progress
look ahead from a moment:

* a call that has returned has run its first task, and whatever had to follow from it
  (`World.Run.ran_of_returned`);
* every call can be brought to its end, whatever it still has to do, and without another submission
  of a command (`World.exists_run_through`): what follows a task is of lower rank
  (`Follows.rank_lt`).
-/

namespace Bindery.Session

/-- The task begins a submission of the command of a key. -/
def Task.submits (key : Nat) : Task → Bool
  | .submit s => s.command.key == key
  | _ => false

/-- No task is followed by one that begins a submission. -/
theorem Dispatcher.not_submits_of_mem_next {d : Dispatcher} {answer : Answer} {task t : Task}
    (h : t ∈ (d.step answer task).next) (key : Nat) : t.submits key = false := by
  have hfollows := follows_of_mem_next h
  cases hfollows <;> rfl

namespace World

/-! ## Between two moments -/

/-- What has happened in a world since an earlier one. -/
def since (v w : World) : List Occurrence := w.history.drop v.history.length

@[simp] theorem since_self (v : World) : since v v = [] := List.drop_length

theorem Run.history_eq {v w : World} (h : Run v w) : w.history = v.history ++ since v w :=
  (List.prefix_iff_eq_append.mp h.history_grows).symm

theorem Run.since_trans {u v w : World} (huv : Run u v) (hvw : Run v w) :
    since u w = since u v ++ since v w := by
  have hsplit := hvw.history_eq
  rw [huv.history_eq, List.append_assoc] at hsplit
  exact List.append_cancel_left ((huv.trans hvw).history_eq.symm.trans hsplit)

/-- What is added to a history comes last. -/
theorem Run.since_append {u v w : World} (huv : Run u v) {added : List Occurrence}
    (hadded : w.history = v.history ++ added) : since u w = since u v ++ added := by
  unfold since
  rw [hadded, List.drop_append_of_le_length huv.history_grows.length_le]

/-- What has happened since a moment happened at a later one. -/
theorem Run.moment_of_mem_since {v w : World} (h : Run v w) {o : Occurrence} (ho : o ∈ since v w) :
    ∃ past u nested later u', Run v u ∧ Moment past o u nested later u' ∧ Run u' w := by
  obtain ⟨before, after, hsplit⟩ := List.append_of_mem ho
  refine ⟨v.history ++ before, h.moment_after (List.prefix_append _ _) ⟨after, ?_⟩⟩
  rw [h.history_eq, hsplit]
  simp

/-- A run in which the command of a key is not submitted. -/
structure RunWithout (key : Nat) (v w : World) : Prop where
  run : Run v w
  unsubmitted : ∀ o ∈ since v w, o.task.submits key = false

theorem RunWithout.refl (key : Nat) (v : World) : RunWithout key v v :=
  ⟨.refl, fun _ ho => absurd (since_self v ▸ ho) List.not_mem_nil⟩

theorem RunWithout.trans {key : Nat} {u v w : World} (huv : RunWithout key u v)
    (hvw : RunWithout key v w) : RunWithout key u w := by
  refine ⟨huv.run.trans hvw.run, fun o ho => ?_⟩
  rw [huv.run.since_trans hvw.run] at ho
  rcases List.mem_append.mp ho with ho | ho
  · exact huv.unsubmitted o ho
  · exact hvw.unsubmitted o ho

/-! ## The calls of a world -/

/-- A call goes on with its first task, and no call is made from inside: what follows the task comes
before the rest. -/
theorem advance_alone {v : World} {i : Nat} {task : Task} {rest : List Task}
    (hcall : v.calls[i]? = some (task :: rest)) (answer : Answer) :
    v.advance i answer [] = some {
      dispatcher := (v.dispatcher.step answer task).dispatcher
      calls := v.calls.set i ((v.dispatcher.step answer task).next ++ rest)
      nextTicket := v.nextTicket
      history := v.history ++ [⟨task, answer, v.dispatcher, v.dispatcher.step answer task⟩] } := by
  have hnested : (if task.callsOut then tasksOf v.nextTicket [] else []) = [] := by
    cases task.callsOut <;> rfl
  unfold advance
  rw [hcall]
  simp only [hnested, List.nil_append, List.length_nil, Nat.add_zero]

/-- The first task of a call may run by itself. -/
theorem exists_advance {v : World} {i : Nat} {task : Task} {rest : List Task}
    (hcall : v.calls[i]? = some (task :: rest)) (answer : Answer) :
    ∃ w, Run v w ∧ since v w = [⟨task, answer, v.dispatcher, v.dispatcher.step answer task⟩] ∧
      w.dispatcher = (v.dispatcher.step answer task).dispatcher ∧
      w.calls[i]? = some ((v.dispatcher.step answer task).next ++ rest) := by
  refine ⟨_, Run.refl.step (.advance i answer [] (advance_alone hcall answer)), ?_, rfl, ?_⟩
  · exact List.drop_left
  · obtain ⟨hi, -⟩ := List.getElem?_eq_some_iff.mp hcall
    exact List.getElem?_set_self hi

/-- A task that waits in a call still waits there after a move, or the move has run it, and what
follows it waits there now. -/
theorem Step.waiting_cases {v w : World} (h : Step v w) {i : Nat} {ts : List Task} {t : Task}
    (hcall : v.calls[i]? = some ts) (ht : t ∈ ts) :
    ∃ ts', w.calls[i]? = some ts' ∧
      (t ∈ ts' ∨ ∃ answer,
        w.history = v.history ++ [⟨t, answer, v.dispatcher, v.dispatcher.step answer t⟩] ∧
        ∀ t' ∈ (v.dispatcher.step answer t).next, t' ∈ ts') := by
  cases h with
  | start call =>
    obtain ⟨hi, -⟩ := List.getElem?_eq_some_iff.mp hcall
    exact ⟨ts, by simp only [World.start, List.getElem?_append_left hi, hcall], .inl ht⟩
  | advance j answer nested h =>
    unfold World.advance at h
    split at h
    · rename_i task rest hcall'
      obtain rfl := Option.some.inj h
      obtain ⟨hi, -⟩ := List.getElem?_eq_some_iff.mp hcall
      by_cases hij : j = i
      · subst hij
        obtain rfl : task :: rest = ts := Option.some.inj (hcall'.symm.trans hcall)
        refine ⟨_, List.getElem?_set_self hi, ?_⟩
        rcases List.mem_cons.mp ht with rfl | hrest
        · exact .inr ⟨answer, rfl, fun t' ht' =>
            List.mem_append_left _ (List.mem_append_right _ ht')⟩
        · exact .inl (List.mem_append_right _ hrest)
      · exact ⟨ts, by rw [List.getElem?_set_ne hij]; exact hcall, .inl ht⟩
    · cases h
  | reorder table h => exact ⟨ts, hcall, .inl ht⟩

/-- The call that begins. -/
theorem calls_start (v : World) (call : Call) :
    (v.start call).calls[v.calls.length]? = some [call.task v.nextTicket] := by
  simp [start]

/-- **A call that has returned has done what it had to do.** If a property of tasks holds of the
first task of a call, and is handed on by each task that has it to one that follows, unless an event
of a certain kind occurs, then such an event has occurred when the call has returned. -/
theorem Run.ran_of_returned {due : Task → Prop} {event : Occurrence → Prop} {v w : World}
    {call : Call} (h : Run (v.start call) w) (hreturned : w.calls[v.calls.length]? = some [])
    (hfirst : due (call.task v.nextTicket))
    (hstep : ∀ d answer task, due task → event ⟨task, answer, d, d.step answer task⟩ ∨
      ∃ t ∈ (d.step answer task).next, due t) :
    ∃ o ∈ since (v.start call) w, event o := by
  have hkept : (∃ ts, w.calls[v.calls.length]? = some ts ∧ ∃ t ∈ ts, due t) ∨
      ∃ o ∈ since (v.start call) w, event o := by
    clear hreturned
    induction h with
    | refl => exact .inl ⟨_, calls_start v call, _, List.mem_cons_self, hfirst⟩
    | @step u w hrun hmove ih =>
      rcases ih with ⟨ts, hcall, t, ht, hdue⟩ | ⟨o, ho, hevent⟩
      · obtain ⟨ts', hcall', hwaiting | ⟨answer, hhistory, hnext⟩⟩ := hmove.waiting_cases hcall ht
        · exact .inl ⟨ts', hcall', t, hwaiting, hdue⟩
        · rcases hstep u.dispatcher answer t hdue with hevent | ⟨t', ht', hdue'⟩
          · refine .inr ⟨_, ?_, hevent⟩
            rw [hrun.since_append hhistory]
            exact List.mem_append_right _ List.mem_cons_self
          · exact .inl ⟨ts', hcall', t', hnext t' ht', hdue'⟩
      · refine .inr ⟨o, ?_, hevent⟩
        rw [hrun.since_trans (Run.refl.step hmove)]
        exact List.mem_append_left _ ho
  rcases hkept with ⟨ts, hcall, t, ht, -⟩ | hevent
  · obtain rfl : [] = ts := Option.some.inj (hreturned.symm.trans hcall)
    exact absurd ht List.not_mem_nil
  · exact hevent

end World

/-! ## Calls come to an end -/

/-- How many tasks can follow one after the other from a task on. -/
def Task.rank : Task → Nat
  | .submit _ => 6
  | .askParams _ => 5
  | .number .. => 4
  | .enter .. => 3
  | .write .. => 2
  | .receive _ => 2
  | .withdraw .. | .respond .. | .announce .. | .close => 1
  | .done .. | .notify .. | .listen _ | .cancel _ => 0

theorem Task.rank_lt (t : Task) : t.rank < 7 := by
  cases t <;> simp only [rank] <;> decide

theorem Follows.rank_lt {d : Dispatcher} {answer : Answer} {task t : Task}
    (h : Follows d answer task t) : t.rank < task.rank := by
  cases h <;> simp only [Task.rank] <;> decide

namespace World

/-- Tasks that begin no submission of a command can be run one after the other, with all that
follows from them. -/
theorem exists_run_through {key i : Nat} {ts rest : List Task} {v : World}
    (hcall : v.calls[i]? = some (ts ++ rest)) (hts : ∀ t ∈ ts, t.submits key = false) :
    ∃ w, RunWithout key v w ∧ w.calls[i]? = some rest := by
  obtain ⟨bound, hbound⟩ : ∃ bound, ∀ t ∈ ts, t.rank < bound := ⟨7, fun t _ => t.rank_lt⟩
  -- what follows a task is of lower rank than the task, so the induction is on a bound of the ranks
  induction bound generalizing ts rest v with
  | zero =>
    cases ts with
    | nil => exact ⟨v, .refl key v, hcall⟩
    | cons t ts => exact absurd (hbound t List.mem_cons_self) (Nat.not_lt_zero _)
  | succ bound ih =>
    induction ts generalizing v with
    | nil => exact ⟨v, .refl key v, hcall⟩
    | cons t ts ihts =>
      obtain ⟨u, hrun, hsince, -, hnext⟩ := exists_advance hcall {}
      have hfirst : RunWithout key v u := by
        refine ⟨hrun, fun o ho => ?_⟩
        rw [hsince] at ho
        obtain rfl := List.mem_singleton.mp ho
        exact hts t List.mem_cons_self
      obtain ⟨u', hfollowers, hcall'⟩ := ih hnext
        (fun t' ht' => Dispatcher.not_submits_of_mem_next ht' key) fun t' ht' =>
          Nat.lt_of_lt_of_le (Dispatcher.follows_of_mem_next ht').rank_lt
            (Nat.le_of_lt_succ (hbound t List.mem_cons_self))
      obtain ⟨w, hothers, hcall''⟩ := ihts hcall'
        (fun t' ht' => hts t' (List.mem_cons_of_mem t ht'))
        fun t' ht' => hbound t' (List.mem_cons_of_mem t ht')
      exact ⟨w, (hfirst.trans hfollowers).trans hothers, hcall''⟩

end World

end Bindery.Session
