import Bindery.Session.Interleaving
import Mathlib.Data.List.Basic

/-!
# What one move changes

A move of a world, told without the positions of the calls: `Ran` says which task ran, which tasks
came in its place, and what became of the dispatcher and of the history. What counts the tasks that
are still to run then follows from what a task does (`Ran.countP_tasks`).
-/

namespace Bindery.Session

/-- Replacing one list of several replaces its members among all members. -/
theorem perm_flatten_set {α : Type} {c : List α} :
    ∀ {lists : List (List α)} {i : Nat}, lists[i]? = some c →
      ∃ others, lists.flatten.Perm (c ++ others) ∧
        ∀ c', (lists.set i c').flatten.Perm (c' ++ others) := by
  intro lists
  -- the lists in front of the replaced one go to the others, one by one
  induction lists with
  | nil => intro i h; simp at h
  | cons l ls ih =>
    intro i h
    cases i with
    | zero =>
      obtain rfl : l = c := by simpa using h
      exact ⟨ls.flatten, .rfl, fun _ => .rfl⟩
    | succ i =>
      obtain ⟨others, hbefore, hafter⟩ := ih (i := i) (by simpa using h)
      refine ⟨l ++ others, ?_, fun c' => ?_⟩
      · exact (hbefore.append_left l).trans (List.perm_append_comm_assoc _ _ _)
      · exact ((hafter c').append_left l).trans (List.perm_append_comm_assoc _ _ _)

/-- The submission that a task begins. -/
def Task.submitted : Task → List Submission
  | .submit s => [s]
  | _ => []

namespace World

/-- The tasks that are still to run, those of all calls together. -/
def tasks (w : World) : List Task := w.calls.flatten

/-- The submissions that have begun, in order. -/
def submissions (w : World) : List Submission := w.history.flatMap (·.task.submitted)

/-- A dispatcher on which nothing has been called yet. -/
def fresh (maxPending : Nat) : World := ⟨{ maxPending }, [], 0, []⟩

/-- One task has run: `nested` calls began inside it, and `later` are the tasks that were waiting
besides it. -/
structure Ran (w : World) (task : Task) (answer : Answer) (nested : List Call)
    (later : List Task) (w' : World) : Prop where
  before : w.tasks.Perm (task :: later)
  after : w'.tasks.Perm
    (tasksOf w.nextTicket nested ++ ((w.dispatcher.step answer task).next ++ later))
  dispatcher : w'.dispatcher = (w.dispatcher.step answer task).dispatcher
  nextTicket : w'.nextTicket = w.nextTicket + nested.length
  history : w'.history =
    w.history ++ [⟨task, answer, w.dispatcher, w.dispatcher.step answer task⟩]

@[simp] theorem length_tasksOf (ticket : Nat) (calls : List Call) :
    (tasksOf ticket calls).length = calls.length := by
  induction calls generalizing ticket with
  | nil => rfl
  | cons call rest ih => simp [tasksOf, ih]

/-- A call goes on with its first task; no calls are made inside one that does not call out. -/
theorem ran_of_advance {w w' : World} {i : Nat} {task : Task} {rest : List Task} {answer : Answer}
    {nested : List Call} (hcall : w.calls[i]? = some (task :: rest))
    (h : w.advance i answer nested = some w') :
    ∃ later, Ran w task answer (if task.callsOut then nested else []) later w' := by
  obtain ⟨others, hbefore, hafter⟩ := perm_flatten_set hcall
  simp only [advance, hcall, Option.some.injEq] at h
  subst h
  refine ⟨rest ++ others, hbefore, ?_, rfl, ?_, rfl⟩
  · refine (hafter _).trans ?_
    cases task.callsOut <;> simp [tasksOf]
  · cases task.callsOut <;> simp

theorem advance_ran {w w' : World} {i : Nat} {answer : Answer} {nested : List Call}
    (h : w.advance i answer nested = some w') :
    ∃ task nested' later, Ran w task answer nested' later w' := by
  have hmoved := h
  unfold advance at h
  split at h
  · rename_i task rest hcall
    exact ⟨task, _, ran_of_advance hcall hmoved⟩
  · exact absurd h (by simp)

/-- Counting what has happened: the task that ran comes last. -/
theorem Ran.countP_history {w w' : World} {task : Task} {answer : Answer} {nested : List Call}
    {later : List Task} (h : Ran w task answer nested later w') (p : Occurrence → Bool) :
    w'.history.countP p = w.history.countP p +
      [⟨task, answer, w.dispatcher, w.dispatcher.step answer task⟩].countP p := by
  rw [h.history, List.countP_append]

theorem Ran.submissions_eq {w w' : World} {task : Task} {answer : Answer} {nested : List Call}
    {later : List Task} (h : Ran w task answer nested later w') :
    w'.submissions = w.submissions ++ task.submitted := by
  unfold submissions
  rw [h.history, List.flatMap_append, List.flatMap_singleton]

@[simp] theorem tasks_start (w : World) (call : Call) :
    (w.start call).tasks = w.tasks ++ [call.task w.nextTicket] := by
  simp [start, tasks]

/-- The tasks of calls that begin are first tasks. -/
theorem mem_tasksOf {ticket : Nat} {calls : List Call} {task : Task}
    (h : task ∈ tasksOf ticket calls) : ∃ ticket' call, task = Call.task ticket' call := by
  induction calls generalizing ticket with
  | nil => exact absurd h List.not_mem_nil
  | cons call rest ih =>
    rcases List.mem_cons.mp h with rfl | h
    · exact ⟨ticket, call, rfl⟩
    · exact ih h

section CountP

variable {p : Task → Bool} (hfirst : ∀ ticket (call : Call), p (call.task ticket) = false)

include hfirst

/-- What is not the first task of a call is not among the first tasks of calls. -/
theorem countP_tasksOf (ticket : Nat) (calls : List Call) :
    (tasksOf ticket calls).countP p = 0 := by
  refine List.countP_eq_zero.mpr fun task h => ?_
  obtain ⟨ticket', call, rfl⟩ := mem_tasksOf h
  simp [hfirst]

/-- A call that begins brings none of the tasks that are not first ones. -/
theorem countP_tasks_start (w : World) (call : Call) :
    (w.start call).tasks.countP p = w.tasks.countP p := by
  simp [hfirst]

/-- Counting tasks that are not first ones among those still to run: the task that ran goes, and its
followers come. -/
theorem Ran.countP_tasks {w w' : World} {task : Task} {answer : Answer} {nested : List Call}
    {later : List Task} (h : Ran w task answer nested later w') :
    w'.tasks.countP p + [task].countP p =
      w.tasks.countP p + (w.dispatcher.step answer task).next.countP p := by
  have hnested := countP_tasksOf hfirst w.nextTicket nested
  rw [h.before.countP_eq, h.after.countP_eq]
  simp only [List.countP_append, List.countP_cons, List.countP_nil]
  omega

end CountP

/-- How one move is made, told by the tasks. -/
theorem Step.cases_ran {w w' : World} (h : Step w w') :
    (∃ call, w' = w.start call) ∨
      (∃ task answer nested later, Ran w task answer nested later w') ∨
      ∃ table : PendingTable, List.Perm table w.dispatcher.pending ∧ w' = w.withPending table := by
  cases h with
  | start call => exact .inl ⟨call, rfl⟩
  | advance i answer nested h =>
    obtain ⟨task, nested', later, hran⟩ := advance_ran h
    exact .inr (.inl ⟨task, answer, nested', later, hran⟩)
  | reorder table h => exact .inr (.inr ⟨table, h, rfl⟩)

/-- The history only grows, so no move takes back a submission. -/
theorem Step.submissions_prefix {w w' : World} (h : Step w w') :
    w.submissions <+: w'.submissions := by
  rcases h.cases_ran with ⟨call, rfl⟩ | ⟨task, answer, nested, later, hran⟩ | ⟨table, -, rfl⟩
  · exact List.prefix_rfl
  · rw [hran.submissions_eq]
    exact List.prefix_append _ _
  · exact List.prefix_rfl

/-! ## Runs told move by move -/

/-- A move, as it can be written down. -/
inductive Move where
  | start (call : Call)
  | advance (i : Nat) (answer : Answer) (nested : List Call)

/-- Makes moves one after the other, if each can be made. -/
def play (w : World) : List Move → Option World
  | [] => some w
  | .start call :: rest => (w.start call).play rest
  | .advance i answer nested :: rest =>
    match w.advance i answer nested with
    | some w' => w'.play rest
    | none => none

theorem Run.trans {u v w : World} (huv : Run u v) (hvw : Run v w) : Run u w := by
  induction hvw with
  | refl => exact huv
  | step _ hmove ih => exact ih.step hmove

theorem run_of_play {moves : List Move} {w w' : World} (h : w.play moves = some w') :
    Run w w' := by
  induction moves generalizing w with
  | nil =>
    obtain rfl : w = w' := Option.some.inj h
    exact .refl
  | cons move rest ih =>
    cases move with
    | start call => exact (Run.refl.step (.start w call)).trans (ih h)
    | advance i answer nested =>
      simp only [play] at h
      split at h
      · rename_i w₁ hadvance
        exact (Run.refl.step (.advance i answer nested hadvance)).trans (ih h)
      · exact absurd h (by simp)

/-- The world after some moves, as long as they can all be made. -/
def after (w : World) (moves : List Move) : World := (w.play moves).getD w

theorem run_after (w : World) (moves : List Move) : Run w (w.after moves) := by
  unfold after
  cases h : w.play moves with
  | none => exact .refl
  | some w' => exact run_of_play h

end World

end Bindery.Session
