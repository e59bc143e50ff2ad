import Bindery.Proofs.Session.Continuations
import Bindery.Session.BlockingHandle

/-!
# Runs of a blocking handle

A run that has a deadline waits until the handle has been completed or the deadline has passed:
`BlockingHandle.run_eq` tells it by the completions that reach the handle up to its end
(`RunCourse.seen`). The latch of a handle stays released from one run to the next. So a run waits
for the completion of its own submission exactly if no completion has reached the handle in the runs
before it: `BlockingHandle.awaits_own_iff`.

What reaches a handle is what its dispatcher completes its command with; `World.Hosts` puts a run
into a run of a world.
-/

namespace Bindery.Session

/-! ## What a run sees -/

namespace RunCourse

/-- When the wait is given up; there is no such instant if the clock cannot show it. -/
def deadline? (course : RunCourse) : Option Instant :=
  course.start.after? course.timeout

/-- The next completion after the wait has begun, if it comes before the deadline. -/
def inTime (course : RunCourse) : List Completion :=
  match course.deadline?, course.next with
  | some deadline, some (t, completion) => if t.nanos ≤ deadline.nanos then [completion] else []
  | _, _ => []

/-- The completions that reach the handle before the run ends. A wait for a latch that is released
already, or has been by one of the completions before the wait, ends at once. -/
def seen (course : RunCourse) (released : Bool) : List Completion :=
  course.before ++ if released || !course.before.isEmpty then [] else course.inTime

/-- All completions are those of the submission that the run makes. -/
def OwnOnly (course : RunCourse) : Prop :=
  (∀ c ∈ course.before, c.ticket = course.ticket) ∧
    ∀ t c, course.next = some (t, c) → c.ticket = course.ticket

theorem OwnOnly.ticket_of_mem_seen {course : RunCourse} (h : course.OwnOnly) {released : Bool}
    {c : Completion} (hc : c ∈ course.seen released) : c.ticket = course.ticket := by
  rcases List.mem_append.mp hc with hbefore | hwait
  · exact h.1 c hbefore
  · split at hwait
    · exact absurd hwait List.not_mem_nil
    · unfold inTime at hwait
      split at hwait
      · rename_i hnext
        split at hwait
        · exact h.2 _ c (by rw [List.mem_singleton.mp hwait, hnext])
        · exact absurd hwait List.not_mem_nil
      · exact absurd hwait List.not_mem_nil

/-- The completions that reach a handle in runs that follow one another. -/
def reached (released : Bool) : List RunCourse → List Completion
  | [] => []
  | course :: rest =>
    course.seen released ++ reached (released || !(course.seen released).isEmpty) rest

end RunCourse

namespace BlockingHandle

variable {ρ : Type}

/-- The handle after some completions. -/
def hear (h : BlockingHandle ρ) (call : RemoteCall ρ) (completions : List Completion) :
    BlockingHandle ρ :=
  completions.foldl (fun h completion => h.done call completion.outcome) h

@[simp] theorem hear_append (h : BlockingHandle ρ) (call : RemoteCall ρ)
    (before after : List Completion) :
    h.hear call (before ++ after) = (h.hear call before).hear call after :=
  List.foldl_append

theorem done_released (h : BlockingHandle ρ) (call : RemoteCall ρ) (outcome : Outcome) :
    (h.done call outcome).latch.released = true := by
  unfold done
  cases call.result outcome <;> rfl

/-- Any completion releases the latch, and nothing takes that back. -/
theorem hear_released (h : BlockingHandle ρ) (call : RemoteCall ρ) (completions : List Completion) :
    (h.hear call completions).latch.released = (h.latch.released || !completions.isEmpty) := by
  induction completions generalizing h with
  | nil => exact (Bool.or_false _).symm
  | cons c rest ih => rw [hear, List.foldl_cons, ← hear, ih, done_released]; simp

/-- **A run that has a deadline.** It ends with what has reached the handle by then, returning if
that has released the latch and giving up if it has not. -/
theorem run_eq (h : BlockingHandle ρ) (call : RemoteCall ρ) {course : RunCourse}
    {deadline : Instant} (hdeadline : course.deadline? = some deadline) :
    h.run call course =
      let h' := h.hear call (course.seen h.latch.released)
      h'.conclude call course.timeout (if h'.latch.released then .released else .timedOut) := by
  have hbegin := h.hear_released call course.before
  have hrun : h.run call course =
      let begun := h.hear call course.before
      let wait := begun.latch.wait course.start course.timeout (course.next.map (·.1))
      (begun.woken call course.next wait).conclude call course.timeout wait := rfl
  simp only [hrun, RunCourse.seen, ← hbegin, hear_append]
  generalize h.hear call course.before = begun
  rw [RunCourse.deadline?] at hdeadline
  cases hreleased : begun.latch.released with
  | true => simp [Latch.wait, hdeadline, woken, hear, hreleased]
  | false =>
    cases hnext : course.next with
    | none =>
      simp [Latch.wait, RunCourse.inTime, RunCourse.deadline?, hdeadline, hnext, woken, hear,
        hreleased]
    | some next =>
      obtain ⟨t, completion⟩ := next
      by_cases hintime : t.nanos ≤ deadline.nanos <;>
        simp [Latch.wait, RunCourse.inTime, RunCourse.deadline?, hdeadline, hnext, woken, hear,
          hreleased, hintime, done_released]

/-- A run without a deadline breaks off. -/
theorem run_eq_of_no_deadline (h : BlockingHandle ρ) (call : RemoteCall ρ) {course : RunCourse}
    (hdeadline : course.deadline? = none) :
    h.run call course = (.broken, h.hear call (course.seen h.latch.released)) := by
  have hwait : course.inTime = [] := by rw [RunCourse.inTime, hdeadline]
  rw [RunCourse.deadline?] at hdeadline
  rw [RunCourse.seen, hwait, ite_self, List.append_nil, run, Latch.wait, hdeadline]
  rfl

theorem conclude_latch (h : BlockingHandle ρ) (call : RemoteCall ρ) (timeout : Duration)
    (wait : Latch.Wait) : (h.conclude call timeout wait).2.latch = h.latch := by
  unfold conclude
  cases wait with
  | released => cases h.failure <;> rfl
  | timedOut => rfl
  | noDeadline => rfl

theorem run_released (h : BlockingHandle ρ) (call : RemoteCall ρ) (course : RunCourse) :
    (h.run call course).2.latch.released =
      (h.latch.released || !(course.seen h.latch.released).isEmpty) := by
  cases hdeadline : course.deadline? with
  | none => rw [run_eq_of_no_deadline h call hdeadline, hear_released]
  | some deadline => simp only [run_eq h call hdeadline, conclude_latch, hear_released]

/-- Runs that follow one another leave the latch released if a completion has reached the handle. -/
theorem afterRuns_released (h : BlockingHandle ρ) (call : RemoteCall ρ)
    (courses : List RunCourse) :
    (h.afterRuns call courses).latch.released =
      (h.latch.released || !(RunCourse.reached h.latch.released courses).isEmpty) := by
  induction courses generalizing h with
  | nil => exact (Bool.or_false _).symm
  | cons course rest ih =>
    rw [afterRuns, List.foldl_cons, ← afterRuns, ih, run_released, RunCourse.reached]
    cases course.seen h.latch.released <;> simp

/-- The handle has been completed when the run ends, or had been when it began. -/
def CompletedBy (h : BlockingHandle ρ) (course : RunCourse) : Prop :=
  h.latch.released = true ∨ course.seen h.latch.released ≠ []

/-- A run of a handle that has been completed ends as the handle says. -/
theorem run_of_completedBy {h : BlockingHandle ρ} (call : RemoteCall ρ) {course : RunCourse}
    (hdeadline : course.deadline?.isSome) (hcompleted : h.CompletedBy course) :
    h.run call course =
      (h.hear call (course.seen h.latch.released)).conclude call course.timeout .released := by
  obtain ⟨deadline, hdeadline⟩ := Option.isSome_iff_exists.mp hdeadline
  have hreleased : (h.hear call (course.seen h.latch.released)).latch.released = true := by
    rw [hear_released, Bool.or_eq_true, Bool.not_eq_true', List.isEmpty_eq_false_iff]
    exact hcompleted
  simp only [run_eq h call hdeadline, hreleased, if_true]

/-- A run of a handle that has not been completed gives up, and leaves the handle as it was. -/
theorem run_of_not_completedBy {h : BlockingHandle ρ} (call : RemoteCall ρ) {course : RunCourse}
    (hdeadline : course.deadline?.isSome) (hcompleted : ¬ h.CompletedBy course) :
    h.run call course = (.abandoned (.ofTimeout call.method course.timeout), h) := by
  obtain ⟨deadline, hdeadline⟩ := Option.isSome_iff_exists.mp hdeadline
  obtain ⟨hunreleased, hseen⟩ := not_or.mp hcompleted
  rw [Bool.not_eq_true] at hunreleased
  rw [not_not] at hseen
  rw [run_eq h call hdeadline, hseen]
  simp [hear, hunreleased, conclude]

/-- A failure does not outlive a run that has a deadline. -/
theorem run_failure (h : BlockingHandle ρ) (call : RemoteCall ρ) {course : RunCourse}
    (hdeadline : course.deadline?.isSome) (hnone : h.failure = none) :
    (h.run call course).2.failure = none := by
  by_cases hcompleted : h.CompletedBy course
  · rw [run_of_completedBy call hdeadline hcompleted, conclude]
    cases hfailure : (h.hear call (course.seen h.latch.released)).failure with
    | none => exact hfailure
    | some e => rfl
  · rw [run_of_not_completedBy call hdeadline hcompleted]
    exact hnone

theorem afterRuns_failure (h : BlockingHandle ρ) (call : RemoteCall ρ) (courses : List RunCourse)
    (hdeadlines : ∀ course ∈ courses, course.deadline?.isSome) (hnone : h.failure = none) :
    (h.afterRuns call courses).failure = none := by
  induction courses generalizing h with
  | nil => exact hnone
  | cons course rest ih =>
    rw [afterRuns, List.foldl_cons, ← afterRuns]
    exact ih _ (fun c hc => hdeadlines c (List.mem_cons_of_mem _ hc))
      (h.run_failure call (hdeadlines course List.mem_cons_self) hnone)

/-- When a run returns without a failure. -/
theorem run_returns_ok_iff (h : BlockingHandle ρ) (call : RemoteCall ρ) (course : RunCourse) :
    (h.run call course).1 = .returned (.ok ()) ↔ course.deadline?.isSome ∧ h.CompletedBy course ∧
      (h.hear call (course.seen h.latch.released)).failure = none := by
  by_cases hdeadline : course.deadline?.isSome
  · by_cases hcompleted : h.CompletedBy course
    · rw [run_of_completedBy call hdeadline hcompleted]
      cases hfailure : (h.hear call (course.seen h.latch.released)).failure <;>
        simp [conclude, hfailure, hcompleted, hdeadline]
    · rw [run_of_not_completedBy call hdeadline hcompleted]
      exact ⟨nofun, fun hreturns => absurd hreturns.2.1 hcompleted⟩
  · rw [run_eq_of_no_deadline h call (Option.not_isSome_iff_eq_none.mp hdeadline)]
    exact ⟨nofun, fun hreturns => absurd hreturns.1 hdeadline⟩

/-- A failure is kept until a run ends. -/
theorem hear_failure {h : BlockingHandle ρ} (call : RemoteCall ρ) (completions : List Completion)
    (hfailure : h.failure.isSome) : (h.hear call completions).failure.isSome := by
  induction completions generalizing h with
  | nil => exact hfailure
  | cons c rest ih =>
    have hdone : (h.done call c.outcome).failure.isSome := by
      unfold done
      cases call.result c.outcome with
      | ok r => exact hfailure
      | error e => rfl
    exact ih hdone

/-- A course on which nothing happens. -/
def silence : RunCourse where
  ticket := 0
  start := ⟨0⟩
  timeout := defaultTimeout

/-- **When a run waits for its own completion.** After some runs of a handle, every run that returns
without a failure has seen a completion of its own submission, given that no other completions reach
the handle meanwhile, exactly if no completion has reached the handle in the runs before, or the
failure of one of them has been kept. None is kept if they all had deadlines. -/
theorem awaits_own_iff (call : RemoteCall ρ) (courses : List RunCourse) :
    ((∀ course : RunCourse, course.OwnOnly →
        ((({} : BlockingHandle ρ).afterRuns call courses).run call course).1 =
          .returned (.ok ()) →
        ∃ c ∈ course.seen (({} : BlockingHandle ρ).afterRuns call courses).latch.released,
          c.ticket = course.ticket) ↔
      RunCourse.reached false courses = [] ∨
        (({} : BlockingHandle ρ).afterRuns call courses).failure.isSome) ∧
    ((∀ course ∈ courses, course.deadline?.isSome) →
      (({} : BlockingHandle ρ).afterRuns call courses).failure = none) := by
  have hlatch := ({} : BlockingHandle ρ).afterRuns_released call courses
  refine ⟨?_, fun hdeadlines => afterRuns_failure _ call courses hdeadlines rfl⟩
  generalize ({} : BlockingHandle ρ).afterRuns call courses = h at hlatch ⊢
  rw [Bool.false_or] at hlatch
  constructor
  · intro hawaits
    by_contra hneither
    rw [not_or, Option.not_isSome_iff_eq_none] at hneither
    have hreleased : h.latch.released = true := by
      rw [hlatch, Bool.not_eq_true', List.isEmpty_eq_false_iff]
      exact hneither.1
    have hseen : silence.seen h.latch.released = [] := by rw [hreleased]; rfl
    -- the latch is released, so a run returns although nothing happens on it
    have hreturns : (h.run call silence).1 = .returned (.ok ()) := by
      refine (run_returns_ok_iff h call silence).mpr ⟨by decide, .inl hreleased, ?_⟩
      rw [hseen]
      exact hneither.2
    obtain ⟨c, hc, -⟩ := hawaits silence ⟨nofun, nofun⟩ hreturns
    rw [hseen] at hc
    exact absurd hc List.not_mem_nil
  · intro hbefore course hown hreturned
    obtain ⟨-, hcompleted, hfine⟩ := (run_returns_ok_iff h call course).mp hreturned
    rcases hbefore with hnone | hfailure
    · have hunreleased : h.latch.released = false := by rw [hlatch, hnone]; rfl
      obtain ⟨c, hc⟩ := List.exists_mem_of_ne_nil _
        (hcompleted.resolve_left (Bool.eq_false_iff.mp hunreleased))
      exact ⟨c, hc, hown.ticket_of_mem_seen hc⟩
    · have hkept := hear_failure call (course.seen h.latch.released) hfailure
      rw [hfine] at hkept
      cases hkept

end BlockingHandle

/-! ## Runs on a dispatcher -/

namespace World

/-- The completions of a command in a stretch of a history, in order. -/
def completionsFor (key : Nat) (history : List Occurrence) : List Completion :=
  history.filterMap fun o =>
    match o.task with
    | .done s outcome => if s.command.key = key then some ⟨s.ticket, outcome⟩ else none
    | _ => none

/-- A run of a handle on a dispatcher. The run before it ended in `prev`; the command is submitted
in `begun`, the wait begins in `waiting`, when that call has returned, and ends in `ended`. The
handle sees what its command is completed with. -/
structure Hosts (command : Command) (released : Bool) (prev begun waiting ended : World)
    (course : RunCourse) : Prop where
  begins : Run prev begun
  ticket : course.ticket = begun.nextTicket
  submits : Run (begun.start (.submit command)) waiting
  returned : waiting.calls[begun.calls.length]? = some []
  before : course.before = completionsFor command.key (since prev waiting)
  waits : Run waiting ended
  seen : course.seen released = completionsFor command.key (since prev ended)

/-- A command whose frame cannot be written. -/
def unwritten : World :=
  ((fresh 8).start (.submit ⟨7, "A.enable"⟩)).after [.advance 0 {} [], .advance 0 {} [],
    .advance 0 {} [], .advance 0 {} [], .advance 0 { written := .error (.transport "broken") } [],
    .advance 0 {} [], .advance 0 {} []]

/-- The same command again; this time its frame is written, and no answer comes. -/
def unanswered : World :=
  (unwritten.start (.submit ⟨7, "A.enable"⟩)).after [.advance 1 {} [], .advance 1 {} [],
    .advance 1 {} [], .advance 1 {} [], .advance 1 {} []]

/-- The second run of a handle returns although nothing has completed its submission, which is still
pending: the failure of the first run has released the latch for good. -/
theorem not_forall_awaits_own : ¬ ∀ (call : RemoteCall Unit) (limit : Nat) (command : Command)
    (first second : RunCourse) (begun waiting ended begun' waiting' ended' : World),
    Run (fresh limit) begun → Hosts command false begun begun waiting ended first →
    Hosts command (({} : BlockingHandle Unit).run call first).2.latch.released
      ended begun' waiting' ended' second →
    ((({} : BlockingHandle Unit).run call first).2.run call second).1 = .returned (.ok ()) →
    ∃ c ∈ completionsFor command.key ended'.history, c.ticket = second.ticket := by
  intro h
  let call : RemoteCall Unit := ⟨"A.enable", none, fun _ => .ok ()⟩
  let first : RunCourse :=
    { ticket := 0, before := [⟨0, .error (.transport "broken")⟩], start := ⟨0⟩,
      timeout := BlockingHandle.defaultTimeout }
  let second : RunCourse :=
    { ticket := 1, start := ⟨0⟩, timeout := BlockingHandle.defaultTimeout }
  have hfirst : Hosts ⟨7, "A.enable"⟩ false (fresh 8) (fresh 8) unwritten unwritten first :=
    ⟨.refl, rfl, run_after _ _, rfl, rfl, .refl, rfl⟩
  have hsecond : Hosts ⟨7, "A.enable"⟩ true unwritten unwritten unanswered unanswered second :=
    ⟨.refl, rfl, run_after _ _, rfl, rfl, .refl, rfl⟩
  -- the first run hands out its failure, and keeps the latch
  have hended : (({} : BlockingHandle Unit).run call first).2.latch.released = true ∧
      (({} : BlockingHandle Unit).run call first).2.failure = none := by
    have hdeadline : first.deadline?.isSome := by decide
    have hcompleted : ({} : BlockingHandle Unit).CompletedBy first := .inr (List.cons_ne_nil _ _)
    rw [BlockingHandle.run_of_completedBy call hdeadline hcompleted]
    exact ⟨rfl, rfl⟩
  have h := h call 8 ⟨7, "A.enable"⟩ first second _ _ _ unwritten unanswered unanswered .refl hfirst
  generalize (({} : BlockingHandle Unit).run call first).2 = handle at hended h
  rw [hended.1] at h
  have hreturns : (handle.run call second).1 = .returned (.ok ()) := by
    refine (BlockingHandle.run_returns_ok_iff handle call second).mpr
      ⟨by decide, .inl hended.1, ?_⟩
    rw [hended.1]
    exact hended.2
  obtain ⟨c, hc, hticket⟩ := h hsecond hreturns
  have hold : ∀ c ∈ completionsFor 7 unanswered.history, c.ticket = 0 := by
    intro c hc
    obtain rfl := List.mem_singleton.mp hc
    rfl
  rw [hold c hc] at hticket
  cases hticket

end World

end Bindery.Session
