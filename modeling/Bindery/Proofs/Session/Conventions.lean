import Bindery.Proofs.Session.BlockingRuns
import Bindery.Proofs.Session.Cancellation
import Bindery.Session.CallbackHandle

/-!
# Waiting and being called back

A command can be waited for or be called back from. Both ways give the caller the same result for
the same outcome (`conventions_agree`): the one who waits gets it through the latch and the slots of
a handle, or gives up at the deadline and has the command cancelled; the callback gets it at once.

A handle that is submitted once is completed once at most, and when its command has been cancelled
the dispatcher has no entry for it: the submission had come to the table before the wait began, so
nothing enters it later (`World.Hosts.forgotten`).
-/

namespace Bindery.Session

open Bindery.Json

variable {ρ : Type}

/-! ## What a caller gets -/

/-- What the function of a command returns to a caller who waits, if it returns: a new handle is
run, and its result taken. -/
def RemoteCall.await (call : RemoteCall ρ) (course : RunCourse) :
    Option (Except ProtocolError ρ) :=
  let ended := ({} : BlockingHandle ρ).run call course
  ended.1.result?.map ended.2.answer

/-- What a callback hears of some outcomes, in order. -/
def CallbackHandle.heard (h : CallbackHandle) (call : RemoteCall ρ) :
    List Outcome → List (Except ProtocolError ρ)
  | [] => []
  | outcome :: rest =>
    match h.done call outcome with
    | (.called result, h') => result :: h'.heard call rest
    | (_, h') => h'.heard call rest

theorem RemoteCall.result_eq_missing {call : RemoteCall ρ} {outcome : Outcome}
    (h : call.result outcome = .error .missingResult) : outcome = .error .missingResult := by
  cases outcome with
  | error e =>
    obtain rfl : e = .missingResult := Except.error.inj h
    rfl
  | ok raw =>
    have hread : (call.read raw).mapError ProtocolError.decode = .error .missingResult := h
    cases hraw : call.read raw <;> rw [hraw] at hread <;> cases hread

namespace CallbackHandle

/-- A callback that has been called hears nothing more. -/
theorem heard_disarmed (call : RemoteCall ρ) (outcomes : List Outcome) :
    (⟨false⟩ : CallbackHandle).heard call outcomes = [] := by
  induction outcomes with
  | nil => rfl
  | cons outcome rest ih =>
    cases hresult : call.result outcome <;> simpa [heard, done, hresult] using ih

/-- A callback hears the first outcome only. -/
theorem heard_armed (call : RemoteCall ρ) (outcomes : List Outcome) :
    (⟨true⟩ : CallbackHandle).heard call outcomes =
      (outcomes.head?.map call.result).toList := by
  cases outcomes with
  | nil => rfl
  | cons outcome rest => simp [heard, done, heard_disarmed]

end CallbackHandle

namespace BlockingHandle

/-- A failure comes from an outcome. -/
theorem mem_of_hear_failure {h : BlockingHandle ρ} {call : RemoteCall ρ}
    {completions : List Completion} {e : ProtocolError}
    (hfailure : (h.hear call completions).failure = some e) :
    h.failure = some e ∨ ∃ c ∈ completions, call.result c.outcome = .error e := by
  induction completions generalizing h with
  | nil => exact .inl hfailure
  | cons c rest ih =>
    rcases ih hfailure with hold | ⟨c', hc', hresult⟩
    · dsimp only at hold
      cases hresult : call.result c.outcome with
      | ok r =>
        rw [done, hresult] at hold
        exact .inl hold
      | error e' =>
        rw [done, hresult] at hold
        obtain rfl := Option.some.inj hold
        exact .inr ⟨c, List.mem_cons_self, hresult⟩
    · exact .inr ⟨c', List.mem_cons_of_mem c hc', hresult⟩

/-- A handle that has been completed without a failure has a result. -/
theorem hear_result {h : BlockingHandle ρ} {call : RemoteCall ρ} {completions : List Completion}
    (hcompleted : h.result.isSome ∨ completions ≠ [])
    (hfine : (h.hear call completions).failure = none) :
    (h.hear call completions).result.isSome := by
  induction completions generalizing h with
  | nil => exact hcompleted.resolve_right fun hne => hne rfl
  | cons c rest ih =>
    refine ih (h := h.done call c.outcome) ?_ hfine
    cases hresult : call.result c.outcome with
    | ok r => rw [done, hresult]; exact .inl rfl
    | error e =>
      -- the failure would have been kept
      have hkept := hear_failure (h := h.done call c.outcome) call rest
        (by rw [done, hresult]; rfl)
      rw [hear, ← List.foldl_cons, ← hear, hfine] at hkept
      cases hkept

end BlockingHandle

namespace RemoteCall

variable (call : RemoteCall ρ) {course : RunCourse}

/-- **What a caller who waits gets.** It is the failure that the handle has been left with, or its
result if there is none. -/
theorem await_of_seen (hdeadline : course.deadline?.isSome) (hseen : course.seen false ≠ []) :
    call.await course = some (
      match (({} : BlockingHandle ρ).hear call (course.seen false)).failure with
      | some e => .error e
      | none => (({} : BlockingHandle ρ).hear call (course.seen false)).answer (.ok ())) := by
  rw [await, BlockingHandle.run_of_completedBy call hdeadline (.inr hseen)]
  unfold BlockingHandle.conclude
  cases (({} : BlockingHandle ρ).hear call (course.seen false)).failure <;> rfl

theorem run_of_unseen (hdeadline : course.deadline?.isSome) (hseen : course.seen false = []) :
    ({} : BlockingHandle ρ).run call course =
      (.abandoned (.ofTimeout call.method course.timeout), {}) :=
  BlockingHandle.run_of_not_completedBy call hdeadline
    (not_or.mpr ⟨Bool.false_ne_true, not_not.mpr hseen⟩)

theorem await_of_unseen (hdeadline : course.deadline?.isSome) (hseen : course.seen false = []) :
    call.await course = some (.error (.ofTimeout call.method course.timeout)) := by
  rw [await, call.run_of_unseen hdeadline hseen]
  rfl

/-- The result of the one outcome goes through the slots of the handle unchanged. -/
theorem await_of_one (hdeadline : course.deadline?.isSome) {c : Completion}
    (hseen : course.seen false = [c]) : call.await course = some (call.result c.outcome) := by
  rw [call.await_of_seen hdeadline (by simp [hseen]), hseen, BlockingHandle.hear, List.foldl_cons,
    List.foldl_nil, BlockingHandle.done]
  cases call.result c.outcome <;> rfl

/-- Nothing but an outcome says that the result is missing. -/
theorem exists_missing_of_await (hdeadline : course.deadline?.isSome)
    (hmissing : call.await course = some (.error .missingResult)) :
    ∃ c ∈ course.seen false, c.outcome = .error .missingResult := by
  by_cases hseen : course.seen false = []
  · rw [call.await_of_unseen hdeadline hseen] at hmissing
    cases hmissing
  · rw [call.await_of_seen hdeadline hseen] at hmissing
    have hmissing := Option.some.inj hmissing
    split at hmissing
    · rename_i e hfailure
      obtain rfl : e = .missingResult := Except.error.inj hmissing
      rcases BlockingHandle.mem_of_hear_failure hfailure with hnew | ⟨c, hc, hresult⟩
      · cases hnew
      · exact ⟨c, hc, result_eq_missing hresult⟩
    · rename_i hfine
      -- a handle without a failure has a result by now
      obtain ⟨r, hr⟩ := Option.isSome_iff_exists.mp (BlockingHandle.hear_result (.inr hseen) hfine)
      rw [BlockingHandle.answer, hr] at hmissing
      cases hmissing

end RemoteCall

namespace World

/-! ## What the dispatcher knows of a command that has been waited for -/

section Run

variable {limit : Nat} {w : World}

theorem length_completionsFor (key : Nat) (history : List Occurrence) :
    (completionsFor key history).length = history.countP (·.task.completesFor key) := by
  unfold completionsFor
  induction history with
  | nil => rfl
  | cons o rest ih =>
    rw [List.filterMap_cons, List.countP_cons, ← ih]
    cases htask : o.task with
    | done s outcome => by_cases hkey : s.command.key = key <;> simp [Task.completesFor, hkey]
    | _ => simp [Task.completesFor]

/-- What a handle sees are completions of its command. -/
theorem Hosts.seen_length_le {command : Command} {released : Bool}
    {prev begun waiting ended : World} {course : RunCourse}
    (h : Hosts command released prev begun waiting ended course) (hprev : Run (fresh limit) prev) :
    (course.seen released).length ≤ ended.submissionsFor command.key := by
  have hrun : Run prev ended :=
    ((h.begins.step (.start begun _)).trans h.submits).trans h.waits
  have hle := (hprev.trans hrun).heldFor_le_submissionsFor command.key
  rw [h.seen, length_completionsFor]
  rw [hrun.history_eq, List.countP_append] at hle
  omega

theorem countP_submitted (key : Nat) (history : List Occurrence) :
    (history.flatMap (·.task.submitted)).countP (·.command.key == key) =
      history.countP (·.task.submits key) := by
  induction history with
  | nil => rfl
  | cons o rest ih =>
    rw [List.flatMap_cons, List.countP_append, List.countP_cons, ih, Nat.add_comm]
    cases htask : o.task <;> simp [Task.submitted, Task.submits]

theorem Run.mem_submissions_of_settles (h : Run (fresh limit) w) {o : Occurrence} {s : Submission}
    (ho : o ∈ w.history) (hs : o.settles s = true) : s ∈ w.submissions := by
  have hbalance := h.preparation_balance s
  have hsettled : 0 < w.history.countP (Occurrence.settles s) :=
    List.countP_pos_iff.mpr ⟨o, ho, hs⟩
  exact List.count_pos_iff.mp (by omega)

/-- What has been settled is not settled again. -/
theorem Run.not_settles_since {v : World} (hv : Run (fresh limit) v) (h : Run v w) {s : Submission}
    {o : Occurrence} (ho : o ∈ v.history) (hs : o.settles s = true) :
    ∀ c ∈ since v w, c.settles s = false := by
  have hone := (hv.trans h).countP_settles_le_one s
  rw [h.history_eq, List.countP_append] at hone
  have hsettled : 0 < v.history.countP (Occurrence.settles s) :=
    List.countP_pos_iff.mpr ⟨o, ho, hs⟩
  have hnone : (since v w).countP (Occurrence.settles s) = 0 := by omega
  intro c hc
  simpa using List.countP_eq_zero.mp hnone c hc

/-- A submission whose call has returned has come to the table, or been refused before. -/
theorem Run.settles_of_returned {v : World} {command : Command}
    (h : Run (v.start (.submit command)) w) (hreturned : w.calls[v.calls.length]? = some []) :
    ∃ o ∈ since (v.start (.submit command)) w, o.settles ⟨v.nextTicket, command⟩ = true := by
  let due (t : Task) : Prop :=
    t = .submit ⟨v.nextTicket, command⟩ ∨ t.prepares ⟨v.nextTicket, command⟩
  have hfirst : due (Call.task v.nextTicket (.submit command)) := .inl rfl
  refine h.ran_of_returned hreturned hfirst fun d answer task hdue => ?_
  have hbalance := d.preparation_balance answer task ⟨v.nextTicket, command⟩
  rw [← d.countP_next answer task (Task.not_prepares_of_not_preparing _)] at hbalance
  have hprepares : 0 < [task].countP (Task.prepares ⟨v.nextTicket, command⟩) +
      task.submitted.count ⟨v.nextTicket, command⟩ := by
    rcases hdue with rfl | hdue
    · simp [Task.submitted]
    · rw [List.countP_singleton, if_pos hdue]
      omega
  rw [← hbalance] at hprepares
  rcases Nat.add_pos_iff_pos_or_pos.mp hprepares with hnext | hsettles
  · obtain ⟨t, ht, hdue'⟩ := List.countP_pos_iff.mp hnext
    exact .inr ⟨t, ht, .inr hdue'⟩
  · obtain ⟨o, ho, hsettles⟩ := List.countP_pos_iff.mp hsettles
    obtain rfl := List.mem_singleton.mp ho
    exact .inl hsettles

/-- A call that has returned has begun. -/
theorem Run.begins_of_returned {v : World} {call : Call} (h : Run (v.start call) w)
    (hreturned : w.calls[v.calls.length]? = some []) :
    ∃ o ∈ since (v.start call) w, o.task = call.task v.nextTicket := by
  let due (t : Task) : Prop := t = call.task v.nextTicket
  have hfirst : due (call.task v.nextTicket) := rfl
  exact h.ran_of_returned hreturned hfirst fun _ _ _ hdue => .inl hdue

/-- What is submitted in a part of a run is submitted in the whole. -/
theorem Run.submitted_le {u v : World} (huv : Run u v) (hvw : Run v w) (key : Nat) :
    (since u v).countP (·.task.submits key) ≤ (since u w).countP (·.task.submits key) := by
  rw [huv.since_trans hvw, List.countP_append]
  exact Nat.le_add_right _ _

/-- A cancellation leaves no entry of a command that had one at most. -/
theorem Moment.entriesFor_cancel {past : List Occurrence} {o : Occurrence} {v v' : World}
    {nested : List Call} {later : List Task} {key : Nat} (h : Moment past o v nested later v')
    (hv : Run (fresh limit) v) (htask : o.task = .cancel key)
    (hone : PendingTable.entriesFor v.dispatcher.pending key ≤ 1) :
    PendingTable.entriesFor v'.dispatcher.pending key = 0 := by
  rw [h.dispatcher, h.effect, htask, Dispatcher.step]
  rcases v.dispatcher.entriesFor_cancel key hv.occupancy_le_one with ⟨-, hentries⟩ | ⟨-, hnone⟩
  · omega
  · exact hnone

/-- A submission of a command that is not held any more has been settled. -/
theorem Run.settled_of_not_held {v : World} (hv : Run (fresh limit) v) {s : Submission}
    (hs : s ∈ v.submissions) (hheld : v.heldFor s.command.key = 0) :
    ∃ o ∈ v.history, o.settles s = true := by
  have hunprepared : v.tasks.countP (Task.prepares s) = 0 := by
    refine List.countP_eq_zero.mpr fun t ht hprepares => ?_
    have hholds : t.holdsFor s.command.key = true := by
      cases t <;> simp_all [Task.prepares, Task.holdsFor]
    have hpos : 0 < v.tasks.countP (Task.holdsFor s.command.key) :=
      List.countP_pos_iff.mpr ⟨t, ht, hholds⟩
    unfold heldFor at hheld
    omega
  have hbalance := hv.preparation_balance s
  have hcount : 0 < v.submissions.count s := List.count_pos_iff.mpr hs
  have hsettled : 0 < v.history.countP (Occurrence.settles s) := by omega
  exact List.countP_pos_iff.mp hsettled

/-- **No entry is left.** When a handle has been waited for and its command been cancelled, then the
command is not pending any more, if it was not held when the run began and is submitted no other
time since: its entry is gone, and its preparation has come to an end before the wait. -/
theorem Hosts.forgotten {command : Command} {released : Bool}
    {prev begun waiting ended after : World} {course : RunCourse}
    (h : Hosts command released prev begun waiting ended course) (hprev : Run (fresh limit) prev)
    (hheld : begun.heldFor command.key = 0)
    (hcancel : Run (ended.start (.cancel command.key)) after)
    (hreturned : after.calls[ended.calls.length]? = some []) (hw : Run after w)
    (honce : (since begun w).countP (·.task.submits command.key) ≤ 1) :
    ∀ e ∈ w.dispatcher.pending, e.2.command.key ≠ command.key := by
  intro e he hkey
  have hbegun : Run (fresh limit) begun := hprev.trans h.begins
  have hwaiting : Run begun waiting := (Run.refl.step (.start begun _)).trans h.submits
  have hended : Run begun (ended.start (.cancel command.key)) :=
    (hwaiting.trans h.waits).step (.start ended _)
  obtain ⟨c, hc, hcancels⟩ := hcancel.begins_of_returned hreturned
  obtain ⟨past, u, nested, later, u', hu, hmoment, hafter⟩ := hcancel.moment_of_mem_since hc
  have hrest : Run u' w := hafter.trans hw
  have hfull : Run begun w := ((hended.trans hu).trans hmoment.run).trans hrest
  -- what is pending now has been entered after the cancellation
  have hone : PendingTable.entriesFor u.dispatcher.pending command.key ≤ 1 := by
    have hle := (hended.trans hu).heldFor_le command.key
    have hpart := (hended.trans hu).submitted_le (hmoment.run.trans hrest) command.key
    unfold heldFor at hle hheld
    omega
  have hempty := hmoment.entriesFor_cancel (hbegun.trans (hended.trans hu)) hcancels hone
  obtain ⟨c', hc', henters⟩ := (hrest.entered_since e he).resolve_left fun hold =>
    List.countP_eq_zero.mp hempty e hold (beq_iff_eq.mpr hkey)
  have hc'' : c' ∈ since begun w := by
    rw [((hended.trans hu).trans hmoment.run).since_trans hrest]
    exact List.mem_append_right _ hc'
  -- what had been submitted when the run began is settled, so it is the submission of the run
  have he' : e.2 ∈ (since begun w).flatMap (·.task.submitted) := by
    have hmem := (hbegun.trans hfull).mem_submissions_of_settles (List.mem_of_mem_drop hc'')
      henters.settles
    unfold submissions at hmem
    rw [hfull.history_eq, List.flatMap_append] at hmem
    refine (List.mem_append.mp hmem).resolve_left fun hold => ?_
    obtain ⟨o, ho, hsettles⟩ := hbegun.settled_of_not_held hold (hkey.symm ▸ hheld)
    have hnot := hbegun.not_settles_since hfull ho hsettles c' hc''
    rw [henters.settles] at hnot
    cases hnot
  have hs : ⟨begun.nextTicket, command⟩ ∈ (since begun w).flatMap (·.task.submitted) := by
    obtain ⟨o, ho, hsubmits⟩ := h.submits.begins_of_returned h.returned
    refine List.mem_flatMap.mpr ⟨o, ?_, by rw [hsubmits]; exact List.mem_cons_self⟩
    rw [hwaiting.since_trans (h.waits.trans ((Run.refl.step (.start ended _)).trans
      ((hu.trans hmoment.run).trans hrest)))]
    exact List.mem_append_left _ ho
  rw [← countP_submitted] at honce
  have hsame : e.2 = ⟨begun.nextTicket, command⟩ :=
    eq_of_countP_le_one honce he' hs (beq_iff_eq.mpr hkey) (beq_self_eq_true _)
  -- but that one had been settled before the wait
  obtain ⟨o, ho, hsettles⟩ := h.submits.settles_of_returned h.returned
  rw [← hsame] at hsettles
  have hwaiting' : Run waiting u' :=
    (h.waits.step (.start ended _)).trans (hu.trans hmoment.run)
  have hnot := (hbegun.trans (hwaiting.trans hwaiting')).not_settles_since hrest
    (hwaiting'.history_grows.subset (List.mem_of_mem_drop ho)) hsettles c' hc'
  rw [henters.settles] at hnot
  cases hnot

/-- A command that is submitted once is not held before its submission, so no entry of it is left
either. -/
theorem Hosts.not_pending_of_cancelled {command : Command} {released : Bool}
    {prev begun waiting ended after : World} {course : RunCourse}
    (h : Hosts command released prev begun waiting ended course) (hprev : Run (fresh limit) prev)
    (hcancel : Run (ended.start (.cancel command.key)) after)
    (hreturned : after.calls[ended.calls.length]? = some []) (hw : Run after w)
    (honce : w.submissionsFor command.key ≤ 1) :
    ∀ e ∈ w.dispatcher.pending, e.2.command.key ≠ command.key := by
  have hwaiting : Run begun waiting := (Run.refl.step (.start begun _)).trans h.submits
  have hrest : Run waiting w :=
    h.waits.trans ((Run.refl.step (.start ended _)).trans (hcancel.trans hw))
  have hsplit : w.submissionsFor command.key = begun.submissionsFor command.key +
      (since begun w).countP (·.task.submits command.key) := by
    unfold submissionsFor
    rw [(hwaiting.trans hrest).history_eq, List.countP_append]
  have hsubmitted : 0 < (since begun waiting).countP (·.task.submits command.key) := by
    obtain ⟨o, ho, hsubmits⟩ := h.submits.begins_of_returned h.returned
    refine List.countP_pos_iff.mpr ⟨o, ho, ?_⟩
    rw [hsubmits]
    exact beq_self_eq_true command.key
  have hpart := hwaiting.submitted_le hrest command.key
  have hheld := (hprev.trans h.begins).heldFor_le_submissionsFor command.key
  exact h.forgotten hprev (by omega) hcancel hreturned hw (by omega)

end Run

end World

/-! ## The two conventions -/

/-- **Waiting and being called back agree.** If a new handle is completed once before the deadline,
a caller who waits gets what the callback gets for that outcome; the failure of a missing result is
only ever an outcome; and if no completion comes before the deadline, the caller gets the failure of
a wait given up, and the command is cancelled. A callback hears the first of all outcomes and no
other one. On a dispatcher, a handle that is submitted once is completed once at most, and no entry
of its command is left, at any time, once the cancellation has returned. -/
theorem conventions_agree (call : RemoteCall ρ) {course : RunCourse}
    (hdeadline : course.deadline?.isSome) :
    (∀ c later, course.seen false = [c] →
      call.await course = some (call.result c.outcome) ∧
      (⟨true⟩ : CallbackHandle).heard call (c.outcome :: later) = [call.result c.outcome]) ∧
    (call.await course = some (.error .missingResult) →
      ∃ c ∈ course.seen false, c.outcome = .error .missingResult) ∧
    (course.seen false = [] →
      call.await course = some (.error (.ofTimeout call.method course.timeout)) ∧
      ∀ key, (({} : BlockingHandle ρ).run call course).1.tasks key = [.cancel key]) ∧
    (∀ outcomes, (⟨true⟩ : CallbackHandle).heard call outcomes =
      (outcomes.head?.map call.result).toList) ∧
    (∀ (limit : Nat) (command : Command) (prev begun waiting ended : World),
      World.Run (World.fresh limit) prev →
      World.Hosts command false prev begun waiting ended course →
      (ended.submissionsFor command.key ≤ 1 → (course.seen false).length ≤ 1) ∧
      ∀ after w, World.Run (ended.start (.cancel command.key)) after →
        after.calls[ended.calls.length]? = some [] → World.Run after w →
        w.submissionsFor command.key ≤ 1 →
        ∀ e ∈ w.dispatcher.pending, e.2.command.key ≠ command.key) := by
  refine ⟨?once, call.exists_missing_of_await hdeadline, ?never, CallbackHandle.heard_armed call,
    ?hosted⟩
  case once =>
    intro c later hseen
    exact ⟨call.await_of_one hdeadline hseen, CallbackHandle.heard_armed call _⟩
  case never =>
    intro hseen
    refine ⟨call.await_of_unseen hdeadline hseen, fun key => ?_⟩
    rw [call.run_of_unseen hdeadline hseen]
    rfl
  case hosted =>
    intro limit command prev begun waiting ended hprev hhosts
    refine ⟨fun honce => ?_, fun after w hcancel hreturned hw honce => ?_⟩
    · exact Nat.le_trans (hhosts.seen_length_le hprev) honce
    · exact hhosts.not_pending_of_cancelled hprev hcancel hreturned hw honce

/-- A command whose frame has been written, and which waits for an answer. -/
def World.awaiting : World :=
  ((World.fresh 8).start (.submit ⟨7, "A.getNode"⟩)).after [.advance 0 {} [], .advance 0 {} [],
    .advance 0 {} [], .advance 0 {} [], .advance 0 {} []]

/-- The command has been cancelled. -/
def World.abandoned : World := (World.awaiting.start (.cancel 7)).after [.advance 1 {} []]

/-- A command whose result is read as it is. -/
def plainCall : RemoteCall RawText := ⟨"A.getNode", none, .ok⟩

/-- A run that is given no timeout, after some completions. -/
def defaultCourse (before : List Completion) : RunCourse :=
  { ticket := 0, before, start := ⟨0⟩, timeout := BlockingHandle.defaultTimeout }

theorem conventions_agree_of_defaultCourse :
    plainCall.await (defaultCourse [⟨0, .ok ⟨"7"⟩⟩]) = some (.ok ⟨"7"⟩) ∧
    plainCall.await (defaultCourse []) =
      some (.error (.ofTimeout "A.getNode" (defaultCourse []).timeout)) ∧
    ∀ e ∈ World.abandoned.dispatcher.pending, e.2.command.key ≠ 7 := by
  have hanswered := @conventions_agree _ plainCall (defaultCourse [⟨0, .ok ⟨"7"⟩⟩]) (by decide)
  have hsilent := @conventions_agree _ plainCall (defaultCourse []) (by decide)
  have hhosts : World.Hosts ⟨7, "A.getNode"⟩ false (World.fresh 8) (World.fresh 8) World.awaiting
      World.awaiting (defaultCourse []) :=
    ⟨.refl, rfl, World.run_after _ _, rfl, rfl, .refl, rfl⟩
  refine ⟨(hanswered.1 _ [] rfl).1, (hsilent.2.2.1 rfl).1, ?_⟩
  exact (hsilent.2.2.2.2 8 _ _ _ _ _ .refl hhosts).2 World.abandoned _ (World.run_after _ _) rfl
    .refl (by decide)

end Bindery.Session
