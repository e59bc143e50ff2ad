import Bindery.Proofs.Json.Fields
import Bindery.Proofs.Session.Invariant

/-!
# Where outcomes come from

Every outcome with which a submission is completed has a source in the past: its own command or
writer failed, the dispatcher was closed or full, or a frame arrived that answers the id of the
submission while it was pending (`World.outcomes_traced`). A frame answers an id with what stands in
it: the text of its result is a part of the frame (`Incoming.answers_of_parse`).
-/

namespace Bindery.Session

open Bindery.Json

/-! ## What a frame says -/

/-- A text answers the request of an id with an outcome. An error counts if it has a message;
without one the answer is the text of the result, which stands in the frame as it is, and an empty
object if there is none. -/
inductive Answers (text : String) (id : UInt64) : Outcome → Prop where
  | failed {frame : Incoming} {e : RemoteError} (hparse : Incoming.parse text = .ok frame)
      (hid : frame.id = some id) (herror : frame.error = some e) (hmessage : e.message ≠ "") :
      Answers text id (.error (.remote e.code e.message))
  | result {frame : Incoming} {value : Doc} (hparse : Incoming.parse text = .ok frame)
      (hid : frame.id = some id) (hfine : ∀ e, frame.error = some e → e.message = "")
      (hvalue : Incoming.form.value? "result" (Json.parse text).doc = some value)
      (hnull : value ≠ .null) (hplace : value.text <:+: text.toList) :
      Answers text id (.ok ⟨String.ofList value.text⟩)
  | empty {frame : Incoming} (hparse : Incoming.parse text = .ok frame)
      (hid : frame.id = some id) (hfine : ∀ e, frame.error = some e → e.message = "")
      (hvalue : ∀ value, Incoming.form.value? "result" (Json.parse text).doc = some value →
        value = .null) :
      Answers text id (.ok .emptyObject)

theorem RemoteError.form_strict : Decoder.Strict RemoteError.form.decode := by
  refine RecordForm.decode_strict fun field hfield => ?_
  simp only [RemoteError.form, List.mem_cons, List.not_mem_nil, or_false] at hfield
  rcases hfield with rfl | rfl
  · exact Field.of_strict ((decodeInteger_strict _ _ _).map _)
  · exact Field.of_strict decodeString_strict

namespace Incoming

theorem form_strict : Decoder.Strict form.decode := by
  refine RecordForm.decode_strict fun field hfield => ?_
  simp only [form, List.mem_cons, List.not_mem_nil, or_false] at hfield
  rcases hfield with rfl | rfl | rfl | rfl | rfl
  · exact Field.of_strict (((decodeInteger_strict _ _ _).map Int.toNat).map UInt64.ofNat).option
  · exact Field.of_strict RemoteError.form_strict.option
  · exact Field.of_strict decodeRaw_strict.option
  · exact Field.of_strict decodeString_strict.option
  · exact Field.of_strict decodeRaw_strict.option

theorem nodup_form : (form.fields.map (·.name)).Nodup := by decide

/-- The result of a frame is what one field of it makes. -/
theorem partOf_result : form.PartOf "result" (decodeOption decodeRaw) (·.result) := by
  refine .of_mem nodup_form (List.mem_of_getElem? (i := 2) rfl) (fun _ _ => rfl) ?_
  intro field hfield hname
  simp only [form, List.mem_cons, List.not_mem_nil, or_false] at hfield
  rcases hfield with rfl | rfl | rfl | rfl | rfl
  case inr.inr.inl => exact absurd rfl hname
  all_goals exact Field.of_keeps fun _ _ => rfl

/-- The parameters of a frame are what one field of it makes. -/
theorem partOf_params : form.PartOf "params" (decodeOption decodeRaw) (·.params) := by
  refine .of_mem nodup_form (List.mem_of_getElem? (i := 4) rfl) (fun _ _ => rfl) ?_
  intro field hfield hname
  simp only [form, List.mem_cons, List.not_mem_nil, or_false] at hfield
  rcases hfield with rfl | rfl | rfl | rfl | rfl
  case inr.inr.inr.inr => exact absurd rfl hname
  all_goals exact Field.of_keeps fun _ _ => rfl

/-- A payload of a frame is a value that stands in it, unless there is none but null. -/
theorem payload_of_parse {name : String} {part : Incoming → Option RawText}
    (hpart : form.PartOf name (decodeOption decodeRaw) part) (hinitial : part {} = none)
    {text : String} {frame : Incoming} (h : parse text = .ok frame) :
    (part frame = none ∧
        ∀ value, form.value? name (Json.parse text).doc = some value → value = .null) ∨
      ∃ value, form.value? name (Json.parse text).doc = some value ∧ value ≠ .null ∧
        value.text <:+: text.toList ∧ part frame = some ⟨String.ofList value.text⟩ := by
  have hdecode : decodeText form.decode text = .ok frame := Except.mapError_eq_ok_iff.mp h
  rcases hpart.of_decode (decodeText_eq_ok_iff.mp hdecode).1 with
    ⟨hnone, habsent⟩ | ⟨value, inner, hvalue, hread⟩
  · exact .inl ⟨habsent.trans hinitial, by simp [hnone]⟩
  · -- null is no payload, as if the field were missing
    rcases decodeOption_eq_ok_iff.mp hread with ⟨rfl, habsent⟩ | ⟨hnull, raw, hraw, hpresent⟩
    · exact .inl ⟨habsent, by simp [hvalue]⟩
    · obtain ⟨-, rfl⟩ := decodeRaw_eq_ok_iff.mp hraw
      have hplace := RecordForm.text_infix_of_value? hvalue
      exact .inr ⟨value, hvalue, hnull, infix_of_decodeText form_strict hdecode hplace, hpresent⟩

/-- **What a response says is in the frame.** -/
theorem answers_of_parse {text : String} {frame : Incoming} {id : UInt64}
    (hparse : parse text = .ok frame) (hid : frame.id = some id) :
    Answers text id frame.outcome := by
  have settled (hfine : ∀ e, frame.error = some e → e.message = "") :
      Answers text id (.ok (frame.result.getD .emptyObject)) := by
    rcases payload_of_parse partOf_result rfl hparse with
      ⟨hnone, hnull⟩ | ⟨value, hvalue, hnull, hplace, hresult⟩
    · rw [hnone]
      exact .empty hparse hid hfine hnull
    · rw [hresult]
      exact .result hparse hid hfine hvalue hnull hplace
  unfold outcome
  split
  · rename_i e herror
    split
    · rename_i hempty
      refine settled fun e' he' => ?_
      rw [herror] at he'
      obtain rfl := Option.some.inj he'
      exact String.isEmpty_iff.mp hempty
    · rename_i hmessage
      exact .failed hparse hid herror fun heq => hmessage (String.isEmpty_iff.mpr heq)
  · rename_i hnone
    exact settled (by simp [hnone])

end Incoming

/-! ## Sources of outcomes -/

/-- The submission got the id in the past. -/
def Numbered (past : List Occurrence) (id : UInt64) (s : Submission) : Prop :=
  ∃ o ∈ past, ∃ params, o.task = .number s params ∧ o.before.nextId = id

/-- What there has been in the past that completes a submission with an outcome.

A writer that fails takes its own submission out of the table, as long as there have been fewer than
2^64 of them: later the ids come round, and another one can stand under the same id meanwhile. -/
inductive Traced (past : List Occurrence) (s : Submission) : Outcome → Prop where
  /-- The command of the submission had no parameters. -/
  | params {o : Occurrence} {e : ProtocolError} (hpast : o ∈ past) (htask : o.task = .askParams s)
      (hfailed : o.answer.params = .error e) : Traced past s (.error e)
  /-- The frame of the submission was not written. -/
  | writer {o : Occurrence} {s' : Submission} {request : Request} {e : ProtocolError}
      (hpast : o ∈ past) (htask : o.task = .write s' request)
      (hfailed : o.answer.written = .error e) (hnumber : Numbered past request.id s)
      (hown : s' = s ∨ UInt64.size ≤ (past.flatMap (·.task.submitted)).length) :
      Traced past s (.error e)
  /-- The dispatcher was closed. -/
  | closed {o : Occurrence} (hpast : o ∈ past) (htask : o.task = .close) :
      Traced past s (.error .connectionClosed)
  /-- The table had no room for the submission. -/
  | refused {o : Occurrence} {request : Request} (hpast : o ∈ past)
      (htask : o.task = .enter s request) (hfull : o.before.maxPending ≤ o.before.pending.length) :
      Traced past s (.error (.tooManyPending o.before.pending.length o.before.maxPending))
  /-- A frame arrived that answers the id of the submission, and the response found it pending. -/
  | answered {before : List Occurrence} {o c : Occurrence} {text : String} {id : UInt64}
      {outcome : Outcome} (hpast : before ++ [c] <+: past) (ho : o ∈ before)
      (hreceive : o.task = .receive text) (hrespond : c.task = .respond id outcome)
      (hfind : c.before.pending.find? id = some s) (hnumber : Numbered before id s)
      (hanswers : Answers text id outcome) : Traced past s outcome

theorem Numbered.mono {past past' : List Occurrence} {id : UInt64} {s : Submission}
    (h : Numbered past id s) (hsub : past <+: past') : Numbered past' id s := by
  obtain ⟨o, ho, hnumber⟩ := h
  exact ⟨o, hsub.subset ho, hnumber⟩

theorem Traced.mono {past past' : List Occurrence} {s : Submission} {outcome : Outcome}
    (h : Traced past s outcome) (hsub : past <+: past') : Traced past' s outcome := by
  cases h with
  | params hpast htask hfailed => exact .params (hsub.subset hpast) htask hfailed
  | writer hpast htask hfailed hnumber hown =>
    obtain ⟨rest, rfl⟩ := hsub
    refine .writer (List.mem_append_left _ hpast) htask hfailed
      (hnumber.mono (List.prefix_append _ _)) (hown.imp_right fun hmany => ?_)
    rw [List.flatMap_append, List.length_append]
    omega
  | closed hpast htask => exact .closed (hsub.subset hpast) htask
  | refused hpast htask hfull => exact .refused (hsub.subset hpast) htask hfull
  | answered hpast ho hreceive hrespond hfind hnumber hanswers =>
    exact .answered (hpast.trans hsub) ho hreceive hrespond hfind hnumber hanswers

namespace World

variable {limit : Nat} {w : World}

theorem numbered_iff_issued {id : UInt64} {s : Submission} :
    Numbered w.history id s ↔ (id, s) ∈ w.issued := by
  unfold Numbered issued
  rw [List.mem_flatMap]
  refine exists_congr fun o => and_congr_right fun _ => ?_
  cases htask : o.task with
  | number s' params =>
    simp only [Dispatcher.issue, List.mem_singleton, Prod.mk.injEq, Task.number.injEq]
    constructor
    · rintro ⟨params', ⟨rfl, rfl⟩, rfl⟩
      exact ⟨rfl, rfl⟩
    · rintro ⟨rfl, rfl⟩
      exact ⟨params, ⟨rfl, rfl⟩, rfl⟩
  | _ => simp [Dispatcher.issue]

/-- A submission that comes to the table has got its id. -/
theorem Run.numbered_of_enter (h : Run (fresh limit) w) {c : Occurrence} (hc : c ∈ w.history)
    {s : Submission} {request : Request} (htask : c.task = .enter s request) :
    Numbered w.history request.id s := by
  have hcaused := h.caused_of_mem hc
  rw [htask] at hcaused
  obtain ⟨b, hb, task, hbtask, hfollows⟩ := hcaused.follows rfl
  cases hfollows with
  | number => exact ⟨b, hb, _, hbtask, rfl⟩

theorem Run.numbered_of_write (h : Run (fresh limit) w) {c : Occurrence} (hc : c ∈ w.history)
    {s : Submission} {request : Request} (htask : c.task = .write s request) :
    Numbered w.history request.id s := by
  have hcaused := h.caused_of_mem hc
  rw [htask] at hcaused
  obtain ⟨b, hb, task, hbtask, hfollows⟩ := hcaused.follows rfl
  cases hfollows with
  | enter => exact h.numbered_of_enter hb hbtask

/-- What is pending has got the id under which it is. -/
theorem Run.numbered_of_pending (h : Run (fresh limit) w) {id : UInt64} {s : Submission}
    (hfind : w.dispatcher.pending.find? id = some s) : Numbered w.history id s := by
  obtain ⟨c, hc, request, htask, hid, -⟩ := h.entered _ (PendingTable.mem_of_find? hfind)
  have hnumber := h.numbered_of_enter hc htask
  rwa [hid] at hnumber

/-- One id is one submission, as long as the ids have not come round. -/
theorem Run.eq_of_numbered (h : Run (fresh limit) w) (hfew : w.submissions.length < UInt64.size)
    {id : UInt64} {s s' : Submission} (hs : Numbered w.history id s)
    (hs' : Numbered w.history id s') : s' = s := by
  have hreach : w.Reachable := ⟨limit, h⟩
  have hissued : w.issued.length < UInt64.size := by
    have hle := hreach.issued_le_submissions
    omega
  have hone := (hreach.idsOK hfew).issued_once hissued id
  have hfind := PendingTable.find?_of_mem hone (numbered_iff_issued.mp hs)
  have hfind' := PendingTable.find?_of_mem hone (numbered_iff_issued.mp hs')
  exact Option.some.inj (hfind'.symm.trans hfind)

/-- The failure of a writer that takes a submission out of the table. -/
theorem Run.traced_withdraw (h : Run (fresh limit) w) {id : UInt64} {e : ProtocolError}
    (hcaused : Caused w.history (.withdraw id e)) {s : Submission}
    (hfind : w.dispatcher.pending.find? id = some s) : Traced w.history s (.error e) := by
  obtain ⟨b, hb, task, hbtask, hfollows⟩ := hcaused.follows rfl
  cases hfollows with
  | withdraw hwritten =>
    have hnumber := h.numbered_of_pending hfind
    refine .writer hb hbtask hwritten hnumber ?_
    rcases Nat.lt_or_ge w.submissions.length UInt64.size with hfew | hmany
    · exact .inl (h.eq_of_numbered hfew hnumber (h.numbered_of_write hb hbtask))
    · exact .inr hmany

/-- A task that is about to complete a submission has its outcome from the past. -/
theorem Run.traced (h : Run (fresh limit) w) {s : Submission} {outcome : Outcome}
    (hcaused : Caused w.history (.done s outcome)) : Traced w.history s outcome := by
  obtain ⟨c, hc, task, htask, hfollows⟩ := hcaused.follows rfl
  -- what the last task but one found is told by the world at its moment
  obtain ⟨past, v, nested, later, v', hv, hmoment, hrest⟩ := h.moment_of_mem hc
  have hpast : past ++ [c] <+: w.history := hmoment.history ▸ hrest.history_grows
  have hvw : v.history <+: w.history := (hmoment.run.trans hrest).history_grows
  have hbefore := hmoment.before
  have hsource : Caused v.history task :=
    hv.caused task (hmoment.ran.before.mem_iff.mpr (htask ▸ List.mem_cons_self))
  have closing (hclosed : c.before.closed = true) :
      Traced w.history s (.error .connectionClosed) := by
    rw [hbefore] at hclosed
    obtain ⟨b, hb, htask⟩ := hv.closed_iff.mp hclosed
    exact .closed (hvw.subset hb) htask
  cases hfollows with
  | refuseAtOnce hclosed => exact closing hclosed
  | refuseClosed hclosed => exact closing hclosed
  | drain hmem => exact .closed hc htask
  | fail hparams => exact .params hc htask hparams
  | refuseFull hopen hfull => exact .refused hc htask hfull
  | failPending hfind =>
    rw [hbefore] at hfind
    exact (hv.traced_withdraw hsource hfind).mono hvw
  | completePending hfind =>
    obtain ⟨b, hb, task, hbtask, hfollows⟩ := hsource.follows rfl
    cases hfollows with
    | readResponse hparse hid =>
      have hnumber := hv.numbered_of_pending (hbefore ▸ hfind)
      rw [hmoment.past] at hb hnumber
      exact .answered hpast hb hbtask htask hfind hnumber (Incoming.answers_of_parse hparse hid)

end World

/-! ## Ids of submissions -/

/-- The task comes before the submission has an id. -/
def Task.awaitsIdOf (s : Submission) : Task → Bool
  | .askParams s' | .number s' _ => decide (s' = s)
  | _ => false

theorem Task.awaitsIdOf_first (s : Submission) (ticket : Nat) (call : Call) :
    (call.task ticket).awaitsIdOf s = false := by
  cases call <;> rfl

/-- A submission that begins may come to await its id, and awaits it no more once it has got it. -/
theorem Dispatcher.awaitsIdOf_balance (d : Dispatcher) (answer : Answer) (task : Task)
    (s : Submission) :
    (d.step answer task).next.countP (Task.awaitsIdOf s) + (d.issue task).countP (·.2 = s) ≤
      [task].countP (Task.awaitsIdOf s) + task.submitted.count s := by
  have hother (t : Task) (ht : t.preparing = false) : t.awaitsIdOf s = false := by
    cases t with
    | askParams s' => cases ht
    | number s' params => cases ht
    | _ => rfl
  rw [d.countP_next answer task hother]
  cases task with
  | submit s' =>
    by_cases hs : s' = s <;> cases hclosed : d.closed <;>
      simp [preparation, issue, Task.awaitsIdOf, Task.submitted, hs, hclosed]
  | askParams s' =>
    by_cases hs : s' = s <;> cases hparams : answer.params <;>
      simp [preparation, issue, Task.awaitsIdOf, Task.submitted, hs, hparams]
  | number s' params => simp [preparation, issue, Task.awaitsIdOf, Task.submitted]
  | _ => exact Nat.zero_le _

namespace World

variable {limit : Nat} {w : World}

/-- A submission gets at most one id, and none before it has begun. -/
theorem Run.issued_to_le (h : Run (fresh limit) w) (s : Submission) :
    w.tasks.countP (Task.awaitsIdOf s) + w.issued.countP (·.2 = s) ≤ w.submissions.count s := by
  induction h with
  | refl => exact Nat.le_refl _
  | @step v w hrun hmove ih =>
    rcases hmove.cases_ran with ⟨call, rfl⟩ | ⟨task, answer, nested, later, hran⟩ | ⟨table, -, rfl⟩
    · rw [countP_tasks_start (Task.awaitsIdOf_first s)]
      exact ih
    · have htasks := hran.countP_tasks (Task.awaitsIdOf_first s)
      have hstep := v.dispatcher.awaitsIdOf_balance answer task s
      rw [hran.issued_eq, hran.submissions_eq, List.countP_append, List.count_append]
      omega
    · exact ih

theorem Run.id_of_numbered (h : Run (fresh limit) w) {s : Submission} {id id' : UInt64}
    (hid : Numbered w.history id s) (hid' : Numbered w.history id' s) : id = id' := by
  have hone : w.issued.countP (·.2 = s) ≤ 1 := by
    have hle := h.issued_to_le s
    have hcount := Reachable.count_submissions_le_one ⟨limit, h⟩ s
    omega
  have heq := eq_of_countP_le_one hone (numbered_iff_issued.mp hid) (numbered_iff_issued.mp hid')
    (decide_eq_true rfl) (decide_eq_true rfl)
  exact congrArg Prod.fst heq

end World

/-! ## Frames that answer nothing -/

/-- The text is no response to a pending submission: it does not parse, or it is an event or says
nothing, or its id is not in the table. -/
def Dispatcher.Unanswered (d : Dispatcher) (text : String) : Prop :=
  ∀ frame id, Incoming.parse text = .ok frame → frame.id = some id → d.pending.find? id = none

/-- A task of a call that brings in a text which answers nothing, whatever happens to the dispatcher
between one task and the next. -/
inductive Idle (text : String) : Task → Prop where
  | arrive : Idle text (.receive text)
  | follow {d : Dispatcher} {answer : Answer} {task t : Task} (htask : Idle text task)
      (hd : d.Unanswered text) (hnext : t ∈ (d.step answer task).next) : Idle text t

theorem Idle.cases {text : String} {t : Task} (h : Idle text t) :
    t = .receive text ∨
      (∃ frame id, Incoming.parse text = .ok frame ∧ frame.id = some id ∧
        t = .respond id frame.outcome) ∨
      (∃ event params, t = .announce event params) ∨ ∃ sink params, t = .notify sink params := by
  -- each task may find another dispatcher, so the induction keeps only what the task is
  induction h with
  | arrive => exact .inl rfl
  | follow _ hd hnext ih =>
    have hfollows := Dispatcher.follows_of_mem_next hnext
    rcases ih with rfl | ⟨frame, id, hparse, hid, rfl⟩ | ⟨event, params, rfl⟩ | ⟨sink, params, rfl⟩
    · cases hfollows with
      | readResponse hparse hid => exact .inr (.inl ⟨_, _, hparse, hid, rfl⟩)
      | readEvent hparse hid hmethod => exact .inr (.inr (.inl ⟨_, _, rfl⟩))
    · cases hfollows with
      | completePending hfind =>
        rw [hd frame id hparse hid] at hfind
        cases hfind
    · cases hfollows with
      | notify hsink => exact .inr (.inr (.inr ⟨_, _, rfl⟩))
    · cases hfollows

/-- Such a task completes nothing and leaves the dispatcher as it is. -/
theorem Idle.harmless {text : String} {task : Task} (h : Idle text task) {d : Dispatcher}
    (hd : d.Unanswered text) (answer : Answer) :
    (d.step answer task).dispatcher = d ∧ ∀ s outcome, task ≠ .done s outcome := by
  rcases h.cases with rfl | ⟨frame, id, hparse, hid, rfl⟩ | ⟨event, params, rfl⟩ |
    ⟨sink, params, rfl⟩
  · refine ⟨?_, fun _ _ heq => by cases heq⟩
    simp only [Dispatcher.step]
    rcases d.receive_cases text with ⟨warnings, h⟩ | ⟨id, outcome, h⟩ | ⟨event, params, h⟩ <;>
      rw [h]
  · refine ⟨?_, fun _ _ heq => by cases heq⟩
    have hnone := hd frame id hparse hid
    simp only [Dispatcher.step, Dispatcher.complete, hnone]
  · exact ⟨rfl, fun _ _ heq => by cases heq⟩
  · exact ⟨rfl, fun _ _ heq => by cases heq⟩

namespace World

/-- **No outcome is mixed up.** In any run, every outcome has a source that came before it; the id
that a response has to carry is one for each submission; and a frame that answers nothing completes
nothing and leaves the dispatcher as it is. -/
theorem outcomes_traced {limit : Nat} {w : World} (h : Run (fresh limit) w) :
    (∀ past o s outcome, past ++ [o] <+: w.history → o.task = .done s outcome →
      Traced past s outcome) ∧
    (∀ s id id', Numbered w.history id s → Numbered w.history id' s → id = id') ∧
    (∀ text task, Idle text task → ∀ d : Dispatcher, d.Unanswered text → ∀ answer,
      (d.step answer task).dispatcher = d ∧ ∀ s outcome, task ≠ .done s outcome) := by
  refine ⟨fun past o s outcome hpast htask => ?_, fun s id id' => h.id_of_numbered,
    fun text task hidle d hd answer => hidle.harmless hd answer⟩
  obtain ⟨v, nested, later, v', hv, hmoment, -⟩ := h.moment hpast
  rw [← hmoment.past]
  refine hv.traced (hv.caused _ ?_)
  rw [← htask]
  exact hmoment.ran.before.mem_iff.mpr List.mem_cons_self

/-- The second of two submissions is answered, and completed after the dispatcher has been
closed. -/
def answeringMoves : List Move :=
  [.start (.submit ⟨1, "Page.enable"⟩), .advance 0 {} [], .advance 0 {} [], .advance 0 {} [],
    .advance 0 {} [],
    .start (.submit ⟨2, "Page.reload"⟩), .advance 1 {} [], .advance 1 {} [], .advance 1 {} [],
    .advance 1 {} [], .advance 1 {} [],
    .start (.receive "\x7b\"id\":2,\"result\":[ 7 ]\x7d"), .advance 2 {} [], .advance 2 {} [],
    .start .close, .advance 3 {} [], .advance 2 {} []]

/-- What `answeringMoves` lead to, with room for two pending submissions. -/
def answeredBeforeClose : World := ((fresh 2).play answeringMoves).getD (fresh 2)

theorem outcomes_traced_of_answeredBeforeClose :
    Run (fresh 2) answeredBeforeClose ∧
      (answeredBeforeClose.outcomesOf ⟨1, 2, "Page.reload"⟩).map (·.toOption) =
        [some ⟨"[ 7 ]"⟩] ∧
      ∀ outcome ∈ answeredBeforeClose.outcomesOf ⟨1, 2, "Page.reload"⟩,
        ∃ past, past <+: answeredBeforeClose.history ∧
          Traced past ⟨1, 2, "Page.reload"⟩ outcome := by
  have hplay : ((fresh 2).play answeringMoves).isSome = true := by decide +kernel
  have hrun : Run (fresh 2) answeredBeforeClose := by
    obtain ⟨w, hw⟩ := Option.isSome_iff_exists.mp hplay
    rw [answeredBeforeClose, hw]
    exact run_of_play hw
  refine ⟨hrun, by decide +kernel, fun outcome houtcome => ?_⟩
  obtain ⟨o, ho, htask⟩ := mem_outcomesOf.mp houtcome
  obtain ⟨past, later, hsplit⟩ := List.append_of_mem ho
  have hpast : past ++ [o] <+: answeredBeforeClose.history := ⟨later, by rw [hsplit]; simp⟩
  exact ⟨past, (List.prefix_append _ _).trans hpast,
    (outcomes_traced hrun).1 past o _ outcome hpast htask⟩

end World

end Bindery.Session
