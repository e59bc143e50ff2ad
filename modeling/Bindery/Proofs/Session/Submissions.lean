import Bindery.Proofs.Session.Responses

/-!
# Submissions that fail

A submission has five ends. Its own call completes it if the dispatcher is closed, if the command
has no parameters to give, if too many submissions are pending, or if the frame cannot be written;
otherwise it is pending, under an id that no request has had before. The last of the failures comes
when the submission stands in the table already, and has to take out just what was entered, although
the command may be pending under other ids as well. That it does is
`World.submission_leaves_no_trace`: a failure leaves the dispatcher as it was, but for the number of
ids that have been used.
-/

namespace Bindery.Session

/-! ## The table -/

namespace PendingTable

variable {table : PendingTable} {id : UInt64} {s : Submission}

theorem insert_of_unused (h : table.occupancy id = 0) : table.insert id s = table ++ [(id, s)] := by
  rw [insert, remove_eq_self h]

theorem find?_insert_of_unused (h : table.occupancy id = 0) :
    (table.insert id s).find? id = some s := by
  refine find?_of_mem ?_ (List.mem_append_right _ List.mem_cons_self)
  have hle := table.occupancy_insert_le id s id
  rwa [h, if_pos rfl] at hle

/-- Taking out what was entered last undoes the entry, whatever else stands in the table. -/
theorem remove_insert_of_unused (h : table.occupancy id = 0) :
    (table.insert id s).remove id = table := by
  rw [insert_of_unused h, remove, List.filter_append]
  have hself : [(id, s)].filter (·.1 != id) = [] := by simp
  rw [hself, List.append_nil]
  exact remove_eq_self h

end PendingTable

/-! ## The ends of a submission -/

/-- Why a submission is completed by its own call, and what the writer has got by then: only the
failure of the writer comes after a frame. -/
inductive Fails (d : Dispatcher) (s : Submission) (happened : List Occurrence) :
    ProtocolError → List Request → Prop where
  | closed (h : d.closed = true) : Fails d s happened .connectionClosed []
  | params {o : Occurrence} {cause : ProtocolError} (ho : o ∈ happened)
      (htask : o.task = .askParams s) (h : o.answer.params = .error cause) :
      Fails d s happened cause []
  | full (h : d.maxPending ≤ d.pending.length) :
      Fails d s happened (.tooManyPending d.pending.length d.maxPending) []
  | writer {o : Occurrence} {request : Request} {cause : ProtocolError} (ho : o ∈ happened)
      (htask : o.task = .write s request) (h : o.answer.written = .error cause) :
      Fails d s happened cause [request]

/-- What comes of a submission whose request gets the given id: for a cause to fail it is completed
once and leaves no trace; without one it is pending under the id of the one frame that is
written. -/
inductive Submitted (d : Dispatcher) (s : Submission) (id : UInt64) (happened : List Occurrence)
    (after : Dispatcher) : Prop where
  | completed (cause : ProtocolError)
      (why : Fails d s happened cause (happened.filterMap (·.frame?)))
      (once : happened.filterMap (·.completion?) = [(s, .error cause)])
      (kept : after = { d with nextId := after.nextId })
  | pending (request : Request) (hid : request.id = id)
      (nowhy : ∀ cause frames, ¬ Fails d s happened cause frames)
      (frame : happened.filterMap (·.frame?) = [request])
      (uncompleted : happened.filterMap (·.completion?) = [])
      (entered : after =
        { d with nextId := after.nextId, pending := d.pending ++ [(id, s)] })

/-- A first task that no failure comes of, and that changes nothing but the next id, gives no cause
and takes none away. -/
theorem fails_cons_iff {d : Dispatcher} {s : Submission} {happened : List Occurrence}
    {cause : ProtocolError} {frames : List Request} {o : Occurrence} (n : UInt64)
    (hframe : o.frame? = none)
    (hparams : o.task = .askParams s → ∀ cause, o.answer.params ≠ .error cause) :
    Fails d s (o :: happened) cause frames ↔
      Fails { d with nextId := n } s happened cause frames := by
  constructor
  · rintro (h | ⟨ho, htask, h⟩ | h | ⟨ho, htask, h⟩)
    · exact .closed h
    · rcases List.mem_cons.mp ho with rfl | ho
      · exact absurd h (hparams htask cause)
      · exact .params ho htask h
    · exact .full h
    · rcases List.mem_cons.mp ho with rfl | ho
      · rw [Occurrence.frame?, htask] at hframe
        cases hframe
      · exact .writer ho htask h
  · rintro (h | ⟨ho, htask, h⟩ | h | ⟨ho, htask, h⟩)
    · exact .closed h
    · exact .params (List.mem_cons_of_mem o ho) htask h
    · exact .full h
    · exact .writer (List.mem_cons_of_mem o ho) htask h

/-- Such a task has no part in what comes of a submission, unless it completes one. -/
theorem Submitted.before {d after : Dispatcher} {s : Submission} {id : UInt64}
    {happened : List Occurrence} {o : Occurrence} (n : UInt64) (hcompletion : o.completion? = none)
    (hframe : o.frame? = none)
    (hparams : o.task = .askParams s → ∀ cause, o.answer.params ≠ .error cause)
    (h : Submitted { d with nextId := n } s id happened after) :
    Submitted d s id (o :: happened) after := by
  have hframes := List.filterMap_cons_none (f := (·.frame?)) (l := happened) hframe
  have hcompletions := List.filterMap_cons_none (f := (·.completion?)) (l := happened) hcompletion
  cases h with
  | completed cause why once kept =>
    refine .completed cause ?_ (hcompletions.trans once) kept
    rw [hframes]
    exact (fails_cons_iff n hframe hparams).mpr why
  | pending request hid nowhy frame uncompleted entered =>
    refine .pending request hid (fun cause frames hfails => ?_) (hframes.trans frame)
      (hcompletions.trans uncompleted) entered
    exact nowhy cause frames ((fails_cons_iff n hframe hparams).mp hfails)

namespace Dispatcher

variable {d after : Dispatcher} {s : Submission} {happened : List Occurrence}

/-- A failure of the writer completes the submission that stands under the id. -/
theorem Runs.of_withdraw {id : UInt64} {cause : ProtocolError}
    (hfind : d.pending.find? id = some s) (h : d.Runs [.withdraw id cause] happened after) :
    after = { d with pending := d.pending.remove id } ∧ happened.filterMap (·.frame?) = [] ∧
      happened.filterMap (·.completion?) = [(s, .error cause)] := by
  obtain ⟨_, later, rfl, hlater⟩ := h.first
  obtain ⟨hpending, hnext⟩ := d.complete_eq id (.error cause) []
  simp only [step, hpending, hnext, hfind] at hlater
  exact hlater.of_done

/-- What the writer says decides whether an entry stays. -/
theorem Runs.of_write {request : Request} (hopen : d.closed = false)
    (hroom : d.pending.length < d.maxPending) (hunused : d.pending.occupancy request.id = 0)
    (h : Runs { d with pending := d.pending.insert request.id s } [.write s request] happened
      after) :
    Submitted d s request.id happened after := by
  obtain ⟨answer, later, rfl, hlater⟩ := h.first
  simp only [step, List.append_nil] at hlater
  cases hwritten : answer.written with
  | ok =>
    rw [hwritten] at hlater
    obtain ⟨rfl, rfl⟩ := hlater.of_nil
    refine .pending request rfl (fun cause frames hfails => ?_) rfl rfl ?_
    · rcases hfails with h | ⟨ho, htask, h⟩ | h | ⟨ho, htask, h⟩
      · exact absurd h (Bool.eq_false_iff.mp hopen)
      · rw [List.mem_singleton.mp ho] at htask
        cases htask
      · exact absurd h (Nat.not_le_of_lt hroom)
      · rw [List.mem_singleton.mp ho, hwritten] at h
        cases h
    · rw [PendingTable.insert_of_unused hunused]
  | error cause =>
    rw [hwritten] at hlater
    obtain ⟨hafter, hframes, hcompletions⟩ :=
      hlater.of_withdraw (PendingTable.find?_insert_of_unused hunused)
    refine .completed cause ?_ hcompletions ?_
    · show Fails d s _ cause (request :: later.filterMap (·.frame?))
      rw [hframes]
      exact .writer List.mem_cons_self rfl hwritten
    · rw [hafter, PendingTable.remove_insert_of_unused hunused]

/-- A request with an unused id is refused by a dispatcher that is closed or full, and goes to the
writer otherwise. -/
theorem Runs.of_enter {request : Request} (hunused : d.pending.occupancy request.id = 0)
    (h : d.Runs [.enter s request] happened after) :
    Submitted d s request.id happened after := by
  obtain ⟨answer, later, rfl, hlater⟩ := h.first
  simp only [step, enter] at hlater
  split at hlater
  · rename_i hclosed
    obtain ⟨rfl, hframes, hcompletions⟩ := hlater.of_done
    exact .completed _ (hframes ▸ .closed hclosed) hcompletions rfl
  · rename_i hopen
    split at hlater
    · rename_i hfull
      obtain ⟨rfl, hframes, hcompletions⟩ := hlater.of_done
      exact .completed _ (hframes ▸ .full hfull) hcompletions rfl
    · rename_i hroom
      refine .before d.nextId rfl rfl (fun htask => by cases htask) ?_
      exact Runs.of_write (Bool.eq_false_iff.mpr hopen) (Nat.lt_of_not_le hroom) hunused hlater

/-- **What comes of a submission**, if the next id is not in use. -/
theorem Runs.of_submit (hunused : d.pending.occupancy d.nextId = 0)
    (h : d.Runs [.submit s] happened after) : Submitted d s d.nextId happened after := by
  obtain ⟨_, asked, rfl, hasked⟩ := h.first
  simp only [step] at hasked
  split at hasked
  · rename_i hclosed
    obtain ⟨rfl, hframes, hcompletions⟩ := hasked.of_done
    exact .completed _ (hframes ▸ .closed hclosed) hcompletions rfl
  · refine .before d.nextId rfl rfl (fun htask => by cases htask) ?_
    obtain ⟨answer, numbered, rfl, hnumbered⟩ := hasked.first
    simp only [step] at hnumbered
    cases hparams : answer.params with
    | error cause =>
      rw [hparams] at hnumbered
      obtain ⟨rfl, hframes, hcompletions⟩ := hnumbered.of_done
      refine .completed cause ?_ hcompletions rfl
      show Fails after s _ cause (numbered.filterMap (·.frame?))
      rw [hframes]
      exact .params List.mem_cons_self rfl hparams
    | ok params =>
      rw [hparams] at hnumbered
      refine .before d.nextId rfl rfl (fun _ cause => by simp [hparams]) ?_
      obtain ⟨_, entered, rfl, hentered⟩ := hnumbered.first
      simp only [step] at hentered
      exact .before (d.nextId + 1) rfl rfl (fun htask => by cases htask)
        (Runs.of_enter hunused hentered)

end Dispatcher

namespace World

/-- **A failed submission leaves no trace.** In every reachable world a submission that nothing
interrupts comes to its end, whatever the command and the writer answer. If there is a cause to
fail, the command is completed once, with the cause; table, sinks and all else of the dispatcher
are as before, but for the next id, and the writer has got no frame, unless it is the writer that
failed. Without a cause the command is not completed; the table gains one entry, under an id that
no request has had before, and the one frame that is written carries that id. -/
theorem submission_leaves_no_trace {w : World} (h : w.Reachable)
    (hfew : w.submissions.length + 1 < UInt64.size) (command : Command) :
    (∀ answer, ∃ u, RunsOut w.calls.length (w.start (.submit command)) u ∧
        ∀ o ∈ since w u, o.answer = answer) ∧
      ∀ u, RunsOut w.calls.length (w.start (.submit command)) u →
        (∃ cause frames, Fails w.dispatcher ⟨w.nextTicket, command⟩ (since w u) cause frames ∧
          completions w u = [(⟨w.nextTicket, command⟩, .error cause)] ∧
          u.dispatcher = { w.dispatcher with nextId := u.dispatcher.nextId } ∧
          u.frames = w.frames ++ frames) ∨
        ((∀ cause frames,
            ¬ Fails w.dispatcher ⟨w.nextTicket, command⟩ (since w u) cause frames) ∧
          completions w u = [] ∧ ∃ request,
            u.dispatcher = { w.dispatcher with
              nextId := u.dispatcher.nextId
              pending := w.dispatcher.pending ++ [(request.id, ⟨w.nextTicket, command⟩)] } ∧
            u.frames = w.frames ++ [request] ∧
            ∀ s, (request.id, s) ∉ w.issued ∧ (request.id, s) ∉ w.dispatcher.pending) := by
  have hcall := calls_start w (.submit command)
  have hids := h.idsOK (Nat.lt_of_succ_lt hfew)
  have hissued : w.issued.length + 1 < UInt64.size := by
    have hle := h.issued_le_submissions
    omega
  have hunused : w.dispatcher.pending.occupancy w.dispatcher.nextId = 0 :=
    (Nat.add_eq_zero_iff.mp (hids.live_nextId hissued)).1
  refine ⟨fun answer => exists_runsOut (w.start (.submit command)) answer hcall, fun u hu => ?_⟩
  obtain ⟨happened, hruns, hhistory⟩ := hu.runs hcall
  have hhistory : u.history = w.history ++ happened := hhistory
  have hframes : u.frames = w.frames ++ happened.filterMap (·.frame?) := by
    unfold frames
    rw [hhistory, List.filterMap_append]
    rfl
  rw [since_of_history hhistory, completions_of_history hhistory, hframes]
  rcases Dispatcher.Runs.of_submit hunused hruns with
    ⟨cause, why, once, kept⟩ | ⟨request, hid, nowhy, frame, uncompleted, entered⟩
  · exact .inl ⟨cause, _, why, once, kept, rfl⟩
  · refine .inr ⟨nowhy, uncompleted, request, hid ▸ entered, by rw [frame], fun s => ?_⟩
    have hnew : (request.id, s) ∉ w.issued := by
      rw [hid]
      exact hids.nextId_not_issued hissued s
    exact ⟨hnew, fun hmem => hnew (hids.pending_issued _ hmem)⟩

/-- The writer fails for a command that is pending already: two of its submissions stand in the
table before the third, and after it. -/
theorem submission_leaves_no_trace_of_threePending :
    threePending.Reachable ∧ threePending.submissions.length + 1 < UInt64.size ∧
      ∃ u, RunsOut threePending.calls.length (threePending.start (.submit ⟨2, "DOM.set"⟩)) u ∧
        completions threePending u =
          [(⟨3, ⟨2, "DOM.set"⟩⟩, .error (.transport "broken pipe"))] ∧
        u.dispatcher = { threePending.dispatcher with nextId := u.dispatcher.nextId } := by
  have hreach : threePending.Reachable := ⟨4, run_after _ _⟩
  have hfew : threePending.submissions.length + 1 < UInt64.size := by decide
  obtain ⟨u, hu, hcompleted⟩ : ∃ u,
      RunsOut threePending.calls.length (threePending.start (.submit ⟨2, "DOM.set"⟩)) u ∧
      completions threePending u =
        [(⟨3, ⟨2, "DOM.set"⟩⟩, .error (.transport "broken pipe"))] :=
    ⟨_, .goesOn {} rfl <| .goesOn {} rfl <| .goesOn {} rfl <| .goesOn {} rfl <|
      .goesOn { written := .error (.transport "broken pipe") } rfl <| .goesOn {} rfl <|
      .goesOn {} rfl <| .ended rfl, rfl⟩
  rcases (submission_leaves_no_trace hreach hfew ⟨2, "DOM.set"⟩).2 u hu with
    ⟨cause, frames, -, -, hkept, -⟩ | ⟨-, hnone, -⟩
  · exact ⟨hreach, hfew, u, hu, hcompleted, hkept⟩
  · rw [hcompleted] at hnone
    cases hnone

end World

end Bindery.Session
