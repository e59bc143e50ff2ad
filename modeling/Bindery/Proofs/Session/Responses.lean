import Bindery.Proofs.Session.Cancellation
import Bindery.Proofs.Session.Frames

/-!
# Responses in any order

What a call does that nothing interrupts depends on the dispatcher alone (`Dispatcher.Runs`), and
every call ends (`World.exists_runsOut`).

A response takes the submission of its id out of the table and completes it, and does nothing else
(`World.RunsOut.of_response`). So what a list of responses does can be told in one go: whatever is
pending under one of their ids is completed with the outcome of that id, and what is left of the
table is what stands under other ids (`World.Handled.of_responses`). If the ids are different, the
order of the responses has no part in this: `World.responses_in_any_order`.
-/

namespace Bindery.Session

/-- What a text says if it is a response: the id that it carries, and the outcome. -/
def Incoming.response? (text : String) : Option (UInt64 × Outcome) :=
  match parse text with
  | .ok frame => frame.id.map fun id => (id, frame.outcome)
  | .error _ => none

theorem Dispatcher.receive_of_response (d : Dispatcher) {text : String} {id : UInt64}
    {outcome : Outcome} (h : Incoming.response? text = some (id, outcome)) :
    d.receive text = { dispatcher := d, next := [.respond id outcome] } := by
  unfold Incoming.response? at h
  unfold receive
  split at h
  · rename_i frame hparse
    obtain ⟨id', hid, hpair⟩ := Option.map_eq_some_iff.mp h
    obtain ⟨rfl, rfl⟩ := Prod.mk.inj hpair
    -- an id makes a response of any frame, whatever else stands in it
    have hmessage : frame.message? = some (.response id' frame.outcome) := by
      unfold Incoming.message?
      rw [hid]
    rw [hparse]
    simp only [hmessage]
  · cases h

/-! ## What responses do to the table -/

namespace PendingTable

variable {table : PendingTable}

/-- What is left of a table without the entries of some ids. -/
def without (table : PendingTable) (ids : List UInt64) : PendingTable :=
  table.filter fun e => decide (e.1 ∉ ids)

/-- The submissions that responses complete, each with the outcome for its id. -/
def answeredBy (table : PendingTable) (responses : List (UInt64 × Outcome)) :
    List (Submission × Outcome) :=
  responses.filterMap fun r => (table.find? r.1).map fun s => (s, r.2)

@[simp] theorem without_nil (table : PendingTable) : table.without [] = table :=
  List.filter_eq_self.mpr fun _ _ => by simp

@[simp] theorem without_cons (table : PendingTable) (id : UInt64) (ids : List UInt64) :
    table.without (id :: ids) = (table.remove id).without ids := by
  unfold without remove
  rw [List.filter_filter]
  refine List.filter_congr fun e _ => ?_
  by_cases he : e.1 = id
  · simp [he]
  · simp [he]

@[simp] theorem answeredBy_singleton (table : PendingTable) (id : UInt64) (outcome : Outcome) :
    table.answeredBy [(id, outcome)] = (table.find? id).toList.map fun s => (s, outcome) := by
  unfold answeredBy
  rw [List.filterMap_cons]
  cases table.find? id <;> rfl

/-- Only the ids that are taken out count, not their order. -/
theorem without_congr (table : PendingTable) {ids ids' : List UInt64} (h : ids.Perm ids') :
    table.without ids = table.without ids' :=
  List.filter_congr fun _ _ => decide_eq_decide.mpr (not_congr h.mem_iff)

theorem find?_remove_of_ne {id id' : UInt64} (h : id' ≠ id) :
    (table.remove id).find? id' = table.find? id' := by
  unfold find? remove
  rw [List.find?_filter]
  congr 1
  congr 1
  funext e
  by_cases he : e.1 = id'
  · simp [he, h]
  · simp [he]

/-- A submission that has been taken out is none of those that other ids find. -/
theorem answeredBy_remove {id : UInt64} {responses : List (UInt64 × Outcome)}
    (h : id ∉ responses.map (·.1)) :
    (table.remove id).answeredBy responses = table.answeredBy responses := by
  unfold answeredBy
  refine List.filterMap_congr fun r hr => ?_
  have hne : r.1 ≠ id := by
    rintro rfl
    exact h (List.mem_map_of_mem hr)
  rw [find?_remove_of_ne hne]

theorem occupancy_eq_zero_of_find? {id : UInt64} (h : table.find? id = none) :
    table.occupancy id = 0 :=
  List.countP_eq_zero.mpr (List.find?_eq_none.mp (Option.map_eq_none_iff.mp h))

/-- What responses complete, told by the entries of the table. -/
theorem mem_answeredBy_iff (hone : ∀ id, table.occupancy id ≤ 1)
    {responses : List (UInt64 × Outcome)} {s : Submission} {outcome : Outcome} :
    (s, outcome) ∈ table.answeredBy responses ↔
      ∃ id, (id, s) ∈ table ∧ (id, outcome) ∈ responses := by
  unfold answeredBy
  rw [List.mem_filterMap]
  constructor
  · rintro ⟨⟨id, outcome'⟩, hr, hfound⟩
    obtain ⟨s', hfind, hpair⟩ := Option.map_eq_some_iff.mp hfound
    obtain ⟨rfl, rfl⟩ := Prod.mk.inj hpair
    exact ⟨id, mem_of_find? hfind, hr⟩
  · rintro ⟨id, hentry, hr⟩
    refine ⟨(id, outcome), hr, ?_⟩
    rw [find?_of_mem (hone id) hentry]
    rfl

/-- Each submission is completed once, if it stands under one id and each id is answered once. -/
theorem nodup_answeredBy (hnodup : (table.map (·.2)).Nodup)
    {responses : List (UInt64 × Outcome)} (hids : (responses.map (·.1)).Nodup) :
    ((table.answeredBy responses).map (·.1)).Nodup := by
  induction responses with
  | nil => exact List.nodup_nil
  | cons r rest ih =>
    obtain ⟨hfirst, hrest⟩ := List.nodup_cons.mp hids
    have hlater := ih hrest
    unfold answeredBy at hlater ⊢
    rw [List.filterMap_cons]
    cases hfind : table.find? r.1 with
    | none => exact hlater
    | some s =>
      refine List.nodup_cons.mpr ⟨fun hagain => ?_, hlater⟩
      -- a later response that finds the submission again answers the same id again
      obtain ⟨⟨s', outcome⟩, hmem, rfl⟩ := List.mem_map.mp hagain
      obtain ⟨r', hr', hfound⟩ := List.mem_filterMap.mp hmem
      obtain ⟨s'', hfind', hpair⟩ := Option.map_eq_some_iff.mp hfound
      obtain ⟨rfl, rfl⟩ := Prod.mk.inj hpair
      have hentry := List.inj_on_of_nodup_map hnodup (mem_of_find? hfind) (mem_of_find? hfind') rfl
      apply hfirst
      show r.1 ∈ rest.map (·.1)
      rw [(Prod.mk.inj hentry).1]
      exact List.mem_map_of_mem hr'

end PendingTable

/-- A response changes nothing but the table, from which it takes the entry of its id. -/
theorem Dispatcher.complete_eq (d : Dispatcher) (id : UInt64) (outcome : Outcome)
    (missing : List Warning) :
    (d.complete id outcome missing).dispatcher = { d with pending := d.pending.remove id } ∧
      (d.complete id outcome missing).next =
        (d.pending.find? id).toList.map fun s => .done s outcome := by
  rcases d.complete_cases id outcome missing with ⟨s, hfind, h⟩ | ⟨hnone, h⟩
  · rw [h, hfind]
    exact ⟨rfl, rfl⟩
  · have hkept := PendingTable.remove_eq_self (PendingTable.occupancy_eq_zero_of_find? hnone)
    rw [h, hnone, hkept]
    exact ⟨rfl, rfl⟩

/-! ## Calls that nothing interrupts -/

/-- The submission that an occurrence completes, with its outcome. -/
def Occurrence.completion? (o : Occurrence) : Option (Submission × Outcome) :=
  match o.task with
  | .done s outcome => some (s, outcome)
  | _ => none

/-- The frame that an occurrence hands to the writer. -/
def Occurrence.frame? (o : Occurrence) : Option Request :=
  match o.task with
  | .write _ request => some request
  | _ => none

namespace Dispatcher

/-- Tasks run to their end, each followed by what comes of it, and nothing else happens. -/
inductive Runs : Dispatcher → List Task → List Occurrence → Dispatcher → Prop where
  | ended (d : Dispatcher) : Runs d [] [] d
  | goesOn {d after : Dispatcher} {task : Task} {rest : List Task} {later : List Occurrence}
      (answer : Answer)
      (h : Runs (d.step answer task).dispatcher ((d.step answer task).next ++ rest) later after) :
      Runs d (task :: rest) (⟨task, answer, d, d.step answer task⟩ :: later) after

variable {d after : Dispatcher} {happened : List Occurrence}

theorem Runs.first {task : Task} {rest : List Task} (h : d.Runs (task :: rest) happened after) :
    ∃ answer later, happened = ⟨task, answer, d, d.step answer task⟩ :: later ∧
      (d.step answer task).dispatcher.Runs ((d.step answer task).next ++ rest) later after := by
  cases h with
  | goesOn answer h => exact ⟨answer, _, rfl, h⟩

theorem Runs.of_nil (h : d.Runs [] happened after) : after = d ∧ happened = [] := by
  cases h
  exact ⟨rfl, rfl⟩

/-- Every call ends, whatever it learns on the way. -/
theorem exists_runs (answer : Answer) (tasks : List Task) (d : Dispatcher) :
    ∃ happened after, d.Runs tasks happened after ∧ ∀ o ∈ happened, o.answer = answer := by
  suffices hthrough : ∀ bound, ∀ tasks rest : List Task, (∀ t ∈ tasks, t.rank < bound) →
      (∀ d : Dispatcher, ∃ happened after, d.Runs rest happened after ∧
        ∀ o ∈ happened, o.answer = answer) →
      ∀ d : Dispatcher, ∃ happened after, d.Runs (tasks ++ rest) happened after ∧
        ∀ o ∈ happened, o.answer = answer by
    have hended (d : Dispatcher) : ∃ happened after, d.Runs [] happened after ∧
        ∀ o ∈ happened, o.answer = answer :=
      ⟨[], d, .ended d, fun o ho => absurd ho List.not_mem_nil⟩
    have hall := hthrough 7 tasks [] (fun t _ => t.rank_lt) hended d
    rwa [List.append_nil] at hall
  -- what follows a task is of lower rank, so the induction is on a bound of the ranks
  intro bound
  induction bound with
  | zero =>
    intro tasks rest hbound hrest d
    cases tasks with
    | nil => exact hrest d
    | cons t tasks => exact absurd (hbound t List.mem_cons_self) (Nat.not_lt_zero _)
  | succ bound ih =>
    intro tasks rest hbound hrest
    induction tasks with
    | nil => exact hrest
    | cons t tasks ihtasks =>
      intro d
      have hlater := ihtasks fun t' ht' => hbound t' (List.mem_cons_of_mem t ht')
      obtain ⟨happened, after, hruns, hlearned⟩ := ih (d.step answer t).next (tasks ++ rest)
        (fun t' ht' => Nat.lt_of_lt_of_le (follows_of_mem_next ht').rank_lt
          (Nat.le_of_lt_succ (hbound t List.mem_cons_self)))
        hlater (d.step answer t).dispatcher
      exact ⟨_, after, .goesOn answer hruns, List.forall_mem_cons.mpr ⟨rfl, hlearned⟩⟩

theorem Runs.of_done {outcome : Outcome} (h : d.Runs [.done s outcome] happened after) :
    after = d ∧ happened.filterMap (·.frame?) = [] ∧
      happened.filterMap (·.completion?) = [(s, outcome)] := by
  obtain ⟨_, later, rfl, hlater⟩ := h.first
  obtain ⟨rfl, rfl⟩ := hlater.of_nil
  exact ⟨rfl, rfl, rfl⟩

end Dispatcher

namespace World

/-- The call at a position runs to its end: no other call goes on meanwhile, and none is made from
inside. -/
inductive RunsOut (i : Nat) : World → World → Prop where
  | ended {w : World} (h : w.calls[i]? = some []) : RunsOut i w w
  | goesOn {u v w : World} (answer : Answer) (h : u.advance i answer [] = some v)
      (rest : RunsOut i v w) : RunsOut i u w

/-- A call that runs to its end in a world runs its tasks on the dispatcher of that world. -/
theorem RunsOut.runs {i : Nat} {u w : World} {tasks : List Task} (h : RunsOut i u w)
    (hcall : u.calls[i]? = some tasks) :
    ∃ happened, u.dispatcher.Runs tasks happened w.dispatcher ∧
      w.history = u.history ++ happened := by
  induction h generalizing tasks with
  | ended hended =>
    obtain rfl := Option.some.inj (hended.symm.trans hcall)
    exact ⟨[], .ended _, (List.append_nil _).symm⟩
  | @goesOn u v w answer hadvance hrest ih =>
    cases tasks with
    | nil =>
      unfold advance at hadvance
      rw [hcall] at hadvance
      cases hadvance
    | cons task rest =>
      rw [advance_alone hcall answer] at hadvance
      obtain rfl := Option.some.inj hadvance
      obtain ⟨hi, -⟩ := List.getElem?_eq_some_iff.mp hcall
      obtain ⟨later, hruns, hhistory⟩ := ih (List.getElem?_set_self hi)
      exact ⟨_, .goesOn answer hruns, by rw [hhistory, List.append_assoc]; rfl⟩

/-- What the tasks of a call can do on the dispatcher, the call can do in the world. -/
theorem exists_runsOut_of_runs {i : Nat} {u : World} {tasks : List Task}
    {happened : List Occurrence} {after : Dispatcher} (hcall : u.calls[i]? = some tasks)
    (h : u.dispatcher.Runs tasks happened after) :
    ∃ w, RunsOut i u w ∧ w.history = u.history ++ happened := by
  generalize hd : u.dispatcher = d at h
  induction h generalizing u with
  | ended => exact ⟨u, .ended hcall, (List.append_nil _).symm⟩
  | @goesOn d after task rest later answer _ ih =>
    subst hd
    obtain ⟨hi, -⟩ := List.getElem?_eq_some_iff.mp hcall
    obtain ⟨w, hw, hhistory⟩ := ih (u := {
      dispatcher := (u.dispatcher.step answer task).dispatcher
      calls := u.calls.set i ((u.dispatcher.step answer task).next ++ rest)
      nextTicket := u.nextTicket
      history := u.history ++ [⟨task, answer, u.dispatcher, u.dispatcher.step answer task⟩] })
      (List.getElem?_set_self hi) rfl
    refine ⟨w, .goesOn answer (advance_alone hcall answer) hw, ?_⟩
    rw [hhistory, List.append_assoc]
    rfl

theorem since_of_history {v w : World} {added : List Occurrence}
    (h : w.history = v.history ++ added) : since v w = added := by
  unfold since
  rw [h, List.drop_left]

/-- A call can be run to its end, whatever it learns on the way. -/
theorem exists_runsOut {i : Nat} {tasks : List Task} (u : World) (answer : Answer)
    (hcall : u.calls[i]? = some tasks) :
    ∃ w, RunsOut i u w ∧ ∀ o ∈ since u w, o.answer = answer := by
  obtain ⟨happened, after, hruns, hlearned⟩ := Dispatcher.exists_runs answer tasks u.dispatcher
  obtain ⟨w, hw, hhistory⟩ := exists_runsOut_of_runs hcall hruns
  exact ⟨w, hw, since_of_history hhistory ▸ hlearned⟩

end World

/-! ## Frames that are handled one after the other -/

namespace World

/-- Frames are handled one after the other: each is received by a call of its own, which runs to
its end before the next frame comes. -/
inductive Handled : World → List String → World → Prop where
  | nothing (w : World) : Handled w [] w
  | frame {u v w : World} {text : String} {later : List String}
      (first : RunsOut u.calls.length (u.start (.receive text)) v) (rest : Handled v later w) :
      Handled u (text :: later) w

/-- What has been completed between two moments, in order. -/
def completions (v w : World) : List (Submission × Outcome) :=
  (since v w).filterMap (·.completion?)

theorem completions_of_history {v w : World} {added : List Occurrence}
    (h : w.history = v.history ++ added) :
    completions v w = added.filterMap (·.completion?) := by
  rw [completions, since_of_history h]

theorem completions_trans {u v w : World} (huv : u.history <+: v.history)
    (hvw : v.history <+: w.history) :
    completions u w = completions u v ++ completions v w := by
  obtain ⟨first, hfirst⟩ := huv
  obtain ⟨second, hsecond⟩ := hvw
  have hboth : w.history = u.history ++ (first ++ second) := by
    rw [← hsecond, ← hfirst, List.append_assoc]
  rw [completions_of_history hboth, completions_of_history hfirst.symm,
    completions_of_history hsecond.symm, List.filterMap_append]

/-- **What one response does.** -/
theorem RunsOut.of_response {w u : World} {text : String} {id : UInt64} {outcome : Outcome}
    (htext : Incoming.response? text = some (id, outcome))
    (h : RunsOut w.calls.length (w.start (.receive text)) u) :
    u.dispatcher = { w.dispatcher with pending := w.dispatcher.pending.remove id } ∧
      completions w u = w.dispatcher.pending.answeredBy [(id, outcome)] ∧
      w.history <+: u.history := by
  obtain ⟨happened, hruns, hhistory⟩ := h.runs (calls_start w (.receive text))
  have hhistory : u.history = w.history ++ happened := hhistory
  rw [completions_of_history hhistory, hhistory, PendingTable.answeredBy_singleton]
  -- the frame is read, and says that it is a response
  obtain ⟨_, read, rfl, hread⟩ := hruns.first
  simp only [Call.task, Dispatcher.step, Dispatcher.receive_of_response _ htext] at hread
  -- the submission of the id leaves the table, if there is one, and is completed
  obtain ⟨_, found, rfl, hfound⟩ := hread.first
  obtain ⟨hpending, hnext⟩ := w.dispatcher.complete_eq id outcome
    [⟨"Response for unknown request", [("id", .count id.toNat)]⟩]
  simp only [World.start, Dispatcher.step, hpending, hnext] at hfound
  cases hfind : w.dispatcher.pending.find? id with
  | none =>
    rw [hfind] at hfound
    obtain ⟨hafter, rfl⟩ := hfound.of_nil
    exact ⟨hafter, rfl, List.prefix_append _ _⟩
  | some s =>
    rw [hfind] at hfound
    obtain ⟨hafter, -, hcompleted⟩ := hfound.of_done
    exact ⟨hafter, hcompleted, List.prefix_append _ _⟩

/-! ## Several responses -/

/-- The texts are responses, each to another id. -/
structure AreResponses (texts : List String) : Prop where
  isResponse : ∀ text ∈ texts, (Incoming.response? text).isSome = true
  ids_nodup : ((texts.filterMap Incoming.response?).map (·.1)).Nodup

theorem AreResponses.perm {texts texts' : List String} (h : AreResponses texts)
    (hperm : texts'.Perm texts) : AreResponses texts' where
  isResponse := fun text htext => h.isResponse text (hperm.mem_iff.mp htext)
  ids_nodup := ((hperm.filterMap _).map _).nodup_iff.mpr h.ids_nodup

theorem AreResponses.cons {text : String} {texts : List String}
    (h : AreResponses (text :: texts)) :
    ∃ id outcome, Incoming.response? text = some (id, outcome) ∧
      id ∉ (texts.filterMap Incoming.response?).map (·.1) ∧ AreResponses texts := by
  have hsome := h.isResponse text List.mem_cons_self
  obtain ⟨⟨id, outcome⟩, htext⟩ := Option.isSome_iff_exists.mp hsome
  have hids := h.ids_nodup
  rw [List.filterMap_cons_some htext, List.map_cons, List.nodup_cons] at hids
  exact ⟨id, outcome, htext, hids.1,
    ⟨fun later hlater => h.isResponse later (List.mem_cons_of_mem _ hlater), hids.2⟩⟩

/-- **What responses do, one after the other.** -/
theorem Handled.of_responses {w v : World} {texts : List String} (h : Handled w texts v)
    (htexts : AreResponses texts) :
    v.dispatcher = { w.dispatcher with
        pending := w.dispatcher.pending.without
          ((texts.filterMap Incoming.response?).map (·.1)) } ∧
      completions w v =
        w.dispatcher.pending.answeredBy (texts.filterMap Incoming.response?) ∧
      w.history <+: v.history := by
  induction h with
  | nothing w =>
    refine ⟨?_, ?_, List.prefix_rfl⟩
    · rw [List.filterMap_nil, List.map_nil, PendingTable.without_nil]
    · rw [completions, since_self]
      rfl
  | @frame u v w text later hfirst _ ih =>
    obtain ⟨id, outcome, htext, hnew, hlater⟩ := htexts.cons
    obtain ⟨hdispatcher, hcompleted, hgrows⟩ := hfirst.of_response htext
    obtain ⟨hdispatcher', hcompleted', hgrows'⟩ := ih hlater
    rw [List.filterMap_cons_some htext]
    refine ⟨?_, ?_, hgrows.trans hgrows'⟩
    · rw [hdispatcher', hdispatcher, List.map_cons, PendingTable.without_cons]
    · -- the later responses find what they would have found at first
      rw [completions_trans hgrows hgrows', hcompleted, hcompleted', hdispatcher,
        PendingTable.answeredBy_remove hnew]
      exact (List.filterMap_append (l := [(id, outcome)])).symm

/-- Frames can be handled in any world. -/
theorem exists_handled (texts : List String) (w : World) : ∃ v, Handled w texts v := by
  induction texts generalizing w with
  | nil => exact ⟨w, .nothing w⟩
  | cons text later ih =>
    obtain ⟨u, hfirst, -⟩ := exists_runsOut (w.start (.receive text)) {} (calls_start w _)
    obtain ⟨v, hrest⟩ := ih u
    exact ⟨v, .frame hfirst hrest⟩

/-- Each submission is pending under one id at most. -/
theorem Run.nodup_pending {limit : Nat} {w : World} (h : Run (fresh limit) w) :
    (w.dispatcher.pending.map (·.2)).Nodup := by
  have hentries : w.dispatcher.pending.Nodup := by
    refine List.nodup_iff_count_le_one.mpr fun e => Nat.le_trans ?_ (h.occupancy_le_one e.1)
    refine List.countP_mono_left fun e' _ he' => ?_
    rw [beq_iff_eq.mp he']
    exact beq_self_eq_true _
  refine List.Nodup.map_on (fun e he e' he' hsame => ?_) hentries
  -- both entries have been entered, but a submission comes to the table once
  obtain ⟨c, hc, henters⟩ := h.entered e he
  obtain ⟨c', hc', henters'⟩ := h.entered e' he'
  rw [← hsame] at henters'
  obtain rfl := h.settled_once hc hc' henters.settles henters'.settles
  obtain ⟨request, htask, hid, -⟩ := henters
  obtain ⟨request', htask', hid', -⟩ := henters'
  obtain ⟨-, rfl⟩ := Task.enter.inj (htask.symm.trans htask')
  exact Prod.ext (hid.symm.trans hid') hsame

/-- **The order of responses has no part in what they do.** In every reachable world, responses to
different ids can be handled in any order, if no call is made from inside a completion. Whatever the
order, the same submissions are completed, those that are pending under one of the ids, each once
and with the outcome for its id; and the dispatchers that are left are equal: their tables, the next
ids, whether they are closed, and their sinks. -/
theorem responses_in_any_order {w : World} (h : w.Reachable) {texts texts' : List String}
    (htexts : AreResponses texts) (hperm : texts'.Perm texts) :
    (∃ v, Handled w texts v) ∧ (∃ v', Handled w texts' v') ∧
      ∀ v v', Handled w texts v → Handled w texts' v' →
        (completions w v').Perm (completions w v) ∧
        ((completions w v).map (·.1)).Nodup ∧
        (∀ s outcome, (s, outcome) ∈ completions w v ↔
          ∃ id, (id, s) ∈ w.dispatcher.pending ∧
            ∃ text ∈ texts, Incoming.response? text = some (id, outcome)) ∧
        v'.dispatcher = v.dispatcher := by
  obtain ⟨limit, hrun⟩ := h
  have htexts' := htexts.perm hperm
  refine ⟨exists_handled texts w, exists_handled texts' w, fun v v' hv hv' => ?_⟩
  obtain ⟨hdispatcher, hcompleted, -⟩ := hv.of_responses htexts
  obtain ⟨hdispatcher', hcompleted', -⟩ := hv'.of_responses htexts'
  have hresponses := hperm.filterMap Incoming.response?
  refine ⟨?_, ?_, fun s outcome => ?_, ?_⟩
  · rw [hcompleted, hcompleted']
    exact hresponses.filterMap _
  · rw [hcompleted]
    exact PendingTable.nodup_answeredBy hrun.nodup_pending htexts.ids_nodup
  · rw [hcompleted, PendingTable.mem_answeredBy_iff hrun.occupancy_le_one]
    simp only [List.mem_filterMap]
  · rw [hdispatcher, hdispatcher', PendingTable.without_congr _ (hresponses.map _)]

/-- Three submissions of two commands are pending. -/
def threePending : World :=
  (fresh 4).after [.start (.submit ⟨1, "DOM.get"⟩), .advance 0 {} [], .advance 0 {} [],
    .advance 0 {} [], .advance 0 {} [], .advance 0 {} [],
    .start (.submit ⟨2, "DOM.set"⟩), .advance 1 {} [], .advance 1 {} [], .advance 1 {} [],
    .advance 1 {} [], .advance 1 {} [],
    .start (.submit ⟨2, "DOM.set"⟩), .advance 2 {} [], .advance 2 {} [], .advance 2 {} [],
    .advance 2 {} [], .advance 2 {} []]

/-- A failure, a result for an id that nobody awaits, and a response without a result. -/
def threeResponses : List String :=
  [failureText 3 7 "\"gone\"", responseText 9 ⟨"[1]"⟩, "\x7b\"id\":1\x7d"]

theorem responses_in_any_order_of_threeResponses :
    threePending.Reachable ∧ AreResponses threeResponses ∧
      threeResponses.reverse.Perm threeResponses ∧
      ∃ v v', Handled threePending threeResponses v ∧
        Handled threePending threeResponses.reverse v' ∧
        (completions threePending v').Perm (completions threePending v) ∧
        v'.dispatcher = v.dispatcher := by
  have hreach : threePending.Reachable := ⟨4, run_after _ _⟩
  have hresponses : AreResponses threeResponses := by
    constructor
    · decide +kernel
    · decide +kernel
  have hperm := List.reverse_perm threeResponses
  obtain ⟨⟨v, hv⟩, ⟨v', hv'⟩, hsame⟩ := responses_in_any_order hreach hresponses hperm
  obtain ⟨hcompleted, -, -, hdispatcher⟩ := hsame v v' hv hv'
  exact ⟨hreach, hresponses, hperm, v, v', hv, hv', hcompleted, hdispatcher⟩

end World

end Bindery.Session
