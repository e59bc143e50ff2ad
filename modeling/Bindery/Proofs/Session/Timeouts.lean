import Bindery.Proofs.Session.Conventions

/-!
# Timeouts of any length

The timeout of a run may be any duration, and the clock shows instants up to a limit. What a caller
relies on is `BlockingHandle.EndsSafely`: the run does not break off, it reports a completion that
comes in time, and without one it gives up and leaves no entry of its command behind.

A run does so exactly if the clock can show its deadline (`endsSafely_iff_reaches`). The command has
been submitted by the time the deadline is computed, and a run that breaks off there asks nothing
more of the dispatcher, so that the entry of its command stays (`not_endsSafely_of_longest`).
-/

namespace Bindery.Session

open Bindery.Json

/-! ## Deadlines -/

namespace Instant

variable {t : Instant} {d : Duration}

/-- The instant that lies `d` after `t` comes before the limit of the clock. -/
def Reaches (t : Instant) (d : Duration) : Prop :=
  t.nanos + d.totalNanos < secondLimit * nanosPerSecond

instance (t : Instant) (d : Duration) : Decidable (t.Reaches d) :=
  inferInstanceAs (Decidable (_ < _))

theorem after?_of_reaches (hclock : t.Showable) (h : t.Reaches d) :
    t.after? d = some ⟨t.nanos + d.totalNanos⟩ := by
  have hlater : (⟨t.nanos + d.totalNanos⟩ : Instant).Showable := by
    refine ⟨?_, h⟩
    have hfirst := hclock.1
    show -secondLimit * nanosPerSecond ≤ t.nanos + d.totalNanos
    omega
  exact if_pos hlater

theorem after?_of_not_reaches (h : ¬ t.Reaches d) : t.after? d = none :=
  if_neg fun hlater => h hlater.2

end Instant

namespace RunCourse

variable {course : RunCourse}

/-- The handle is completed before the timeout is over: in a run before, between the runs or while
the command is submitted, or by the next completion after that. -/
def CompletedInTime (course : RunCourse) (released : Bool) : Prop :=
  released = true ∨ course.before ≠ [] ∨
    ∃ t c, course.next = some (t, c) ∧
      t.nanos ≤ course.start.nanos + course.timeout.totalNanos

theorem inTime_ne_nil_iff {deadline : Instant} (hdeadline : course.deadline? = some deadline) :
    course.inTime ≠ [] ↔ ∃ t c, course.next = some (t, c) ∧ t.nanos ≤ deadline.nanos := by
  unfold inTime
  rw [hdeadline]
  cases course.next with
  | none => simp
  | some next =>
    obtain ⟨t, c⟩ := next
    by_cases hintime : t.nanos ≤ deadline.nanos <;> simp [hintime]

/-- A course on which nothing comes. -/
theorem seen_of_silent (hbefore : course.before = []) (hnext : course.next = none)
    (released : Bool) : course.seen released = [] := by
  have hintime : course.inTime = [] := by
    unfold inTime
    rw [hnext]
    cases course.deadline? <;> rfl
  rw [seen, hbefore, hintime, ite_self]
  rfl

end RunCourse

/-! ## Runs -/

/-- Tasks are run as a call of their own. -/
def World.hand (w : World) (tasks : List Task) : World :=
  { w with
    calls := w.calls ++ [tasks]
    nextTicket := w.nextTicket + 1 }

theorem World.hand_cancel (w : World) (key : Nat) : w.hand [.cancel key] = w.start (.cancel key) :=
  rfl

namespace BlockingHandle

open World

variable {ρ : Type} {h : BlockingHandle ρ} {call : RemoteCall ρ} {course : RunCourse}

/-- What a caller relies on, whatever the timeout. -/
structure EndsSafely (h : BlockingHandle ρ) (call : RemoteCall ρ) (course : RunCourse) : Prop where
  unbroken : (h.run call course).1 ≠ .broken
  /-- A completion in time ends the wait, and the run returns what the handle is left with. -/
  reports : course.CompletedInTime h.latch.released →
    (h.run call course).1 = .returned
      (match (h.hear call (course.seen h.latch.released)).failure with
        | some e => .error e
        | none => .ok ())
  gives_up : ¬ course.CompletedInTime h.latch.released →
    (h.run call course).1 = .abandoned (.ofTimeout call.method course.timeout)
  /-- A dispatcher on which the run has given up has no entry of the command, then or later: the
  command was not held before, is submitted by this run only, and what the run still asks of the
  dispatcher has been done. -/
  forgets : ¬ course.CompletedInTime h.latch.released →
    ∀ (limit : Nat) (command : Command) (prev begun waiting ended after w : World),
      Run (fresh limit) prev → Hosts command h.latch.released prev begun waiting ended course →
      begun.heldFor command.key = 0 →
      Run (ended.hand ((h.run call course).1.tasks command.key)) after →
      after.calls[ended.calls.length]? = some [] → Run after w →
      (since begun w).countP (·.task.submits command.key) ≤ 1 →
      ∀ e ∈ w.dispatcher.pending, e.2.command.key ≠ command.key

theorem completedBy_iff (hclock : course.start.Showable)
    (hreaches : course.start.Reaches course.timeout) :
    h.CompletedBy course ↔ course.CompletedInTime h.latch.released := by
  have hdeadline : course.deadline? = some _ := Instant.after?_of_reaches hclock hreaches
  have hintime := RunCourse.inTime_ne_nil_iff hdeadline
  rw [CompletedBy, RunCourse.CompletedInTime, ← hintime, RunCourse.seen]
  cases h.latch.released with
  | true => simp
  | false => cases course.before <;> simp

/-- A run whose deadline the clock can show does what a caller relies on. -/
theorem endsSafely_of_reaches (hclock : course.start.Showable)
    (hreaches : course.start.Reaches course.timeout) : h.EndsSafely call course := by
  have hdeadline : course.deadline?.isSome := by
    rw [RunCourse.deadline?, Instant.after?_of_reaches hclock hreaches]
    rfl
  have hcompleted := completedBy_iff (h := h) hclock hreaches
  have hreports (hintime : course.CompletedInTime h.latch.released) :
      (h.run call course).1 = .returned
        (match (h.hear call (course.seen h.latch.released)).failure with
          | some e => .error e
          | none => .ok ()) := by
    rw [run_of_completedBy call hdeadline (hcompleted.mpr hintime), conclude]
    cases (h.hear call (course.seen h.latch.released)).failure <;> rfl
  have hgives_up (hlate : ¬ course.CompletedInTime h.latch.released) :
      (h.run call course).1 = .abandoned (.ofTimeout call.method course.timeout) := by
    rw [run_of_not_completedBy call hdeadline fun hby => hlate (hcompleted.mp hby)]
  refine ⟨fun hbroken => ?unbroken, hreports, hgives_up, ?forgets⟩
  case unbroken =>
    by_cases hintime : course.CompletedInTime h.latch.released
    · rw [hreports hintime] at hbroken
      cases hbroken
    · rw [hgives_up hintime] at hbroken
      cases hbroken
  case forgets =>
    intro hlate limit command prev begun waiting ended after w hprev hhosts hheld hafter hreturned
      hw honce
    -- the run has given up, so what it still asks for is the cancellation
    rw [hgives_up hlate, RunEnd.tasks, hand_cancel] at hafter
    exact hhosts.forgotten hprev hheld hafter hreturned hw honce

/-- **Which timeouts are safe.** A run does what a caller relies on exactly if the clock can show
the instant at which it would give up. Any other run breaks off, and asks nothing more of the
dispatcher. -/
theorem endsSafely_iff_reaches (h : BlockingHandle ρ) (call : RemoteCall ρ) {course : RunCourse}
    (hclock : course.start.Showable) :
    (h.EndsSafely call course ↔ course.start.Reaches course.timeout) ∧
    (¬ course.start.Reaches course.timeout →
      (h.run call course).1 = .broken ∧ ∀ key, (h.run call course).1.tasks key = []) := by
  have hbreaks (hbeyond : ¬ course.start.Reaches course.timeout) :
      (h.run call course).1 = .broken := by
    rw [run_eq_of_no_deadline h call (Instant.after?_of_not_reaches hbeyond)]
  refine ⟨⟨fun hsafe => ?_, endsSafely_of_reaches hclock⟩, fun hbeyond => ?_⟩
  · by_contra hbeyond
    exact hsafe.unbroken (hbreaks hbeyond)
  · rw [hbreaks hbeyond]
    exact ⟨rfl, fun _ => rfl⟩

/-- The longest timeout that a clock at zero can show the end of. -/
def lastTimeout : Duration := ⟨9223372036854775807, 999999999, by decide⟩

/-- The longest duration. -/
def longestTimeout : Duration := ⟨18446744073709551615, 999999999, by decide⟩

/-- A run from zero on whose command is never completed. -/
def silentCourse (timeout : Duration) : RunCourse := { ticket := 0, start := ⟨0⟩, timeout }

theorem hosts_silentCourse (timeout : Duration) :
    Hosts ⟨7, "A.getNode"⟩ false (fresh 8) (fresh 8) awaiting awaiting (silentCourse timeout) :=
  ⟨.refl, rfl, run_after _ _, rfl, rfl, .refl, RunCourse.seen_of_silent rfl rfl false⟩

/-- One nanosecond decides: the first of two runs gives up and leaves no entry, the other breaks
off. -/
theorem endsSafely_iff_reaches_of_lastTimeout :
    (({} : BlockingHandle RawText).run plainCall (silentCourse lastTimeout)).1 =
      .abandoned (.ofTimeout "A.getNode" lastTimeout) ∧
    (∀ e ∈ abandoned.dispatcher.pending, e.2.command.key ≠ 7) ∧
    (({} : BlockingHandle RawText).run plainCall
      (silentCourse (.ofParts 9223372036854775808 0))).1 = .broken := by
  have hlast := @endsSafely_iff_reaches RawText {} plainCall (silentCourse lastTimeout) (by decide)
  have hbeyond := @endsSafely_iff_reaches RawText {} plainCall
    (silentCourse (.ofParts 9223372036854775808 0)) (by decide)
  have hsafe := hlast.1.mpr (by decide)
  have hlate : ¬ (silentCourse lastTimeout).CompletedInTime false := by
    rintro (hreleased | hbefore | ⟨t, c, hnext, -⟩)
    · cases hreleased
    · exact hbefore rfl
    · cases hnext
  refine ⟨hsafe.gives_up hlate, ?_, (hbeyond.2 (by decide)).1⟩
  refine hsafe.forgets hlate 8 _ _ _ _ _ abandoned _ .refl (hosts_silentCourse lastTimeout) rfl ?_
    rfl .refl (by decide)
  rw [hsafe.gives_up hlate]
  exact run_after _ _

/-- Whoever waits as long as can be breaks off, and the command stays pending. -/
theorem not_endsSafely_of_longest :
    (silentCourse longestTimeout).start.Showable ∧
    ¬ ({} : BlockingHandle RawText).EndsSafely plainCall (silentCourse longestTimeout) ∧
    Hosts ⟨7, "A.getNode"⟩ false (fresh 8) (fresh 8) awaiting awaiting
      (silentCourse longestTimeout) ∧
    ∃ e ∈ (awaiting.hand ((({} : BlockingHandle RawText).run plainCall
      (silentCourse longestTimeout)).1.tasks 7)).dispatcher.pending, e.2.command.key = 7 := by
  have hbroken : (({} : BlockingHandle RawText).run plainCall (silentCourse longestTimeout)).1 =
      .broken := by
    rw [run_eq_of_no_deadline _ _ (Instant.after?_of_not_reaches (by decide))]
  refine ⟨by decide, fun hends => hends.unbroken hbroken, hosts_silentCourse longestTimeout, ?_⟩
  decide

end BlockingHandle

end Bindery.Session
