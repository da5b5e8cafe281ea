import PollingAssertions.Proofs.Polling.Cancellation
import PollingAssertions.Proofs.Polling.Judging

/-!
# Why a run fails

The reason of a failure is taken from one of three places: the attempt that decided the
run, the last verdict before it, or a hint. This module says which one it is for each
termination, in terms of what the probe, its matcher and the context did. In each case
the text belongs to the last attempt that was evaluated; no older text is ever
reported.

A run that times out reads the clock once to see that time is over, and once more for
its report. The second reading is reported, and it is no smaller on a clock that never
goes back.

## Main definitions

* `Poller.LastAttempt` — the last attempt of a journal and the world it was begun in.
* `Poller.LastText` — the text of the last attempt, empty if there was none.
* `Poller.Fails` — the terminations and reasons that a journal allows.

## Main results

* `Poller.lastEvaluated_of_pending` — while nothing is decided, the last attempt was evaluated.
* `Poller.run_failed` — how a run that fails has failed.
-/

namespace PollingAssertions

/-- A clock never goes back between two readings. -/
def Clock.Monotone {σ : Type} (clock : Clock σ) : Prop :=
  ∀ v, (clock.now v).1 ≤ (clock.now (clock.now v).2).1

/-- A clock that only tells the time says the same twice. -/
theorem Clock.Still.monotone {σ : Type} {clock : Clock σ} (h : clock.Still) : clock.Monotone := by
  intro v
  have hsame : (clock.now (clock.now v).2).1 = (clock.now v).1 := by rw [h v]
  exact Nat.le_of_eq hsame.symm

namespace Poller

section

variable {σ : Type} [ReasonLog σ] [HasCheckers σ] [HasContexts σ] [HasDesk σ]
  (poller : Poller σ) (assertion : Assertion σ) (s : σ)

/-- The last attempt in a journal came to a judgement. It was begun when the events before
it had led to the world `v`. -/
structure LastAttempt (journal : List Event) (judgement : Judgement) (earlier : List Event)
    (v : σ) : Prop where
  suffix : .attempted judgement :: .began :: earlier <:+ journal
  attempts_eq : Journal.attempts journal = some judgement :: Journal.attempts earlier
  reaches : poller.Reaches assertion s earlier v

/-- The last attempt in a journal was evaluated, and its evaluation says what happened. -/
inductive LastEvaluated (journal : List Event) (e : Evaluation) : Prop
  | intro {earlier : List Event} {v : σ} :
      poller.LastAttempt assertion s journal (.evaluated e) earlier v → assertion.Evaluates v e →
      LastEvaluated journal e

/-- The text of the last attempt in a journal, empty if there is none. -/
inductive LastText (journal : List Event) : String → Prop
  | none : Journal.attempts journal = [] → LastText journal ""
  | evaluated {e : Evaluation} : poller.LastEvaluated assertion s journal e →
      LastText journal e.reason

/-- The terminations that a journal allows, with the reason and the time that are reported. -/
inductive Fails (journal : List Event) : Termination → String → Span → Prop
  /-- The last attempt returned a stop signal and did not pass. -/
  | returned {e : Evaluation} {stop : StopSignal} {d : Span} :
      poller.LastEvaluated assertion s journal e → e.passed = false → e.stop? = some stop →
      Fails journal (.stopped stop.reason) e.reason d
  /-- The last attempt raised a stop signal; the text is that of the attempt before. -/
  | raised {stop : StopSignal} {earlier : List Event} {v u : σ} {text : String} {d : Span} :
      poller.LastAttempt assertion s journal (.interrupted stop) earlier v →
      assertion.probe.Calls assertion.kind assertion.settings v (.error (.stop stop) u) →
      poller.LastText assertion s earlier text → Fails journal (.stopped stop.reason) text d
  | hinted {e : Evaluation} {hint : String} {datum : Datum} {d : Span} :
      assertion.kind = .eventually → assertion.probe = .observed datum →
      poller.LastEvaluated assertion s journal e → e.passed = false → e.stop? = none →
      e.hint? = some hint → Fails journal .noFutureChange hint d
  | failed {e : Evaluation} {d : Span} :
      assertion.kind = .consistently → poller.LastEvaluated assertion s journal e →
      e.passed = false → e.stop? = none → Fails journal .failed e.reason d
  /-- Time was seen to be over, and then the clock was read for the report. -/
  | timedOut {e : Evaluation} {earlier : List Event} {observed d : Span} :
      assertion.kind = .eventually → poller.LastEvaluated assertion s journal e →
      e.passed = false → journal = .elapsed d :: .elapsed observed :: earlier →
      (assertion.plan poller.defaults).timeout ≤ observed →
      (poller.clock.Monotone → (assertion.plan poller.defaults).timeout ≤ d) →
      Fails journal .timedOut e.reason d
  | cancelled {before : List Event} {v : σ} {text : String} {d : Span} :
      journal = .elapsed d :: .looked true :: before → poller.Reaches assertion s before v →
      assertion.Done v → poller.LastText assertion s journal text →
      Fails journal .cancelled text d

end

section

variable {σ : Type} [ReasonLog σ] [HasCheckers σ] [HasContexts σ] [HasDesk σ]
  {poller : Poller σ} {assertion : Assertion σ} {s v w : σ} {journal : List Event}
  {judgement : Judgement} {e : Evaluation}

section

variable (later : List Event)
  (hlater : Journal.attempts (later ++ journal) = Journal.attempts journal)

include hlater

/-- What happens after an attempt does not change that it was the last one. -/
theorem LastAttempt.append {earlier : List Event}
    (h : poller.LastAttempt assertion s journal judgement earlier v) :
    poller.LastAttempt assertion s (later ++ journal) judgement earlier v where
  suffix := h.suffix.trans (List.suffix_append _ _)
  attempts_eq := by
    rw [hlater]
    exact h.attempts_eq
  reaches := h.reaches

theorem LastEvaluated.append (h : poller.LastEvaluated assertion s journal e) :
    poller.LastEvaluated assertion s (later ++ journal) e := by
  cases h with
  | intro hlast hevaluates => exact .intro (hlast.append later hlater) hevaluates

theorem LastText.append {text : String} (h : poller.LastText assertion s journal text) :
    poller.LastText assertion s (later ++ journal) text := by
  cases h with
  | none hnone => exact .none (hlater.trans hnone)
  | evaluated hlast => exact .evaluated (hlast.append later hlater)

end

/-- Hints are given only for a value that is observed. -/
theorem LastEvaluated.observed_of_hint {hint : String}
    (h : poller.LastEvaluated assertion s journal e) (hhint : e.hint? = some hint) :
    ∃ datum, assertion.probe = .observed datum := by
  cases h with
  | intro _ hevaluates =>
      cases hevaluates.hint hint hhint with
      | intro _ hobserved _ _ => exact ⟨_, hobserved⟩

/-- An attempt that has just been made is the last one. -/
theorem lastAttempt_of_course {earlier : List Event}
    (hrun : poller.Reaches assertion s (.attempted judgement :: .began :: earlier) w) :
    ∃ v t, poller.LastAttempt assertion s (.attempted judgement :: .began :: earlier) judgement
        earlier v ∧
      assertion.attempt v = .ok (.ok judgement) t := by
  obtain ⟨v, hv⟩ := hrun.of_suffix ((List.suffix_cons _ _).trans (List.suffix_cons _ _))
  obtain ⟨t, hattempt⟩ := hrun.attempt_eq List.suffix_rfl hv
  exact ⟨v, t, ⟨List.suffix_rfl, rfl, hv⟩, hattempt⟩

theorem lastEvaluated_of_course {earlier : List Event}
    (hrun : poller.Reaches assertion s (.attempted (.evaluated e) :: .began :: earlier) w) :
    poller.LastEvaluated assertion s (.attempted (.evaluated e) :: .began :: earlier) e := by
  obtain ⟨v, t, hlast, hattempt⟩ := lastAttempt_of_course hrun
  exact .intro hlast (Assertion.evaluates_of_attempt hattempt)

/-- While nothing is decided the last attempt, if there was one, has been evaluated and left
the run open. -/
theorem lastEvaluated_of_pending {phase : Phase} {plan : Plan} (h : Pending plan [] phase journal)
    (hrun : poller.Reaches assertion s journal w) (hmore : Journal.attempts journal ≠ []) :
    ∃ e, poller.LastEvaluated assertion s journal e ∧ e.LeavesOpen plan.kind ∧
      Journal.reason journal = e.reason := by
  induction h generalizing w with
  | starting => exact absurd rfl hmore
  | @judged journal e _ hopen _ =>
      obtain ⟨v, hjudged⟩ := hrun.of_suffix List.suffix_rfl
      exact ⟨e, lastEvaluated_of_course hjudged, hopen, rfl⟩
  | @rested journal d _ _ ih =>
      obtain ⟨v, hbefore⟩ :=
        hrun.of_suffix (List.suffix_append [.paused _, .elapsed d, .looked false] journal)
      obtain ⟨e, hlast, hopen, hreason⟩ := ih hbefore hmore
      exact ⟨e, hlast.append [_, _, _] rfl, hopen, hreason⟩
  | @resumed journal d _ _ ih =>
      obtain ⟨v, hbefore⟩ := hrun.of_suffix (List.suffix_append [.elapsed d, .looked false] journal)
      obtain ⟨e, hlast, hopen, hreason⟩ := ih hbefore hmore
      exact ⟨e, hlast.append [_, _] rfl, hopen, hreason⟩

/-- While nothing is decided, the reason to be reported is the text of the last attempt. -/
theorem lastText_of_pending {phase : Phase} {plan : Plan} (h : Pending plan [] phase journal)
    (hrun : poller.Reaches assertion s journal w) :
    poller.LastText assertion s journal (Journal.reason journal) := by
  by_cases hmore : Journal.attempts journal = []
  · rw [h.reason_eq, hmore]
    exact .none hmore
  · obtain ⟨e, hlast, _, hreason⟩ := lastEvaluated_of_pending h hrun hmore
    rw [hreason]
    exact .evaluated hlast

/-- A time that was seen to be over is over in the report, if the clock never goes back. -/
theorem timeout_le_reported {timeout observed d : Span} {earlier : List Event}
    (hrun : poller.Reaches assertion s (.elapsed d :: .elapsed observed :: earlier) w)
    (hover : timeout ≤ observed) (hclock : poller.clock.Monotone) : timeout ≤ d := by
  obtain ⟨t, hread, hreported⟩ := course_cons.1 hrun
  obtain ⟨u, _, hobserved⟩ := course_cons.1 hread
  cases hobserved with
  | @elapsed now _ _ hnow =>
      cases hreported with
      | @elapsed later _ _ hlater =>
          have hforward := hclock u
          have hnow' : poller.clock.now u = (now, t) := hnow
          have hlater' : poller.clock.now t = (later, w) := hlater
          rw [hnow'] at hforward
          simp only [hlater'] at hforward
          unfold Span.sub Span at *
          omega

/-- An attempt that was evaluated is still the last one when it has only been taken note of
something since. -/
theorem lastEvaluated_of_notes {earlier : List Event} (later : List Event)
    (hlater : Journal.attempts (later ++ .attempted (.evaluated e) :: .began :: earlier) =
      some (.evaluated e) :: Journal.attempts earlier)
    (hrun : poller.Reaches assertion s (later ++ .attempted (.evaluated e) :: .began :: earlier) w) :
    poller.LastEvaluated assertion s (later ++ .attempted (.evaluated e) :: .began :: earlier) e := by
  obtain ⟨t, hattempted⟩ := hrun.of_suffix (List.suffix_append later _)
  exact (lastEvaluated_of_course hattempted).append later hlater

/-! ## The ways to fail -/

section

variable {pending : List Event} {phase : Phase} {d : Span}

/-- A context that is found done cancels the run with the text of the last attempt. -/
theorem fails_of_cancelled
    (hpending : Pending (assertion.plan poller.defaults) [] phase pending)
    (hrun : poller.Reaches assertion s (.elapsed d :: .looked true :: pending) w) :
    poller.Fails assertion s (.elapsed d :: .looked true :: pending) .cancelled
      (Journal.reason pending) d := by
  obtain ⟨t, hlooked, _⟩ := course_cons.1 hrun
  obtain ⟨v, hbefore, hlook⟩ := course_cons.1 hlooked
  cases hlook with
  | looked hcancelled =>
      have hdone : assertion.Done v := congrArg Prod.fst hcancelled
      have htext := (lastText_of_pending hpending hbefore).append [.elapsed d, .looked true] rfl
      exact .cancelled rfl hbefore hdone htext

/-- A signal that is raised stops the run with the text of the attempt before. -/
theorem fails_of_interrupted {stop : StopSignal}
    (hpending : Pending (assertion.plan poller.defaults) [] .opening pending)
    (hrun : poller.Reaches assertion s
      (.elapsed d :: .reasoned stop :: .attempted (.interrupted stop) :: .began ::
        .looked false :: pending) w) :
    poller.Fails assertion s
      (.elapsed d :: .reasoned stop :: .attempted (.interrupted stop) :: .began ::
        .looked false :: pending)
      (.stopped stop.reason) (Journal.reason pending) d := by
  obtain ⟨t, hattempted⟩ := hrun.of_suffix (List.suffix_append [Event.elapsed d, .reasoned stop] _)
  obtain ⟨v, u, hlast, hattempt⟩ := lastAttempt_of_course hattempted
  obtain ⟨t', hbefore, _⟩ := course_cons.1 hlast.reaches
  have htext := (lastText_of_pending hpending hbefore).append [.looked false] rfl
  have hraised := Assertion.calls_of_interrupted hattempt
  exact .raised (hlast.append [_, _] rfl) hraised htext

/-- A time that is seen to be over ends an *eventually* run with the text of the last
attempt. -/
theorem fails_of_timedOut {observed : Span}
    (hpending : Pending (assertion.plan poller.defaults) [] phase pending)
    (hphase : phase ≠ .opening) (hkind : assertion.kind = .eventually)
    (hover : (assertion.plan poller.defaults).timeout ≤ observed)
    (hrun : poller.Reaches assertion s
      (.elapsed d :: .elapsed observed :: .looked false :: pending) w) :
    poller.Fails assertion s (.elapsed d :: .elapsed observed :: .looked false :: pending)
      .timedOut (Journal.reason pending) d := by
  obtain ⟨t, hbefore⟩ :=
    hrun.of_suffix (List.suffix_append [.elapsed d, .elapsed observed, .looked false] pending)
  obtain ⟨e, hlast, hopen, hreason⟩ :=
    lastEvaluated_of_pending hpending hbefore (hpending.attempts_ne_nil hphase)
  have hplan : (assertion.plan poller.defaults).kind = .eventually := hkind
  have hpassed : e.passed = false := by
    rw [hplan] at hopen
    exact hopen.1
  rw [hreason]
  exact .timedOut hkind (hlast.append [_, _, _] rfl) hpassed rfl hover fun hclock =>
    timeout_le_reported hrun hover hclock

end

/-- How a run that fails has failed: with the reason of a stop signal, a hint, as a
*consistently* run that did not hold, because time was over, or because the context was done.
Unless it is the hint, the reason is the text of the last attempt that was evaluated. -/
theorem run_failed {limit : Nat} {run : Run σ} {termination : Termination} {reason : String}
    {d : Span} (h : poller.run assertion limit s = (some (.failed termination reason d), run)) :
    poller.Fails assertion s run.journal termination reason d ∧
      (termination ≠ .noFutureChange → reason = Journal.reason run.journal) := by
  obtain ⟨w, u, hconcluded, hrun, _, _⟩ := run_over h
  generalize hjournal : run.journal = journal at hconcluded hrun ⊢
  generalize hending : Ending.failed termination reason d = ending at hconcluded
  cases hconcluded with
  | refused _ | escaped _ | confirmed _ _ _ | passed _ _ _ | lasted _ _ _ _ | disturbed _ _ =>
      cases hending
  | cancelled hpending =>
      cases hending
      exact ⟨fails_of_cancelled hpending hrun, fun _ => rfl⟩
  | interrupted hpending _ =>
      cases hending
      exact ⟨fails_of_interrupted hpending hrun, fun _ => rfl⟩
  | @stopped pending e stop _ hpending hpassed hstop =>
      cases hending
      have hlast := lastEvaluated_of_notes [.elapsed d, .reasoned stop] rfl hrun
      exact ⟨.returned hlast hpassed hstop, fun _ => rfl⟩
  | @hinted pending e hint _ hpending hkind hpassed hstop hhint =>
      cases hending
      have hlast := lastEvaluated_of_notes [.elapsed d] rfl hrun
      obtain ⟨datum, hobserved⟩ := hlast.observed_of_hint hhint
      exact ⟨.hinted hkind hobserved hlast hpassed hstop hhint, fun hother => absurd rfl hother⟩
  | @failed pending e _ hpending hkind hpassed hstop =>
      cases hending
      have hlast := lastEvaluated_of_notes [.elapsed d] rfl hrun
      exact ⟨.failed hkind hlast hpassed hstop, fun _ => rfl⟩
  | timedOut hpending hphase hkind hover =>
      cases hending
      exact ⟨fails_of_timedOut hpending hphase hkind hover hrun, fun _ => rfl⟩

end

/-! ## A run that fails -/

/-- An *eventually* run that never gets what it waits for reports the text of its last
attempt, and the time is over. -/
theorem run_failed_since :
    ∃ e, Poller.virtual.LastEvaluated (Assertion.since .eventually true 10 4 100)
        (Session.World.starting 0)
        (Poller.virtual.run (.since .eventually true 10 4 100) 9
          (Session.World.starting 0)).2.journal e ∧ e.reason = "too early" := by
  have hended : (Poller.virtual.run (.since .eventually true 10 4 100) 9
      (Session.World.starting 0)).1 = some (.failed .timedOut "too early" 10) := by decide +kernel
  obtain ⟨hfails, -⟩ := run_failed (run_eq_of_fst hended)
  generalize hreason : "too early" = reason at hfails ⊢
  cases hfails with
  | timedOut _ hlast _ _ _ _ => exact ⟨_, hlast, rfl⟩

end Poller

end PollingAssertions
