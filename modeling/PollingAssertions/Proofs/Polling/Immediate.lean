import PollingAssertions.Proofs.Polling.Cancellation
import PollingAssertions.Proofs.Polling.Hinting
import PollingAssertions.Proofs.Polling.LongerTime
import PollingAssertions.Proofs.Polling.Reporting

/-!
# Asking a matcher at once

There are two ways to ask a matcher once about a value. A direct assertion asks it there
and then. A polled one whose time is zero and that has no context makes one attempt and
is over. Both hold in the same cases, and where both fail they say the same of it, below
a line of their own.

They are not the same computation. A polled assertion works out the text for a failure
before it knows whether it will need it, it may ask for a hint, and it reads the clock
several times. So the two are compared by what is seen of them, for a matcher whose texts
do not unwind, and the direct assertion is made in the world that the first reading of
the clock leaves.

## Main definitions

* `Assertion.immediate` — a polled assertion on a value, without time and without a context.

## Main results

* `Judge.require_of_assess` — what a direct assertion comes to.
* `Poller.immediate_iff_require` — the two ways hold together, and fail with the same text.
-/

namespace PollingAssertions

variable {σ α : Type}

/-! ## Direct assertions -/

namespace Judge

variable {judge : Judge σ α} {subject : α} {s u : σ} {passed : Bool} {text : String}
  {payload : Payload}

/-- A direct assertion that holds goes on; another one unwinds with what a failure says. -/
theorem require_of_assess (h : judge.assess true subject s = .ok (passed, text) u)
    (note : Option String) :
    if passed then ∃ t, judge.require note subject s = .ok () t
    else judge.require note subject s = .error (.message (requirement note ++ text)) u := by
  obtain ⟨answer, v, hverdict, hrest⟩ := Action.bind_eq_ok_iff.1 h
  cases answer with
  | error e =>
      cases hrest
      rw [if_neg Bool.false_ne_true, require, Action.bind_ok hverdict, ← String.append_assoc]
      rfl
  | ok verdict =>
      obtain ⟨_, w, htext, hreturn⟩ := Action.bind_eq_ok_iff.1 hrest
      cases hreturn
      cases verdict with
      | true =>
          refine ⟨v, ?_⟩
          rw [require, Action.bind_ok hverdict]
          rfl
      | false =>
          have hfailure : judge.failureText subject v = .ok text u := htext
          show judge.require note subject s = _
          rw [require, Action.bind_ok hverdict]
          exact Action.bind_ok hfailure

/-- What unwinds the matcher unwinds a direct assertion. -/
theorem require_of_unwound (h : judge.verdict subject s = .error payload u)
    (note : Option String) : judge.require note subject s = .error payload u :=
  Action.bind_error h

/-- A matcher whose texts do not unwind says of a verdict whether the subject passes. -/
theorem assess_of_verdict (htexts : (judge.failureText subject).Returns)
    {answer : Except MatchError Bool} (h : judge.verdict subject s = .ok answer u) :
    ∃ passed text t, judge.assess true subject s = .ok (passed, text) t ∧
      (passed = true ↔ answer = .ok true) := by
  cases answer with
  | error e => exact ⟨_, _, _, Action.bind_ok h, by simp⟩
  | ok verdict =>
      obtain ⟨text, t, htext, -⟩ := htexts u
      have hsaid : judge.textFor true subject u = .ok text t := htext
      exact ⟨_, _, _, (Action.bind_ok h).trans (Action.bind_ok hsaid), by simp⟩

/-- A failure is evaluated with what the matcher hints at. -/
theorem evaluate_failed {hint? : Option String} {v : σ}
    (hsaid : judge.assess true subject s = .ok (false, text) u)
    (hhint : judge.hint subject u = .ok hint? v) :
    judge.evaluate true true none subject s = .ok ⟨false, text, none, hint?⟩ v := by
  rw [evaluate_eq, Action.bind_ok hsaid]
  exact Action.bind_ok hhint

end Judge

/-! ## Polled assertions without time -/

namespace Polling

variable {plan : Plan} {around : Surroundings σ} {run final : Run σ} {ending : Ending}

/-- A run whose time is over at once, and whose context is not done, expires after its
attempt. -/
theorem recess_timeless (htime : plan.timeout = 0)
    (hundone : (around.cancelled run.world).1 = false)
    (h : expire plan around
      { run with
        world := (around.now (around.cancelled run.world).2).2
        journal := .elapsed ((around.now (around.cancelled run.world).2).1.sub run.started) ::
          .looked false :: run.journal } = .error ending final) :
    recess plan around run = .error ending final := by
  have hlooked : stopIfDone around run = .ok () _ := stopIfDone_undone hundone
  have helapsed : elapsed around { run with
      world := (around.cancelled run.world).2
      journal := .looked false :: run.journal } = .ok _ _ := rfl
  have hleft : plan.timeout.sub
      ((around.now (around.cancelled run.world).2).1.sub run.started) = 0 := by
    rw [htime]
    exact Nat.zero_sub _
  unfold recess
  rw [bind_ok hlooked, bind_ok helapsed]
  simp only [hleft, if_true]
  exact bind_error h

end Polling

section

variable [ReasonLog σ]

omit [ReasonLog σ] in
/-- A polled assertion on a value, without time and without a context. -/
def Assertion.immediate (kind : Kind) (datum : Datum) (matcher : Matcher σ Datum) :
    Assertion σ where
  kind := kind
  probe := .observed datum
  settings := .ofCalls [.timeout 0]
  matcher := matcher
  positive := true
  description? := none

variable [HasCheckers σ] [HasContexts σ] [HasDesk σ] {poller : Poller σ} {kind : Kind}
  {datum : Datum} {matcher : Matcher σ Datum} {limit : Nat} {s u v : σ} {text : String}

namespace Poller

/-- The run of such an assertion when its attempt has been evaluated. -/
def evaluated (poller : Poller σ) (s : σ) (e : Evaluation) (u : σ) : Run σ where
  world := u
  started := (poller.clock.now s).1
  verdict? := some ⟨e.passed, e.reason⟩
  journal := [.attempted (.evaluated e), .began, .looked false]

theorem run_immediate {ending : Ending} {final : Run σ} {e : Evaluation}
    (hsaid : matcher.toJudge.evaluate true (kind == .eventually) none datum
      (poller.clock.now s).2 = .ok e u)
    (h : (Polling.decide ((Assertion.immediate kind datum matcher).plan poller.defaults)
        (poller.scene (.immediate kind datum matcher) s) e >>= fun _ =>
          Polling.recess ((Assertion.immediate kind datum matcher).plan poller.defaults)
            (poller.scene (.immediate kind datum matcher) s)) (poller.evaluated s e u) =
              .error ending final) :
    poller.run (.immediate kind datum matcher) (limit + 1) s = (some ending, final) := by
  have hhints : (Assertion.immediate kind datum matcher).wantsHints = (kind == .eventually) :=
    Bool.and_true _
  rw [← hhints] at hsaid
  have hattempt : (poller.scene (.immediate kind datum matcher) s).attempt (poller.clock.now s).2 =
      .ok (.ok (.evaluated e)) u :=
    (Assertion.attempt_observed rfl _).trans (Action.bind_ok hsaid)
  have hround : Polling.round ((Assertion.immediate kind datum matcher).plan poller.defaults)
      (poller.scene (.immediate kind datum matcher) s)
      (poller.outset (.immediate kind datum matcher) s) = .error ending final := by
    rw [Polling.round_eq, Polling.bind_ok (Polling.stopIfDone_undone rfl)]
    exact (Polling.bind_congr_left (Polling.attempt_evaluated hattempt) _).trans h
  exact run_of_round hround limit

/-- A value that passes is enough. -/
theorem run_immediate_passed
    (hsaid : matcher.toJudge.assess true datum (poller.clock.now s).2 = .ok (true, text) u)
    (kind : Kind) (limit : Nat) :
    ∃ run, poller.run (.immediate kind datum matcher) (limit + 1) s = (some .passed, run) := by
  have hevaluated : matcher.toJudge.evaluate true (kind == .eventually) none datum
      (poller.clock.now s).2 = .ok ⟨true, text, none, none⟩ u := by
    rw [Judge.evaluate_eq, Action.bind_ok hsaid, Judge.explain, Bool.not_true, Bool.and_false]
    rfl
  cases kind with
  | eventually => exact ⟨_, run_immediate hevaluated (Polling.bind_error rfl)⟩
  | consistently =>
      exact ⟨_, run_immediate hevaluated ((Polling.bind_ok rfl).trans
        (Polling.recess_timeless rfl rfl rfl))⟩

/-- A value that fails is enough as well, if it should pass consistently. -/
theorem run_immediate_failed
    (hsaid : matcher.toJudge.assess true datum (poller.clock.now s).2 = .ok (false, text) u)
    (limit : Nat) :
    ∃ run, poller.run (.immediate .consistently datum matcher) (limit + 1) s =
      (some (.failed .failed text ((poller.clock.now u).1.sub (poller.clock.now s).1)), run) := by
  have hevaluated : matcher.toJudge.evaluate true false none datum
      (poller.clock.now s).2 = .ok ⟨false, text, none, none⟩ u := by
    rw [Judge.evaluate_eq, Action.bind_ok hsaid]
    rfl
  exact ⟨_, run_immediate hevaluated (Polling.bind_error rfl)⟩

/-- If it should pass eventually and there is no hint, time is over. -/
theorem run_immediate_timedOut
    (hsaid : matcher.toJudge.assess true datum (poller.clock.now s).2 = .ok (false, text) u)
    (hhint : matcher.hint datum u = .ok none v) (limit : Nat) :
    ∃ run, poller.run (.immediate .eventually datum matcher) (limit + 1) s =
      (some (.failed .timedOut text
        ((poller.clock.now (poller.clock.now v).2).1.sub (poller.clock.now s).1)), run) :=
  ⟨_, run_immediate (Judge.evaluate_failed hsaid hhint) ((Polling.bind_ok rfl).trans
    (Polling.recess_timeless rfl rfl rfl))⟩

/-- What unwinds the attempt unwinds the run. -/
theorem run_immediate_unwound {payload : Payload}
    (h : (Assertion.immediate kind datum matcher).attempt (poller.clock.now s).2 =
      .error payload u) (limit : Nat) :
    ∃ run, poller.run (.immediate kind datum matcher) (limit + 1) s =
      (some (.escaped payload), run) ∧ run.world = u := by
  have hround : Polling.round ((Assertion.immediate kind datum matcher).plan poller.defaults)
      (poller.scene (.immediate kind datum matcher) s)
      (poller.outset (.immediate kind datum matcher) s) = .error (.escaped payload)
        ⟨u, (poller.clock.now s).1, none, [.began, .looked false]⟩ := by
    rw [Polling.round_eq, Polling.bind_ok (Polling.stopIfDone_undone rfl)]
    exact Polling.bind_error (Polling.attempt_unwound h)
  exact ⟨_, run_of_round hround limit, rfl⟩

/-- What unwinds the verdict unwinds the call. -/
theorem conclude_immediate_unwound {payload : Payload}
    (h : matcher.verdict datum (poller.clock.now s).2 = .error payload u) (limit : Nat) :
    poller.conclude (.immediate kind datum matcher) (limit + 1) s = .error payload u := by
  have hattempt : (Assertion.immediate kind datum matcher).attempt (poller.clock.now s).2 =
      .error payload u :=
    (Assertion.attempt_observed rfl _).trans (Action.bind_error (Action.bind_error h))
  obtain ⟨run, hrun, rfl⟩ := run_immediate_unwound hattempt limit
  exact conclude_escaped hrun rfl

/-- However a value fails, the run does not pass. -/
theorem run_immediate_not_passed
    (hsaid : matcher.toJudge.assess true datum (poller.clock.now s).2 = .ok (false, text) u)
    (kind : Kind) (limit : Nat) :
    ∃ ending run, poller.run (.immediate kind datum matcher) (limit + 1) s = (some ending, run) ∧
      ending ≠ .passed := by
  cases kind with
  | consistently =>
      obtain ⟨run, hrun⟩ := run_immediate_failed hsaid limit
      exact ⟨_, run, hrun, by simp⟩
  | eventually =>
      cases hhint : matcher.hint datum u with
      | error payload v =>
          have hevaluated : matcher.toJudge.evaluate true true none datum
              (poller.clock.now s).2 = .error payload v := by
            rw [Judge.evaluate_eq, Action.bind_ok hsaid]
            exact Action.bind_error hhint
          have hattempt : (Assertion.immediate .eventually datum matcher).attempt
              (poller.clock.now s).2 = .error payload v :=
            (Assertion.attempt_observed rfl _).trans (Action.bind_error hevaluated)
          obtain ⟨run, hrun, -⟩ := run_immediate_unwound hattempt limit
          exact ⟨_, run, hrun, by simp⟩
      | ok hint? v =>
          cases hint? with
          | none =>
              obtain ⟨run, hrun⟩ := run_immediate_timedOut hsaid hhint limit
              exact ⟨_, run, hrun, by simp⟩
          | some hint =>
              exact ⟨_, _, run_immediate (Judge.evaluate_failed hsaid hhint)
                (Polling.bind_error rfl), by simp⟩

/-- A failure after no time at all. -/
theorem message_at_once (termination : Termination) (text : String) (d : Span) :
    Report.message termination (d.sub d) "" text =
      Report.opening termination ++ " after 0.000s.\n" ++ text := by
  have hzero : d.sub d = 0 := Nat.sub_self d
  have htext : Span.elapsedText 0 = "0.000" := by decide +kernel
  have hown : Report.ownLine "" = "" := rfl
  have hline : " after " ++ "0.000" ++ "s.\n" = " after 0.000s.\n" := rfl
  rw [hzero, Report.message, htext, hown, String.append_empty, ← hline]
  simp only [String.append_assoc]

/-- What is reported of a failure after no time at all. -/
theorem reports_at_once {termination : Termination} {d : Span} {run : Run σ}
    (h : poller.run (.immediate kind datum matcher) limit s =
      (some (.failed termination text (d.sub d)), run)) :
    poller.Reports (.immediate kind datum matcher) limit s
      [⟨Report.opening termination ++ " after 0.000s.\n" ++ text, 3⟩] := by
  have hreports := reports_of_failed h rfl rfl
  rw [message_at_once] at hreports
  exact hreports

/-- A direct assertion and a polled one without time hold in the same cases, for a matcher
whose texts for failures do not unwind, and unwind alike if its verdict does. If both fail
and the matcher gives no hint, they fail with the same text, which follows on a line that
says how long it took; if the clock stands still that is no time. -/
theorem immediate_iff_require (poller : Poller σ) (kind : Kind) (datum : Datum)
    (matcher : Matcher σ Datum) (htexts : (matcher.failureText datum).Returns) (limit : Nat)
    (s : σ) :
    ((∃ t, matcher.toJudge.require none datum (poller.clock.now s).2 = .ok () t) ↔
        ∃ t, poller.conclude (.immediate kind datum matcher) (limit + 1) s = .ok (some true) t) ∧
      (∀ payload t, matcher.verdict datum (poller.clock.now s).2 = .error payload t →
        matcher.toJudge.require none datum (poller.clock.now s).2 = .error payload t ∧
        poller.conclude (.immediate kind datum matcher) (limit + 1) s = .error payload t) ∧
      ∀ answer v, matcher.verdict datum (poller.clock.now s).2 = .ok answer v →
        answer ≠ .ok true → ∃ text u,
          matcher.toJudge.require none datum (poller.clock.now s).2 =
            .error (.message ("assertion failed:\n" ++ text)) u ∧
          (kind = .consistently → (poller.clock.now u).1 = (poller.clock.now s).1 →
            poller.Reports (.immediate kind datum matcher) (limit + 1) s
              [⟨"Failed after 0.000s.\n" ++ text, 3⟩]) ∧
          (kind = .eventually → ∀ w, matcher.hint datum u = .ok none w →
            (poller.clock.now (poller.clock.now w).2).1 = (poller.clock.now s).1 →
            poller.Reports (.immediate kind datum matcher) (limit + 1) s
              [⟨"Timed out after 0.000s.\n" ++ text, 3⟩]) := by
  have hvalid : (Assertion.immediate kind datum matcher).probe.validate kind
      (.ofCalls [.timeout 0]) = .ok () := rfl
  refine ⟨?_, fun payload t hunwound => ⟨Judge.require_of_unwound hunwound none,
    conclude_immediate_unwound hunwound limit⟩, fun answer v hverdict hfailed => ?_⟩
  · cases hverdict : matcher.verdict datum (poller.clock.now s).2 with
    | error payload t =>
        rw [Judge.require_of_unwound hverdict, conclude_immediate_unwound hverdict]
        simp
    | ok answer v =>
        obtain ⟨passed, text, u, hsaid, -⟩ := Judge.assess_of_verdict htexts hverdict
        have hrequire := Judge.require_of_assess hsaid none
        cases passed with
        | true =>
            obtain ⟨run, hrun⟩ := run_immediate_passed hsaid kind limit
            exact ⟨fun _ => ⟨_, conclude_passed hrun hvalid⟩, fun _ => hrequire⟩
        | false =>
            obtain ⟨ending, run, hrun, hnot⟩ := run_immediate_not_passed hsaid kind limit
            constructor
            · rintro ⟨t, hholds⟩
              cases hrequire.symm.trans hholds
            · rintro ⟨t, hholds⟩
              exact absurd (passed_of_conclude hrun hvalid hholds) hnot
  · obtain ⟨passed, text, u, hsaid, hpassed⟩ := Judge.assess_of_verdict htexts hverdict
    obtain rfl : passed = false := Bool.eq_false_iff.2 fun h => hfailed (hpassed.1 h)
    refine ⟨text, u, Judge.require_of_assess hsaid none, ?_, ?_⟩
    · rintro rfl hstill
      obtain ⟨run, hrun⟩ := run_immediate_failed hsaid limit
      rw [hstill] at hrun
      exact reports_at_once hrun
    · rintro rfl w hhint hstill
      obtain ⟨run, hrun⟩ := run_immediate_timedOut hsaid hhint limit
      rw [hstill] at hrun
      exact reports_at_once hrun

end Poller

end

/-- Before its time a value fails in both ways with the same text, and from then on it holds
in both. -/
theorem Poller.immediate_iff_require_since :
    (∃ text u,
      (Matcher.since 9).toJudge.require none (.ofString "") (Session.World.starting 0) =
        .error (.message ("assertion failed:\n" ++ text)) u ∧
      Poller.virtual.Reports (.immediate .eventually (.ofString "") (.since 9)) 1
        (Session.World.starting 0) [⟨"Timed out after 0.000s.\n" ++ text, 3⟩]) ∧
      ∃ t, Poller.virtual.conclude (.immediate .consistently (.ofString "") (.since 9)) 1
        (Session.World.starting 9) = .ok (some true) t := by
  have htexts : ((Matcher.since (σ := Session.World) 9).failureText (.ofString "")).Returns :=
    fun v => ⟨"too early", v, rfl, trivial⟩
  constructor
  · obtain ⟨-, -, hfails⟩ := immediate_iff_require Poller.virtual .eventually (.ofString "")
      (.since 9) htexts 0 (Session.World.starting 0)
    have hverdict : (Matcher.since 9).verdict (.ofString "") (Session.World.starting 0) =
        .ok (.ok false) (Session.World.starting 0) := rfl
    obtain ⟨text, u, hrequire, -, htimedOut⟩ := hfails _ _ hverdict (by simp)
    have hleft : (Matcher.since 9).toJudge.require none (.ofString "")
        (Session.World.starting 0) =
          .error (.message "assertion failed:\ntoo early") (Session.World.starting 0) := rfl
    injection hleft.symm.trans hrequire with _ hworld
    subst hworld
    exact ⟨text, _, hrequire, htimedOut rfl _ rfl rfl⟩
  · obtain ⟨hholds, -⟩ := immediate_iff_require Poller.virtual .consistently (.ofString "")
      (.since 9) htexts 0 (Session.World.starting 9)
    exact hholds.1 ⟨_, rfl⟩

end PollingAssertions
