import PollingAssertions.Proofs.Polling.Expecting

/-!
# Expectations of another checker

A failed expectation unwinds with a mark that does not say whose expectation it was. The attempt
that it ends is judged by what the checker of the probe keeps, though. If the checker of the probe
has failed, the two agree. But a function can hold other checkers: one that was made apart, or the
one of an assertion around it. If one of these fails, the checker of the probe keeps nothing, and
so the attempt of a probe that returns nothing has the outcome of one whose expectations all held:
it passes where success is wanted. A probe whose value is wanted does not pass in this case, as it
has produced none.

## Main definitions

* `Checker.Aborts` — an action is ended by a failed expectation of a checker.

## Main results

* `Checker.Aborts.kept` — that checker keeps a failure then.
* `Assertion.attempt_aborted` — when an attempt passes that a failed expectation has ended.
* `Assertion.attempt_aborted_of_values` — it never does where its value is judged.
-/

namespace PollingAssertions

section

variable {σ : Type} [HasCheckers σ] {checker : CheckerId}

/-- An action is ended by an expectation of a checker that fails and that nothing has caught. -/
inductive Checker.Aborts (checker : CheckerId) : {α : Type} → Action σ α → σ → Prop
  | fail {s : σ} (site : Site) (message : String) : Known checker s →
      Aborts checker (fail checker site message) s
  | first {α β : Type} {x : Action σ α} {f : α → Action σ β} {s : σ} :
      Aborts checker x s → Aborts checker (x >>= f) s
  | later {α β : Type} {x : Action σ α} {f : α → Action σ β} {a : α} {s t : σ} :
      x s = .ok a t → Aborts checker (f a) t → Aborts checker (x >>= f) s

/-- A checker that ends an action keeps a failure, its first one. -/
theorem Checker.Aborts.kept {α : Type} {x : Action σ α} {s : σ} (h : Aborts checker x s) :
    ∃ failure u, x s = .error .abort u ∧ kept? checker u = some failure := by
  induction h with
  | @fail s site message hknown =>
      have hkept : kept? checker ((Checker.fail checker site message).after s) =
          (kept? checker s).or (some ⟨message, site.file, site.line⟩) := by
        rw [after_fail, kept?, Part.get_update, Checkers.kept?_note hknown]
        rfl
      cases hearlier : kept? checker s with
      | none =>
          rw [hearlier] at hkept
          exact ⟨_, _, rfl, hkept⟩
      | some failure =>
          rw [hearlier] at hkept
          exact ⟨_, _, rfl, hkept⟩
  | first _ ih =>
      obtain ⟨failure, u, herror, hkept⟩ := ih
      exact ⟨failure, u, Action.bind_error herror, hkept⟩
  | later hstep _ ih =>
      obtain ⟨failure, u, herror, hkept⟩ := ih
      exact ⟨failure, u, (Action.bind_ok hstep).trans herror, hkept⟩

end

/-! ## The attempt that is ended -/

section

variable {σ : Type} [HasCheckers σ] [ReasonLog σ] {assertion : Assertion σ} {shape : Shape}
  {checker : CheckerId} {body : List Delivered → Action σ Output} {delivered : List Delivered}
  {u v : σ}

/-- A failed expectation ends an attempt of a probe that returns nothing and should succeed. The
attempt passes exactly if the checker of the probe keeps no failure. So it does not pass if it was
that checker which failed last, and it passes if only expectations of others have failed. -/
theorem Assertion.attempt_aborted (hprobe : assertion.probe = .function shape checker body)
    (hnothing : shape.returning = .nothing) (hmatcher : assertion.matcher = .succeeds)
    (hpositive : assertion.positive = true)
    (hfilled : Param.fetchAll assertion.kind shape.signature 0 shape.params
      (.fresh checker assertion.settings.context? assertion.settings.arguments) = .ok delivered)
    (haborted : body delivered (Checker.clear checker v) = .error .abort u) :
    assertion.probe.Produces assertion.kind assertion.settings v
        (.aborted (Checker.kept? checker u)) (Checker.clear checker u) ∧
      ∃ judgement t, assertion.attempt v = .ok (.ok judgement) t ∧
        (judgement.Passes ↔ (Invocation.aborted (Checker.kept? checker u)).Outcome .passed) ∧
        (judgement.Passes ↔ Checker.kept? checker u = none) ∧
        (Checker.Aborts checker (body delivered) (Checker.clear checker v) →
          ¬ judgement.Passes) ∧
        ∀ fs, Checker.Unmet checker (body delivered) (Checker.clear checker v) fs →
          (judgement.Passes ↔ fs = []) := by
  have hproduces : assertion.probe.Produces assertion.kind assertion.settings v
      (.aborted (Checker.kept? checker u)) (Checker.clear checker u) := by
    rw [hprobe]
    exact .aborted hfilled haborted
  refine ⟨hproduces, ?_⟩
  have houtcomes : assertion.matcher.outcomes? assertion.probe.returnsNothing =
      some (Judge.succeeds.comap Datum.ofOutcome) := by
    have hreturns : assertion.probe.returnsNothing = true := by
      rw [hprobe]
      show (shape.returning == .nothing) = true
      rw [hnothing]
      rfl
    rw [hreturns, hmatcher]
    rfl
  have hjudged : ∃ judgement t, (Invocation.aborted (Checker.kept? checker u)).evaluate
        assertion.matcher assertion.probe.returnsNothing assertion.positive assertion.wantsHints
        (Checker.clear checker u) = .ok judgement t ∧
      (judgement.Passes ↔ ∃ w, (Judge.succeeds.comap Datum.ofOutcome).verdict
        (.ofFailure? (Checker.kept? checker u)) (Checker.clear checker u) =
          .ok (.ok assertion.positive) w) :=
    Invocation.passes_of_outcome houtcomes .aborted
      (Judge.succeeds_answers.neverUnwinds.comap Datum.ofOutcome)
  obtain ⟨judgement, t, hevaluate, hpasses⟩ := hjudged
  rw [Judge.succeeds_verdict_ofFailure?, hpositive, Option.isNone_iff_eq_none] at hpasses
  refine ⟨judgement, t, attempt_of_judged hproduces hevaluate, hpasses.trans ?_, hpasses,
    fun hown hpassed => ?_, fun fs hunmet => ?_⟩
  · constructor
    · intro hnone
      rw [hnone]
      exact .aborted
    · intro houtcome
      cases hkept : Checker.kept? checker u with
      | none => rfl
      | some failure =>
          rw [hkept] at houtcome
          cases houtcome
  · obtain ⟨failure, w, herror, hkept⟩ := hown.kept
    cases haborted.symm.trans herror
    cases (hpasses.1 hpassed).symm.trans hkept
  · have hkept := hunmet.kept?_after
    rw [Action.after_error haborted, Checker.kept?_clear, Option.none_or] at hkept
    rw [hpasses, hkept, List.head?_eq_none_iff]

/-- Where the value of a probe is judged, an attempt that a failed expectation has ended is an
error, whosever expectation it was. -/
theorem Assertion.attempt_aborted_of_values
    (hprobe : assertion.probe = .function shape checker body)
    (hvalues : assertion.matcher.outcomes? assertion.probe.returnsNothing = none)
    (hfilled : Param.fetchAll assertion.kind shape.signature 0 shape.params
      (.fresh checker assertion.settings.context? assertion.settings.arguments) = .ok delivered)
    (haborted : body delivered (Checker.clear checker v) = .error .abort u) :
    ∃ t, assertion.attempt v = .ok (.ok (.evaluated (.error
      ((Checker.kept? checker u).elim "probe produced no value" CallbackFailure.report)
      none))) t := by
  have hproduces : assertion.probe.Produces assertion.kind assertion.settings v
      (.aborted (Checker.kept? checker u)) (Checker.clear checker u) := by
    rw [hprobe]
    exact .aborted hfilled haborted
  have herrs : (Invocation.aborted (Checker.kept? checker u)).Errs
      ((Checker.kept? checker u).elim "probe produced no value" CallbackFailure.report) := by
    cases Checker.kept? checker u with
    | none => exact .nothing
    | some failure => exact .aborted
  obtain ⟨t, hevaluate⟩ := Invocation.evaluateValue_of_errs assertion.matcher.toJudge
    assertion.positive assertion.wantsHints herrs (Checker.clear checker u)
  rw [← Invocation.evaluate_of_values hvalues] at hevaluate
  exact ⟨t, attempt_of_judged hproduces hevaluate⟩

end

/-! ## A function that holds a checker of somebody else -/

/-- Fails at a checker. -/
def Checker.failing (checker : CheckerId) : Action Session.World Output :=
  fail checker ⟨"lib.rs", 3⟩ "no" >>= fun _ => return ⟨⟨.unit, .unit⟩, []⟩

/-- Its function is given the checker 0, and should succeed. But it fails at the checker 1. -/
def Assertion.captured : Assertion Session.World where
  kind := .eventually
  probe := .function (.ofSignature [.checker] .unit) 0 fun _ => Checker.failing 1
  settings := ⟨some 4, some 2, none, []⟩
  matcher := .succeeds
  positive := true
  description? := none

/-- A session with two checkers. -/
def Session.World.twoCheckers : Session.World :=
  (Checker.make (Checker.make (.starting 0)).2).2

/-- The attempt passes, as the checker that was given to the function keeps nothing. -/
theorem Assertion.attempt_aborted_captured :
    ∃ judgement t, captured.attempt Session.World.twoCheckers = .ok (.ok judgement) t ∧
      judgement.Passes := by
  have hprobe : captured.probe =
      .function (.ofSignature [.checker] .unit) 0 fun _ => Checker.failing 1 := rfl
  have haborted : Checker.failing 1 (Checker.clear 0 Session.World.twoCheckers) =
      .error .abort ((Checker.failing 1).after (Checker.clear 0 Session.World.twoCheckers)) := rfl
  obtain ⟨-, judgement, t, hattempt, -, hpasses, -⟩ :=
    attempt_aborted hprobe rfl rfl rfl rfl haborted
  exact ⟨judgement, t, hattempt, hpasses.2 rfl⟩

/-- So the assertion holds at once, although a failed expectation has ended its function. -/
theorem Assertion.captured_holds :
    (∃ u, Checker.failing 1 (Checker.clear 0 Session.World.twoCheckers) = .error .abort u) ∧
      ∃ t, Poller.virtual.conclude captured 9 Session.World.twoCheckers = .ok (some true) t :=
  ⟨⟨_, rfl⟩, _, rfl⟩

end PollingAssertions
