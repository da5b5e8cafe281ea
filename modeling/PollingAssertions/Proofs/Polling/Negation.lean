import PollingAssertions.Matcher.Combinator
import PollingAssertions.Matcher.Outcome
import PollingAssertions.Proofs.Polling.Hinting

/-!
# Negating the matcher and negating the demand

That something should match the negation of a matcher, and that it should not
match the matcher itself, is the same demand made in two ways. For the verdict
and the texts it makes no difference which one is chosen. But a negation keeps
less of the matcher it negates: it gives no hints, and it brings no judge of
outcomes along. So it amounts to the matcher without these.

Where they play no part the two runs are the same: a judge of outcomes plays one
only for a probe that returns nothing, and hints only in an *eventually* run on an
observed value. A hint that is given ends one of the runs early, and asking for it
may change the world even where none is given.

## Main definitions

* `Assertion.throughNegation` — the same demand, made through a negation.

## Main results

* `Judge.evaluate_negation` — the two ways to evaluate a subject are the same.
* `Assertion.attempt_throughNegation` — the same for attempts.
* `Poller.run_throughNegation` — and for runs.
-/

namespace PollingAssertions

variable {σ α : Type}

/-! ## Judges -/

namespace Judge

/-- A negation passes where the judge itself does not pass the opposite, with the
same text. -/
theorem assess_negation (judge : Judge σ α) (positive : Bool) (subject : α) :
    judge.negation.assess (!positive) subject = judge.assess positive subject := by
  funext s
  unfold assess
  cases hverdict : judge.verdict subject s with
  | error payload t =>
      have hnegated : judge.negation.verdict subject s = .error payload t :=
        Action.bind_error hverdict
      rw [Action.bind_error hverdict, Action.bind_error hnegated]
  | ok answer t =>
      have hnegated : judge.negation.verdict subject s = .ok (answer.map (!·)) t :=
        Action.bind_ok hverdict
      rw [Action.bind_ok hverdict, Action.bind_ok hnegated]
      cases answer with
      | error e => rfl
      | ok verdict => cases verdict <;> cases positive <;> rfl

/-- Evaluating a subject through a negation is evaluating it for the opposite,
without hints. -/
theorem evaluate_negation (judge : Judge σ α) (positive hinting : Bool)
    (stop? : Option StopSignal) (subject : α) :
    judge.negation.evaluate (!positive) hinting stop? subject =
      judge.unhinted.evaluate positive hinting stop? subject := by
  rw [evaluate_eq, evaluate_eq, assess_negation]
  rfl

end Judge

/-! ## Attempts -/

/-- Judging an attempt through a negation is judging it for the opposite, without
hints and without a judge of outcomes. -/
theorem Invocation.evaluate_negation [ReasonLog σ] (judge : Judge σ Datum)
    (returnsNothing positive hinting : Bool) (invocation : Invocation) :
    invocation.evaluate judge.negation.toMatcher returnsNothing (!positive) hinting =
      invocation.evaluate judge.unhinted.toMatcher returnsNothing positive hinting := by
  have hvalues : ∀ {judge : Judge σ Datum}, judge.toMatcher.outcomes? returnsNothing = none := by
    intro judge
    cases returnsNothing <;> rfl
  rw [evaluate_of_values hvalues, evaluate_of_values hvalues]
  rcases evaluateValue_cases (σ := σ) invocation with ⟨x, hx⟩ | ⟨value, hvalue⟩
  · rw [hx, hx]
  · rw [hvalue, hvalue]
    exact congrArg (· >>= _) (judge.evaluate_negation positive hinting invocation.stop? value)

namespace Assertion

/-- The same demand, made with the negation of the matcher. -/
def throughNegation (assertion : Assertion σ) : Assertion σ :=
  { assertion with
    matcher := assertion.matcher.toJudge.negation.toMatcher
    positive := !assertion.positive }

theorem attempt_throughNegation [HasCheckers σ] [ReasonLog σ] (assertion : Assertion σ) :
    assertion.throughNegation.attempt = assertion.unaided.attempt := by
  unfold attempt
  refine bind_congr fun answer => ?_
  cases answer with
  | error e => rfl
  | ok invocation =>
      exact congrArg (· >>= _) (invocation.evaluate_negation assertion.matcher.toJudge
        assertion.probe.returnsNothing assertion.positive assertion.wantsHints)

end Assertion

/-! ## Runs -/

namespace Poller

variable [ReasonLog σ] [HasCheckers σ] [HasContexts σ] [HasDesk σ] {poller : Poller σ}
  {assertion : Assertion σ} {limit : Nat} {s : σ}

/-- Assertions that differ in their matchers only, and whose runs are the same, conclude
alike. -/
theorem conclude_of_run_eq (assertion : Assertion σ) {matcher : Matcher σ Datum} {positive : Bool}
    (h : poller.run { assertion with matcher, positive } limit s = poller.run assertion limit s) :
    poller.conclude { assertion with matcher, positive } limit s =
      poller.conclude assertion limit s := by
  have hget : (get : Action σ σ) s = .ok s s := rfl
  unfold conclude
  cases assertion.probe.validate assertion.kind assertion.settings with
  | error e => rfl
  | ok _ =>
      show ((get : Action σ σ) >>= fun s => _) s = ((get : Action σ σ) >>= fun s => _) s
      rw [Action.bind_ok hget, Action.bind_ok hget, h]
      rfl

theorem run_throughNegation_eq (poller : Poller σ) (assertion : Assertion σ) (limit : Nat) (s : σ) :
    poller.run assertion.throughNegation limit s = poller.run assertion.unaided limit s := by
  have hsurroundings : ∀ attachment?, poller.surroundings assertion.throughNegation attachment? =
      poller.surroundings assertion.unaided attachment? := by
    intro attachment?
    unfold surroundings
    rw [assertion.attempt_throughNegation]
    rfl
  unfold run
  simp only [hsurroundings]
  rfl

/-- A demand that is made through a negation comes to what the matcher alone would come
to, without its hints and without its judge of outcomes. If the matcher has no judge of
outcomes for the probe, and asking it for a hint gives one or changes nothing, this is what
the demand comes to when it is made of the matcher itself: the run is the same, attempt by
attempt and text by text, and so is the report. The only exception is a run that ends early
with a hint. -/
theorem run_throughNegation (poller : Poller σ) (assertion : Assertion σ) :
    (∀ limit s, poller.run assertion.throughNegation limit s = poller.run assertion.unaided limit s ∧
        poller.conclude assertion.throughNegation limit s =
          poller.conclude assertion.unaided limit s) ∧
      (assertion.matcher.outcomes? assertion.probe.returnsNothing = none →
        (assertion.wantsHints = true → assertion.matcher.toJudge.HintsPlainly) → ∀ limit s,
        (poller.run assertion.throughNegation limit s = poller.run assertion limit s ∧
          poller.conclude assertion.throughNegation limit s = poller.conclude assertion limit s) ∨
        ∃ hint d run,
          poller.run assertion limit s = (some (.failed .noFutureChange hint d), run)) := by
  refine ⟨fun limit s => ?_, fun houtcomes hhints limit s => ?_⟩
  · have hrun := run_throughNegation_eq poller assertion limit s
    exact ⟨hrun, conclude_of_run_eq assertion.unaided hrun⟩
  · rcases run_unaided_or poller houtcomes hhints limit s with hsame | hhinted
    · have hrun := (run_throughNegation_eq poller assertion limit s).trans hsame
      exact .inl ⟨hrun, conclude_of_run_eq assertion hrun⟩
    · exact .inr hhinted

end Poller

/-! ## Where the two ways differ -/

/-- Calls a function that returns nothing, and whose expectation always fails. -/
def Assertion.grumbling {σ : Type} [ReasonLog σ] [HasCheckers σ] : Assertion σ where
  kind := .eventually
  probe := .function ⟨[.checker], .nothing, "fn(Checker)"⟩ 0 fun _ => do
    Checker.fail 0 ⟨"probe", 1⟩ "no"
    return ⟨⟨.unit, .unit⟩, []⟩
  settings := ⟨some 10, some 4, none, []⟩
  matcher := .succeeds
  positive := false
  description? := none

/-- Observes the first channel until nothing comes out of it. -/
def Assertion.draining {σ : Type} [ReasonLog σ] [HasChannels σ] (judge : Judge σ Datum) :
    Assertion σ where
  kind := .eventually
  probe := .observed ⟨.receiver .i32, .receiver 0⟩
  settings := ⟨some 10, some 4, none, []⟩
  matcher := judge.toMatcher
  positive := false
  description? := none

/-- Whether a run has passed, and with how many attempts. -/
def Poller.resultOf {σ : Type} (ended : Option Ending × Run σ) : Bool × Nat :=
  (decide (ended.1 = some .passed), (Journal.attempts ended.2.journal).length)

/-- Each of the three things that a negation loses makes a difference: the judge of outcomes,
which takes a failed expectation for what it was asked about and not for an error; a hint,
which ends a run early that would have passed; and the asking for a hint, by which
`allOf` takes another message out of the channel. -/
theorem Poller.run_throughNegation_differs :
    (resultOf (Poller.virtual.run .grumbling 9 (Checker.make (Session.World.starting 0)).2) =
        (true, 1) ∧
      resultOf (Poller.virtual.run (Assertion.grumbling.throughNegation) 9
        (Checker.make (Session.World.starting 0)).2) = (false, 3)) ∧
    (resultOf (Poller.virtual.run (.draining (Judge.allOf [.receives 0])) 9
        (Session.World.withChannel [.integer 1] false)) = (false, 1) ∧
      resultOf (Poller.virtual.run (Assertion.draining (Judge.allOf [.receives 0])).throughNegation 9
        (Session.World.withChannel [.integer 1] false)) = (true, 2)) ∧
    resultOf (Poller.virtual.run (.draining (Judge.allOf [.receives 0])) 9
        (Session.World.withChannel [.integer 1, .integer 2] true)) = (true, 2) ∧
      resultOf (Poller.virtual.run (Assertion.draining (Judge.allOf [.receives 0])).throughNegation 9
        (Session.World.withChannel [.integer 1, .integer 2] true)) = (true, 3) := by
  decide +kernel

/-- Asking `receives` itself for a hint is plain, so both ways of demanding that nothing is
received come to the same as long as the channel is open. -/
theorem Poller.run_throughNegation_receives :
    Poller.virtual.run (Assertion.draining (Judge.receives 0)).throughNegation 9
        (Session.World.withChannel [.integer 1, .integer 2] true) =
      Poller.virtual.run (.draining (.receives 0)) 9
        (Session.World.withChannel [.integer 1, .integer 2] true) := by
  have hpassed : (Poller.virtual.run (.draining (.receives 0)) 9
      (Session.World.withChannel [.integer 1, .integer 2] true)).1 = some .passed := by
    decide +kernel
  obtain ⟨-, hsame⟩ := run_throughNegation Poller.virtual
    (Assertion.draining (σ := Session.World) (.receives 0))
  rcases hsame rfl (fun _ => Judge.receives_hintsPlainly 0) 9
    (Session.World.withChannel [.integer 1, .integer 2] true)
    with ⟨hrun, -⟩ | ⟨hint, d, run, hhinted⟩
  · exact hrun
  · rw [hhinted] at hpassed
    cases hpassed

end PollingAssertions
