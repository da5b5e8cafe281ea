import PollingAssertions.Probe.Basic

/-!
# Judging an attempt

An attempt that was not interrupted is judged. A probe that returns nothing
is judged by its outcome, if the matcher brings a judge of outcomes. For
every other probe an attempt is an error if an expectation of its own
failed, if it produced no value, or if an extra value is neither zero nor a
stop signal; only then is the matcher asked.

The reason is what a failure would say, and is worked out even if the
attempt passes. The matcher is asked for a hint only if the attempt did not
pass and somebody wants one.

## Main definitions

* `Evaluation`, `Judgement` — the result of an attempt.
* `evaluate` — judging an attempt.
-/

namespace PollingAssertions

/-- What became of an attempt that was judged. -/
structure Evaluation where
  passed : Bool
  /-- Why the attempt failed, or what a failure would have said. -/
  reason : String
  /-- A stop signal that was returned. -/
  stop? : Option StopSignal
  /-- Why the verdict can never change again. -/
  hint? : Option String
deriving DecidableEq, Repr, Inhabited

/-- What became of an attempt. -/
inductive Judgement where
  | evaluated (evaluation : Evaluation)
  /-- A stop signal was raised and nothing was judged. -/
  | interrupted (stop : StopSignal)
deriving DecidableEq, Repr

namespace Evaluation

/-- An attempt that could not be judged. -/
def error (text : String) (stop? : Option StopSignal) : Evaluation :=
  ⟨false, "Error: " ++ text, stop?, none⟩

/-- The error of an extra value that is neither zero nor a signal. -/
def unexpected (index : Nat) (extra : Extra) (stop? : Option StopSignal) : Evaluation :=
  error ("Unexpected non-nil/non-zero argument at index " ++ toString (index + 1) ++ ":\n\t<" ++
    extra.typeName ++ ">: " ++ extra.text) stop?

end Evaluation

/-- The first extra value that is neither zero nor a signal, with its index
counted from `index`. -/
def unexpectedExtra? (index : Nat) : List Extra → Option (Nat × Extra)
  | [] => none
  | extra :: extras =>
      if !extra.isZero && extra.signal?.isNone then some (index, extra)
      else unexpectedExtra? (index + 1) extras

namespace Judge

variable {σ α : Type}

/-- Judges a subject, which has to match if `positive` and must not match
otherwise. A hint is asked for if `hinting`. -/
def evaluate (judge : Judge σ α) (positive hinting : Bool) (stop? : Option StopSignal)
    (subject : α) : Action σ Evaluation := do
  let (passed, reason) ← do
    match ← judge.verdict subject with
    | .ok verdict => do
        let reason ← judge.textFor positive subject
        pure (verdict == positive, reason)
    | .error e => pure (false, "Error: " ++ e.message)
  let hint? ← if hinting && !passed then judge.hint subject else pure none
  return ⟨passed, reason, stop?, hint?⟩

end Judge

namespace Invocation

variable {σ : Type} [ReasonLog σ]

/-- Judges an attempt by its value. -/
def evaluateValue (judge : Judge σ Datum) (positive hinting : Bool) :
    Invocation → Action σ Judgement
  | .interrupted stop => return .interrupted stop
  | .aborted (some failure) => return .evaluated (.error failure.report none)
  | .aborted none => return .evaluated (.error "probe produced no value" none)
  | .returned _ _ (some failure) stop? => return .evaluated (.error failure.report stop?)
  | .returned value extras none stop? =>
      match unexpectedExtra? 0 extras with
      | some (index, extra) => do
          ReasonLog.ask extra.asked
          return .evaluated (.unexpected index extra stop?)
      | none => return .evaluated (← judge.evaluate positive hinting stop? value)

/-- Judges an attempt by its outcome. -/
def evaluateOutcome (judge : Judge σ CallbackOutcome) (positive : Bool) :
    Invocation → Action σ Judgement
  | .interrupted stop => return .interrupted stop
  | .aborted failure? =>
      return .evaluated (← judge.evaluate positive false none (.ofFailure? failure?))
  | .returned _ _ failure? stop? =>
      return .evaluated (← judge.evaluate positive false stop? (.ofFailure? failure?))

/-- Judges an attempt. -/
def evaluate (matcher : Matcher σ Datum) (returnsNothing positive hinting : Bool)
    (invocation : Invocation) : Action σ Judgement :=
  match returnsNothing, matcher.callback with
  | true, some judge => invocation.evaluateOutcome judge positive
  | _, _ => invocation.evaluateValue matcher.toJudge positive hinting

end Invocation

end PollingAssertions
