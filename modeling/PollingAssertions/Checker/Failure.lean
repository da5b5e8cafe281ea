import PollingAssertions.Text.Quoted

/-!
# Failures inside a probe

A probe may make expectations of its own. The first one that fails becomes
the outcome of the attempt: a message and the place of the expectation.

## Main definitions

* `CallbackFailure` — the failed expectation.
* `CallbackOutcome` — whether one failed, as matchers see it.
-/

namespace PollingAssertions

/-- A failed expectation and where it stands. -/
structure CallbackFailure where
  message : String
  file : String
  line : Nat
deriving DecidableEq, Repr, Inhabited

namespace CallbackFailure

/-- What a report says about the failure. -/
def report (failure : CallbackFailure) : String :=
  "Assertion in callback at " ++ failure.file ++ ":" ++ toString failure.line ++
    " failed:\n" ++ failure.message

/-- The failure inside a message. -/
def render (failure : CallbackFailure) : String :=
  "CallbackFailure \x7b message: " ++ Text.quote failure.message ++ ", file: " ++
    Text.quote failure.file ++ ", line: " ++ toString failure.line ++ " \x7d"

end CallbackFailure

/-- The outcome of a probe that makes expectations and returns nothing. -/
inductive CallbackOutcome where
  | passed
  | failed (failure : CallbackFailure)
deriving DecidableEq, Repr, Inhabited

namespace CallbackOutcome

/-- The outcome of an attempt in which `failure?` is the first failure. -/
def ofFailure? : Option CallbackFailure → CallbackOutcome
  | none => passed
  | some failure => failed failure

/-- The failure of an outcome, if there is one. -/
def failure? : CallbackOutcome → Option CallbackFailure
  | passed => none
  | failed failure => some failure

/-- Whether no expectation failed. -/
def isPassed : CallbackOutcome → Bool
  | passed => true
  | failed _ => false

/-- The outcome inside a message. -/
def render : CallbackOutcome → String
  | passed => "Passed"
  | failed failure => "Failed(" ++ failure.render ++ ")"

@[simp] theorem failure?_ofFailure? (failure : Option CallbackFailure) :
    (ofFailure? failure).failure? = failure := by
  cases failure <;> rfl

end CallbackOutcome

end PollingAssertions
