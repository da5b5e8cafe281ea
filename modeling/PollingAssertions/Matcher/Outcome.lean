import PollingAssertions.Matcher.Basic

/-!
# Matchers for success and failure

A result succeeds as a success, the outcome of a probe when none of its
expectations failed. `succeeds` judges either; `failsWith` wants a failure
whose text a second judge accepts. Asked about the empty value of a probe
that returns nothing they have little to say, but for such a probe both
bring the judge of its outcome along.

## Main definitions

* `Judge.succeeds`, `Judge.failsWith` — judges of results and outcomes.
* `Matcher.succeeds`, `Matcher.failsWith` — the same for a probe that
  returns nothing.
-/

namespace PollingAssertions

/-- The text of a wrong success. -/
def noErrorText : String := "Expected failure, but got no error."

/-- The text where a failure was expected and none is there. -/
def noFailureText : String := "Expected an error, but the callback passed."

/-- The text of a wrong failure. -/
def errorText (report : String) : String :=
  "Expected success, but got an error:\n" ++ indent ++ report

namespace Datum

/-- The failure a subject amounts to, if it does: its text and the deferred
reasons this text works out. -/
def failure? (d : Datum) : Option (String × List String) :=
  match d.value with
  | .outcome (.failed failure) => some (failure.report, [])
  | .error e => some (e.plain, e.plainAsked)
  | _ => none

/-- The success inside a result, with its type. -/
def success? (d : Datum) : Option Datum :=
  match d.type, d.value with
  | .result type _, .ok v => some ⟨type, v⟩
  | _, _ => none

end Datum

namespace Judge

variable {σ : Type} [ReasonLog σ]

/-- The subject is a success. -/
def succeeds : Judge σ Datum where
  verdict subject := pure (.ok subject.failure?.isNone)
  failureText subject :=
    match subject.failure?, subject.success? with
    | some (report, asked), _ => do
        ReasonLog.ask asked
        return errorText report
    | none, some success => expectationOf success "to be a success"
    | none, none => return "Expected success"
  negatedText _ := pure noErrorText
  hint _ := pure none

/-- The subject is a failure whose text `judge` accepts. -/
def failsWith (judge : Judge σ Datum) : Judge σ Datum where
  verdict subject :=
    match subject.failure? with
    | none => pure (.ok false)
    | some (report, asked) => do
        ReasonLog.ask asked
        judge.verdict (.ofString report)
  failureText subject :=
    match subject.failure? with
    | none => pure noFailureText
    | some (report, asked) => do
        ReasonLog.ask asked
        judge.failureText (.ofString report)
  negatedText subject :=
    match subject.failure? with
    | none => pure noFailureText
    | some (report, asked) => do
        ReasonLog.ask asked
        judge.negatedText (.ofString report)
  hint _ := pure none

end Judge

namespace Matcher

variable {σ : Type} [ReasonLog σ]

/-- A probe that returns nothing passed. -/
def succeeds : Matcher σ Datum :=
  { Judge.succeeds with callback := some (Judge.succeeds.comap Datum.ofOutcome) }

/-- A probe that returns nothing failed with a text that `judge` accepts. -/
def failsWith (judge : Judge σ Datum) : Matcher σ Datum :=
  { Judge.failsWith judge with
    callback := some ((Judge.failsWith judge).comap Datum.ofOutcome) }

end Matcher

end PollingAssertions
