import PollingAssertions.Polling.Run
import PollingAssertions.Text.Template

/-!
# Failure reports

A failed assertion is reported to a failure handler, with the number of
callers between the report and whoever made the assertion. The message
says how the run ended and after what time, then the description of the
assertion on a line of its own unless it is empty, then the reason.

A description is a text, a template with arguments, or deferred. It is
rendered only for a message, and of the arguments of a template only those
are that have a hole to fill.

## Main definitions

* `Description`, `Description.render` — descriptions.
* `Failure`, `FailureHandler` — failures and where they go.
* `Report.message` — the message of a failed run.
-/

namespace PollingAssertions

/-- A text printed above the reason of a failure. -/
inductive Description (σ : Type) where
  | text (s : String)
  | template (s : String) (arguments : List Datum)
  | deferred (write : Action σ String)

namespace Description

variable {σ : Type}

/-- How a description is shown without rendering it. -/
def outline : Description σ → String
  | text s => "Text(" ++ Text.quote s ++ ")"
  | template s arguments =>
      "Template \x7b template: " ++ Text.quote s ++ ", args: " ++ toString arguments.length ++ " \x7d"
  | deferred _ => "Lazy"

/-- Renders a description. -/
def render [ReasonLog σ] : Description σ → Action σ String
  | text s => return s
  | template s arguments => do
      let template := s.toList
      let used := arguments.take (Template.holes template)
      ReasonLog.ask (used.flatMap fun argument => argument.value.plainAsked)
      return String.ofList (Template.fill template (used.map fun argument => argument.value.plain.toList))
  | deferred write => write

end Description

/-- A failed assertion. -/
structure Failure where
  message : String
  /-- How many callers there are between the report and the assertion. -/
  skip : Nat
deriving DecidableEq, Repr, Inhabited

/-- Takes failures. -/
abbrev FailureHandler (σ : Type) := Failure → Action σ Unit

namespace Report

/-- The callers to skip for a failed run, and for a wrong configuration. -/
def pollingSkip : Nat := 3
@[inherit_doc pollingSkip] def configurationSkip : Nat := 2

/-- How a message begins. -/
def opening : Termination → String
  | .timedOut => "Timed out"
  | .cancelled => "Context was cancelled"
  | .failed => "Failed"
  | .stopped reason => reason ++ " -"
  | .noFutureChange => "No future change is possible.  Bailing out early"

/-- A description on its own line. -/
def ownLine (description : String) : String :=
  if description.isEmpty then "" else description ++ "\n"

/-- The message of a failed run. -/
def message (termination : Termination) (elapsed : Span) (description reason : String) : String :=
  opening termination ++ " after " ++ elapsed.elapsedText ++ "s.\n" ++ ownLine description ++ reason

end Report

/-- The failures that were recorded, oldest first. -/
structure Recorder where
  failures : List Failure
deriving Repr, Inhabited

namespace Recorder

/-- Nothing recorded. -/
def empty : Recorder := ⟨[]⟩

/-- Records a failure. -/
def add (failure : Failure) (recorder : Recorder) : Recorder := ⟨recorder.failures ++ [failure]⟩

/-- The latest message, empty if there is none. -/
def message (recorder : Recorder) : String := recorder.failures.getLast?.elim "" (·.message)

end Recorder

/-- Worlds with a recorder. -/
class HasRecorder (σ : Type) where
  part : Part σ Recorder

instance : HasRecorder Recorder := ⟨Part.whole⟩

namespace FailureHandler

variable {σ : Type}

/-- Records failures and goes on. -/
def recording [HasRecorder σ] : FailureHandler σ := fun failure =>
  modify (HasRecorder.part.update (Recorder.add failure))

/-- Unwinds with the message of a failure and the place of the assertion. -/
def panicking (location : String) : FailureHandler σ := fun failure =>
  Action.raise (.message (failure.message ++ "\n\nat " ++ location))

end FailureHandler

end PollingAssertions
