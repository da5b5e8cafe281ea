import PollingAssertions.Clock
import PollingAssertions.Polling.Report
import PollingAssertions.Progress

/-!
# Assertions

An assertion is a probe, a matcher and the settings of a run. To conclude
it means to check the shape of the probe, to attach a slip for its progress
to the nearest attacher of its context, to poll, to detach the slip, and to
report the failure if there is one.

A run need not end by itself, so it is given a limit of attempts; what it
concludes does not depend on the limit once that suffices.

## Main definitions

* `Assertion` — a configured assertion.
* `Poller` — defaults, a failure handler and a clock.
* `Poller.run`, `Poller.conclude` — polling, and the whole assertion.
-/

namespace PollingAssertions

/-- A configured assertion. -/
structure Assertion (σ : Type) where
  kind : Kind
  probe : Probe σ
  settings : Settings
  matcher : Matcher σ Datum
  /-- The matcher has to match; otherwise it must not. -/
  positive : Bool
  description? : Option (Description σ)

/-- What assertions share. -/
structure Poller (σ : Type) where
  defaults : Defaults
  handler : FailureHandler σ
  clock : Clock σ

namespace Assertion

variable {σ : Type}

/-- The plan of the run. -/
def plan (assertion : Assertion σ) (defaults : Defaults) : Plan :=
  let (timeout, interval) := defaults.timing assertion.kind
  ⟨assertion.kind, assertion.settings.timeout timeout, assertion.settings.interval interval⟩

/-- Whether the matcher is asked for hints. -/
def wantsHints (assertion : Assertion σ) : Bool :=
  assertion.kind == .eventually && assertion.probe.isObserved

/-- Makes an attempt and judges it. -/
def attempt [HasCheckers σ] [ReasonLog σ] (assertion : Assertion σ) :
    Action σ (Except ConfigError Judgement) := do
  match ← assertion.probe.invoke assertion.kind assertion.settings with
  | .error e => return .error e
  | .ok invocation =>
      return .ok (← invocation.evaluate assertion.matcher assertion.probe.returnsNothing
        assertion.positive assertion.wantsHints)

/-- How an assertion is shown before it is concluded. -/
def render (contexts : Contexts) (kind : Kind) (probe : Probe σ) (settings : Settings) : String :=
  let optional (text : Option String) : String := text.elim "None" fun t => "Some(" ++ t ++ ")"
  "AsyncAssertion \x7b kind: " ++ kind.name ++ ", probe: " ++ probe.render ++ ", timeout: " ++
    optional (settings.timeout?.map Span.text) ++ ", interval: " ++
    optional (settings.interval?.map Span.text) ++ ", context: " ++
    optional (settings.context?.map contexts.render) ++ ", arguments: [" ++
    Text.joined ", " (settings.arguments.map Argument.render) ++ "], .. \x7d"

end Assertion

namespace Poller

variable {σ : Type} [ReasonLog σ] [HasCheckers σ] [HasContexts σ] [HasDesk σ]

/-- What the run of an assertion deals with. -/
def surroundings (poller : Poller σ) (assertion : Assertion σ) (attachment? : Option Attachment) :
    Surroundings σ where
  now := poller.clock.now
  cancelled := Contexts.isDoneIn assertion.settings.context?
  sleep d := poller.clock.sleep d assertion.settings.context?
  attempt := assertion.attempt
  publish := Progress.publish attachment?

/-- Polls an assertion for at most so many attempts, between attaching and
detaching its slip. -/
def run (poller : Poller σ) (assertion : Assertion σ) (limit : Nat) (s : σ) :
    Option Ending × Run σ :=
  let (attachment?, s) := Progress.attach? assertion.settings.context? s
  let (started, s) := poller.clock.now s
  let around := poller.surroundings assertion attachment?
  match Polling.rounds (assertion.plan poller.defaults) around limit (Run.starting started s) with
  | .ok _ run => (none, { run with world := Progress.detach attachment? run.world })
  | .error ending run => (some ending, { run with world := Progress.detach attachment? run.world })

/-- Reports a wrong configuration. -/
def refuse (poller : Poller σ) (e : ConfigError) : Action σ Unit :=
  poller.handler ⟨e.message, Report.configurationSkip⟩

/-- Does what the end of a run asks for, and says whether the assertion
holds. -/
def settle (poller : Poller σ) (assertion : Assertion σ) : Ending → Action σ Bool
  | .passed => return true
  | .failed termination reason elapsed => do
      let description ← match assertion.description? with
        | some description => description.render
        | none => pure ""
      poller.handler ⟨Report.message termination elapsed description reason, Report.pollingSkip⟩
      return false
  | .refused e => do
      poller.refuse e
      return false
  | .escaped payload => Action.raise payload

/-- Concludes an assertion: whether it holds, or nothing if the limit of
attempts was too low to tell. -/
def conclude (poller : Poller σ) (assertion : Assertion σ) (limit : Nat) :
    Action σ (Option Bool) := do
  match assertion.probe.validate assertion.kind assertion.settings with
  | .error e => do
      poller.refuse e
      return some false
  | .ok _ => do
      let (ending?, run) := poller.run assertion limit (← get)
      set run.world
      match ending? with
      | some ending => return some (← poller.settle assertion ending)
      | none => return none

end Poller

end PollingAssertions
