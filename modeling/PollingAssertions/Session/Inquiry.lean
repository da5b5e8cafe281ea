import PollingAssertions.Session.ParamScript
import PollingAssertions.Session.Script

/-!
# Inquiries

Single questions that need no session: what a matcher says about a value,
whether a direct assertion holds, how a description or a stop signal is
shown, which parameters take an argument, and what shape a probe has.

## Main definitions

* `consultMatcher`, `assertDirectly` — matchers outside assertions.
* `renderApart`, `workings` — descriptions and stop signals.
* `acceptances` — which parameters take an argument.
* `ProbeScript.shape?` — the shape of a probe.
-/

namespace PollingAssertions.Session

/-- A question to a matcher. -/
inductive Question where
  | verdict
  | failureText
  | negatedText
  | hint
  /-- Does it bring a judge of outcomes along? -/
  | callback
deriving DecidableEq, Repr

/-- What a matcher says to a question. -/
inductive Response where
  | verdict (v : Except MatchError Bool)
  | text (s : String)
  | hint (hint? : Option String)
  | flag (b : Bool)
  | raised (payload : Payload)

/-- Puts a question to a matcher. -/
def ask (matcher : Matcher World Datum) (subject : Datum) : Question → Action World Response
  | .verdict => do return .verdict (← matcher.verdict subject)
  | .failureText => do return .text (← matcher.failureText subject)
  | .negatedText => do return .text (← matcher.negatedText subject)
  | .hint => do return .hint (← matcher.hint subject)
  | .callback => return .flag matcher.callback.isSome

/-- Runs an action; what it unwinds with is acknowledged and given back. -/
def settled {α : Type} (x : Action World α) : StateM World (Except Payload α) := fun w =>
  match x w with
  | .ok a w => (.ok a, w)
  | .error payload w =>
      match World.acknowledge payload w with
      | .ok _ w => (.error payload, w)
      | .error _ w => (.error payload, w)

/-- Puts a question to a matcher, which may unwind. -/
def askSafely (matcher : Matcher World Datum) (subject : Datum) (question : Question) :
    StateM World Response := do
  match ← settled (ask matcher subject question) with
  | .ok response => return response
  | .error payload => return .raised payload

/-- Runs something in a fresh world and gives its log as well. -/
def inFreshWorld {α : Type} (x : StateM World α) : α × List Entry :=
  let (a, w) := x (World.starting 0)
  (a, w.entries.reverse)

/-- Puts questions to one matcher about one value. -/
def consultMatcher (subject : DatumScript) (matcher : MatcherScript) (questions : List Question) :
    List Response × List Entry :=
  inFreshWorld do
    let datum ← subject.make
    let matcher ← matcher.make subject.type
    questions.mapM (askSafely matcher datum)

/-- Makes a direct assertion: what it unwinds with, if it does. -/
def assertDirectly (subject : DatumScript) (matcher : MatcherScript) (note? : Option String) :
    Option Payload × List Entry :=
  inFreshWorld do
    let datum ← subject.make
    let matcher ← matcher.make subject.type
    match ← settled (matcher.toJudge.require note? datum) with
    | .ok _ => return none
    | .error payload => return some payload

/-- A description as it is rendered. -/
def renderApart (description : Description World) : Except Payload String :=
  (inFreshWorld (settled description.render)).1

/-- Which parameters take an argument, by name, each with the value it is
given. -/
def acceptances (parameters : List Forwarded) (argument : Argument) : List (String × String) :=
  parameters.filterMap fun forwarded =>
    (forwarded.convert argument).map fun v => (forwarded.name, v.render)

/-- The parameters that are tried on an argument. -/
def triedParameters : List Forwarded :=
  (IntType.all.map fun type => Forwarded.ofType (.integer type)) ++
    [.ofType .single, .ofType .double, .ofType .boolean, .ofType .character, .ofType .span,
      .ofType .staticText, .string, .wrapped .string, .wrapped (.option .i32),
      .wrapped (.vector .i32), .wrapped (.user "Point")]

/-- How often the reason of a signal is worked out when the signal is
raised, asked for its reason, displayed and shown. -/
def workings (signal : StopSignal) : Nat :=
  signal.raised.asked.length + signal.asked.length + signal.asked.length + signal.asked.length

/-- The shape of a probe that is a function. -/
def ProbeScript.shape? : ProbeScript → Option Shape
  | .observed _ => none
  | .function params result _ => some (.ofSignature params result)

end PollingAssertions.Session
