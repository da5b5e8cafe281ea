import PollingAssertions.Action
import PollingAssertions.Probe.Shape
import PollingAssertions.Value.Render
import PollingAssertions.Value.Zero

/-!
# Probes

A probe is a value that is observed anew on every attempt, or a function
that is called. A call fills the parameters, clears the checker and runs the
body. The body returns a value and extra values, or it unwinds: a stop
signal interrupts the attempt, a failed expectation aborts it, and anything
else goes on unwinding.

A returned value may itself be a stop signal, and so may an extra. The
value's own signal counts, and else that of the first extra that is one.

## Main definitions

* `Extra` — what is known of an extra value.
* `Probe` — probes.
* `Invocation`, `Probe.invoke` — what one attempt produced.
-/

namespace PollingAssertions

/-- An extra value, of which only this is known. -/
structure Extra where
  isZero : Bool
  typeName : String
  text : String
  /-- The deferred reasons that the text works out. -/
  asked : List String
  /-- The stop signal that the value amounts to. -/
  signal? : Option StopSignal
deriving Repr, Inhabited

/-- What is known of a value once it is an extra. -/
def Extra.ofDatum (datum : Datum) : Extra where
  isZero := datum.value.isZero
  typeName := datum.type.name
  text := datum.value.render
  asked := datum.value.asked
  signal? := datum.signal?

/-- What a body returns. -/
structure Output where
  value : Datum
  extras : List Extra
deriving Repr, Inhabited

/-- The stop signal that is returned, if any. -/
def Output.signal? (out : Output) : Option StopSignal :=
  out.value.signal?.or (out.extras.findSome? (·.signal?))

/-- A value that is observed, or a function that is called. -/
inductive Probe (σ : Type) where
  | observed (datum : Datum)
  | function (shape : Shape) (checker : CheckerId) (body : List Delivered → Action σ Output)

/-- What one attempt produced. -/
inductive Invocation where
  | returned (value : Datum) (extras : List Extra) (failure? : Option CallbackFailure)
      (stop? : Option StopSignal)
  | aborted (failure? : Option CallbackFailure)
  | interrupted (stop : StopSignal)
deriving Repr

namespace Probe

variable {σ : Type}

/-- The shape of a function. -/
def shape? : Probe σ → Option Shape
  | observed _ => none
  | function shape _ _ => some shape

/-- Whether the probe is a value that is observed. -/
def isObserved : Probe σ → Bool
  | observed _ => true
  | function _ _ _ => false

/-- Whether the probe is a function that returns nothing. -/
def returnsNothing (probe : Probe σ) : Bool :=
  probe.shape?.any fun shape => shape.returning == .nothing

/-- How a probe with a given shape, or without one, is shown. -/
def outline : Option Shape → String
  | none => "Probe::Observed"
  | some shape => "Probe::Function(" ++ shape.signature ++ ")"

/-- How a probe is shown. -/
def render (probe : Probe σ) : String := outline probe.shape?

/-- Checks the shape of a probe; there is nothing to check of a value. -/
def validate (probe : Probe σ) (kind : Kind) (settings : Settings) : Except ConfigError Unit :=
  match probe.shape? with
  | none => .ok ()
  | some shape => shape.validate kind settings.context? settings.arguments

variable [HasCheckers σ]

/-- What the end of a body amounts to. -/
def conclude (checker : CheckerId) : Except Payload Output → Action σ Invocation
  | .ok out => do
      let failure? := Checker.kept? checker (← get)
      modify (Checker.clear checker)
      return .returned out.value out.extras failure? out.signal?
  | .error (.stop stop) => return .interrupted stop
  | .error .abort => do
      let failure? := Checker.kept? checker (← get)
      modify (Checker.clear checker)
      return .aborted failure?
  | .error (.message text) => Action.raise (.message text)

/-- Makes one attempt. -/
def invoke (probe : Probe σ) (kind : Kind) (settings : Settings) :
    Action σ (Except ConfigError Invocation) :=
  match probe with
  | observed datum => return .ok (.returned datum [] none none)
  | function shape checker body => do
      modify (Checker.clear checker)
      let source := Source.fresh checker settings.context? settings.arguments
      match Param.fetchAll kind shape.signature 0 shape.params source with
      | .error e => return .error e
      | .ok delivered => do
          let ended ← (body delivered).caught
          return .ok (← conclude checker ended)

end Probe

end PollingAssertions
