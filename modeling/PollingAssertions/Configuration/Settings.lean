import PollingAssertions.Configuration.Defaults
import PollingAssertions.Context.Basic

/-!
# Settings of an assertion

An assertion is configured by calls that come in any order. Two of them
set the timeout and the interval whatever they were before; the other two
set them only if they are unset or zero. Of contexts and of arguments the
last ones count.

When the assertion runs, a timeout that is unset takes the default, whereas
an interval takes it also when it is zero.

## Main definitions

* `Setting` — one configuring call.
* `Settings`, `Settings.ofCalls` — what a sequence of calls amounts to.
* `Argument` — an argument for the probe.
-/

namespace PollingAssertions

/-- An argument for a probe: a value or a context. -/
inductive Argument where
  | value (datum : Datum)
  | context (c : ContextId)
deriving Repr, Inhabited

namespace Argument

/-- The type of an argument. -/
def type : Argument → Ty
  | value datum => datum.type
  | context _ => .context

/-- How an argument is shown. -/
def render (argument : Argument) : String := "Argument(<" ++ argument.type.name ++ ">)"

/-- The context of an argument that is one. -/
def context? : Argument → Option ContextId
  | context c => some c
  | value _ => none

end Argument

/-- One configuring call. -/
inductive Setting where
  | timeout (d : Span)
  | interval (d : Span)
  /-- A timeout that gives way to one that is set and not zero. -/
  | within (d : Span)
  /-- An interval that gives way to one that is set and not zero. -/
  | probeEvery (d : Span)
  | context (c : ContextId)
  | arguments (arguments : List Argument)
deriving Repr

/-- What an assertion has been told. -/
structure Settings where
  timeout? : Option Span
  interval? : Option Span
  context? : Option ContextId
  arguments : List Argument
deriving Repr, Inhabited

namespace Settings

/-- An assertion that has been told nothing. -/
def none : Settings := ⟨.none, .none, .none, []⟩

/-- Gives way to a span that is set and not zero. -/
def unlessSet (d? : Option Span) (d : Span) : Option Span :=
  match d? with
  | some set => if set = 0 then some d else some set
  | .none => some d

/-- Makes one configuring call. -/
def apply (settings : Settings) : Setting → Settings
  | .timeout d => { settings with timeout? := some d }
  | .interval d => { settings with interval? := some d }
  | .within d => { settings with timeout? := unlessSet settings.timeout? d }
  | .probeEvery d => { settings with interval? := unlessSet settings.interval? d }
  | .context c => { settings with context? := some c }
  | .arguments arguments => { settings with arguments }

/-- Makes configuring calls one after the other. -/
def ofCalls (calls : List Setting) : Settings := calls.foldl apply none

/-- The timeout in effect. -/
def timeout (settings : Settings) (fallback : Span) : Span := settings.timeout?.getD fallback

/-- The interval in effect. -/
def interval (settings : Settings) (fallback : Span) : Span :=
  match settings.interval? with
  | some d => if d = 0 then fallback else d
  | .none => fallback

/-- The contexts that an assertion holds on to. -/
def contexts (settings : Settings) : List ContextId :=
  settings.context?.toList ++ settings.arguments.filterMap Argument.context?

end Settings

end PollingAssertions
