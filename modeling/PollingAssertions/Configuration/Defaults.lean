import PollingAssertions.Configuration.Error
import PollingAssertions.Time.Reading

/-!
# Defaults

How long an assertion polls and how long it pauses between attempts, if it
is not told, depends on its kind. Each of the four defaults can be set from
outside, by the text of a variable; the first variable whose text is no
span of time is an error and nothing is set then.

## Main definitions

* `Kind` — the two kinds of assertion.
* `Defaults` — the four defaults.
* `Defaults.ofLookup` — the defaults with variables taken into account.
-/

namespace PollingAssertions

/-- The two kinds of assertion. -/
inductive Kind where
  /-- The matcher has to match at some point. -/
  | eventually
  /-- The matcher has to match on every attempt. -/
  | consistently
deriving DecidableEq, Repr, Inhabited

/-- How messages name a kind. -/
def Kind.name : Kind → String
  | .eventually => "Eventually"
  | .consistently => "Consistently"

/-- Timeouts and polling intervals of assertions that set none. -/
structure Defaults where
  eventuallyTimeout : Span
  eventuallyInterval : Span
  consistentlyDuration : Span
  consistentlyInterval : Span
deriving DecidableEq, Repr, Inhabited

namespace Defaults

/-- The defaults if no variable is set. -/
def builtIn : Defaults where
  eventuallyTimeout := Span.second
  eventuallyInterval := 10 * Span.millisecond
  consistentlyDuration := 100 * Span.millisecond
  consistentlyInterval := 10 * Span.millisecond

/-- The four defaults. -/
inductive Field where
  | eventuallyTimeout
  | eventuallyInterval
  | consistentlyDuration
  | consistentlyInterval
deriving DecidableEq, Repr

namespace Field

/-- All fields, in the order in which their variables are read. -/
def all : List Field :=
  [eventuallyTimeout, eventuallyInterval, consistentlyDuration, consistentlyInterval]

/-- The variable that sets a field. -/
def setting : Field → String
  | eventuallyTimeout => "TESTKIT_EVENTUALLY_TIMEOUT"
  | eventuallyInterval => "TESTKIT_EVENTUALLY_POLLING_INTERVAL"
  | consistentlyDuration => "TESTKIT_CONSISTENTLY_DURATION"
  | consistentlyInterval => "TESTKIT_CONSISTENTLY_POLLING_INTERVAL"

end Field

/-- The value of a field. -/
def get (defaults : Defaults) : Field → Span
  | .eventuallyTimeout => defaults.eventuallyTimeout
  | .eventuallyInterval => defaults.eventuallyInterval
  | .consistentlyDuration => defaults.consistentlyDuration
  | .consistentlyInterval => defaults.consistentlyInterval

/-- The defaults with one field set. -/
def set (defaults : Defaults) (d : Span) : Field → Defaults
  | .eventuallyTimeout => { defaults with eventuallyTimeout := d }
  | .eventuallyInterval => { defaults with eventuallyInterval := d }
  | .consistentlyDuration => { defaults with consistentlyDuration := d }
  | .consistentlyInterval => { defaults with consistentlyInterval := d }

theorem get_set (defaults : Defaults) (d : Span) (field other : Field) :
    (defaults.set d field).get other = if other = field then d else defaults.get other := by
  cases field <;> cases other <;> rfl

/-- The text of a variable, read as a span of time. -/
def read (field : Field) (text : String) : Except ConfigError Span :=
  let value := Text.trim text.toList
  match Span.ofChars? value with
  | some d => .ok d
  | none => .error (.invalidDuration field.setting (String.ofList value))

/-- Sets fields from the variables that are there. -/
def overriddenBy (lookup : String → Option String) (defaults : Defaults) :
    List Field → Except ConfigError Defaults
  | [] => .ok defaults
  | field :: fields =>
      match lookup field.setting with
      | none => overriddenBy lookup defaults fields
      | some text =>
          match read field text with
          | .ok d => overriddenBy lookup (defaults.set d field) fields
          | .error e => .error e

/-- The defaults with variables taken into account. -/
def ofLookup (lookup : String → Option String) : Except ConfigError Defaults :=
  builtIn.overriddenBy lookup Field.all

/-- The default timeout and polling interval of a kind. -/
def timing (defaults : Defaults) : Kind → Span × Span
  | .eventually => (defaults.eventuallyTimeout, defaults.eventuallyInterval)
  | .consistently => (defaults.consistentlyDuration, defaults.consistentlyInterval)

end Defaults

end PollingAssertions
