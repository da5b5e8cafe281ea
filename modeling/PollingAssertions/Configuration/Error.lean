import PollingAssertions.Text.Quoted

/-!
# Configuration errors

An assertion that is put together wrongly is reported once and never
tried. The error says what does not fit: the shape of the probe, the
number or the type of the arguments, a context that is missing, or a span
of time that cannot be read.

## Main definitions

* `ConfigError` — the errors.
* `ConfigError.message` — their wording.
-/

namespace PollingAssertions

/-- What is wrong with an assertion. `kind` names the kind of assertion. -/
inductive ConfigError where
  /-- The probe returns nothing and has no checker to report through. -/
  | invalidSignature (kind signature : String)
  /-- The number of arguments does not fit the probe. -/
  | argumentCount (kind signature : String) (declared supplied : Nat)
  /-- An argument has another type than the parameter it is meant for. -/
  | argumentType (kind signature : String) (position : Nat) (expected found : String)
  /-- The probe wants a context and there is none. -/
  | missingContext (kind : String)
  /-- A setting is no span of time. -/
  | invalidDuration (setting value : String)
deriving DecidableEq, Repr, Inhabited

namespace ConfigError

/-- The verb for a number of arguments. -/
def verb (count : Nat) : String := if count = 1 then "has" else "have"

/-- The wording of an error. -/
def message : ConfigError → String
  | invalidSignature kind signature =>
      "The function passed to " ++ kind ++ " had an invalid signature of " ++ signature ++
        ".  Functions passed to " ++ kind ++ " must either (a) have return values or (b) take " ++
        "a Checker as their first argument and return nothing."
  | argumentCount kind signature declared supplied =>
      "The function passed to " ++ kind ++ " has signature " ++ signature ++ " takes " ++
        toString declared ++ " arguments but " ++ toString supplied ++ " " ++ verb supplied ++
        " been provided.  Please use " ++ kind ++
        "().with_arguments() to pass the correct set of arguments."
  | argumentType kind signature position expected found =>
      "The function passed to " ++ kind ++ " has signature " ++ signature ++ " and expects " ++
        expected ++ " at position " ++ toString position ++ ", but " ++ found ++
        " has been provided."
  | missingContext kind =>
      "The function passed to " ++ kind ++
        " requested a Context, but no context has been provided.  Please pass one in using " ++
        kind ++ "().with_context()."
  | invalidDuration setting value =>
      "Invalid duration " ++ Text.quote value ++ " for " ++ setting ++
        ": expected a number followed by ns, us, ms, s, m or h"

end ConfigError

end PollingAssertions
