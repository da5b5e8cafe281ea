import PollingAssertions.Text.Quoted

/-!
# Stop signals

A probe can ask for polling to end: it returns a stop signal, alone or
among its extra values, or raises one. The signal gives a reason. A
*deferred* reason is worked out anew each time somebody asks for it, which
is meant to happen only when a failure message is built; a world keeps
count of that. A raised signal is always *immediate*.

## Main definitions

* `StopSignal` — the signal.
* `StopSignal.render` — how it is shown inside a message.
-/

namespace PollingAssertions

/-- A request to stop polling. -/
structure StopSignal where
  reason : String
  /-- The reason is worked out when it is asked for. -/
  deferred : Bool
  /-- The signal ends the attempt at once. -/
  immediate : Bool
deriving DecidableEq, Repr, Inhabited

namespace StopSignal

/-- The signal as it is raised. -/
def raised (stop : StopSignal) : StopSignal := { stop with immediate := true }

/-- The deferred reasons that have to be worked out to show the signal or to
state its reason. -/
def asked (stop : StopSignal) : List String :=
  if stop.deferred then [stop.reason] else []

/-- The signal inside a message. -/
def render (stop : StopSignal) : String :=
  "StopTrying \x7b reason: " ++ Text.quote stop.reason ++ ", immediate: " ++
    toString stop.immediate ++ " \x7d"

end StopSignal

end PollingAssertions
