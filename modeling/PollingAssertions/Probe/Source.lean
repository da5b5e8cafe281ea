import PollingAssertions.Checker.Basic
import PollingAssertions.Configuration.Settings

/-!
# Where the parameters of a probe come from

For each call of a probe there is a source: a checker, perhaps a context,
and the arguments with a cursor before the first one not yet taken. A
parameter takes what it needs: the next argument, all that are left, or a
context. A context that comes as the very first argument has precedence
over the configured one.

## Main definitions

* `Source` — the source of one call.
* `Source.takeContext`, `Source.next`, `Source.rest` — the three ways of
  taking from it.
* `Delivered` — what a parameter is filled with.
-/

namespace PollingAssertions

/-- What the parameters of one call are taken from. -/
structure Source where
  checker : CheckerId
  context? : Option ContextId
  arguments : List Argument
  /-- How many arguments have been taken. -/
  cursor : Nat
deriving Repr, Inhabited

namespace Source

/-- The source before anything has been taken. -/
def fresh (checker : CheckerId) (context? : Option ContextId) (arguments : List Argument) : Source :=
  ⟨checker, context?, arguments, 0⟩

/-- The next argument, if any is left. -/
def peek? (source : Source) : Option Argument := source.arguments[source.cursor]?

/-- The context that comes as the first argument. -/
def forwarded? (arguments : List Argument) : Option ContextId :=
  arguments.head?.bind Argument.context?

/-- Takes a context: the first argument if it is one and nothing has been
taken before, and else the configured context. -/
def takeContext : StateM Source (Option ContextId) := fun source =>
  match if source.cursor = 0 then forwarded? source.arguments else none with
  | some c => (some c, { source with cursor := 1 })
  | none => (source.context?, source)

/-- Takes the next argument. -/
def next : StateM Source (Option Argument) := fun source =>
  match source.peek? with
  | some argument => (some argument, { source with cursor := source.cursor + 1 })
  | none => (none, source)

/-- Takes all arguments that are left. -/
def rest : StateM Source (List Argument) := fun source =>
  (source.arguments.drop source.cursor, { source with cursor := source.arguments.length })

end Source

/-- What a parameter is filled with. -/
inductive Delivered where
  | checker (c : CheckerId)
  | context (c : ContextId)
  | value (v : Value)
  | rest (vs : List Value)
  /-- What a parameter of the user's own kind took: some arguments, perhaps
  a context, and whether it found nothing more to take. -/
  | custom (taken : List Argument) (context? : Option ContextId) (exhausted : Bool)
deriving Repr, Inhabited

end PollingAssertions
