import PollingAssertions.Probe.Source

/-!
# Parameters of probes

A parameter has a kind, a name, a test for single arguments and a way to
be filled from the source of a call. The test is used before anything runs,
the filling on every attempt; parameters of the user's own kind need not
keep the two in step.

An argument is forwarded to a parameter of its own type. Two types differ:
`String` takes a borrowed text as well, and `Arg` takes any type and wraps
the value.

## Main definitions

* `Forwarded` — how a value is made of an argument.
* `Param` — parameters; `Param.checker`, `Param.context`, `Param.fixed` and
  `Param.rest` are the ready-made ones.
-/

namespace PollingAssertions

/-- How a value is made of an argument. -/
structure Forwarded where
  /-- The type as signatures name it. -/
  name : String
  /-- The value, or none if the argument does not fit. -/
  convert : Argument → Option Value

namespace Forwarded

/-- The value of an argument that has exactly the given type. -/
def exactly (type : Ty) : Argument → Option Value
  | .value datum => if datum.type == type then some datum.value else none
  | .context _ => none

/-- Values of one type. -/
def ofType (type : Ty) : Forwarded := ⟨type.name, exactly type⟩

/-- Texts, owned or borrowed. -/
def string : Forwarded where
  name := Ty.string.name
  convert argument := (exactly .string argument).or (exactly .staticText argument)

/-- Values of any one type, wrapped. -/
def wrapped (type : Ty) : Forwarded where
  name := type.name
  convert argument := (exactly type argument).map fun v => .labelled "Arg" [v]

end Forwarded

/-- How a parameter is filled. -/
inductive ParamKind where
  | checker
  | context
  /-- By one argument. -/
  | fixed
  /-- By all arguments that are left. -/
  | variadic
deriving DecidableEq, Repr, Inhabited

/-- The place of a kind in the order of parameters. -/
def ParamKind.rank : ParamKind → Nat
  | .checker => 0
  | .context => 1
  | .fixed => 2
  | .variadic => 3

/-- A parameter of a probe. -/
structure Param where
  kind : ParamKind
  /-- The parameter as signatures name it. -/
  name : String
  /-- Whether a single argument fits. -/
  accepts : Argument → Bool
  /-- Fills the parameter from a source, if that succeeds. -/
  fetch : StateM Source (Option Delivered)

namespace Param

/-- The checker of the probe. -/
def checker : Param where
  kind := .checker
  name := "Checker"
  accepts _ := false
  fetch source := (some (.checker source.checker), source)

/-- A context. -/
def context : Param where
  kind := .context
  name := "Context"
  accepts argument := argument.context?.isSome
  fetch := do return (← Source.takeContext).map .context

/-- One argument. -/
def fixed (forwarded : Forwarded) : Param where
  kind := .fixed
  name := forwarded.name
  accepts argument := (forwarded.convert argument).isSome
  fetch := do return ((← Source.next).bind forwarded.convert).map .value

/-- All arguments that are left. -/
def rest (forwarded : Forwarded) : Param where
  kind := .variadic
  name := "..." ++ forwarded.name
  accepts argument := (forwarded.convert argument).isSome
  fetch := do return ((← Source.rest).mapM forwarded.convert).map .rest

/-- Fills parameters from left to right. The first one that cannot be filled
is an error: a missing context, or else an argument of a wrong type, named
by its position and by the argument that stood next before the attempt. -/
def fetchAll (kind : Kind) (signature : String) (position : Nat) :
    List Param → Source → Except ConfigError (List Delivered)
  | [], _ => .ok []
  | param :: params, source =>
      match param.fetch source with
      | (some delivered, after) =>
          (fetchAll kind signature (position + 1) params after).map (delivered :: ·)
      | (none, _) =>
          .error <| match param.kind with
            | .context => .missingContext kind.name
            | _ => .argumentType kind.name signature position param.name
                (source.peek?.elim "nothing" fun argument => argument.type.name)

end Param

end PollingAssertions
