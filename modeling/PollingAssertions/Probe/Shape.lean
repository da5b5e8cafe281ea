import PollingAssertions.Probe.Param

/-!
# Shapes of probes

The shape of a probe that is a function consists of its parameters and of
what it returns. Before a probe is tried its shape is checked against the
context and the arguments it will be given: first the order of the
parameters and whether the probe can report at all, then the context, then
the number of arguments, and last the type of each.

## Main definitions

* `Shape` — parameters, kind of result and signature.
* `Shape.ascending` — a checker, a context, single arguments and a rest,
  in this order and each of them optional.
* `Shape.validate` — the check.
-/

namespace PollingAssertions

/-- What a probe returns. -/
inductive Returning where
  | nothing
  | value
  | valueWithExtras
deriving DecidableEq, Repr, Inhabited

namespace Returning

/-- The name of a kind of result. -/
def name : Returning → String
  | nothing => "Nothing"
  | value => "Value"
  | valueWithExtras => "ValueWithExtras"

/-- What a function with a given result type returns. -/
def ofTy : Ty → Returning
  | .unit => nothing
  | .returns _ => valueWithExtras
  | _ => value

end Returning

/-- The parameters and the result of a probe. -/
structure Shape where
  params : List Param
  returning : Returning
  signature : String

namespace Shape

/-- The signature of a function. -/
def signatureOf (params : List Param) (result : Ty) : String :=
  "fn(" ++ Text.joined ", " (params.map (·.name)) ++ ")" ++
    (if Returning.ofTy result = .nothing then "" else " -> " ++ result.name)

/-- The shape of a function. -/
def ofSignature (params : List Param) (result : Ty) : Shape :=
  ⟨params, Returning.ofTy result, signatureOf params result⟩

/-- Whether the first parameter is a checker. -/
def takesChecker (shape : Shape) : Bool := shape.params.head?.any fun p => p.kind == .checker

/-- Whether some parameter is a context. -/
def takesContext (shape : Shape) : Bool := shape.params.any fun p => p.kind == .context

/-- How many parameters take one argument each. -/
def fixedCount (shape : Shape) : Nat := shape.params.countP fun p => p.kind == .fixed

/-- Whether the last parameter takes all arguments that are left. -/
def isVariadic (shape : Shape) : Bool := shape.params.getLast?.any fun p => p.kind == .variadic

/-- Whether one kind may follow another. -/
def follows (before after : ParamKind) : Bool :=
  decide (before.rank < after.rank) || (before == .fixed && after == .fixed)

/-- Whether every kind may follow the one before it. -/
def ascending : List ParamKind → Bool
  | before :: after :: others => follows before after && ascending (after :: others)
  | _ => true

/-- The first argument that the parameter meant for it refuses, with that
parameter and its position. -/
def refused? (position : Nat) : List Param → List Argument → Option (Nat × Param × Argument)
  | [], _ => none
  | param :: params, arguments =>
      match param.kind, arguments with
      | .fixed, argument :: others =>
          if param.accepts argument then refused? (position + 1) params others
          else some (position, param, argument)
      | .variadic, arguments =>
          match arguments.find? fun argument => !param.accepts argument with
          | some argument => some (position, param, argument)
          | none => refused? (position + 1) params []
      | _, arguments => refused? (position + 1) params arguments

/-- Whether a context comes with the arguments. -/
def forwardsContext (shape : Shape) (arguments : List Argument) : Bool :=
  shape.takesContext && (Source.forwarded? arguments).isSome

/-- Whether the configured context is wanted. -/
def wantsContext (shape : Shape) (arguments : List Argument) : Bool :=
  shape.takesContext && !shape.forwardsContext arguments

/-- How many values there are for the parameters. -/
def supplied (shape : Shape) (arguments : List Argument) : Nat :=
  shape.takesChecker.toNat + (shape.wantsContext arguments).toNat + arguments.length

/-- Whether the number of values fits the parameters. -/
def fits (shape : Shape) (arguments : List Argument) : Bool :=
  if shape.isVariadic then decide (shape.params.length ≤ shape.supplied arguments + 1)
  else decide (shape.supplied arguments = shape.params.length)

/-- Whether the parameters are in order and the probe can report. -/
def isSound (shape : Shape) : Bool :=
  ascending (shape.params.map (·.kind)) &&
    (shape.returning != .nothing || shape.takesChecker)

/-- Checks a shape against a context and arguments. -/
def validate (shape : Shape) (kind : Kind) (context? : Option ContextId)
    (arguments : List Argument) : Except ConfigError Unit :=
  if !shape.isSound then .error (.invalidSignature kind.name shape.signature)
  else if shape.wantsContext arguments && context?.isNone then .error (.missingContext kind.name)
  else if !shape.fits arguments then
    .error (.argumentCount kind.name shape.signature shape.params.length (shape.supplied arguments))
  else
    match refused? 0 shape.params (arguments.drop (shape.forwardsContext arguments).toNat) with
    | some (position, param, argument) =>
        .error (.argumentType kind.name shape.signature position param.name argument.type.name)
    | none => .ok ()

end Shape

end PollingAssertions
