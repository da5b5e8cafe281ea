import PollingAssertions.Probe.Param
import PollingAssertions.Session.World
import PollingAssertions.Value.Render
import PollingAssertions.Value.TypeReading

/-!
# Parameters in scripts

A script names the parameters of a probe: the checker, a context, a type
that takes one argument, or `...` before a type that takes all that are
left. Two parameters of a user's own show what such parameters may do:
`Pair` takes two arguments where it looks as if it took one, and `Drain`
takes everything and then asks for more.

## Main definitions

* `Param.pair`, `Param.drain` — the two parameters.
* `Forwarded.ofName?`, `Param.ofName?` — what a name stands for.
* `ArgumentNote.ofDelivered` — what the log shows of an argument.
-/

namespace PollingAssertions

namespace Forwarded

/-- The name between `Arg<` and `>`, if the characters are such a name. -/
def wrappedName? : List Char → Option (List Char)
  | 'A' :: 'r' :: 'g' :: '<' :: rest =>
      if rest.getLast? = some '>' then some rest.dropLast else none
  | _ => none

/-- How a value is made for a parameter of the given name. -/
def ofName? (name : List Char) : Option Forwarded :=
  match wrappedName? name with
  | some inner => (Ty.ofChars? inner).map wrapped
  | none => (Ty.ofChars? name).map fun type => if type == .string then string else ofType type

end Forwarded

namespace Param

/-- Two numbers, taken for one argument by the checks. -/
def pair : Param where
  kind := .fixed
  name := "Pair"
  accepts argument := argument.type == .i32
  fetch := do
    let first? ← Source.next
    let second? ← Source.next
    match first?, second? with
    | some first, some second =>
        if first.type == .i32 && second.type == .i32 then
          return some (.custom [first, second] none false)
        else return none
    | _, _ => return none

/-- Everything that is left, then a context, then one more argument. -/
def drain : Param where
  kind := .variadic
  name := "Drain"
  accepts _ := true
  fetch := do
    let taken ← Source.rest
    let context? ← Source.takeContext
    let more? ← Source.next
    return some (.custom taken context? more?.isNone)

/-- The parameter of a name. -/
def ofName? (name : String) : Option Param :=
  match name.toList with
  | '.' :: '.' :: '.' :: rest => (Forwarded.ofName? rest).map Param.rest
  | cs =>
      match name with
      | "Checker" => some checker
      | "Context" => some context
      | "Pair" => some pair
      | "Drain" => some drain
      | _ => (Forwarded.ofName? cs).map fixed

end Param

namespace Argument

/-- The value of an argument as messages show it. -/
def valueText : Argument → String
  | value datum => datum.value.render
  | context _ => "Context"

end Argument

namespace Session

/-- The key under which probes look for a text in a context. -/
def boundKey : String := "key"

/-- The text that a context binds to `boundKey`. -/
def boundText? (contexts : Contexts) (c : ContextId) : Option String :=
  match contexts.value? c boundKey .string with
  | some (.text s) => some s
  | _ => none

/-- What the log shows of what a parameter was filled with. -/
def ArgumentNote.ofDelivered (contexts : Contexts) (kind : ParamKind) : Delivered → ArgumentNote
  | .checker _ => .checker
  | .context c => .context (boundText? contexts c)
  | .value v => .text v.render
  | .rest vs => .rest (Value.sequence vs).render
  | .custom taken context? exhausted =>
      match kind with
      | .variadic =>
          let bound? := context?.bind (boundText? contexts)
          .text ("Drain(" ++ toString taken.length ++ ", " ++
            bound?.elim "None" (fun s => "Some(" ++ Text.quote s ++ ")") ++ ", " ++
            toString exhausted ++ ")")
      | _ => .text ("Pair(" ++ Text.joined ", " (taken.map Argument.valueText) ++ ")")

end Session

end PollingAssertions
