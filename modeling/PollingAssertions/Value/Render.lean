import PollingAssertions.Number.Shortest
import PollingAssertions.Value.Basic

/-!
# Values inside messages

A message shows a value together with the name of its type,
`<Option<u8>>: Some(3)`. Texts are quoted, collections keep their order,
and a pointer is shown as what it points to.

Showing a stop signal asks for its reason. `Value.asked` lists the deferred
reasons that showing a value works out, in the order of their appearance,
so that whoever builds a message can account for them.

## Main definitions

* `Value.render`, `Value.asked` — a value inside a message, and the deferred
  reasons it takes.
* `Value.plain`, `Value.plainAsked` — the same for a value that is the
  message itself, such as the error of a result.
* `Datum.object` — a value with the name of its type.
-/

namespace PollingAssertions

namespace Value

open Text (joined)

mutual

/-- A value inside a message. -/
def render : Value → String
  | integer n => toString n
  | float form x => x.text form
  | boolean b => toString b
  | character c => Text.quoteChar c
  | unit => "()"
  | .text s => Text.quote s
  | span d => Span.text d
  | absent => "None"
  | present v => "Some(" ++ v.render ++ ")"
  | ok v => "Ok(" ++ v.render ++ ")"
  | error v => "Err(" ++ v.render ++ ")"
  | sequence members => "[" ++ joined ", " (renderAll members) ++ "]"
  | set members => "\x7b" ++ joined ", " (renderAll members) ++ "\x7d"
  | map entries => "\x7b" ++ joined ", " (renderEntries entries) ++ "\x7d"
  | tuple members =>
      "(" ++ joined ", " (renderAll members) ++ (if members.length = 1 then ",)" else ")")
  | labelled name parts => name ++ "(" ++ joined ", " (renderAll parts) ++ ")"
  | record name fields => name ++ " \x7b " ++ joined ", " (renderFields fields) ++ " \x7d"
  | stop signal => signal.render
  | outcome o => o.render
  | receiver _ => "Receiver \x7b .. \x7d"

/-- The texts of several values. -/
def renderAll : List Value → List String
  | [] => []
  | v :: vs => v.render :: renderAll vs

/-- The texts of the entries of a map. -/
def renderEntries : List (Value × Value) → List String
  | [] => []
  | (k, v) :: entries => (k.render ++ ": " ++ v.render) :: renderEntries entries

/-- The texts of named parts. -/
def renderFields : List (String × Value) → List String
  | [] => []
  | (name, v) :: fields => (name ++ ": " ++ v.render) :: renderFields fields

end

mutual

/-- The deferred reasons that showing a value works out. -/
def asked : Value → List String
  | present v | ok v | error v => v.asked
  | sequence members | set members | tuple members | labelled _ members => askedAll members
  | map entries => askedEntries entries
  | record _ fields => askedFields fields
  | stop signal => signal.asked
  | _ => []

/-- The deferred reasons of several values. -/
def askedAll : List Value → List String
  | [] => []
  | v :: vs => v.asked ++ askedAll vs

/-- The deferred reasons of the entries of a map. -/
def askedEntries : List (Value × Value) → List String
  | [] => []
  | (k, v) :: entries => k.asked ++ v.asked ++ askedEntries entries

/-- The deferred reasons of named parts. -/
def askedFields : List (String × Value) → List String
  | [] => []
  | (_, v) :: fields => v.asked ++ askedFields fields

end

/-- A value that is a message of its own: text without quotes, a signal by
its reason, a failure by its report. -/
def plain : Value → String
  | .text s => s
  | character c => c.toString
  | stop signal => signal.reason
  | v => v.render

/-- The deferred reasons that `plain` works out. -/
def plainAsked : Value → List String
  | stop signal => signal.asked
  | v => v.asked

end Value

namespace Datum

/-- A value with the name of its type. -/
def object (d : Datum) : String := "<" ++ d.type.name ++ ">: " ++ d.value.render

end Datum

end PollingAssertions
