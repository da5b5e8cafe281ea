import PollingAssertions.Part
import PollingAssertions.Value.Basic

/-!
# Contexts

Contexts form a forest. Each one knows its parent, may have a deadline, may
bind a value to a key and may name a progress attacher; it is done once it
has an error, and it never loses one. A context numbers its live children
so that an error can spread to them.

A context lasts as long as somebody needs it: whoever holds it, a context
derived from it, or the watcher of its deadline. One that nobody needs is
gone: nothing can reach it any more.

Deadlines are instants of a wall clock that is part of the forest. Reading
that clock takes a moment, so it never shows the same instant twice.

## Main definitions

* `Context`, `Contexts` — one context and the forest of all.
* `Contexts.lineage` — a context and its ancestors.
* `Contexts.present` — whether a context is still there.
* `HasContexts` — worlds with contexts.
-/

namespace PollingAssertions

/-- Why a context is done. -/
inductive ContextError where
  | cancelled
  | deadlineExceeded
deriving DecidableEq, Repr, Inhabited

namespace ContextError

/-- The message of an error. -/
def message : ContextError → String
  | cancelled => "context canceled"
  | deadlineExceeded => "context deadline exceeded"

/-- The name of an error. -/
def name : ContextError → String
  | cancelled => "Cancelled"
  | deadlineExceeded => "DeadlineExceeded"

end ContextError

/-- Contexts are numbered in the order in which they are made. -/
abbrev ContextId := Nat

/-- One context. -/
structure Context where
  parent? : Option ContextId
  /-- The instant at which the context is done at the latest. -/
  deadline? : Option Span
  /-- A key and the value bound to it. -/
  binding? : Option (String × Datum)
  /-- The progress attacher that the context brings along. -/
  attacher? : Option String
  /-- A watcher waits for the deadline. -/
  watched : Bool
  error? : Option ContextError
  /-- The contexts that take over an error of this one. -/
  children : List ContextId
  /-- Who is woken when the context is done. -/
  wakers : List String
deriving Repr, Inhabited

namespace Context

/-- A context that stands for nothing and never ends. -/
def background : Context := ⟨none, none, none, none, false, none, [], []⟩

/-- Whether the watcher of the context still waits. -/
def isGuarded (context : Context) : Bool := context.watched && context.error?.isNone

end Context

/-- The forest of contexts and its wall clock. -/
structure Contexts where
  contexts : Array Context
  /-- The contexts somebody holds, one entry for each holder. -/
  held : List ContextId
  /-- Everybody who was woken, oldest first, one entry for each time. -/
  woken : List String
  instant : Span
deriving Repr, Inhabited

namespace Contexts

/-- What the wall clock shows at first. It has been running for a day by
then, so a span of time that takes up the whole clock leads beyond it. -/
def firstInstant : Span := 86400 * Span.second

/-- No contexts. -/
def empty : Contexts := ⟨#[], [], [], firstInstant⟩

/-- The context of a number. -/
def at? (cs : Contexts) (c : ContextId) : Option Context := cs.contexts[c]?

/-- Replaces one context. -/
def replace (c : ContextId) (context : Context) (cs : Contexts) : Contexts :=
  { cs with contexts := cs.contexts.setIfInBounds c context }

/-- Changes one context. -/
def update (c : ContextId) (f : Context → Context) (cs : Contexts) : Contexts :=
  match cs.at? c with
  | some context => cs.replace c (f context)
  | none => cs

/-- A context and its ancestors, from the inside out. A parent is always
older than its children. -/
def lineage (cs : Contexts) (c : ContextId) : List ContextId :=
  match cs.at? c with
  | none => []
  | some context =>
      match context.parent? with
      | none => [c]
      | some p => if p < c then c :: cs.lineage p else [c]
termination_by c

/-- The contexts that last by themselves: those somebody holds and those
whose deadline is being watched. Here a watcher keeps its context until the
deadline. A real one wakes at least once a second and lets go of a context
that nobody holds any more, so a dropped context may be gone sooner than
this says; one that is held, and what it derives from, is there either way. -/
def anchors (cs : Contexts) : List ContextId :=
  cs.held ++ (List.range cs.contexts.size).filter fun c =>
    (cs.at? c).any Context.isGuarded

/-- Whether a context is still there. -/
def present (cs : Contexts) (c : ContextId) : Bool :=
  cs.anchors.any fun a => (cs.lineage a).contains c

/-- The error a context has been given. -/
def stored? (cs : Contexts) (c : ContextId) : Option ContextError :=
  (cs.at? c).bind (·.error?)

/-- The deadline of a context. -/
def deadline? (cs : Contexts) (c : ContextId) : Option Span :=
  (cs.at? c).bind (·.deadline?)

/-- Whether the deadline of a context has passed. -/
def expired (cs : Contexts) (c : ContextId) : Bool :=
  (cs.deadline? c).any fun deadline => decide (deadline ≤ cs.instant)

/-- The order of two deadlines; no deadline comes before any. -/
def compareDeadlines (cs : Contexts) (a b : ContextId) : Ordering :=
  match cs.deadline? a, cs.deadline? b with
  | none, none => .eq
  | none, some _ => .lt
  | some _, none => .gt
  | some d, some e => compare (d : Nat) e

/-- The value bound to a key, as the nearest context with this key binds it;
nothing if that value has another type. -/
def value? (cs : Contexts) (c : ContextId) (key : String) (type : Ty) : Option Value :=
  match (cs.lineage c).findSome? fun i =>
    ((cs.at? i).bind (·.binding?)).filter fun binding => binding.1 == key with
  | some (_, bound) => if bound.type == type then some bound.value else none
  | none => none

/-- The nearest progress attacher. -/
def attacher? (cs : Contexts) (c : ContextId) : Option String :=
  (cs.lineage c).findSome? fun i => (cs.at? i).bind (·.attacher?)

/-- How a context is shown. An instant has no text of its own. -/
def render (cs : Contexts) (c : ContextId) : String :=
  let optional (text : Option String) : String := text.elim "None" fun t => "Some(" ++ t ++ ")"
  "Context \x7b deadline: " ++ optional ((cs.deadline? c).map fun _ => "Instant") ++
    ", error: " ++ optional ((cs.stored? c).map ContextError.name) ++
    ", key: " ++ optional (((cs.at? c).bind (·.binding?)).map fun binding => Text.quote binding.1) ++
    ", .. \x7d"

/-- Gives up one hold on a context. -/
def release (c : ContextId) (cs : Contexts) : Contexts := { cs with held := cs.held.erase c }

/-- Holds a context once more. -/
def hold (c : ContextId) (cs : Contexts) : Contexts := { cs with held := c :: cs.held }

/-- How often somebody was woken. -/
def wakes (cs : Contexts) (waker : String) : Nat := cs.woken.count waker

end Contexts

/-- Worlds with contexts. -/
class HasContexts (σ : Type) where
  part : Part σ Contexts

instance : HasContexts Contexts := ⟨Part.whole⟩

end PollingAssertions
