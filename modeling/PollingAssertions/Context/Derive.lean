import PollingAssertions.Context.Finish

/-!
# Deriving contexts

A derived context has the deadline of its parent unless it is given an
earlier one. If the parent is done, the new context is done at once and for
the same reason; otherwise it is entered among the children of its parent,
and children that are gone are struck off.

## Main definitions

* `Derivation` — what a derived context adds to its parent.
* `Contexts.background`, `Contexts.derive` — making contexts.
-/

namespace PollingAssertions

/-- What a derived context adds to its parent. -/
inductive Derivation where
  | cancellable
  /-- Done after a span of time, counted from now. -/
  | timeout (d : Span)
  /-- Done at an instant. -/
  | deadline (instant : Span)
  | value (key : String) (bound : Datum)
  | attacher (name : String)
deriving Repr

namespace Contexts

/-- Adds a context, which is then held once, and gives its number. -/
def add (context : Context) (cs : Contexts) : ContextId × Contexts :=
  (cs.contexts.size,
    { cs with contexts := cs.contexts.push context, held := cs.contexts.size :: cs.held })

/-- Makes a context without a parent. -/
def background (cs : Contexts) : ContextId × Contexts := cs.add Context.background

/-- Enters a child among the children of its parent. -/
def enter (parent child : ContextId) (cs : Contexts) : Contexts :=
  cs.update parent fun context =>
    { context with children := context.children.filter cs.present ++ [child] }

/-- Makes a context with a parent. -/
def addChild (parent : ContextId) (configure : Context → Context) (cs : Contexts) :
    ContextId × Contexts :=
  let (c, cs) := cs.add (configure
    { Context.background with parent? := some parent, deadline? := cs.deadline? parent })
  match cs.stored? parent with
  | some e => (c, cs.finish e c)
  | none => (c, cs.enter parent c)

/-- The deadline of a context derived from one with the deadline `own`. -/
def effective (own : Option Span) (requested : Span) : Span :=
  match own with
  | some d => if d < requested then d else requested
  | none => requested

/-- Makes a context that is done at an instant. -/
def addDeadline (parent : ContextId) (instant : Span) (cs : Contexts) : ContextId × Contexts :=
  cs.addChild parent fun context =>
    { context with deadline? := some (effective context.deadline? instant), watched := true }

/-- Derives a context. An instant too far away to be named is no deadline. -/
def derive (parent : ContextId) : Derivation → Contexts → ContextId × Contexts
  | .cancellable, cs => cs.addChild parent id
  | .timeout d, cs =>
      let (now, cs) := cs.read
      match after? now d with
      | some instant => cs.addDeadline parent instant
      | none => cs.addChild parent id
  | .deadline instant, cs => cs.addDeadline parent instant
  | .value key bound, cs =>
      cs.addChild parent fun context => { context with binding? := some (key, bound) }
  | .attacher name, cs =>
      cs.addChild parent fun context => { context with attacher? := some name }

end Contexts

end PollingAssertions
