import PollingAssertions.Context.Basic

/-!
# The end of a context

A context is done by being cancelled or by passing its deadline. It then
wakes everybody who waits for it and hands its error on to the children
that are still there and not yet done, and so on downwards; no context is
ever given a second error. A passed deadline is noticed by whoever asks,
or by the watcher of the deadline when the wall clock moves.

## Main definitions

* `Contexts.finish` — gives an error to a context and what derives from it.
* `Contexts.cancel`, `Contexts.error`, `Contexts.pollDone` — cancelling a
  context, asking for its error, waiting for it with a waker.
* `Contexts.pass`, `Contexts.wait` — time passes, with or without waiting
  for a context.
-/

namespace PollingAssertions.Contexts

/-- Gives an error to one context: it forgets its children and its wakers,
and these are woken. -/
def settle (e : ContextError) (c : ContextId) (context : Context) (cs : Contexts) : Contexts :=
  { cs.replace c { context with error? := some e, children := [], wakers := [] } with
    woken := cs.woken ++ context.wakers }

/-- How many contexts have no error. -/
def unsettled (cs : Contexts) : Nat := cs.contexts.countP (·.error?.isNone)

theorem unsettled_settle {e : ContextError} {c : ContextId} {context : Context} {cs : Contexts}
    (found : cs.at? c = some context) (undone : context.error? = none) :
    (cs.settle e c context).unsettled < cs.unsettled := by
  obtain ⟨inRange, rfl⟩ := Array.getElem?_eq_some_iff.1 found
  have positive : 0 < cs.contexts.countP (·.error?.isNone) :=
    Array.countP_pos_iff.2 ⟨_, Array.getElem_mem inRange, by simp [undone]⟩
  simp only [unsettled, settle, replace, Array.setIfInBounds, inRange, dite_true, Array.countP_set,
    undone, Option.isNone_none, Option.isNone_some, if_true, Bool.false_eq_true, if_false]
  omega

/-- Gives an error to the pending contexts and to all that derive from them,
as far as they are there and have none. -/
def spread (e : ContextError) (there : ContextId → Bool) (cs : Contexts) :
    List ContextId → Contexts
  | [] => cs
  | c :: pending =>
      match _found : cs.at? c with
      | none => cs.spread e there pending
      | some context =>
          if _open : context.error? = none ∧ there c = true then
            (cs.settle e c context).spread e there (context.children ++ pending)
          else cs.spread e there pending
termination_by pending => (cs.unsettled, pending.length)
decreasing_by
  · exact Prod.Lex.right _ (by simp)
  · exact Prod.Lex.left _ _ (unsettled_settle _found _open.1)
  · exact Prod.Lex.right _ (by simp)

/-- Gives an error to a context and to all that derive from it. -/
def finish (e : ContextError) (c : ContextId) (cs : Contexts) : Contexts :=
  cs.spread e cs.present [c]

/-- Cancels a context. -/
def cancel (c : ContextId) (cs : Contexts) : Contexts := cs.finish .cancelled c

/-- Asks why a context is done; a passed deadline is noticed. -/
def error (c : ContextId) (cs : Contexts) : Option ContextError × Contexts :=
  match cs.stored? c with
  | some e => (some e, cs)
  | none =>
      if cs.expired c then
        let cs := cs.finish .deadlineExceeded c
        (cs.stored? c, cs)
      else (none, cs)

/-- Asks whether a context is done. -/
def isDone (c : ContextId) (cs : Contexts) : Bool × Contexts :=
  let (e?, cs) := cs.error c
  (e?.isSome, cs)

/-- Waits for a context with a waker: answers with its error, or registers
the waker unless it is registered already. -/
def pollDone (c : ContextId) (waker : String) (cs : Contexts) : Option ContextError × Contexts :=
  match cs.error c with
  | (some e, cs) => (some e, cs)
  | (none, cs) =>
      (none, cs.update c fun context =>
        if context.wakers.contains waker then context
        else { context with wakers := context.wakers ++ [waker] })

/-- The watchers whose deadline has passed finish their contexts. -/
def expire (cs : Contexts) : Contexts :=
  ((List.range cs.contexts.size).filter fun c =>
    (cs.at? c).any Context.isGuarded && cs.expired c).foldl
      (fun cs c => cs.finish .deadlineExceeded c) cs

/-- Time passes. -/
def pass (d : Span) (cs : Contexts) : Contexts :=
  { cs with instant := cs.instant.add d }.expire

/-- Time passes until an instant, if that is still to come. -/
def passUntil (instant : Span) (cs : Contexts) : Contexts := cs.pass (instant.sub cs.instant)

/-- How long reading the wall clock takes. -/
def moment : Span := Span.microsecond

/-- Reads the wall clock. -/
def read (cs : Contexts) : Span × Contexts :=
  (cs.instant, { cs with instant := cs.instant.add moment })

/-- The instants that a deadline can name end here. -/
def horizon : Span := Nat.pow 2 63 * Span.second

/-- The instant after a span of time, if it can be named. -/
def after? (start d : Span) : Option Span :=
  if start + d < horizon then some (start + d) else none

/-- The earlier of two instants, where none is later than any. -/
def earlier : Option Span → Option Span → Option Span
  | none, b => b
  | a, none => a
  | some a, some b => some (min a b)

/-- Waits until a context is done, at most until an instant. Without such an
instant and without a deadline there is nothing to wait for. -/
def waitUntil (c : ContextId) (until? : Option Span) (cs : Contexts) : Bool × Contexts :=
  match cs.isDone c with
  | (true, cs) => (true, cs)
  | (false, cs) =>
      match earlier until? (cs.deadline? c) with
      | some instant => (cs.passUntil instant).isDone c
      | none => (false, cs)

/-- Waits until a context is done, for a limited time. -/
def wait (c : ContextId) (d : Span) (cs : Contexts) : Bool × Contexts :=
  cs.waitUntil c (after? cs.instant d)

/-- Waits like `wait` while somebody else cancels a context after a while;
the answer is given once that has happened. -/
def waitWhileCancelled (c : ContextId) (d : Span) (other : ContextId) (delay : Span)
    (cs : Contexts) : Bool × Contexts :=
  let start := cs.instant
  let cancelledAt := start + delay
  match cs.waitUntil c (earlier (after? start d) (some cancelledAt)) with
  | (done, cs) =>
      if done || decide (start + d < cancelledAt) then
        (done, (cs.passUntil cancelledAt).cancel other)
      else (cs.cancel other).waitUntil c (after? start d)

end PollingAssertions.Contexts
