import PollingAssertions.Action
import PollingAssertions.Context.Finish

/-!
# Clocks

A clock tells the time since its origin and pauses. A pause ends early once
a given context is done. Pausing may do whatever a clock does, unwinding
included; telling the time never unwinds.

A virtual clock does not wait: a pause moves it forward at once and is
written down, and nothing happens at all if the context is done. The wall
clock of the contexts can serve as a clock too; while it pauses, deadlines
pass.

## Main definitions

* `Clock` — a clock of a world.
* `VirtualClock` — virtual time and the pauses taken.
* `Clock.virtual`, `Clock.wall` — the two clocks.
-/

namespace PollingAssertions

/-- A source of time that can pause until a context is done. -/
structure Clock (σ : Type) where
  now : StateM σ Span
  sleep : Span → Option ContextId → Action σ Unit

/-- Virtual time and the pauses taken so far, latest first. -/
structure VirtualClock where
  now : Span
  sleeps : List Span
deriving Repr, Inhabited

namespace VirtualClock

/-- A clock that nobody has slept on. -/
def starting (now : Span) : VirtualClock := ⟨now, []⟩

/-- Moves time forward. -/
def advance (d : Span) (clock : VirtualClock) : VirtualClock :=
  { clock with now := clock.now.add d }

/-- Writes a pause down and moves time forward by it. -/
def sleep (d : Span) (clock : VirtualClock) : VirtualClock :=
  { clock.advance d with sleeps := d :: clock.sleeps }

end VirtualClock

/-- Worlds with a virtual clock. -/
class HasVirtualClock (σ : Type) where
  part : Part σ VirtualClock

instance : HasVirtualClock VirtualClock := ⟨Part.whole⟩

namespace Contexts

variable {σ : Type} [HasContexts σ]

/-- Asks in a world whether a context is done; no context never is. -/
def isDoneIn (context? : Option ContextId) : StateM σ Bool := fun s =>
  match context? with
  | some c =>
      let (done, contexts) := (HasContexts.part.get s).isDone c
      (done, HasContexts.part.set contexts s)
  | none => (false, s)

end Contexts

namespace Clock

variable {σ : Type} [HasContexts σ]

/-- The virtual clock of a world. -/
def virtual [HasVirtualClock σ] : Clock σ where
  now s := ((HasVirtualClock.part.get s).now, s)
  sleep d context? s :=
    match Contexts.isDoneIn context? s with
    | (true, s) => .ok () s
    | (false, s) => .ok () (HasVirtualClock.part.update (VirtualClock.sleep d) s)

/-- The wall clock of the contexts of a world. -/
def wall : Clock σ where
  now s :=
    let (now, contexts) := (HasContexts.part.get s).read
    (now, HasContexts.part.set contexts s)
  sleep d context? s :=
    match context? with
    | some c => .ok () (HasContexts.part.update (fun contexts => (contexts.wait c d).2) s)
    | none => .ok () (HasContexts.part.update (Contexts.pass d) s)

end Clock

end PollingAssertions
