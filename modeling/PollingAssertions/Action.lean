import PollingAssertions.StopSignal

/-!
# Actions

Probes, matchers, clocks and failure handlers act on a world, and each of
them may unwind instead of returning. An `Action` is a function of the
world that either returns a value or is left with a payload; the world it
leaves behind is kept in both cases, so what an action did before it
unwound stays done.

Nothing is assumed about the world here. What a part of the library needs
of it is stated by small classes; `ReasonLog` is the first one.

## Main definitions

* `Payload` — what an action can unwind with.
* `Action`, `Action.caught` — actions, and stopping an unwinding.
* `ReasonLog` — worlds that take note of deferred reasons.

## Main results

* `bind_ok`, `bind_error`, `bind_eq_ok_iff`, `bind_eq_error_iff` — a sequence
  goes on exactly after a return.
* `caught_ok`, `caught_error` — catching keeps the world.
-/

namespace PollingAssertions

/-- What an action unwinds with: a stop signal, the mark of a failed
expectation, or a message. -/
inductive Payload where
  | message (text : String)
  | stop (signal : StopSignal)
  | abort
deriving DecidableEq, Repr, Inhabited

/-- A function of the world that returns a value or unwinds. -/
abbrev Action (σ α : Type) := EStateM Payload σ α

namespace Action

variable {σ α β : Type}

/-- Unwinds with a payload. -/
def raise (payload : Payload) : Action σ α := throw payload

/-- Runs an action and returns its payload if it unwinds. -/
def caught (x : Action σ α) : Action σ (Except Payload α) := fun s =>
  match x s with
  | .ok a s' => .ok (.ok a) s'
  | .error payload s' => .ok (.error payload) s'

/-- Goes on after an action as if it had been caught. -/
def resume : Except Payload α → Action σ α
  | .ok a => pure a
  | .error payload => raise payload

theorem bind_ok {x : Action σ α} {f : α → Action σ β} {s s' : σ} {a : α}
    (h : x s = .ok a s') : (x >>= f) s = f a s' := by
  simp [bind, EStateM.bind, h]

theorem bind_error {x : Action σ α} {f : α → Action σ β} {s s' : σ} {payload : Payload}
    (h : x s = .error payload s') : (x >>= f) s = .error payload s' := by
  simp [bind, EStateM.bind, h]

theorem bind_eq_ok_iff {x : Action σ α} {f : α → Action σ β} {s t : σ} {b : β} :
    (x >>= f) s = .ok b t ↔ ∃ a u, x s = .ok a u ∧ f a u = .ok b t := by
  cases hx : x s with
  | ok a u =>
      rw [bind_ok hx]
      constructor
      · intro h
        exact ⟨a, u, rfl, h⟩
      · rintro ⟨_, _, heq, h⟩
        cases heq
        exact h
  | error payload u =>
      rw [bind_error hx]
      simp

theorem bind_eq_error_iff {x : Action σ α} {f : α → Action σ β} {s t : σ} {payload : Payload} :
    (x >>= f) s = .error payload t ↔
      x s = .error payload t ∨ ∃ a u, x s = .ok a u ∧ f a u = .error payload t := by
  cases hx : x s with
  | ok a u =>
      rw [bind_ok hx]
      constructor
      · intro h
        exact .inr ⟨a, u, rfl, h⟩
      · rintro (h | ⟨_, _, heq, h⟩)
        · cases h
        · cases heq
          exact h
  | error other u =>
      rw [bind_error hx]
      simp

theorem caught_ok {x : Action σ α} {s s' : σ} {a : α} (h : x s = .ok a s') :
    x.caught s = .ok (.ok a) s' := by
  simp [caught, h]

theorem caught_error {x : Action σ α} {s s' : σ} {payload : Payload}
    (h : x s = .error payload s') : x.caught s = .ok (.error payload) s' := by
  simp [caught, h]

end Action

/-- Worlds that are told of each deferred reason that is worked out. -/
class ReasonLog (σ : Type) where
  workedOut : String → σ → σ

namespace ReasonLog

variable {σ : Type} [ReasonLog σ]

/-- Works out deferred reasons, one after the other. -/
def ask (reasons : List String) : Action σ Unit :=
  modify fun s => reasons.foldl (fun s reason => workedOut reason s) s

/-- The reason of a stop signal, worked out if it is deferred. -/
def reasonOf (stop : StopSignal) : Action σ String := do
  ask stop.asked
  return stop.reason

end ReasonLog

end PollingAssertions
