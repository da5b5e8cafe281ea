import PollingAssertions.Checker.Failure
import PollingAssertions.Matcher.Basic
import PollingAssertions.Part

/-!
# Checkers

A probe makes expectations of its own through a checker. A checker keeps
the first failure since it was last cleared; every failure, kept or not,
unwinds with the mark of a failed expectation.

## Main definitions

* `Checkers` — numbered checkers and what they keep.
* `Checker.fail`, `Checker.expect` — failing outright, and expecting
  something of a subject.
* `HasCheckers` — worlds with checkers.

## Main results

* `kept?_note` — the first failure is kept.
-/

namespace PollingAssertions

/-- Checkers are numbered in the order in which they are made. -/
abbrev CheckerId := Nat

/-- The failure that each checker keeps. -/
structure Checkers where
  kept : Array (Option CallbackFailure)
deriving Repr, Inhabited

namespace Checkers

/-- No checkers. -/
def empty : Checkers := ⟨#[]⟩

/-- Makes a checker that keeps nothing. -/
def add (cs : Checkers) : CheckerId × Checkers := (cs.kept.size, ⟨cs.kept.push none⟩)

/-- The failure that a checker keeps. -/
def kept? (checker : CheckerId) (cs : Checkers) : Option CallbackFailure :=
  (cs.kept[checker]?).join

/-- Tells a checker of a failure; it keeps the first one. -/
def note (checker : CheckerId) (failure : CallbackFailure) (cs : Checkers) : Checkers :=
  ⟨cs.kept.setIfInBounds checker ((cs.kept? checker).or (some failure))⟩

/-- Clears a checker. -/
def clear (checker : CheckerId) (cs : Checkers) : Checkers :=
  ⟨cs.kept.setIfInBounds checker none⟩

theorem kept?_note {cs : Checkers} {checker : CheckerId} {failure : CallbackFailure}
    (h : checker < cs.kept.size) :
    (cs.note checker failure).kept? checker = (cs.kept? checker).or (some failure) := by
  simp [kept?, note, h]

theorem kept?_clear (cs : Checkers) (checker : CheckerId) :
    (cs.clear checker).kept? checker = none := by
  by_cases h : checker < cs.kept.size <;> simp [kept?, clear, h]

end Checkers

/-- Worlds with checkers. -/
class HasCheckers (σ : Type) where
  part : Part σ Checkers

instance : HasCheckers Checkers := ⟨Part.whole⟩

/-- A place in a source text. -/
structure Site where
  file : String
  line : Nat
deriving DecidableEq, Repr, Inhabited

namespace Checker

variable {σ : Type} [HasCheckers σ]

/-- Makes a checker. -/
def make : StateM σ CheckerId := fun s =>
  let (checker, checkers) := (HasCheckers.part.get s).add
  (checker, HasCheckers.part.set checkers s)

/-- The failure that a checker keeps. -/
def kept? (checker : CheckerId) (s : σ) : Option CallbackFailure :=
  (HasCheckers.part.get s).kept? checker

/-- Clears a checker. -/
def clear (checker : CheckerId) (s : σ) : σ :=
  HasCheckers.part.update (Checkers.clear checker) s

/-- Fails with a message. -/
def fail (checker : CheckerId) (site : Site) (message : String) : Action σ Unit := do
  modify (HasCheckers.part.update (Checkers.note checker ⟨message, site.file, site.line⟩))
  Action.raise .abort

/-- Expects a subject to match, or not to match; fails otherwise. -/
def expect {α : Type} (checker : CheckerId) (site : Site) (judge : Judge σ α) (positive : Bool)
    (subject : α) : Action σ Unit := do
  match ← judge.verdict subject with
  | .ok verdict =>
      if verdict = positive then return ()
      else fail checker site (← judge.textFor positive subject)
  | .error e => fail checker site e.message

end Checker

end PollingAssertions
