import PollingAssertions.Action
import PollingAssertions.Value.Render

/-!
# Matchers

A matcher answers four questions about a subject: does it match, why not,
why did it unexpectedly, and can the answer still change. It may be unable
to judge the first one. Each answer is an action, so a matcher may keep a
memory in the world, and asking it twice need not give the same answer.

A probe that returns nothing is judged by its outcome. A matcher for such
a probe can bring a second judge along for that: its `callback`.

A direct assertion consults a matcher once, without polling, and unwinds
with a message unless the subject matches.

## Main definitions

* `Judge`, `Matcher` — the four questions, and the judge of outcomes.
* `Subject` — what messages show of a subject.
* `Judge.require` — the direct assertion.
* `expectation`, `expectationOf` — the usual shape of a failure text.
-/

namespace PollingAssertions

/-- Why a matcher cannot judge a subject. -/
structure MatchError where
  message : String
deriving DecidableEq, Repr, Inhabited

/-- The four questions a matcher answers about a subject. -/
structure Judge (σ α : Type) where
  /-- Does the subject match? -/
  verdict : α → Action σ (Except MatchError Bool)
  /-- Why the subject does not match. -/
  failureText : α → Action σ String
  /-- Why it is wrong that the subject matches. -/
  negatedText : α → Action σ String
  /-- Why the verdict can never change again, if it cannot. -/
  hint : α → Action σ (Option String)

/-- A judge of subjects that may bring along a judge of outcomes. -/
structure Matcher (σ α : Type) extends Judge σ α where
  callback : Option (Judge σ CallbackOutcome)

namespace Judge

variable {σ α β : Type}

/-- Judges a subject by something it contains. -/
def comap (f : β → α) (judge : Judge σ α) : Judge σ β where
  verdict b := judge.verdict (f b)
  failureText b := judge.failureText (f b)
  negatedText b := judge.negatedText (f b)
  hint b := judge.hint (f b)

/-- A matcher that judges subjects only. -/
def toMatcher (judge : Judge σ α) : Matcher σ α := { judge with callback := none }

/-- The text for a wrong verdict in either direction. -/
def textFor (judge : Judge σ α) (positive : Bool) (subject : α) : Action σ String :=
  if positive then judge.failureText subject else judge.negatedText subject

/-- How the message of a direct assertion begins. -/
def requirement : Option String → String
  | none => "assertion failed:\n"
  | some note => "assertion failed: " ++ note ++ "\n"

/-- Unwinds unless the subject matches. -/
def require (judge : Judge σ α) (note : Option String) (subject : α) : Action σ Unit := do
  match ← judge.verdict subject with
  | .ok true => return ()
  | .ok false => do
      let text ← judge.failureText subject
      Action.raise (.message (requirement note ++ text))
  | .error e => Action.raise (.message (requirement note ++ "Error: " ++ e.message))

end Judge

/-- What messages show of a subject. -/
class Subject (α : Type) where
  /-- The subject with the name of its type. -/
  object : α → String
  /-- The deferred reasons that showing the subject works out. -/
  asked : α → List String

instance : Subject Datum where
  object := Datum.object
  asked d := d.value.asked

instance : Subject CallbackOutcome where
  object o := (Datum.ofOutcome o).object
  asked _ := []

section Texts

variable {σ α : Type} [ReasonLog σ] [Subject α]

/-- The margin before a subject in a message. -/
def indent : String := "    "

/-- "Expected this subject to stand in this relation." -/
def expectationOf (subject : α) (relation : String) : Action σ String := do
  ReasonLog.ask (Subject.asked subject)
  return "Expected\n" ++ indent ++ Subject.object subject ++ "\n" ++ relation

/-- "Expected this subject to stand in this relation to that one." -/
def expectation (subject : α) (relation : String) (other : α) : Action σ String := do
  ReasonLog.ask (Subject.asked subject ++ Subject.asked other)
  return "Expected\n" ++ indent ++ Subject.object subject ++ "\n" ++ relation ++ "\n" ++
    indent ++ Subject.object other

end Texts

end PollingAssertions
