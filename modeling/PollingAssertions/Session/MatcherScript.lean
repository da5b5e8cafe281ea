import PollingAssertions.Matcher.Channel
import PollingAssertions.Matcher.Combinator
import PollingAssertions.Matcher.Outcome
import PollingAssertions.Matcher.Value
import PollingAssertions.Session.World

/-!
# Matchers in scripts

A script says which matcher to make. Besides the matchers of the library
there are three of a user's own: one that cannot judge most texts, one that
answers by heart and logs every consultation, and one that is nothing but
the bearer of a judge of outcomes.

A matcher that remembers something is given a number when it is made, so
that a script gives a matcher with an empty memory each time.

## Main definitions

* `MatcherScript` — which matcher to make.
* `MatcherScript.make` — making it.
-/

namespace PollingAssertions.Session

/-- The predicates a script can name. -/
inductive Predicate where
  | always
  | never
  | even
  | positive
  | ascii
deriving DecidableEq, Repr

/-- Whether a value satisfies a predicate. -/
def Predicate.holds : Predicate → Value → Bool
  | always, _ => true
  | even, .integer n => n % 2 == 0
  | positive, .integer n => decide (0 < n)
  | ascii, .text s => s.toList.all fun c => decide (c.toNat < 128)
  | _, _ => false

/-- What a matcher that answers by heart says to a consultation. -/
inductive Reply where
  | verdict (b : Bool)
  | error (text : String)
  | raise (payload : Payload)
deriving Repr, Inhabited

/-- Which matcher to make. -/
inductive MatcherScript where
  | compared (relation : Relation) (other : Datum)
  | containsText (part : String)
  | satisfies (predicate : Predicate) (description : String)
  | isAbsent
  | isPresent
  | succeeds
  | failsWith (text : MatcherScript)
  | receives
  | closed
  | negation (member : MatcherScript)
  | allOf (members : List MatcherScript)
  | anyOf (members : List MatcherScript)
  /-- Judges two texts only. -/
  | selective
  /-- Answers by heart; the last reply is repeated for ever. -/
  | recited (name : String) (replies : List Reply) (hint? : Option String)
  /-- Brings a judge of outcomes along and judges nothing else. -/
  | bearer (outcome : MatcherScript)

namespace MatcherScript

/-- The text of a subject without quotes. -/
def bare (subject : Datum) : String := subject.value.plain

/-- A judge that knows two texts. -/
def selectiveJudge : Judge World Datum where
  verdict subject :=
    if bare subject = "match" then return .ok true
    else if bare subject = "no match" then return .ok false
    else return .error ⟨"tri-state matcher error"⟩
  failureText subject := return "positive: " ++ bare subject
  negatedText subject := return "negative: " ++ bare subject
  hint _ := return none

/-- The reply to a consultation, counted from zero. -/
def replyTo (replies : List Reply) (n : Nat) : Reply :=
  replies.getD (min n (replies.length - 1)) (.verdict false)

/-- A judge that answers by heart and logs every consultation. -/
def recitedJudge (counter : Nat) (name : String) (replies : List Reply) (hint? : Option String) :
    Judge World Datum where
  verdict _ := do
    modify (World.log (.consulted name "matches"))
    match replyTo replies (← modifyGet (World.count counter)) with
    | .verdict b => return .ok b
    | .error text => return .error ⟨text⟩
    | .raise payload => Action.raise payload
  failureText subject := do
    modify (World.log (.consulted name "failure_message"))
    ReasonLog.ask subject.value.asked
    return name ++ " positive " ++ subject.value.render
  negatedText subject := do
    modify (World.log (.consulted name "negated_failure_message"))
    ReasonLog.ask subject.value.asked
    return name ++ " negative " ++ subject.value.render
  hint _ := do
    modify (World.log (.consulted name "no_future_change"))
    return hint?

/-- A judge of nothing. -/
def bearerJudge : Judge World Datum where
  verdict _ := return .error ⟨"callback matcher applied to a value"⟩
  failureText _ := return "callback positive"
  negatedText _ := return "callback negative"
  hint _ := return none

/-- A matcher for subjects of one type: only a probe that returns nothing
is judged by its outcome. -/
def forType (type : Ty) (matcher : Matcher World Datum) : Matcher World Datum :=
  if type == .unit then matcher else matcher.toJudge.toMatcher

mutual

/-- Makes the matcher of a script, for subjects of the given type. -/
def make (type : Ty) : MatcherScript → StateM World (Matcher World Datum)
  | compared relation other => return (Judge.compared relation other).toMatcher
  | containsText part => return (Judge.containsText part).toMatcher
  | satisfies predicate description =>
      return (Judge.satisfies predicate.holds description).toMatcher
  | isAbsent => return Judge.isAbsent.toMatcher
  | isPresent => return Judge.isPresent.toMatcher
  | succeeds => return forType type Matcher.succeeds
  | failsWith text => do
      let judge ← make .string text
      return forType type (Matcher.failsWith judge.toJudge)
  | receives => do return (Judge.receives (← World.newObserver)).toMatcher
  | closed => return Judge.closed.toMatcher
  | negation member => do return (← make type member).toJudge.negation.toMatcher
  | allOf members => do return (Judge.allOf (← makeAll type members)).toMatcher
  | anyOf members => do return (Judge.anyOf (← makeAll type members)).toMatcher
  | selective => return selectiveJudge.toMatcher
  | recited name replies hint? => do
      return (recitedJudge (← World.newCounter) name replies hint?).toMatcher
  | bearer outcome => do
      let judge ← make .outcome outcome
      return { bearerJudge with callback := some (judge.toJudge.comap Datum.ofOutcome) }

/-- Makes the judges of several scripts. -/
def makeAll (type : Ty) : List MatcherScript → StateM World (List (Judge World Datum))
  | [] => return []
  | member :: members => do
      let matcher ← make type member
      let judges ← makeAll type members
      return matcher.toJudge :: judges

end

end MatcherScript

end PollingAssertions.Session
