import PollingAssertions.Matcher.Basic
import PollingAssertions.Value.Order

/-!
# Matchers for values

Comparing matchers differ in one `Relation`: the words for it and which
outcomes of a comparison satisfy it. Values that do not compare satisfy
none of them, so `not` has a meaning of its own for them.

## Main definitions

* `Relation` — equality and the four orders.
* `Judge.compared` — the subject stands in a relation to a value.
* `Judge.containsText`, `Judge.satisfies`, `Judge.isAbsent`,
  `Judge.isPresent` — matchers for one subject.
-/

namespace PollingAssertions

/-- A relation between two values and its words in messages. -/
structure Relation where
  words : String
  negatedWords : String
  /-- Which outcome of a comparison satisfies the relation. -/
  holds : Option Ordering → Bool

namespace Relation

/-- The words of a relation and of its negation, which has a `not` before
the same words. -/
def named (words : String) (holds : Option Ordering → Bool) : Relation :=
  ⟨words, "not " ++ words, holds⟩

/-- Equality. -/
def equal : Relation := named "to equal" (· == some .eq)

/-- The order "greater than". -/
def greater : Relation := named "to be >" (· == some .gt)

/-- The order "greater than or equal". -/
def greaterOrEqual : Relation := named "to be >=" fun o => o == some .gt || o == some .eq

/-- The order "less than". -/
def less : Relation := named "to be <" (· == some .lt)

/-- The order "less than or equal". -/
def lessOrEqual : Relation := named "to be <=" fun o => o == some .lt || o == some .eq

end Relation

/-- Whether the characters `part` occur in a row among the given ones. -/
def containsChars (part : List Char) : List Char → Bool
  | [] => part.isEmpty
  | c :: cs => part.isPrefixOf (c :: cs) || containsChars part cs

namespace Judge

variable {σ : Type} [ReasonLog σ]

/-- A judge whose verdict depends on the subject alone and whose texts state
an expectation of it. -/
def ofSubject {α : Type} [Subject α] (holds : α → Bool) (words negatedWords : String) :
    Judge σ α where
  verdict subject := pure (.ok (holds subject))
  failureText subject := expectationOf subject words
  negatedText subject := expectationOf subject negatedWords
  hint _ := pure none

/-- The subject stands in a relation to `other`. -/
def compared (relation : Relation) (other : Datum) : Judge σ Datum where
  verdict subject := pure (.ok (relation.holds (subject.value.compare? other.value)))
  failureText subject := expectation subject relation.words other
  negatedText subject := expectation subject relation.negatedWords other
  hint _ := pure none

/-- The text of a subject without the pointer that holds it. -/
def bareText (s : String) : Datum := ⟨.text, .text s⟩

/-- The subject is a text that contains `part`. -/
def containsText (part : String) : Judge σ Datum where
  verdict subject :=
    match subject.value with
    | .text s => pure (.ok (containsChars part.toList s.toList))
    | _ => pure (.ok false)
  failureText subject :=
    expectation { subject with type := .text } "to contain substring" (bareText part)
  negatedText subject :=
    expectation { subject with type := .text } "not to contain substring" (bareText part)
  hint _ := pure none

/-- The subject satisfies a predicate that has a description. -/
def satisfies (predicate : Value → Bool) (description : String) : Judge σ Datum :=
  ofSubject (fun subject => predicate subject.value) ("to " ++ description)
    ("not to " ++ description)

/-- The subject is an absent option. -/
def isAbsent : Judge σ Datum :=
  ofSubject (fun subject => match subject.value with | .absent => true | _ => false)
    "to be None" "not to be None"

/-- The subject is a present option. -/
def isPresent : Judge σ Datum :=
  ofSubject (fun subject => match subject.value with | .present _ => true | _ => false)
    "to be Some" "not to be Some"

end Judge

end PollingAssertions
