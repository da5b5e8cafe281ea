import PollingAssertions.Matcher.Basic

/-!
# Combining matchers

`negation` flips a verdict and swaps the two texts. `allOf` and `anyOf`
consult their members in order and stop at the first decisive one: for
`allOf` the first that does not simply match, for `anyOf` the first that
does not simply fail to match. A member that cannot judge is decisive for
both.

To explain a verdict the members are consulted once more. `allOf` explains
itself by the first member that does not match; `anyOf`, when it should
not have matched, by the first member that does. Only `allOf` passes a
hint on, namely that of the member which decides it.

## Main definitions

* `Judge.negation`, `Judge.allOf`, `Judge.anyOf` — the combinations.
* `Judge.firstWith` — the first member whose verdict is of a given kind.
-/

namespace PollingAssertions

namespace Judge

variable {σ α : Type}

/-- The opposite verdict. -/
def negation (judge : Judge σ α) : Judge σ α where
  verdict subject := do
    let verdict ← judge.verdict subject
    return verdict.map (!·)
  failureText subject := judge.negatedText subject
  negatedText subject := judge.failureText subject
  hint _ := pure none

/-- Consults judges in order until one does not say `expected`; the verdict
is what that one says, or `expected` if there is none. -/
def consultWhile (expected : Bool) (subject : α) : List (Judge σ α) → Action σ (Except MatchError Bool)
  | [] => pure (.ok expected)
  | judge :: others => do
      match ← judge.verdict subject with
      | .ok verdict =>
          if verdict = expected then consultWhile expected subject others else return .ok verdict
      | .error e => return .error e

/-- Consults judges in order and gives the first whose verdict is wanted. -/
def firstWith (wanted : Except MatchError Bool → Bool) (subject : α) :
    List (Judge σ α) → Action σ (Option (Judge σ α))
  | [] => pure none
  | judge :: others => do
      if wanted (← judge.verdict subject) then return some judge
      else firstWith wanted subject others

/-- Whether a verdict says that the subject matches. -/
def matched : Except MatchError Bool → Bool
  | .ok true => true
  | _ => false

/-- The failure texts of all judges. -/
def failureTexts (subject : α) : List (Judge σ α) → Action σ (List String)
  | [] => pure []
  | judge :: others => do
      let text ← judge.failureText subject
      let texts ← failureTexts subject others
      return text :: texts

variable [ReasonLog σ] [Subject α]

/-- All judges match. -/
def allOf (judges : List (Judge σ α)) : Judge σ α where
  verdict subject := consultWhile true subject judges
  failureText subject := do
    match ← firstWith (fun v => !matched v) subject judges with
    | some judge => judge.failureText subject
    | none => expectationOf subject "to satisfy all matchers"
  negatedText subject :=
    expectationOf subject ("not to satisfy all of " ++ toString judges.length ++ " matchers")
  hint subject := do
    match ← firstWith (fun v => !matched v) subject judges with
    | some judge => judge.hint subject
    | none => return none

/-- At least one judge matches. -/
def anyOf (judges : List (Judge σ α)) : Judge σ α where
  verdict subject := consultWhile false subject judges
  failureText subject := do
    let reasons ← failureTexts subject judges
    let head ← expectationOf subject "to satisfy at least one of:"
    return head ++ "\n" ++ Text.joined "\nor\n" reasons
  negatedText subject := do
    match ← firstWith matched subject judges with
    | some judge => judge.negatedText subject
    | none => expectationOf subject "not to satisfy any matcher"
  hint _ := pure none

end Judge

end PollingAssertions
