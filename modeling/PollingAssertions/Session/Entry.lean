import PollingAssertions.Action
import PollingAssertions.Polling.Report

/-!
# Log entries

A session keeps a log of what happens inside probes and matchers: which
arguments a probe was given, which matcher was consulted for what, when a
deferred text was worked out, and what was caught. An assertion that runs
inside a probe leaves a single entry, with its own log inside.

## Main definitions

* `Entry` — the entries.
* `AssertionRecord` — what is known of an assertion once it is concluded.
* `runLengths` — equal neighbours counted together.
-/

namespace PollingAssertions.Session

/-- An argument as the log shows it. -/
inductive ArgumentNote where
  | checker
  /-- A context, by what it binds to `key`. -/
  | context (bound? : Option String)
  | rest (text : String)
  | text (text : String)
deriving DecidableEq, Repr, Inhabited

/-- The time that an assertion on a virtual clock took. -/
structure Timing where
  now : Span
  /-- The pauses, equal neighbours counted together. -/
  sleeps : List (Span × Nat)
deriving DecidableEq, Repr, Inhabited

/-- An entry of the log. -/
inductive Entry where
  /-- A deferred reason was worked out. -/
  | rendered (reason : String)
  /-- A deferred description was worked out. -/
  | described (text : String)
  /-- A matcher was consulted. -/
  | consulted (matcher call : String)
  | called (arguments : List ArgumentNote)
  /-- The failure that a checker keeps, as a report. -/
  | failure (report? : Option String)
  | caught (payload : Payload)
  /-- Something a script wrote, in a notation of its own. -/
  | noted (note : String)
  /-- What a progress attacher says, and how often it was used. -/
  | progress (report? : Option String) (attached detached : Nat)
  /-- How an assertion is shown. -/
  | shown (text : String)
  /-- An assertion that ran inside a probe. -/
  | nested (ended : Except Payload Bool) (calls : Nat) (failures : List Failure)
      (timing? : Option Timing) (log : List Entry)
deriving Inhabited

/-- A concluded assertion. -/
structure AssertionRecord where
  /-- Whether it holds, or with what it unwound. -/
  ended : Except Payload Bool
  /-- How often the probe was called. -/
  calls : Nat
  failures : List Failure
  /-- The time it took, on a virtual clock. -/
  timing? : Option Timing
  log : List Entry
deriving Inhabited

/-- The entry of an assertion that ran inside a probe. -/
def AssertionRecord.toEntry (record : AssertionRecord) : Entry :=
  .nested record.ended record.calls record.failures record.timing? record.log

/-- Puts one more pause in front of runs of equal pauses. -/
def addRun (runs : List (Span × Nat)) (d : Span) : List (Span × Nat) :=
  match runs with
  | (e, n) :: others => if d = e then (e, n + 1) :: others else (d, 1) :: (e, n) :: others
  | [] => [(d, 1)]

/-- Counts equal neighbours together. The pauses are given latest first, and
their runs come out oldest first. -/
def runLengths (latestFirst : List Span) : List (Span × Nat) := latestFirst.foldl addRun []

end PollingAssertions.Session
