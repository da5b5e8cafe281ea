import PollingAssertions.Polling.Evaluation

/-!
# The polling loop

A run makes one attempt at once and then one after each pause, until it is
decided. It is cancelled when its context is done, which is looked at
before each attempt, after it, and after each pause. An *eventually* run
passes with the first attempt that passes, and fails with a stop signal, a
hint, or when its time is over. A *consistently* run fails with the first
attempt that does not pass, and passes with a stop signal or when its time
is over. A raised stop signal leaves the verdict to the attempt before.

The loop is written against its `Surroundings`: how to tell the time, to
pause, to see whether the context is done, to make an attempt and to publish
a reason. Every answer the run gets from there is entered in its journal, and
so is the beginning of each attempt.

## Main definitions

* `Run`, `Ending` — a run between two steps, and how it ends.
* `Polling` — steps of a run.
* `Polling.round`, `Polling.rounds` — one round of the loop, and several.

## Main results

* `rounds_ended` — a run that has ended ends the same way if more rounds
  are allowed.
-/

namespace PollingAssertions

/-- How an assertion failed. -/
inductive Termination where
  | timedOut
  | cancelled
  | failed
  /-- A stop signal gave this reason. -/
  | stopped (reason : String)
  | noFutureChange
deriving DecidableEq, Repr, Inhabited

/-- What a run is told at its start. -/
structure Plan where
  kind : Kind
  timeout : Span
  interval : Span
deriving DecidableEq, Repr, Inhabited

/-- What a run deals with. -/
structure Surroundings (σ : Type) where
  now : StateM σ Span
  /-- Whether the context of the run is done. -/
  cancelled : StateM σ Bool
  sleep : Span → Action σ Unit
  /-- Makes an attempt and judges it. -/
  attempt : Action σ (Except ConfigError Judgement)
  publish : String → σ → σ

/-- What happens in a run. -/
inductive Event where
  /-- The context was looked at, and this is whether it was done. -/
  | looked (done : Bool)
  /-- An attempt was begun. -/
  | began
  /-- The attempt came to its end and was judged. -/
  | attempted (judgement : Judgement)
  /-- A stop signal was asked for its reason. -/
  | reasoned (stop : StopSignal)
  /-- So much time has passed since the start. -/
  | elapsed (d : Span)
  /-- A pause is over. -/
  | paused (d : Span)
deriving DecidableEq, Repr

/-- The verdict on an attempt. -/
structure Verdict where
  passed : Bool
  reason : String
deriving DecidableEq, Repr, Inhabited

/-- A run between two steps. -/
structure Run (σ : Type) where
  world : σ
  started : Span
  /-- The verdict on the last attempt that was judged. -/
  verdict? : Option Verdict
  /-- What has happened in the run, latest first. -/
  journal : List Event

/-- How a run ends. -/
inductive Ending where
  | passed
  | failed (termination : Termination) (reason : String) (elapsed : Span)
  /-- A parameter of the probe could not be filled. -/
  | refused (e : ConfigError)
  /-- Something unwound that the run does not stop. -/
  | escaped (payload : Payload)
deriving DecidableEq, Repr

/-- A step of a run: it goes on with a value, or the run ends. -/
abbrev Polling (σ α : Type) := EStateM Ending (Run σ) α

/-- The start of a run. -/
def Run.starting {σ : Type} (started : Span) (world : σ) : Run σ := ⟨world, started, none, []⟩

namespace Polling

variable {σ α : Type}

/-- Enters something in the journal. -/
def enter (event : Event) : Polling σ Unit :=
  modify fun run => { run with journal := event :: run.journal }

/-- Asks the world something. -/
def consult (x : StateM σ α) : Polling σ α := fun run =>
  let (a, world) := x run.world
  .ok a { run with world }

/-- Acts on the world; unwinding ends the run. -/
def perform (x : Action σ α) : Polling σ α := fun run =>
  match x run.world with
  | .ok a world => .ok a { run with world }
  | .error payload world => .error (.escaped payload) { run with world }

/-- The reason of the last verdict, empty before the first one. -/
def lastReason : Polling σ String := do return (← get).verdict?.elim "" (·.reason)

section

variable (plan : Plan) (around : Surroundings σ)

/-- The time since the start. -/
def elapsed : Polling σ Span := do
  let now ← consult around.now
  let d := now.sub (← get).started
  enter (.elapsed d)
  return d

/-- Looks whether the context is done. -/
def look : Polling σ Bool := do
  let done ← consult around.cancelled
  enter (.looked done)
  return done

/-- The run passes. -/
def pass : Polling σ Unit := throw .passed

/-- The run fails. -/
def fail (termination : Termination) (reason : String) : Polling σ Unit := do
  let d ← elapsed around
  throw (.failed termination reason d)

/-- The run is over if the context is done. -/
def stopIfDone : Polling σ Unit := do
  if ← look around then fail around .cancelled (← lastReason)

/-- Time is over. -/
def expire : Polling σ Unit := do
  match plan.kind with
  | .eventually => fail around .timedOut (← lastReason)
  | .consistently => pass

/-- Makes a verdict the last one and publishes its reason. -/
def record (passed : Bool) (reason : String) : Polling σ Unit :=
  modify fun run =>
    { run with world := around.publish reason run.world, verdict? := some ⟨passed, reason⟩ }

/-- The run fails because of a stop signal. -/
def failStopped [ReasonLog σ] (stop : StopSignal) (reason : String) : Polling σ Unit := do
  let stated ← perform (ReasonLog.reasonOf stop)
  enter (.reasoned stop)
  fail around (.stopped stated) reason

/-- Decides what a raised stop signal means. -/
def interrupt [ReasonLog σ] (stop : StopSignal) : Polling σ Unit := do
  match plan.kind, (← get).verdict? with
  | .consistently, some ⟨true, _⟩ => pass
  | _, _ => failStopped around stop (← lastReason)

/-- Decides what the verdict on an attempt means. -/
def decide [ReasonLog σ] (evaluation : Evaluation) : Polling σ Unit := do
  match plan.kind, evaluation.passed with
  | .eventually, true => pass
  | .eventually, false =>
      match evaluation.stop?, evaluation.hint? with
      | some stop, _ => failStopped around stop evaluation.reason
      | none, some hint => fail around .noFutureChange hint
      | none, none => return ()
  | .consistently, true => if evaluation.stop?.isSome then pass else return ()
  | .consistently, false =>
      match evaluation.stop? with
      | some stop => failStopped around stop evaluation.reason
      | none => fail around .failed evaluation.reason

/-- Makes an attempt and decides what it means. -/
def attempt [ReasonLog σ] : Polling σ Unit := do
  enter .began
  match ← perform around.attempt with
  | .error e => throw (.refused e)
  | .ok judgement => do
      enter (.attempted judgement)
      match judgement with
      | .interrupted stop => interrupt plan around stop
      | .evaluated evaluation => do
          record around evaluation.passed evaluation.reason
          decide plan around evaluation

/-- Pauses for the interval, or for what is left of the time. -/
def pause (left : Span) : Polling σ Unit := do
  let d := min plan.interval left
  perform (around.sleep d)
  enter (.paused d)

/-- One round of the loop. -/
def round [ReasonLog σ] : Polling σ Unit := do
  stopIfDone around
  attempt plan around
  stopIfDone around
  let left := plan.timeout.sub (← elapsed around)
  if left = 0 then expire plan around
  pause plan around left
  stopIfDone around
  if plan.timeout ≤ (← elapsed around) then expire plan around

/-- So many rounds of the loop, as far as the run goes on. -/
def rounds [ReasonLog σ] : Nat → Polling σ Unit
  | 0 => return ()
  | n + 1 => do
      round plan around
      rounds n

end

variable [ReasonLog σ] {plan : Plan} {around : Surroundings σ}

theorem rounds_succ (n : Nat) (run : Run σ) :
    rounds plan around (n + 1) run =
      match round plan around run with
      | .ok _ run => rounds plan around n run
      | .error ending run => .error ending run := by
  simp only [rounds, bind, EStateM.bind]
  cases round plan around run <;> rfl

theorem rounds_ended {n : Nat} {run final : Run σ} {ending : Ending}
    (h : rounds plan around n run = .error ending final) (more : Nat) :
    rounds plan around (n + more) run = .error ending final := by
  induction n generalizing run with
  | zero => simp [rounds, pure, EStateM.pure] at h
  | succ n ih =>
      rw [Nat.succ_add, rounds_succ]
      rw [rounds_succ] at h
      cases hr : round plan around run with
      | ok _ next => simp only [hr] at h ⊢; exact ih h
      | error e next => simp only [hr] at h ⊢; exact h

end Polling

end PollingAssertions
