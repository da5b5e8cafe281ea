import PollingAssertions.Session.ParamScript
import PollingAssertions.Session.Script

/-!
# Performing scripts

Scripts are performed in a `Stage`: the poller that their assertions use,
and whether its time is virtual. An assertion is performed as a whole, and
what it unwinds with is part of its record; nothing of it unwinds further.

Hooks around the pauses of a clock are scripts too, whose assertions pause
in turn. Every pause has a number of its own, so there are never more hooks
under way than there are hooks, and a stage with that many levels is enough.

Real time passes at its own pace, so a message about it is only compared
after the mask has been put behind its first ` after `, in place of the
digits and points that stand there.

## Main definitions

* `Stage` — where scripts are performed.
* `masked` — a message with its elapsed time masked.
* `Act.perform`, `AssertionScript.conclude` — performing acts and
  assertions.
* `Stage.levels` — the stages for hooks inside hooks.
-/

namespace PollingAssertions.Session

/-- Where scripts are performed. -/
structure Stage where
  poller : Poller World
  isVirtual : Bool

/-- The attempts an assertion may take. -/
def attemptLimit : Nat := Nat.pow 2 62

/-- The file that the sites of scripted expectations stand in. -/
def scriptFile : String := "src/site.rs"

/-- Makes a configuring call; a context without a name is left out. -/
def SettingScript.make : SettingScript → StateM World (List Setting)
  | .timeout d => return [.timeout d]
  | .interval d => return [.interval d]
  | .within d => return [.within d]
  | .probeEvery d => return [.probeEvery d]
  | .context name => do return ((← get).context? name).toList.map .context
  | .arguments scripts => do
      let arguments ← scripts.mapM fun
        | .value script => do return [Argument.value (← script.make)]
        | .context name => do return ((← get).context? name).toList.map .context
      return [.arguments arguments.flatten]

/-- Makes a description. -/
def DescriptionScript.make : DescriptionScript → Description World
  | .text s => .text s
  | .template s arguments => .template s arguments
  | .deferred s => .deferred do
      modify (World.log (.described s))
      return s

/-- What a call returns, given how many there were before. -/
def Result.make (n : Nat) : Result → StateM World Datum
  | .value script => script.make
  | .callNumber type => (DatumScript.ofNumber type (n + 1)).make

/-- A call of a scripted probe: told its checker and how many calls there
were before. -/
abbrev Body := CheckerId → Nat → Action World Output

/-- Acts on the world without unwinding. -/
def plainly {α : Type} (x : StateM World α) : Action World α := fun w =>
  let (a, w) := x w
  .ok a w

/-- The checker among what was delivered. -/
def checkerOf? : Delivered → Option CheckerId
  | .checker c => some c
  | _ => none

/-- What the log shows of the arguments of a call. -/
def notesOf (contexts : Contexts) (params : List Param) (delivered : List Delivered) :
    List ArgumentNote :=
  (params.zip delivered).map fun (param, d) => .ofDelivered contexts param.kind d

/-- The body of a scripted probe: counts the call, writes its arguments down
unless there is nothing but a checker, and follows the tick of that call. A
probe that is given no checker uses a spare one, which keeps nothing from
one call to the next. -/
def scriptedBody (params : List Param) (result : Ty) (counter : Nat) (spare : CheckerId)
    (ticks : List Body) (delivered : List Delivered) : Action World Output := do
  let n ← plainly (World.count counter)
  if params.any fun param => param.kind != .checker then
    modify fun w => w.log (.called (notesOf w.contexts params delivered))
  modify (Checker.clear spare)
  let checker := (delivered.findSome? checkerOf?).getD spare
  match ticks[min n (ticks.length - 1)]? with
  | some body => body checker n
  | none => return ⟨← plainly (DatumScript.blank (primaryType result)).make, []⟩

/-- The word before an elapsed time. -/
def mark : List Char := " after ".toList

/-- What is written instead of an elapsed time. -/
def mask : List Char := "<elapsed>".toList

/-- The mask in place of the digits and points at the front. -/
def maskFront (cs : List Char) : List Char :=
  mask ++ cs.dropWhile fun c => c.isDigit || c == '.'

/-- The mask in place of the digits and points behind the first mark. -/
def maskChars : List Char → List Char
  | [] => []
  | c :: cs =>
      if mark.isPrefixOf (c :: cs) then mark ++ maskFront ((c :: cs).drop mark.length)
      else c :: maskChars cs

/-- A message with its elapsed time masked. -/
def masked (message : String) : String := String.ofList (maskChars message.toList)

/-- Masks the times in a record if they are real. -/
def AssertionRecord.masked (record : AssertionRecord) : AssertionRecord :=
  { record with
    ended := match record.ended with
      | .error (.message text) => .error (.message (Session.masked text))
      | ended => ended
    failures := record.failures.map fun failure =>
      { failure with message := Session.masked failure.message } }

/-- Concludes an assertion and records everything about it. The log of the
assertion is kept apart from the one outside. -/
def Stage.record (stage : Stage) (calls : Nat) (conclusion : Action World (Option Bool)) :
    StateM World AssertionRecord := do
  let before ← get
  set { before with entries := [] }
  let ended ← fun w =>
    match conclusion w with
    | .ok holds w => (Except.ok (holds.getD false), w)
    | .error payload w =>
        match World.acknowledge payload w with
        | .ok _ w => (Except.error payload, w)
        | .error _ w => (Except.error payload, w)
  let after ← get
  set { after with entries := before.entries }
  let slept := after.clock.sleeps.take (after.clock.sleeps.length - before.clock.sleeps.length)
  let record : AssertionRecord :=
    { ended
      calls := after.counted calls
      failures := after.recorder.failures.drop before.recorder.failures.length
      timing? := if stage.isVirtual then some ⟨after.clock.now, runLengths slept⟩ else none
      log := after.entries.reverse }
  return if stage.isVirtual then record else record.masked

mutual

/-- Performs an act. -/
def Act.perform (stage : Stage) (checker : CheckerId) : Act → Action World Unit
  | .expect subject matcher positive line => do
      let datum ← plainly subject.make
      let matcher ← plainly (matcher.make subject.type)
      Checker.expect checker ⟨scriptFile, line⟩ matcher.toJudge positive datum
  | .fail message line => Checker.fail checker ⟨scriptFile, line⟩ message
  | .showFailure => modify fun w =>
      w.log (.failure ((Checker.kept? checker w).map CallbackFailure.report))
  | .catching acts => do
      match ← (Act.performAll stage checker acts).caught with
      | .ok _ => return ()
      | .error payload => do
          World.acknowledge payload
          modify (World.log (.caught payload))
  | .unwind payload => Action.raise payload
  | .note text => modify (World.log (.noted text))
  | .advance d => modify (HasVirtualClock.part.update (VirtualClock.advance d))
  | .cancel context => modify (World.cancel context)
  | .send channel message => modify (World.send channel message)
  | .close channel => modify (World.close channel)
  | .showProgress name => modify fun w =>
      let attacher := w.desk.attacher name
      w.log (.progress (w.desk.report? name) attacher.attached attacher.detached)
  | .assertion script => do
      let record ← plainly (AssertionScript.conclude stage script)
      modify (World.log record.toEntry)

/-- Performs acts in order. -/
def Act.performAll (stage : Stage) (checker : CheckerId) : List Act → Action World Unit
  | [] => return ()
  | act :: acts => do
      act.perform stage checker
      Act.performAll stage checker acts

/-- The calls that ticks stand for. -/
def Tick.bodies (stage : Stage) : List Tick → List Body
  | [] => []
  | .mk acts result extras :: ticks =>
      (fun checker n => do
        Act.performAll stage checker acts
        let datum ← plainly (result.make n)
        let extras ← plainly (DatumScript.makeAll extras)
        return ⟨datum, extras.map Extra.ofDatum⟩) :: Tick.bodies stage ticks

/-- Makes a probe whose calls are counted. -/
def ProbeScript.make (stage : Stage) (counter : Nat) : ProbeScript → StateM World (Probe World)
  | .observed subject => do return .observed (← subject.make)
  | .function params result ticks => do
      let checker ← Checker.make
      let spare ← Checker.make
      let bodies := Tick.bodies stage ticks
      return .function (.ofSignature params result) checker
        (scriptedBody params result counter spare bodies)

/-- Makes an assertion and concludes it. -/
def AssertionScript.conclude (stage : Stage) : AssertionScript → StateM World AssertionRecord
  | .mk kind probe matcher settings positive description? shown => do
      let counter ← World.newCounter
      let type := probe.subjectType
      let probe ← probe.make stage counter
      let calls ← settings.mapM SettingScript.make
      let settings := Settings.ofCalls calls.flatten
      let matcher ← matcher.make type
      stage.record counter do
        if shown then
          modify fun w => w.log (.shown (Assertion.render w.contexts kind probe settings))
        stage.poller.conclude
          ⟨kind, probe, settings, matcher, positive, description?.map DescriptionScript.make⟩
          attemptLimit

end

/-- Performs acts, if there are any, with a checker of their own. -/
def Stage.performApart (stage : Stage) (acts : List Act) : Action World Unit := do
  if acts.isEmpty then return ()
  let checker ← plainly Checker.make
  Act.performAll stage checker acts

/-- The acts around the pause of a number. -/
def actsAround (hooks : List Hook) (pause : Nat) (before : Bool) : List Act :=
  (hooks.filter fun hook => hook.pause == pause && hook.before == before).flatMap (·.acts)

/-- A clock whose pauses are counted and have acts around them. -/
def hookedClock (clock : Clock World) (hooks : List Hook)
    (perform : List Act → Action World Unit) : Clock World where
  now := clock.now
  sleep d context? := do
    let pause ← plainly World.countPause
    perform (actsAround hooks pause true)
    clock.sleep d context?
    perform (actsAround hooks pause false)

namespace Stage

/-- A stage whose clock has hooks, so many of them one inside the other. -/
def levels (stage : Stage) (hooks : List Hook) : Nat → Stage
  | 0 => stage
  | n + 1 =>
      { stage with poller :=
        { stage.poller with
          clock := hookedClock stage.poller.clock hooks (levels stage hooks n).performApart } }

/-- A stage whose clock has hooks. -/
def withHooks (stage : Stage) (hooks : List Hook) : Stage := stage.levels hooks (hooks.length + 1)

end Stage

end PollingAssertions.Session
