import PollingAssertions.Context.Derive
import PollingAssertions.Session.Perform

/-!
# Steps of a session

A session is a list of steps, each of which has an answer. Steps make
assertions, or they do one small thing to the world or ask it something.

Real time passes only in the steps that wait for it, so a session takes no
time of its own.

## Main definitions

* `Step`, `Answer` — the steps and their answers.
* `Session.run` — a whole session.
-/

namespace PollingAssertions.Session

/-- How a context of the session is made. -/
inductive ContextScript where
  | background
  /-- One more hold on the same context. -/
  | clone
  | cancellable
  | timeout (d : Span)
  /-- A deadline so far from now. -/
  | deadline (d : Span)
  | value (key : String) (bound : Datum)
  | attacher (name : String)
deriving Repr

/-- A step of a session. -/
inductive Step where
  | assertion (script : AssertionScript)
  | makeContext (name : String) (parent? : Option String) (script : ContextScript)
  | cancel (context : String)
  | contextState (context : String)
  | contextValue (context key : String) (type : Ty)
  | contextText (context : String)
  | contextAttacher (context : String)
  | dropContext (context : String)
  | compareDeadlines (a b : String)
  | wait (context : String) (d : Span) (cancelled? : Option String)
  | pollDone (context waker : String)
  | wakes (waker : String)
  | advance (d : Span)
  | sleep (d : Span) (context? : Option String)
  | sleepReally (d : Span) (context? : Option String)
  | makeChannel (name : String) (messages : Ty)
  | send (channel : String) (message : Datum)
  | close (channel : String)
  | recorded
  | resetRecorder
  | attacher (name : String)
  | attach (attacher id text : String)
  | detach (id : String)
  | checker (acts : List Act)

/-- The answer to a step. -/
inductive Answer where
  | none
  | flag (b : Bool)
  | number (n : Nat)
  | text (s : String)
  | assertion (record : AssertionRecord)
  | madeContext (hasDeadline : Bool)
  | contextState (e? : Option ContextError)
  | bound (value? : Option Value)
  | order (o : Ordering)
  | done (e? : Option ContextError)
  | slept (now : Span) (sleeps : List (Span × Nat)) (count : Nat)
  | sleptInFull (b : Bool)
  | recorded (count : Nat) (message : String) (skips : List Nat)
  | progress (report? : Option String) (attacher : Attacher)
  | checked (raised? : Option Payload) (failure? : Option CallbackFailure) (log : List Entry)

namespace World

/-- Runs something with the context of a name; without such a context
nothing happens. -/
def withContext (name : String) (f : ContextId → StateM World Answer) : StateM World Answer := do
  match (← get).context? name with
  | some c => f c
  | none => return .none

/-- Asks the contexts something. -/
def onContexts {α : Type} (f : Contexts → α × Contexts) : StateM World α := fun w =>
  let (a, contexts) := f w.contexts
  (a, { w with contexts })

/-- Replaces what a name stands for. -/
def rename {α : Type} (name : String) (a : α) (names : List (String × α)) : List (String × α) :=
  (name, a) :: names.filter (·.1 != name)

/-- Lets a name stand for a context; what it stood for before is given up. -/
def nameContext (name : String) (c : ContextId) (w : World) : World :=
  let contexts := match w.context? name with
    | some before => w.contexts.release before
    | none => w.contexts
  { w with contexts, names := { w.names with contexts := rename name c w.names.contexts } }

/-- Makes a context. -/
def makeContext (parent? : Option ContextId) (script : ContextScript) (contexts : Contexts) :
    ContextId × Contexts :=
  let (parent, contexts) := match parent? with
    | some parent => (parent, contexts)
    | none => contexts.background
  let derived := match script with
    | .background => contexts.background
    | .clone => (parent, contexts.hold parent)
    | .cancellable => contexts.derive parent .cancellable
    | .timeout d => contexts.derive parent (.timeout d)
    | .deadline d =>
        let (now, contexts) := contexts.read
        contexts.derive parent (.deadline (now + d))
    | .value key bound => contexts.derive parent (.value key bound)
    | .attacher name => contexts.derive parent (.attacher name)
  match parent? with
  | some _ => derived
  | none => (derived.1, derived.2.release parent)

/-- Whether a context comes with a handle to cancel it. -/
def hasHandle : ContextScript → Bool
  | .cancellable | .timeout _ | .deadline _ => true
  | _ => false

/-- Gives up the context of a name. -/
def dropContext (name : String) (w : World) : World :=
  match w.context? name with
  | some c =>
      { w with
        contexts := w.contexts.release c
        names := { w.names with contexts := w.names.contexts.filter (·.1 != name) } }
  | none => w

/-- Detaches the attachment of a name, if there is one. -/
def dropAttachment (id : String) (w : World) : World :=
  match w.names.attachments.lookup id with
  | some attachment =>
      { w with
        desk := w.desk.detach attachment
        names := { w.names with attachments := w.names.attachments.filter (·.1 != id) } }
  | none => w

end World

open World

/-- Takes one step. -/
def Step.take (stage : Stage) : Step → StateM World Answer
  | .assertion script => do return .assertion (← script.conclude stage)
  | .makeContext name parent? script => do
      let parent? := parent?.bind (← get).context?
      let c ← onContexts (World.makeContext parent? script)
      modify (nameContext name c)
      if hasHandle script then
        modify fun w =>
          { w with names := { w.names with handles := rename name c w.names.handles } }
      return .madeContext ((← get).contexts.deadline? c).isSome
  | .cancel name => do
      modify (World.cancel name)
      return .none
  | .contextState name => withContext name fun c => do
      return .contextState (← onContexts (Contexts.error c))
  | .contextValue name key type => withContext name fun c => do
      return .bound ((← get).contexts.value? c key type)
  | .contextText name => withContext name fun c => do
      return .text ((← get).contexts.render c)
  | .contextAttacher name => withContext name fun c => do
      return .flag ((← get).contexts.attacher? c).isSome
  | .dropContext name => do
      modify (World.dropContext name)
      return .none
  | .compareDeadlines a b => withContext a fun c => withContext b fun d => do
      return .order ((← get).contexts.compareDeadlines c d)
  | .wait name d cancelled? => withContext name fun c => do
      let handles := (← get).names.handles
      match cancelled?.bind fun other => handles.lookup other with
      | some other =>
          return .flag (← onContexts
            (Contexts.waitWhileCancelled c d other (5 * Span.millisecond)))
      | none => return .flag (← onContexts (Contexts.wait c d))
  | .pollDone name waker => withContext name fun c => do
      return .done (← onContexts (Contexts.pollDone c waker))
  | .wakes waker => do return .number ((← get).contexts.wakes waker)
  | .advance d => do
      modify (HasVirtualClock.part.update (VirtualClock.advance d))
      return .number (← get).clock.now
  | .sleep d context? => do
      let c? := context?.bind (← get).context?
      modify fun w =>
        match Clock.virtual.sleep d c? w with
        | .ok _ w => w
        | .error _ w => w
      let clock := (← get).clock
      return .slept clock.now (runLengths clock.sleeps) clock.sleeps.length
  | .sleepReally d context? => do
      let c? := context?.bind (← get).context?
      let before ← onContexts Contexts.read
      modify fun w =>
        match Clock.wall.sleep d c? w with
        | .ok _ w => w
        | .error _ w => w
      let after ← onContexts Contexts.read
      return .sleptInFull (decide (d ≤ after.sub before))
  | .makeChannel name messages => do
      modify (World.openChannel name messages)
      return .none
  | .send channel message => do
      modify (World.send channel message)
      return .none
  | .close channel => do
      modify (World.close channel)
      return .none
  | .recorded => do
      let recorder := (← get).recorder
      let message := if stage.isVirtual then recorder.message else masked recorder.message
      return .recorded recorder.failures.length message (recorder.failures.map (·.skip))
  | .resetRecorder => do
      modify fun w => { w with recorder := .empty }
      return .none
  | .attacher name => do
      let desk := (← get).desk
      return .progress (desk.report? name) (desk.attacher name)
  | .attach name id text => do
      let attachment ← fun w =>
        let (attachment, desk) := w.desk.attach name text
        (attachment, { w with desk })
      modify (World.dropAttachment id)
      modify fun w =>
        { w with
          names := { w.names with attachments := rename id attachment w.names.attachments } }
      return .text attachment.render
  | .detach id => do
      modify (World.dropAttachment id)
      return .none
  | .checker acts => do
      let checker ← Checker.make
      let before ← get
      set { before with entries := [] }
      let raised? ← fun w =>
        match Act.performAll stage checker acts w with
        | .ok _ w => (none, w)
        | .error payload w =>
            match World.acknowledge payload w with
            | .ok _ w => (some payload, w)
            | .error _ w => (some payload, w)
      let after ← get
      set { after with entries := before.entries }
      return .checked raised? (Checker.kept? checker after) after.entries.reverse

/-- The failure handlers a session can have. -/
inductive HandlerChoice where
  | recording
  | panicking
deriving DecidableEq, Repr

/-- How a session is set up. -/
structure Setup where
  start : Span
  defaults : Defaults
  handler : HandlerChoice
  /-- The clock is virtual. -/
  isVirtual : Bool
  hooks : List Hook

namespace Setup

/-- The place of an assertion as reports show it. -/
def location : String := "<location>"

/-- The stage of a session. -/
def stage (setup : Setup) : Stage :=
  let clock : Clock World := if setup.isVirtual then Clock.virtual else Clock.wall
  let handler : FailureHandler World := match setup.handler with
    | .recording => FailureHandler.recording
    | .panicking => FailureHandler.panicking location
  let plain : Stage := ⟨⟨setup.defaults, handler, clock⟩, setup.isVirtual⟩
  if setup.isVirtual then plain.withHooks setup.hooks else plain

/-- A whole session. -/
def run (setup : Setup) (steps : List Step) : List Answer :=
  ((steps.mapM (Step.take setup.stage)) (World.starting setup.start)).1

end Setup

end PollingAssertions.Session
