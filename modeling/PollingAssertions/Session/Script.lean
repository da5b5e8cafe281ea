import PollingAssertions.Probe.Shape
import PollingAssertions.Session.MatcherScript

/-!
# Scripts

A script says what a probe does on each call: first some acts, then what it
returns. Acts make expectations, unwind, write the log, move the clock, end
contexts, use channels, and make assertions of their own, whose probes are
scripts again.

Calls of a probe follow its ticks one by one; the last tick is repeated for
ever.

## Main definitions

* `DatumScript` — a value to make.
* `Act`, `Tick`, `ProbeScript`, `AssertionScript` — acts, calls, probes and
  assertions.
* `Hook` — acts around a pause.
-/

namespace PollingAssertions.Session

/-- Where a value comes from. -/
inductive Supply where
  | plain (v : Value)
  /-- The receiver of a new channel through which messages were sent. -/
  | newChannel (messages : List Value) (isOpen : Bool)
  /-- The receiver of a channel of the session. -/
  | sessionChannel (name : String)
deriving Repr, Inhabited

/-- A value to make. -/
structure DatumScript where
  type : Ty
  supply : Supply
deriving Repr, Inhabited

namespace DatumScript

/-- The receiver of a new channel. -/
def receiverOf (channel : Channel) : StateM World Value := fun w =>
  let (number, channels) := w.channels.add channel
  (.receiver number, { w with channels })

/-- Makes a value. A receiver that the session cannot hand out is that of a
new channel, which is closed. -/
def make (script : DatumScript) : StateM World Datum := do
  match script.supply with
  | .plain v => return ⟨script.type, v⟩
  | .newChannel messages isOpen => return ⟨script.type, ← receiverOf ⟨messages, isOpen⟩⟩
  | .sessionChannel name =>
      match ← World.takeReceiver name (Judge.messageType script.type) with
      | some number => return ⟨script.type, .receiver number⟩
      | none => return ⟨script.type, ← receiverOf ⟨[], false⟩⟩

/-- What stands for a value of a type where a script names none: nothing
sent through a channel and its sender gone, an outcome that passed, the
zero of any other type. -/
def blank (type : Ty) : DatumScript :=
  match type with
  | .receiver _ => ⟨type, .newChannel [] false⟩
  | .outcome => ⟨type, .plain (.outcome .passed)⟩
  | _ => ⟨type, .plain (type.zero?.getD .unit)⟩

/-- A number as a value of a type; a type that has no numbers is left
blank. -/
def ofNumber (type : Ty) (n : Nat) : DatumScript :=
  match type.number? n with
  | some v => ⟨type, .plain v⟩
  | none => blank type

/-- Makes several values. -/
def makeAll : List DatumScript → StateM World (List Datum)
  | [] => return []
  | script :: scripts => do
      let datum ← script.make
      let data ← makeAll scripts
      return datum :: data

end DatumScript

/-- An argument to make. -/
inductive ArgumentScript where
  | value (script : DatumScript)
  /-- The context of a name. -/
  | context (name : String)
deriving Repr, Inhabited

/-- A configuring call. -/
inductive SettingScript where
  | timeout (d : Span)
  | interval (d : Span)
  | within (d : Span)
  | probeEvery (d : Span)
  | context (name : String)
  | arguments (scripts : List ArgumentScript)
deriving Repr, Inhabited

/-- A description to make. -/
inductive DescriptionScript where
  | text (s : String)
  | template (s : String) (arguments : List Datum)
  /-- A deferred text; the log tells when it is worked out. -/
  | deferred (s : String)
deriving Repr, Inhabited

/-- What a call returns. -/
inductive Result where
  | value (script : DatumScript)
  /-- The number of the call, counted from one, as a value of a type. -/
  | callNumber (type : Ty)
deriving Repr, Inhabited

mutual

/-- Something that a script does. -/
inductive Act where
  | expect (subject : DatumScript) (matcher : MatcherScript) (positive : Bool) (line : Nat)
  | fail (message : String) (line : Nat)
  /-- Writes down the failure that the checker keeps. -/
  | showFailure
  /-- Stops what unwinds and writes it down. -/
  | catching (acts : List Act)
  | unwind (payload : Payload)
  | note (text : String)
  | advance (d : Span)
  | cancel (context : String)
  | send (channel : String) (message : Datum)
  | close (channel : String)
  /-- Writes down what a progress attacher says. -/
  | showProgress (attacher : String)
  | assertion (script : AssertionScript)

/-- One call of a probe. -/
inductive Tick where
  | mk (acts : List Act) (result : Result) (extras : List DatumScript)

/-- A probe to make. -/
inductive ProbeScript where
  | observed (subject : DatumScript)
  | function (params : List Param) (result : Ty) (ticks : List Tick)

/-- An assertion to make and conclude. -/
inductive AssertionScript where
  | mk (kind : Kind) (probe : ProbeScript) (matcher : MatcherScript)
      (settings : List SettingScript) (positive : Bool) (description? : Option DescriptionScript)
      (shown : Bool)

end

instance : Inhabited Act := ⟨.showFailure⟩

/-- Acts around the pause of a given number, counted from one. -/
structure Hook where
  pause : Nat
  /-- Before the clock pauses; otherwise after it. -/
  before : Bool
  acts : List Act

/-- The type of the value that a matcher is given. -/
def primaryType : Ty → Ty
  | .returns primary => primary
  | type => type

/-- The type of the value that a matcher is given by a probe. -/
def ProbeScript.subjectType : ProbeScript → Ty
  | .observed subject => subject.type
  | .function _ result _ => primaryType result

end PollingAssertions.Session
