import PollingAssertions.Matcher.Channel
import PollingAssertions.Polling.Assertion
import PollingAssertions.Session.Entry

/-!
# The world of a session

A session has everything that assertions need: a virtual clock, contexts,
channels, checkers, progress attachers and a recorder of failures. Scripts
refer to contexts, channels and attachments by name. Scripted probes and
matchers count how often they were called, and the session counts the
pauses of its assertions.

## Main definitions

* `World` — the state of a session.
* `World.log`, `World.count` — writing the log and counting.
* `World.openChannel`, `World.takeReceiver` — the channels of a session.
-/

namespace PollingAssertions.Session

/-- A channel of a session. Channels for messages of different types may
share a name. -/
structure NamedChannel where
  name : String
  messages : Ty
  number : Nat
  /-- The receiver has not been handed out yet. -/
  available : Bool
deriving Repr, Inhabited

/-- Whether a channel goes by a name and takes messages of a type. -/
def NamedChannel.fits (name : String) (messages : Ty) (channel : NamedChannel) : Bool :=
  channel.name == name && channel.messages == messages

/-- What the names of a session stand for. -/
structure Names where
  contexts : List (String × ContextId)
  /-- The contexts that can be cancelled by name. -/
  handles : List (String × ContextId)
  channels : List NamedChannel
  attachments : List (String × Attachment)
deriving Repr, Inhabited

/-- The state of a session. -/
structure World where
  clock : VirtualClock
  contexts : Contexts
  channels : Channels
  checkers : Checkers
  desk : Desk
  recorder : Recorder
  names : Names
  /-- How often each scripted probe and matcher was called, by number. -/
  counts : List Nat
  /-- How many matchers that remember something have been made. -/
  observers : Nat
  /-- How often an assertion has paused. -/
  pauses : Nat
  /-- The log, latest entry first. -/
  entries : List Entry
deriving Inhabited

namespace World

/-- A session before its first step. -/
def starting (now : Span) : World where
  clock := .starting now
  contexts := .empty
  channels := .empty
  checkers := .empty
  desk := .empty
  recorder := .empty
  names := ⟨[], [], [], []⟩
  counts := []
  observers := 0
  pauses := 0
  entries := []

instance : HasVirtualClock World where
  part := { get := (·.clock), set := fun clock w => { w with clock } }

instance : HasContexts World where
  part := { get := (·.contexts), set := fun contexts w => { w with contexts } }

instance : HasChannels World where
  part := { get := (·.channels), set := fun channels w => { w with channels } }

instance : HasCheckers World where
  part := { get := (·.checkers), set := fun checkers w => { w with checkers } }

instance : HasDesk World where
  part := { get := (·.desk), set := fun desk w => { w with desk } }

instance : HasRecorder World where
  part := { get := (·.recorder), set := fun recorder w => { w with recorder } }

/-- Writes an entry in the log. -/
def log (entry : Entry) (w : World) : World := { w with entries := entry :: w.entries }

instance : ReasonLog World where
  workedOut reason w := w.log (.rendered reason)

/-- A counter that stands at zero. -/
def newCounter : StateM World Nat := fun w =>
  (w.counts.length, { w with counts := w.counts ++ [0] })

/-- Where a counter stands. -/
def counted (w : World) (counter : Nat) : Nat := w.counts.getD counter 0

/-- Counts once more and gives the count before. -/
def count (counter : Nat) : StateM World Nat := fun w =>
  (w.counted counter, { w with counts := w.counts.modify counter (· + 1) })

/-- The number of a matcher that remembers something. -/
def newObserver : StateM World Nat := fun w => (w.observers, { w with observers := w.observers + 1 })

/-- Counts a pause. -/
def countPause : StateM World Nat := fun w => (w.pauses + 1, { w with pauses := w.pauses + 1 })

/-- The context of a name. -/
def context? (w : World) (name : String) : Option ContextId := w.names.contexts.lookup name

/-- The channel of a name for messages of a type. -/
def channel? (w : World) (name : String) (messages : Ty) : Option NamedChannel :=
  w.names.channels.find? (NamedChannel.fits name messages)

/-- Makes a channel of a name for messages of a type. It takes the place of
an earlier one for the same messages. -/
def openChannel (name : String) (messages : Ty) (w : World) : World :=
  let (number, channels) := w.channels.add ⟨[], true⟩
  let others := w.names.channels.filter fun channel => !channel.fits name messages
  { w with channels, names := { w.names with channels := ⟨name, messages, number, true⟩ :: others } }

/-- Hands out the receiver of a channel, which can be done once. -/
def takeReceiver (name : String) (messages : Ty) : StateM World (Option Nat) := fun w =>
  match w.channel? name messages with
  | some channel =>
      let others := w.names.channels.filter fun channel => !channel.fits name messages
      (if channel.available then some channel.number else none,
        { w with names :=
          { w.names with channels := { channel with available := false } :: others } })
  | none => (none, w)

/-- Cancels the context that a name was given a handle for. -/
def cancel (name : String) (w : World) : World :=
  match w.names.handles.lookup name with
  | some c => { w with contexts := w.contexts.cancel c }
  | none => w

/-- Sends a message through a channel of the session, if there is one. -/
def send (name : String) (message : Datum) (w : World) : World :=
  match w.channel? name message.type with
  | some channel =>
      { w with channels := w.channels.update channel.number (Channel.send message.value) }
  | none => w

/-- Closes all channels of a name. -/
def close (name : String) (w : World) : World :=
  let named := w.names.channels.filter (·.name == name)
  { w with
    channels := named.foldl (fun channels c => channels.update c.number Channel.close) w.channels }

/-- Works out the reason of a payload, as whoever shows it has to. -/
def acknowledge : Payload → Action World Unit
  | .stop signal => ReasonLog.ask signal.asked
  | _ => return ()

end World

end PollingAssertions.Session
