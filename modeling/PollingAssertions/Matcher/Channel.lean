import PollingAssertions.Channel
import PollingAssertions.Matcher.Basic

/-!
# Matchers for channels

`receives` waits for a message and takes it. When it finds the channel
closed it remembers that for good and hints that nothing can change any
more. `closed` waits for the end of the channel; a message that is still
there is taken, and makes it impossible to judge.

## Main definitions

* `Judge.receives`, `Judge.closed` — the two judges.
-/

namespace PollingAssertions.Judge

variable {σ : Type} [ReasonLog σ] [HasChannels σ]

/-- Takes a message from the channel of a subject. -/
def take (subject : Datum) : Action σ Received := fun s =>
  match subject.value with
  | .receiver number =>
      let (received, channels) := (HasChannels.part.get s).tryReceive number
      .ok received (HasChannels.part.set channels s)
  | _ => .ok .disconnected s

/-- Whether the matcher has seen its channel closed. -/
def hasSeenClosed (observer : Nat) : Action σ Bool := fun s =>
  .ok ((HasChannels.part.get s).sawClosed observer) s

/-- Lets the matcher remember that its channel is closed. -/
def rememberClosed (observer : Nat) : Action σ Unit :=
  modify (HasChannels.part.update (Channels.noteClosed observer))

/-- Why nothing was received. -/
def receivesText (observer : Nat) (subject : Datum) : Action σ String := do
  let text ← expectationOf subject "to receive something."
  if ← hasSeenClosed observer then return text ++ " The channel is closed." else return text

/-- The channel delivers a message. -/
def receives (observer : Nat) : Judge σ Datum where
  verdict subject := do
    match ← take subject with
    | .message _ => return .ok true
    | .empty => return .ok false
    | .disconnected => do
        rememberClosed observer
        return .ok false
  failureText subject := receivesText observer subject
  negatedText subject := expectationOf subject "not to receive anything."
  hint subject := do
    if ← hasSeenClosed observer then return some (← receivesText observer subject)
    else return none

/-- The type of the messages of a receiver. -/
def messageType : Ty → Ty
  | .receiver message => message
  | _ => .unit

/-- The channel is empty and its sender gone. -/
def closed : Judge σ Datum where
  verdict subject := do
    match ← take subject with
    | .disconnected => return .ok true
    | .empty => return .ok false
    | .message v => do
        let delivered : Datum := ⟨messageType subject.type, v⟩
        ReasonLog.ask v.asked
        return .error ⟨"be_closed requires the channel to be drained, but it delivered\n" ++
          indent ++ delivered.object⟩
  failureText subject := expectationOf subject "to be closed"
  negatedText subject := expectationOf subject "to be open"
  hint _ := pure none

end PollingAssertions.Judge
