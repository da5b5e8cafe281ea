import PollingAssertions.Part
import PollingAssertions.Value.Basic

/-!
# Channels

A channel is a queue of messages with one sender and one receiver. The
receiver takes messages in the order they were sent, and learns that the
sender is gone only once the queue is empty. From then on it can never
receive anything again.

The matchers that wait for a message remember having seen that. Their
memory is kept beside the channels, by the number of the matcher.

## Main definitions

* `Channel.tryReceive` — one attempt to take a message.
* `Channels` — numbered channels, and which matchers have seen theirs
  closed.
* `HasChannels` — worlds with channels.
-/

namespace PollingAssertions

/-- A queue of messages and whether more can come. -/
structure Channel where
  queue : List Value
  isOpen : Bool
deriving Repr, Inhabited

/-- What an attempt to receive gives. -/
inductive Received where
  | message (v : Value)
  | empty
  | disconnected
deriving Repr

namespace Channel

/-- Takes the first message if there is one. -/
def tryReceive (channel : Channel) : Received × Channel :=
  match channel.queue with
  | v :: queue => (.message v, { channel with queue })
  | [] => (if channel.isOpen then .empty else .disconnected, channel)

/-- Adds a message; nothing happens once the sender is gone. -/
def send (v : Value) (channel : Channel) : Channel :=
  if channel.isOpen then { channel with queue := channel.queue ++ [v] } else channel

/-- Drops the sender. -/
def close (channel : Channel) : Channel := { channel with isOpen := false }

end Channel

/-- Numbered channels and the matchers that have seen theirs closed. -/
structure Channels where
  channels : Array Channel
  /-- The numbers of the matchers that have seen their channel closed. -/
  seenClosed : List Nat
deriving Repr, Inhabited

namespace Channels

/-- No channels. -/
def empty : Channels := ⟨#[], []⟩

/-- Adds a channel and gives its number. -/
def add (channel : Channel) (cs : Channels) : Nat × Channels :=
  (cs.channels.size, { cs with channels := cs.channels.push channel })

/-- Takes a message from a channel. -/
def tryReceive (number : Nat) (cs : Channels) : Received × Channels :=
  match cs.channels[number]? with
  | some channel =>
      let (received, channel) := channel.tryReceive
      (received, { cs with channels := cs.channels.setIfInBounds number channel })
  | none => (.disconnected, cs)

/-- Changes one channel. -/
def update (number : Nat) (f : Channel → Channel) (cs : Channels) : Channels :=
  match cs.channels[number]? with
  | some channel => { cs with channels := cs.channels.setIfInBounds number (f channel) }
  | none => cs

/-- Whether a matcher has seen its channel closed. -/
def sawClosed (observer : Nat) (cs : Channels) : Bool := cs.seenClosed.contains observer

/-- Remembers that a matcher has seen its channel closed. -/
def noteClosed (observer : Nat) (cs : Channels) : Channels :=
  if cs.sawClosed observer then cs else { cs with seenClosed := observer :: cs.seenClosed }

end Channels

/-- Worlds with channels. -/
class HasChannels (σ : Type) where
  part : Part σ Channels

instance : HasChannels Channels := ⟨Part.whole⟩

end PollingAssertions
