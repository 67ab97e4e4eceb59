import QuorumBridge.Event
import QuorumBridge.Journal

/-!
# Where events go

A side hands every event to its sink. A history keeps all events for good. A
channel keeps them until they are received. A channel whose receiver is gone
loses them, which is not the caller's fault: the call has done what it did, so
the loss is written to the log and nothing is turned down.

## Main definitions

* `Sink`: Where the events of a side go.
* `Sink.publish`: Handing over an event.
* `Sink.events`: The events that a sink holds.
* `Sink.receive`: Taking what waits in a channel.

## Theorems

* `Sink.events_publish`: What a sink holds after an event was handed over.
-/

namespace QuorumBridge

/-- Where the events of a side go. -/
inductive Sink
  /-- Keeps every event, oldest first. -/
  | history (events : List Event)
  /-- Keeps the events that nobody has received yet, oldest first. -/
  | channel (waiting : List Event)
  /-- Keeps nothing. -/
  | closed
deriving DecidableEq

namespace Sink

/-- A history without events. -/
def newHistory : Sink :=
  .history []

/-- A channel in which nothing waits. -/
def newChannel : Sink :=
  .channel []

/-- The events that a sink holds. -/
def events : Sink → List Event
  | .history events => events
  | .channel waiting => waiting
  | .closed => []

/-- Whether a sink still takes events. -/
def isOpen : Sink → Bool
  | .history _ | .channel _ => true
  | .closed => false

/-- The sink after it was handed an event, and the log entry for an event that
    is lost. -/
def publish (sink : Sink) (event : Event) : Sink × List Entry :=
  match sink with
  | .history events => (.history (events ++ [event]), [])
  | .channel waiting => (.channel (waiting ++ [event]), [])
  -- A lost event is no refusal. It is named in the log and forgotten.
  | .closed => (.closed, [.eventDiscarded event.name])

/-- Takes all events that wait in a channel. From other sinks there is nothing to
    be taken. -/
def receive : Sink → List Event × Sink
  | .channel waiting => (waiting, .channel [])
  | sink => ([], sink)

/-- An open sink holds an event that it is handed after all others. A closed
    one holds nothing before and after. -/
theorem events_publish (sink : Sink) (event : Event) :
    (sink.publish event).1.events = sink.events ++ if sink.isOpen then [event] else [] := by
  cases sink with
  | history events => rfl
  | channel waiting => rfl
  | closed => rfl

end Sink

end QuorumBridge
