import LiveThread.Json.Value
import LiveThread.Wire.Kind

/-!
# Events

What a page tells its listener: changes of posts, news of the thread, and the
life of the connection.  Events wait in a queue until the listener takes them.
The queue holds a bounded number of them; an event that finds it full is lost.

Main results:

- Definition `Event`: the events.
- Definition `EventQueue`: the waiting events and whether anybody will take them.
- Theorem `EventQueue.length_pushAll_le`: the queue never outgrows its capacity.
-/

namespace LiveThread

/-- What a listener is told. -/
inductive Event where
  | connected
  | disconnected
  /-- A post that was not registered before. -/
  | postInserted (id : UInt64)
  | postChanged (id : UInt64) (kind : MessageKind)
  /-- The own post has an id. -/
  | allocated (id : UInt64)
  /-- The server refuses to go on. -/
  | fatal (reason : String)
  /-- The time of the server, and by how much it is ahead of the local clock. -/
  | serverTime (time offset : Int64)
  | redirect (url : String)
  | notification (text : String)
  | syncCount (active total : UInt64)
  | captchaRequired
  | synchronised (state : Json.Document)
  | configs (configs : Json.Document)

/-- Where the receiving end of the queue is. -/
inductive Listener where
  /-- Nobody has asked for it yet. -/
  | awaited
  | listening
  /-- It was given away and dropped. -/
  | gone
  deriving DecidableEq

/-- Events that wait for the listener, the earliest first. -/
structure EventQueue where
  listener : Listener := .awaited
  pending : List Event := []

namespace EventQueue

/-- The greatest number of waiting events. -/
def capacity : Nat := 256

/-- Adds an event, unless the queue is full or nobody can ever take it. -/
def push (q : EventQueue) (event : Event) : EventQueue :=
  if q.listener = .gone ∨ capacity ≤ q.pending.length then q
  else { q with pending := q.pending ++ [event] }

/-- Adds events in order. -/
def pushAll (q : EventQueue) (events : List Event) : EventQueue :=
  events.foldl push q

/-- Gives the receiving end away, which is possible once; tells whether it was. -/
def listen (q : EventQueue) : Bool × EventQueue :=
  if q.listener = .awaited then (true, { q with listener := .listening }) else (false, q)

/-- Gives the receiving end away and drops it; tells whether it was there to be given. -/
def listenAndDrop (q : EventQueue) : Bool × EventQueue :=
  if q.listener = .awaited then (true, { listener := .gone, pending := [] }) else (false, q)

/-- Takes the event that has waited longest, if there is a listener and an event. -/
def take (q : EventQueue) : Option Event × EventQueue :=
  if q.listener = .listening then (q.pending.head?, { q with pending := q.pending.tail })
  else (none, q)

/-- The listener drops the receiving end; what waits is lost. -/
def leave (q : EventQueue) : EventQueue :=
  if q.listener = .listening then { listener := .gone, pending := [] } else q

/-- Takes every waiting event, if there is a listener. -/
def drain (q : EventQueue) : List Event × EventQueue :=
  if q.listener = .listening then (q.pending, { q with pending := [] }) else ([], q)

theorem length_push_le {q : EventQueue} (event : Event) (h : q.pending.length ≤ capacity) :
    (q.push event).pending.length ≤ capacity := by
  unfold push
  split
  · exact h
  · next room =>
    simp only [not_or, Nat.not_le] at room
    simp only [List.length_append, List.length_singleton]
    omega

/-- The queue never outgrows its capacity. -/
theorem length_pushAll_le {q : EventQueue} (events : List Event)
    (h : q.pending.length ≤ capacity) : (q.pushAll events).pending.length ≤ capacity := by
  induction events generalizing q with
  | nil => exact h
  | cons event events ih => exact ih (length_push_le event h)

end EventQueue

end LiveThread
