import LiveThread.Transport.Basic

/-!
# Connections

A connection to the server as a way out.  It goes over a socket: messages are
queued and written in order by a writer, what arrives is taken in order by a
reader, and the two go on independently of each other.  Who connects once more
gets another socket, and messages are queued for that one from then on, while
the reader and the writer of the older one go on with it.  What the page is told
of its connection does not tell the sockets apart.

Letting go of a connection, by choice or after a failure, refuses further
messages at once; those queued before are still written.  A peer that goes away
is noticed by the reader, and by the writer at its next message.

Main results:

- Definition `Socket`: what is under way on a socket in both directions.
- Definition `Connection`: a connection, with the socket that was made last and the older ones.
- Definitions `Connection.socket` and `Connection.setSocket`: a socket by its number.
- Theorems `Connection.socket_setSocket_self` and `Connection.socket_setSocket_of_ne`: a change of
  one socket leaves the others alone.
- Definitions `Connection.call`, `Connection.answer` and `Connection.connect`: its beginning.
- Theorem `Connection.socket_answer`: the sockets that were made before go on after it.
- Definitions `Connection.disconnect` and `Connection.fail`: its ends.
- Definitions `Connection.arriveAt` and `Connection.writeAt`: what happens on a socket.
- Theorem `Connection.send_refused`: nothing is accepted once the connection was let go.
-/

namespace LiveThread

/-- What the page is told of its connection. -/
inductive ConnectionState where
  | disconnected
  | connecting
  | connected
  /-- The server refused to go on, or the connection broke. -/
  | errored
  deriving DecidableEq

/-- The name of a state. -/
def ConnectionState.name : ConnectionState → String
  | .disconnected => "Disconnected"
  | .connecting => "Connecting"
  | .connected => "Connected"
  | .errored => "Errored"

/-- How the peer answers an attempt to connect. -/
inductive Handshake where
  | accepted
  | refused
  /-- No answer came in time. -/
  | timedOut
  deriving DecidableEq

/-- What can arrive from the peer. -/
inductive Arrival where
  | text (frame : String)
  /-- Anything else that leaves the connection open. -/
  | other
  /-- The peer closed the connection. -/
  | closed
  /-- The connection broke. -/
  | broken
  deriving DecidableEq

/-- What a connection is set up with. -/
structure ConnectionConfig where
  /-- Where the server listens. -/
  address : String := "ws://127.0.0.1:8000/api/socket"
  board : String := "all"
  /-- The thread that is asked for first. -/
  thread : UInt64 := 0
  /-- Milliseconds after which an attempt to connect is given up. -/
  timeout : UInt64 := 10000
  deriving DecidableEq

/-- A socket to the peer. -/
structure Socket where
  /-- Whether the writer is at work. -/
  writing : Bool := false
  /-- Frames handed over and not yet written. -/
  queued : List String := []
  /-- Whether the reader is at work. -/
  reading : Bool := false
  /-- What has arrived and was not read yet. -/
  arrived : List Arrival := []
  /-- Whether the peer still takes frames. -/
  peerOpen : Bool := false
  /-- The frames that the peer has received. -/
  received : List String := []
  deriving DecidableEq

/-! ## What happens on a socket -/

namespace Socket

/-- A new socket, with a first frame to be written. -/
def begin (first : String) : Socket :=
  { writing := true, queued := [first], reading := true, peerOpen := true }

/-- Something arrives; after the end of the socket it goes nowhere. -/
def arrive (s : Socket) (arrival : Arrival) : Socket :=
  if s.reading && s.peerOpen then
    { s with
      arrived := s.arrived ++ [arrival]
      peerOpen := arrival ≠ .closed && arrival ≠ .broken }
  else s

/-- What the reader takes next, if it is at work and anything has arrived. -/
def next? (s : Socket) : Option Arrival :=
  if s.reading then s.arrived.head? else none

/-- The first arrival is taken. -/
def shift (s : Socket) : Socket :=
  { s with arrived := s.arrived.tail }

theorem next?_eq_some_iff {s : Socket} {arrival : Arrival} :
    s.next? = some arrival ↔ s.reading = true ∧ s.arrived = arrival :: s.shift.arrived := by
  unfold next? shift
  cases s.reading <;> cases s.arrived <;> simp [eq_comm]

theorem next?_eq_none_iff {s : Socket} :
    s.next? = none ↔ (s.reading = true → s.arrived = []) := by
  unfold next?
  cases s.reading <;> simp

/-- A step of the writer: it writes the next frame, gives up when the peer takes no more, and
ends when everything is written and messages are queued no longer. -/
def writeNext (s : Socket) (held : Bool) : Socket :=
  if s.writing then
    match s.queued with
    | frame :: rest =>
      if s.peerOpen then { s with queued := rest, received := s.received ++ [frame] }
      else { s with queued := [], writing := false }
    | [] => if held then s else { s with writing := false }
  else s

/-- The reader stops. -/
def endReading (s : Socket) : Socket :=
  { s with reading := false, arrived := [] }

end Socket

/-- A connection: its state, and the socket that was made last. -/
structure Connection extends Socket where
  config : ConnectionConfig := {}
  state : ConnectionState := .disconnected
  /-- Whether messages may be handed over: from the handshake until the connection is let go. -/
  held : Bool := false
  /-- The sockets before it, the earliest first.  A new connection begins with an idle one. -/
  older : List Socket := []
  deriving DecidableEq

namespace Connection

/-! ## Sockets -/

/-- The number of the socket that was made last. -/
def number (c : Connection) : Nat :=
  c.older.length

/-- The socket with a number. -/
def socket (c : Connection) (number : Nat) : Socket :=
  if number = c.number then c.toSocket else c.older.getD number {}

/-- The connection with another socket under a number. -/
def setSocket (c : Connection) (number : Nat) (s : Socket) : Connection :=
  if number = c.number then { c with toSocket := s } else { c with older := c.older.set number s }

@[simp]
theorem socket_number (c : Connection) : c.socket c.number = c.toSocket :=
  if_pos rfl

@[simp]
theorem setSocket_number (c : Connection) (s : Socket) :
    c.setSocket c.number s = { c with toSocket := s } :=
  if_pos rfl

@[simp]
theorem number_setSocket (c : Connection) (number : Nat) (s : Socket) :
    (c.setSocket number s).number = c.number := by
  unfold setSocket
  split
  · rfl
  · exact List.length_set

@[simp]
theorem state_setSocket (c : Connection) (number : Nat) (s : Socket) :
    (c.setSocket number s).state = c.state := by
  unfold setSocket
  split <;> rfl

@[simp]
theorem held_setSocket (c : Connection) (number : Nat) (s : Socket) :
    (c.setSocket number s).held = c.held := by
  unfold setSocket
  split <;> rfl

/-- A change of a socket is there afterwards. -/
theorem socket_setSocket_self {c : Connection} {number : Nat} (made : number ≤ c.number)
    (s : Socket) : (c.setSocket number s).socket number = s := by
  by_cases last : number = c.number
  · subst last
    rw [setSocket_number]
    exact if_pos rfl
  · have inside : number < c.older.length := Nat.lt_of_le_of_ne made last
    rw [socket, number_setSocket, if_neg last, setSocket, if_neg last]
    simp [List.getD, inside]

/-- And no other socket has changed. -/
theorem socket_setSocket_of_ne (c : Connection) {number other : Nat} (different : other ≠ number)
    (s : Socket) : (c.setSocket number s).socket other = c.socket other := by
  rw [socket, number_setSocket, setSocket, socket]
  by_cases last : number = c.number
  · have older : other ≠ c.number := last ▸ different
    rw [if_pos last, if_neg older, if_neg older]
  · simp [if_neg last, List.getD, different.symm]

/-! ## Sending -/

/-- Queues a message while the connection is held and the writer at work. -/
def send (c : Connection) (m : ClientMessage) : Bool × Connection :=
  if c.held && c.writing then (true, { c with queued := c.queued ++ [m.frame] }) else (false, c)

/-- Lets go of the connection after a failure. -/
def fail (c : Connection) : Connection :=
  { c with held := false, state := .errored }

instance : Transport Connection where
  send := send
  fail c _ := c.fail

/-- Nothing is accepted once the connection was let go. -/
theorem send_refused {c : Connection} (h : c.held = false) (m : ClientMessage) :
    c.send m = (false, c) := by
  simp [send, h]

/-! ## Beginning and ending -/

/-- The request for the thread, the first message of every connection. -/
def request (c : Connection) : ClientMessage :=
  .synchronise ⟨c.config.board, c.config.thread⟩

/-- An attempt to connect begins. -/
def call (c : Connection) : Connection :=
  { c with state := .connecting }

/-- The peer answers an attempt to connect; tells whether it succeeded.  The thread is asked for
before anything else can be sent.  What was under way on the socket before goes on, but no message
is queued for it any more. -/
def answer (c : Connection) (handshake : Handshake) : Bool × Connection :=
  match handshake with
  | .accepted =>
    (true, { c with
      toSocket := .begin c.request.frame
      state := .connected
      held := true
      older := c.older ++ [c.toSocket] })
  | .refused | .timedOut => (false, { c with state := .disconnected })

/-- Attempts to connect; tells whether it succeeded. -/
def connect (c : Connection) (handshake : Handshake) : Bool × Connection :=
  c.call.answer handshake

/-- Every socket that was made goes on after an attempt, whether it succeeds or not. -/
theorem socket_answer {c : Connection} {number : Nat} (made : number ≤ c.number)
    (handshake : Handshake) :
    number ≤ (c.answer handshake).2.number ∧
      (c.answer handshake).2.socket number = c.socket number := by
  cases handshake with
  | accepted =>
    have later : (c.answer .accepted).2.number = c.number + 1 := List.length_append
    refine ⟨later ▸ Nat.le_succ_of_le made, ?_⟩
    rw [socket, later, if_neg (by omega)]
    by_cases last : number = c.number
    · subst last
      rw [socket_number]
      simp [answer, number]
    · have inside : number < c.older.length := Nat.lt_of_le_of_ne made last
      rw [socket, if_neg last]
      simp [answer, List.getD, List.getElem?_append_left inside]
  | refused | timedOut => exact ⟨made, rfl⟩

/-- Lets go of the connection, if it is held. -/
def disconnect (c : Connection) : Connection :=
  if c.held then { c with held := false, state := .disconnected } else c

/-! ## Sockets at work -/

/-- Something arrives on a socket. -/
def arriveAt (c : Connection) (number : Nat) (arrival : Arrival) : Connection :=
  c.setSocket number ((c.socket number).arrive arrival)

/-- Something arrives on the socket that was made last. -/
def arrive (c : Connection) (arrival : Arrival) : Connection :=
  c.arriveAt c.number arrival

/-- A step of the writer of a socket; messages are queued for the one that was made last only. -/
def writeAt (c : Connection) (number : Nat) : Connection :=
  c.setSocket number ((c.socket number).writeNext (c.held && number = c.number))

/-- A step of the writer of the socket that was made last. -/
def writeNext (c : Connection) : Connection :=
  c.writeAt c.number

/-- The first arrival on a socket is taken. -/
def shiftAt (c : Connection) (number : Nat) : Connection :=
  c.setSocket number (c.socket number).shift

/-- The reader of a socket stops; a failure that was noted before stays noted. -/
def endReading (c : Connection) (number : Nat) : Connection :=
  { c.setSocket number (c.socket number).endReading with
    state := if c.state = .errored then .errored else .disconnected }

/-! ## The socket that was made last -/

theorem arrive_eq (c : Connection) (arrival : Arrival) :
    c.arrive arrival = { c with toSocket := c.toSocket.arrive arrival } := by
  simp [arrive, arriveAt]

theorem writeNext_eq (c : Connection) :
    c.writeNext = { c with toSocket := c.toSocket.writeNext c.held } := by
  simp [writeNext, writeAt]

theorem shiftAt_number (c : Connection) :
    c.shiftAt c.number = { c with toSocket := c.toSocket.shift } := by
  simp [shiftAt]

theorem endReading_number (c : Connection) :
    c.endReading c.number = { c with
      toSocket := c.toSocket.endReading
      state := if c.state = .errored then .errored else .disconnected } := by
  simp [endReading]

/-! ## Everything under way -/

/-- Writes until there is nothing more to write on a socket. -/
def writeAll (c : Connection) (number : Nat) : Connection :=
  Nat.repeat (fun c => c.writeAt number) ((c.socket number).queued.length + 1) c

/-- A peer that is told of the end of a socket closes its side. -/
def hangUp (c : Connection) (number : Nat) : Connection :=
  if (c.socket number).writing then c else c.arriveAt number .closed

/-- The frames received since the last time, and none left. -/
def takeReceived (c : Connection) : List String × Connection :=
  (c.older.flatMap (·.received) ++ c.received,
    { c with received := [], older := c.older.map fun s => { s with received := [] } })

end Connection

end LiveThread
