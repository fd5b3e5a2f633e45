import LiveThread.Connection.Basic
import LiveThread.Page.Delivery

/-!
# Reading from a connection

A reader takes what has arrived on its socket, one thing after the other, and
delivers the frames to the page.  A rejected frame is passed over; a fatal one, a
closed and a broken socket end the reading, and the listener is told of the end
once.  The readers of all sockets note the end in one state, and a broken socket
makes the connection errored whichever it is.

Main results:

- Definition `Page.readAt`: a step of the reader of a socket.
- Definition `Page.readNext`: a step of the reader of the socket that was made last.
- Definition `Page.settle`: everything under way arrives on both sides.
-/

namespace LiveThread

namespace Page

/-- The page with another state of its connection. -/
def mapConnection (page : Page Connection) (change : Connection → Connection) :
    Page Connection :=
  { page with transport := change page.transport }

/-- The reader of a socket stops and the listener is told. -/
def endReading (page : Page Connection) (number : Nat) (events : List Event) :
    Page Connection × List Event :=
  (page.mapConnection (·.endReading number), events ++ [.disconnected])

/-- Takes one arrival from a socket. -/
def readArrival (page : Page Connection) (handlers : Handlers Connection) (now : Int64)
    (number : Nat) : Arrival → Page Connection × List Event
  | .text frame =>
    let reply := page.deliverFrame handlers now frame
    match reply.result with
    | .error (.fatal _) => reply.page.endReading number reply.events
    | _ => (reply.page, reply.events)
  | .other => (page, [])
  | .closed => page.endReading number []
  | .broken => (page.mapConnection fun c => { c with state := .errored }).endReading number []

/-- A step of the reader of a socket: it takes the first arrival, if it is at work and there is
one. -/
def readAt (page : Page Connection) (handlers : Handlers Connection) (now : Int64)
    (number : Nat) : Page Connection × List Event :=
  match (page.transport.socket number).next? with
  | none => (page, [])
  | some arrival =>
    (page.mapConnection (·.shiftAt number)).readArrival handlers now number arrival

/-- A step of the reader of the socket that was made last. -/
def readNext (page : Page Connection) (handlers : Handlers Connection) (now : Int64) :
    Page Connection × List Event :=
  page.readAt handlers now page.transport.number

/-! ## Everything under way -/

/-- Several steps of the reader of a socket. -/
def readSteps (handlers : Handlers Connection) (now : Int64) (number : Nat) :
    Nat → Page Connection → Page Connection × List Event
  | 0, page => (page, [])
  | steps + 1, page =>
    let (page, events) := page.readAt handlers now number
    let (page, later) := readSteps handlers now number steps page
    (page, events ++ later)

/-- Reads until nothing is left on a socket. -/
def readAll (page : Page Connection) (handlers : Handlers Connection) (now : Int64)
    (number : Nat) : Page Connection × List Event :=
  readSteps handlers now number (page.transport.socket number).arrived.length page

/-- Everything under way on a socket arrives on both sides: what is queued is written, what has
arrived is read, what remains after a failure is written, and the end of a socket that was let go is
answered by the peer. -/
def settleAt (page : Page Connection) (handlers : Handlers Connection) (now : Int64)
    (number : Nat) : Page Connection × List Event :=
  let page := page.mapConnection (·.writeAll number)
  let (page, events) := page.readAll handlers now number
  let page := page.mapConnection fun c => (c.writeAll number).hangUp number
  let (page, later) := page.readAll handlers now number
  (page, events ++ later)

/-- Everything under way on some sockets arrives, on one after the other. -/
def settleEach (handlers : Handlers Connection) (now : Int64) :
    List Nat → Page Connection → Page Connection × List Event
  | [], page => (page, [])
  | number :: numbers, page =>
    let (page, events) := page.settleAt handlers now number
    let (page, later) := settleEach handlers now numbers page
    (page, events ++ later)

/-- Everything under way arrives, on the oldest socket first. -/
def settle (page : Page Connection) (handlers : Handlers Connection) (now : Int64) :
    Page Connection × List Event :=
  settleEach handlers now (List.range (page.transport.number + 1)) page

end Page

end LiveThread
