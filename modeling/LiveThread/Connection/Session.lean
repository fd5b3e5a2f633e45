import LiveThread.Connection.Reader
import LiveThread.Page.Session

/-!
# Sessions over a connection

A page in use whose way out is a connection.

Main results:

- Definition `Session.connect`: connecting, of which the listener is told.
- Definition `Session.settle`: what is under way arrives, and waiting uploads look again.
-/

namespace LiveThread

namespace Session

/-- Attempts to connect; tells whether it succeeded. -/
def connect (s : Session Connection) (handshake : Handshake) : Bool × Session Connection :=
  let (connected, connection) := s.page.transport.connect handshake
  (connected,
    s.turn { s.page with transport := connection } (if connected then [.connected] else []))

/-- Changes the connection. -/
def mapConnection (s : Session Connection) (change : Connection → Connection) :
    Session Connection :=
  { s with page := s.page.mapConnection change }

/-- Everything under way arrives on both sides. -/
def deliverAll (s : Session Connection) (now : Int64) : Session Connection :=
  let (page, events) := s.page.settle s.handlers now
  s.turn page events

/-- Waiting uploads look again, before and after everything under way has arrived, and what they
send arrives as well. -/
def settle (s : Session Connection) (now : Int64) :
    List FinishedUpload × Session Connection :=
  let (before, s) := s.recheck
  let (after, s) := (s.deliverAll now).recheck
  (before ++ after, s.deliverAll now)

end Session

end LiveThread
