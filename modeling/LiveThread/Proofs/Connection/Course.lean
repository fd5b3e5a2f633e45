import LiveThread.Proofs.Connection.Sockets

/-!
# The course of a connection

From the moment at which a connection was accepted, everything around it goes
on in any order, and now and then the client may try in vain to connect once
more.  Such an attempt leaves the socket alone and only makes the client
forget how its connection stood.

To connect, the request for the thread included, is a single step, and so is it
to let go of the connection, to report a failure, and to take what arrived.

Main results:

- Definition `ClientStep`: what can happen in the course of a connection.
- Definitions `Page.connect`, `Page.undergo` and `Page.undergoAll`: how a page goes through it.
- Theorem `Page.undergo_eq_pursue`: that is what happens on the socket that was made last.
- Definition `Page.takes`: what its reader takes.
- Theorem `Page.incoming_undergo`: what a step means to its reader.
-/

namespace LiveThread

/-- What can happen in the course of a connection. -/
inductive ClientStep where
  | around (step : ConnectionStep)
  /-- An attempt to connect that does not succeed. -/
  | attempt (handshake : Handshake) (failed : handshake ≠ .accepted)

namespace ClientStep

/-- What arrives in a step. -/
def arrivals : ClientStep → List Arrival
  | .around (.arrive arrival) => [arrival]
  | _ => []

/-- The same step on a socket with a number. -/
def on (number : Nat) : ClientStep → SocketStep
  | .around (.act action) => .act action
  | .around (.send m) => .send m
  | .around .disconnect => .disconnect
  | .around (.arrive arrival) => .arrive number arrival
  | .around .read => .read number
  | .around .write => .write number
  | .attempt handshake _ => .answer handshake

end ClientStep

/-- What arrives in some steps. -/
def arrivalsOf (steps : List (Int64 × ClientStep)) : List Arrival :=
  steps.flatMap (·.2.arrivals)

namespace Page

open Connection

/-- An attempt to connect, and what is told of it. -/
def connect (page : Page Connection) (handshake : Handshake) : Page Connection × List Event :=
  let (connected, connection) := page.transport.connect handshake
  ({ page with transport := connection }, if connected then [.connected] else [])

/-- A step in the course of a connection, and what is told of it. -/
def undergo (now : Int64) (page : Page Connection) : ClientStep → Page Connection × List Event
  | .around step => page.advance now step
  | .attempt handshake _ => page.connect handshake

/-- The page after some steps, and what is told of them. -/
def undergoAll (page : Page Connection) (steps : List (Int64 × ClientStep)) :
    Page Connection × List Event :=
  page.through undergo steps

theorem undergoAll_cons (page : Page Connection) (now : Int64) (step : ClientStep)
    (steps : List (Int64 × ClientStep)) :
    page.undergoAll ((now, step) :: steps)
      = (((page.undergo now step).1.undergoAll steps).1,
          (page.undergo now step).2 ++ ((page.undergo now step).1.undergoAll steps).2) :=
  rfl

/-- Steps go on where the first of them ended. -/
theorem undergoAll_append (page : Page Connection) (before after : List (Int64 × ClientStep)) :
    page.undergoAll (before ++ after)
      = (((page.undergoAll before).1.undergoAll after).1,
          (page.undergoAll before).2 ++ ((page.undergoAll before).1.undergoAll after).2) :=
  page.through_append undergo before after

/-- An attempt that does not succeed leaves everything but the state alone, and nothing is told. -/
theorem connect_of_failed (page : Page Connection) {handshake : Handshake}
    (failed : handshake ≠ .accepted) :
    page.connect handshake
      = (page.mapConnection fun c => { c with state := .disconnected }, []) := by
  cases handshake with
  | accepted => exact absurd rfl failed
  | refused | timedOut => rfl

/-! ## The reader -/

/-- What the reader takes in a step. -/
def takes (page : Page Connection) : ClientStep → List Arrival
  | .around .read => page.transport.next?.toList
  | _ => []

/-- The page without the first arrival. -/
def shift (page : Page Connection) : Page Connection :=
  page.mapConnection fun c => c.shiftAt c.number

/-- A step in the course of a connection is one on the socket that was made last. -/
theorem undergo_eq_pursue (now : Int64) (page : Page Connection) (step : ClientStep) :
    page.undergo now step = page.pursue now (step.on page.transport.number) := by
  cases step with
  | around step => cases step <;> rfl
  | attempt handshake failed =>
    cases handshake with
    | accepted => exact absurd rfl failed
    | refused | timedOut => rfl

/-- So it means to the reader what it means there. -/
theorem incoming_undergo (now : Int64) (page : Page Connection) (step : ClientStep) :
    page.transport.toSocket.Incoming (page.undergo now step).1.transport.toSocket step.arrivals
      (page.takes step) := by
  have other : step.on page.transport.number ≠ .answer .accepted := by
    cases step with
    | around step => cases step <;> rintro ⟨⟩
    | attempt handshake failed =>
      rintro ⟨⟩
      exact failed rfl
  obtain ⟨-, incoming⟩ :=
    incoming_pursue now (Nat.le_refl page.transport.number) (step.on page.transport.number)
  have last := number_pursue now page other
  rw [← undergo_eq_pursue] at last incoming
  rw [socket_number, ← last, socket_number, last] at incoming
  cases step with
  | around step =>
    cases step <;>
      simpa [ClientStep.on, ClientStep.arrivals, SocketStep.arrivals, takes, takesAt] using incoming
  | attempt handshake failed => exact incoming

/-- The reader takes the first arrival, or it takes nothing: it has stopped, or nothing has
arrived. -/
theorem read_cases (now : Int64) (page : Page Connection) :
    page.takes (.around .read) = [] ∧ page.undergo now (.around .read) = (page, []) ∨
    ∃ arrival, page.takes (.around .read) = [arrival] ∧ page.undergo now (.around .read)
      = page.shift.readArrival Handlers.standard now page.transport.number arrival := by
  rcases pursue_read_cases now page page.transport.number with
    ⟨nothing, idle⟩ | ⟨arrival, next, read, -⟩
  · rw [socket_number] at nothing
    exact .inl ⟨by rw [takes, nothing]; rfl, idle⟩
  · rw [socket_number] at next
    exact .inr ⟨arrival, by rw [takes, next]; rfl, read⟩

end Page

end LiveThread
