import LiveThread.Wire.ClientMessage

/-!
# The way out

Where the messages of the client go.  A transport accepts a message or refuses
it, and it may do either at any time; it can also be told that the connection
has failed.

Main results:

- Definition `Transport`: what a way out can do.
- Definition `Logged`: a way out with a list of the messages that left by it.
- Theorem `Logged.send_sent`: exactly the accepted messages are listed, in order.
-/

namespace LiveThread

/-- A way out for messages. -/
class Transport (τ : Type) where
  /-- Hands a message over; tells whether it was accepted. -/
  send : τ → ClientMessage → Bool × τ
  /-- Is told that the connection has failed, and why. -/
  fail : τ → String → τ

/-- A way out and the messages that left by it, the earliest first. -/
structure Logged (τ : Type) where
  way : τ
  sent : List ClientMessage := []

namespace Logged

variable {τ : Type} [Transport τ]

instance : Transport (Logged τ) where
  send log m :=
    let (accepted, way) := Transport.send log.way m
    (accepted, { way := way, sent := if accepted then log.sent ++ [m] else log.sent })
  fail log reason := { log with way := Transport.fail log.way reason }

/-- Exactly the accepted messages are listed. -/
theorem send_sent (log : Logged τ) (m : ClientMessage) :
    (Transport.send log m).2.sent
      = if (Transport.send log m).1 then log.sent ++ [m] else log.sent :=
  rfl

@[simp]
theorem fail_sent (log : Logged τ) (reason : String) :
    (Transport.fail log reason).sent = log.sent :=
  rfl

end Logged

end LiveThread
