import LiveThread.Text.Quoted
import LiveThread.Wire.Kind

/-!
# Faults of frames

Why a frame is not a message of the direction it was sent in.

Main results:

- Definition `FrameError`: the faults.
- Definition `FrameError.message?`: their wording; what is wrong inside a payload has none.
-/

namespace LiveThread

/-- A payload that is well formed but says something impossible. -/
inductive PayloadFault where
  /-- A code point of more than 32 bits. -/
  | codePoint (code : UInt64)
  /-- A server time too far from the local clock. -/
  | serverTime (time : Int64)
  deriving DecidableEq

/-- The wording of an impossible payload. -/
def PayloadFault.message : PayloadFault → String
  | .codePoint code => "code point " ++ toString code.toNat
  | .serverTime time => "server time " ++ toString time.toInt ++ " out of range"

/-- Why a frame is not a message. -/
inductive FrameError where
  /-- The frame does not begin with two digits; its first characters are kept. -/
  | malformedHeader (start : String)
  | unknownKind (code : Nat)
  /-- Messages of this kind are not sent in this direction. -/
  | unsupported (kind : MessageKind)
  | impossiblePayload (kind : MessageKind) (fault : PayloadFault)
  /-- The payload does not follow the schema of its kind. -/
  | undecodable
  deriving DecidableEq

/-- The wording of a fault, if it has one. -/
def FrameError.message? : FrameError → Option String
  | .malformedHeader start => some ("Malformed message header: " ++ Text.quote start)
  | .unknownKind code => some ("Unknown message type: " ++ toString code)
  | .unsupported kind => some ("No payload schema for " ++ kind.name ++ " in this direction")
  | .impossiblePayload kind fault =>
    some ("Invalid " ++ kind.name ++ " payload: " ++ fault.message)
  | .undecodable => none

end LiveThread
