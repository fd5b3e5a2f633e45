import LiveThread.Decimal.Digits
import LiveThread.Json.Printer
import LiveThread.Json.Record
import LiveThread.Wire.Error

/-!
# Frames and their headers

A frame is one message on the wire: two decimal digits for its kind and, if
that kind has a payload, the JSON text of the payload.

Main results:

- Definitions `frameOf` and `bareFrame`: writing a frame with and without a payload.
- Definition `splitHeader`: the kind of a frame and the characters after its header.
- Theorem `splitHeader_frame`: the header that was written is the header that is read.
-/

namespace LiveThread

open Decimal Json

/-! ## Writing -/

/-- The two digits of a kind. -/
def headerChars (kind : MessageKind) : List Char :=
  [(Digit.last (kind.code / 10)).toChar, (Digit.last kind.code).toChar]

/-- The frame of a message without a payload. -/
def bareFrame (kind : MessageKind) : String :=
  String.ofList (headerChars kind)

/-- The frame of a message with a payload. -/
def frameOf (kind : MessageKind) (payload : Tree) : String :=
  String.ofList (headerChars kind ++ payload.print)

/-! ## Reading -/

/-- How many characters of a malformed frame are shown. -/
def shownChars : Nat := 16

/-- The number that the first two characters make, if they are digits, and what follows them. -/
def headerCode? : List Char → Option (Nat × List Char)
  | a :: b :: rest =>
    match Digit.ofChar? a, Digit.ofChar? b with
    | some tens, some ones => some (10 * tens.val + ones.val, rest)
    | _, _ => none
  | _ => none

/-- The kind that a frame names and the characters after its header. -/
def splitHeader (frame : String) : Except FrameError (MessageKind × List Char) :=
  match headerCode? frame.toList with
  | none => .error (.malformedHeader (String.ofList (frame.toList.take shownChars)))
  | some (code, rest) =>
    match MessageKind.ofCode? code with
    | some kind => .ok (kind, rest)
    | none => .error (.unknownKind code)

/-- Reads the whole payload of a frame. -/
def readPayload {α : Type} (read : Reader α) (data : List Char) : Except FrameError α :=
  match decodeText? read data with
  | some x => .ok x
  | none => .error .undecodable

/-! ## Reading what was written -/

theorem headerCode?_headerChars (kind : MessageKind) (data : List Char) :
    headerCode? (headerChars kind ++ data) = some (kind.code, data) := by
  cases kind <;> rfl

/-- A frame that begins with the digits of a kind names it. -/
theorem splitHeader_frame (kind : MessageKind) (data : List Char) :
    splitHeader (String.ofList (headerChars kind ++ data)) = .ok (kind, data) := by
  simp only [splitHeader, String.toList_ofList, headerCode?_headerChars, MessageKind.ofCode?_code]

theorem length_of_headerCode? {cs rest : List Char} {code : Nat}
    (h : headerCode? cs = some (code, rest)) : cs.length = rest.length + 2 := by
  unfold headerCode? at h
  split at h
  · split at h
    · cases h
      rfl
    · cases h
  · cases h

/-- What follows the header is two characters shorter than the frame. -/
theorem length_of_splitHeader {frame : String} {kind : MessageKind} {data : List Char}
    (h : splitHeader frame = .ok (kind, data)) : frame.length = data.length + 2 := by
  rw [← String.length_toList]
  unfold splitHeader at h
  split at h
  · cases h
  · next code rest read =>
    split at h
    · cases h
      exact length_of_headerCode? read
    · cases h

end LiveThread
