import LiveThread.Wire.Header
import LiveThread.Wire.Payload

/-!
# Messages of the client

The requests that the author of a post sends.  A post needs no name in them:
all of them concern the one post that is open on the connection.

Main results:

- Definition `ClientMessage`: the messages.
- Definitions `ClientMessage.frame` and `ClientMessage.ofFrame`: writing and reading them.
- Theorem `ClientMessage.splitHeader_frame`: a frame names the kind of its message.
-/

namespace LiveThread

open Json

/-- A message of the client. -/
inductive ClientMessage where
  | synchronise (request : SyncRequest)
  | insertPost (request : AllocationRequest)
  /-- Appends the character with a code point. -/
  | append (code : UInt32)
  | backspace
  | splice (s : Splice)
  | closePost
  | insertImage (file : UploadedFile)
  | spoiler
  | noop
  deriving DecidableEq

namespace ClientMessage

/-- The kind of a message. -/
def kind : ClientMessage → MessageKind
  | synchronise _ => .synchronise
  | insertPost _ => .insertPost
  | append _ => .append
  | backspace => .backspace
  | splice _ => .splice
  | closePost => .closePost
  | insertImage _ => .insertImage
  | spoiler => .spoiler
  | noop => .noop

/-- The payload of a message, if its kind has one. -/
def payload? : ClientMessage → Option Tree
  | synchronise request => some request.tree
  | insertPost request => some request.tree
  | append code => some (Tree.ofInt code.toNat)
  | splice s => some s.tree
  | insertImage file => some file.tree
  | backspace | closePost | spoiler | noop => none

/-- The frame of a message. -/
def frame (m : ClientMessage) : String :=
  match m.payload? with
  | some payload => frameOf m.kind payload
  | none => bareFrame m.kind

/-- The message of a kind with these characters after the header. -/
def ofPayload (kind : MessageKind) (data : List Char) : Except FrameError ClientMessage :=
  match kind with
  | .synchronise => (readPayload SyncRequest.reader data).map .synchronise
  | .insertPost => (readPayload AllocationRequest.reader data).map .insertPost
  | .append => (readPayload Reader.uint32 data).map .append
  | .backspace => .ok .backspace
  | .splice => (readPayload Splice.reader data).map .splice
  | .closePost => .ok .closePost
  | .insertImage => (readPayload UploadedFile.reader data).map .insertImage
  | .spoiler => .ok .spoiler
  | .noop => .ok .noop
  | other => .error (.unsupported other)

/-- The message of a frame. -/
def ofFrame (frame : String) : Except FrameError ClientMessage :=
  match splitHeader frame with
  | .ok (kind, data) => ofPayload kind data
  | .error e => .error e

/-- A frame names the kind of its message. -/
theorem splitHeader_frame (m : ClientMessage) :
    ∃ data, splitHeader m.frame = .ok (m.kind, data) := by
  unfold frame
  split
  · exact ⟨_, LiveThread.splitHeader_frame _ _⟩
  · exact ⟨[], by simpa [bareFrame] using LiveThread.splitHeader_frame m.kind []⟩

end ClientMessage

end LiveThread
