import LiveThread.Post.Schema

/-!
# Payloads

Records that occur only in messages, with the way they are written and read.

Main results:

- Definitions `Splice`, `UploadedFile`, `AllocationRequest` and `SyncRequest`: the records.
-/

namespace LiveThread

open Json

/-! ## Splices -/

/-- Replace `count` characters from `start` on by a text. -/
structure Splice where
  start : UInt64
  count : UInt64
  text : String
  deriving DecidableEq

/-- The members of a splice, in order. -/
def Splice.members (s : Splice) : List (String × Tree) :=
  [("start", Tree.ofInt s.start.toNat), ("len", Tree.ofInt s.count.toNat),
    ("text", Tree.ofString s.text)]

/-- The names of the members of a splice, in order. -/
def Splice.memberNames : List String :=
  ["start", "len", "text"]

@[simp]
theorem Splice.members_names (s : Splice) : s.members.map Prod.fst = Splice.memberNames :=
  rfl

/-- The splice that members describe, `room` levels being left inside. -/
def Splice.ofMembers? (room : Nat) (members : Members) : Option Splice := do
  return {
    start := ← members.required "start" room Reader.uint64
    count := ← members.required "len" room Reader.uint64
    text := ← members.required "text" room Reader.text }

/-- The object of a splice. -/
def Splice.tree (s : Splice) : Tree :=
  Tree.record s.members

/-- Reads a splice. -/
def Splice.reader : Reader Splice
  | room + 1, tree => do Splice.ofMembers? room (← plainMembers? Splice.memberNames tree)
  | 0, _ => none

/-! ## Uploaded files -/

/-- A finished upload, as the upload service describes it. -/
structure UploadedFile where
  token : String
  name : String
  spoiler : Bool := false
  deriving DecidableEq

/-- The object of a finished upload. -/
def UploadedFile.tree (file : UploadedFile) : Tree :=
  Tree.record [("token", Tree.ofString file.token), ("name", Tree.ofString file.name),
    ("spoiler", .bool file.spoiler)]

/-- Reads a finished upload. -/
def UploadedFile.reader : Reader UploadedFile
  | room + 1, tree => do
    let members ← plainMembers? ["token", "name", "spoiler"] tree
    return {
      token := ← members.required "token" room Reader.text
      name := ← members.required "name" room Reader.text
      spoiler := ← members.withDefault "spoiler" room Reader.bool false }
  | 0, _ => none

/-! ## Requests -/

/-- Asks for the id of a new post, which may begin with a body and an image. -/
structure AllocationRequest where
  /-- Whether the post stays open. -/
  editing : Bool := true
  body : Option String := none
  image : Option UploadedFile := none
  name : Option String := none
  deriving DecidableEq

/-- A member that is left out when it is absent. -/
def optionalMember {α : Type} (name : String) (tree : α → Tree) :
    Option α → List (String × Tree)
  | some x => [(name, tree x)]
  | none => []

/-- The object of a request for an id. -/
def AllocationRequest.tree (request : AllocationRequest) : Tree :=
  Tree.record (("open", .bool request.editing) ::
    (optionalMember "body" Tree.ofString request.body
      ++ optionalMember "image" UploadedFile.tree request.image
      ++ optionalMember "name" Tree.ofString request.name))

/-- Reads a request for an id. -/
def AllocationRequest.reader : Reader AllocationRequest
  | room + 1, tree => do
    let members ← plainMembers? ["open", "body", "image", "name"] tree
    return {
      editing := ← members.required "open" room Reader.bool
      body := ← members.withDefault "body" room (Reader.nullable Reader.text) none
      image := ← members.withDefault "image" room (Reader.nullable UploadedFile.reader) none
      name := ← members.withDefault "name" room (Reader.nullable Reader.text) none }
  | 0, _ => none

/-- Asks for the messages of a thread; the first message of every connection. -/
structure SyncRequest where
  board : String
  thread : UInt64
  deriving DecidableEq

/-- The object of a request for a thread. -/
def SyncRequest.tree (request : SyncRequest) : Tree :=
  Tree.record [("board", Tree.ofString request.board), ("thread", Tree.ofInt request.thread.toNat)]

/-- Reads a request for a thread. -/
def SyncRequest.reader : Reader SyncRequest
  | room + 1, tree => do
    let members ← plainMembers? ["board", "thread"] tree
    return {
      board := ← members.required "board" room Reader.text
      thread := ← members.required "thread" room Reader.uint64 }
  | 0, _ => none

end LiveThread
