import LiveThread.Json.Extent
import LiveThread.Wire.Header
import LiveThread.Wire.Payload

/-!
# Messages of the server

What the server tells every page about the thread: changes of posts, each with
the id of its post, and news for the page itself.  A batch carries whole frames.

Main results:

- Definition `ServerMessage`: the messages.
- Definitions `ServerMessage.frame` and `ServerMessage.ofFrame`: writing and reading them.
- Theorem `ServerMessage.splitHeader_frame`: a frame names the kind of its message.
- Theorem `ServerMessage.kind_of_ofPayload`: a message is read only under its own kind.
- Theorem `ServerMessage.markedLength_le`: the frames of a batch together are shorter than it.
-/

namespace LiveThread

open Json

/-! ## Messages -/

/-- A message of the server. -/
inductive ServerMessage where
  /-- The server refuses to go on. -/
  | invalid (reason : String)
  | insertPost (post : Post)
  | append (id : UInt64) (code : UInt32)
  | backspace (id : UInt64)
  | splice (id : UInt64) (s : Splice)
  | closePost (id : UInt64) (links : Option (List Link)) (commands : Option (List Command))
  | insertImage (id : UInt64) (image : Image)
  | spoiler (id : UInt64)
  | moderatePost (id : UInt64) (entry : ModerationEntry)
  /-- The state of the thread, for the page. -/
  | synchronise (state : Document)
  /-- The answer to a request for an id. -/
  | postId (id : UInt64)
  /-- Several frames at once. -/
  | concat (frames : List String)
  | noop
  /-- How many readers are active, and how many there are. -/
  | syncCount (active total : UInt64)
  /-- The Unix time of the server in seconds. -/
  | serverTime (time : Int64)
  | redirect (url : String)
  | notification (text : String)
  | captcha
  /-- The settings of the board, for the page. -/
  | configs (configs : Document)

namespace ServerMessage

/-- The kind of a message. -/
def kind : ServerMessage → MessageKind
  | invalid _ => .invalid
  | insertPost _ => .insertPost
  | append _ _ => .append
  | backspace _ => .backspace
  | splice _ _ => .splice
  | closePost _ _ _ => .closePost
  | insertImage _ _ => .insertImage
  | spoiler _ => .spoiler
  | moderatePost _ _ => .moderatePost
  | synchronise _ => .synchronise
  | postId _ => .postId
  | concat _ => .concat
  | noop => .noop
  | syncCount _ _ => .syncCount
  | serverTime _ => .serverTime
  | redirect _ => .redirect
  | notification _ => .notification
  | captcha => .captcha
  | configs _ => .configs

/-- The id of the post that a message changes, if it changes one. -/
def target? : ServerMessage → Option UInt64
  | insertPost post => some post.id
  | append id _ | backspace id | splice id _ | closePost id _ _ | insertImage id _ | spoiler id
  | moderatePost id _ => some id
  | _ => none

/-! ## Writing -/

/-- A member for the id of a post. -/
def idMember (id : UInt64) : String × Tree :=
  ("id", Tree.ofInt id.toNat)

/-- The payload of a message, if its kind has one. -/
def payload? : ServerMessage → Option Tree
  | invalid reason => some (Tree.ofString reason)
  | insertPost post => some post.tree
  | append id code => some (.array [Tree.ofInt id.toNat, Tree.ofInt code.toNat])
  | backspace id | spoiler id | postId id => some (Tree.ofInt id.toNat)
  | splice id s => some (Tree.record (idMember id :: s.members))
  | closePost id links commands =>
    some (Tree.record [idMember id, ("links", nullableTree (listTree Link.tree) links),
      ("commands", nullableTree (listTree Command.tree) commands)])
  | insertImage id image => some (Tree.record (idMember id :: image.members))
  | moderatePost id entry => some (Tree.record (idMember id :: entry.members))
  | synchronise value | configs value => some value.toTree
  | concat frames => some (listTree Tree.ofString frames)
  | syncCount active total =>
    some (Tree.record [("active", Tree.ofInt active.toNat), ("total", Tree.ofInt total.toNat)])
  | serverTime time => some (Tree.ofInt time.toInt)
  | redirect text | notification text => some (Tree.ofString text)
  | noop | captcha => none

/-- The frame of a message. -/
def frame (m : ServerMessage) : String :=
  match m.payload? with
  | some payload => frameOf m.kind payload
  | none => bareFrame m.kind

/-! ## Reading -/

/-- Reads a pair of numbers. -/
def pairReader : Reader (UInt64 × UInt64) := fun room tree =>
  match Reader.list Reader.uint64 room tree with
  | some [a, b] => some (a, b)
  | _ => none

/-- The appended character of a post, whose code point must have at most 32 bits. -/
def ofPair (id code : UInt64) : Except FrameError ServerMessage :=
  if code.toNat < UInt32.size then .ok (append id code.toUInt32)
  else .error (.impossiblePayload .append (.codePoint code))

/-- Reads a record that names a post beside the members of another record. -/
def flatReader {α : Type} (names : List String) (ofMembers? : Nat → Members → Option α) :
    Reader (UInt64 × α)
  | room + 1, tree => do
    let members ← flatMembers? ("id" :: names) room tree
    return (← members.required "id" room Reader.uint64, ← ofMembers? room members)
  | 0, _ => none

/-- Reads the links and commands of a closed post. -/
def closeReader : Reader (UInt64 × Option (List Link) × Option (List Command))
  | room + 1, tree => do
    let members ← plainMembers? ["id", "links", "commands"] tree
    return (
      ← members.required "id" room Reader.uint64,
      ← members.withDefault "links" room (Reader.nullable (Reader.list Link.reader)) none,
      ← members.withDefault "commands" room (Reader.nullable (Reader.list Command.reader)) none)
  | 0, _ => none

/-- Reads the two counts of readers. -/
def countReader : Reader (UInt64 × UInt64)
  | room + 1, tree => do
    let members ← plainMembers? ["active", "total"] tree
    return (
      ← members.required "active" room Reader.uint64,
      ← members.required "total" room Reader.uint64)
  | 0, _ => none

/-- The message of a kind with these characters after the header. -/
def ofPayload (kind : MessageKind) (data : List Char) : Except FrameError ServerMessage :=
  match kind with
  | .invalid => (readPayload Reader.text data).map .invalid
  | .insertPost => (readPayload Post.reader data).map .insertPost
  | .append => (readPayload pairReader data).bind fun (id, code) => ofPair id code
  | .backspace => (readPayload Reader.uint64 data).map .backspace
  | .splice =>
    (readPayload (flatReader Splice.memberNames Splice.ofMembers?) data).map
      fun (id, s) => .splice id s
  | .closePost =>
    (readPayload closeReader data).map fun (id, links, commands) => .closePost id links commands
  | .insertImage =>
    (readPayload (flatReader Image.memberNames Image.ofMembers?) data).map
      fun (id, image) => .insertImage id image
  | .spoiler => (readPayload Reader.uint64 data).map .spoiler
  | .moderatePost =>
    (readPayload (flatReader ModerationEntry.memberNames ModerationEntry.ofMembers?) data).map
      fun (id, entry) => .moderatePost id entry
  | .synchronise => (readPayload Reader.document data).map .synchronise
  | .postId => (readPayload Reader.uint64 data).map .postId
  | .concat => (readPayload (Reader.list Reader.text) data).map .concat
  | .noop => .ok .noop
  | .syncCount =>
    (readPayload countReader data).map fun (active, total) => .syncCount active total
  | .serverTime => (readPayload Reader.int64 data).map .serverTime
  | .redirect => (readPayload Reader.text data).map .redirect
  | .notification => (readPayload Reader.text data).map .notification
  | .captcha => .ok .captcha
  | .configs => (readPayload Reader.document data).map .configs
  | .reclaim | .meguTv => .error (.unsupported kind)

/-- The message of a frame. -/
def ofFrame (frame : String) : Except FrameError ServerMessage :=
  match splitHeader frame with
  | .ok (kind, data) => ofPayload kind data
  | .error e => .error e

/-- A frame names the kind of its message. -/
theorem splitHeader_frame (m : ServerMessage) :
    ∃ data, splitHeader m.frame = .ok (m.kind, data) := by
  unfold frame
  split
  · exact ⟨_, LiveThread.splitHeader_frame _ _⟩
  · exact ⟨[], by simpa [bareFrame] using LiveThread.splitHeader_frame m.kind []⟩

/-- A message is read only under its own kind. -/
theorem kind_of_ofPayload {kind : MessageKind} {data : List Char} {m : ServerMessage}
    (h : ofPayload kind data = .ok m) : m.kind = kind := by
  have mapped : ∀ {α : Type} {read : Except FrameError α} {f : α → ServerMessage},
      read.map f = .ok m → ∃ x, f x = m := by
    intro α read f eq
    cases read with
    | error e => cases eq
    | ok x => exact ⟨x, Except.ok.inj eq⟩
  cases kind <;> simp only [ofPayload] at h
  case append =>
    cases read : readPayload pairReader data with
    | error e => simp [read, Except.bind] at h
    | ok pair =>
      simp only [read, Except.bind, ofPair] at h
      split at h
      · cases h
        rfl
      · cases h
  all_goals first
    | obtain ⟨_, rfl⟩ := mapped h
      rfl
    | cases h <;> rfl

/-- The characters of texts, and three marks for each of them. -/
def markedLength : List String → Nat
  | [] => 0
  | text :: texts => text.length + 3 + markedLength texts

theorem length_le_markedLength {text : String} {texts : List String} (h : text ∈ texts) :
    text.length + 3 ≤ markedLength texts := by
  induction texts with
  | nil => cases h
  | cons first texts ih =>
    rw [markedLength]
    rcases List.mem_cons.1 h with rfl | h
    · exact Nat.le_add_right _ _
    · exact Nat.le_trans (ih h) (Nat.le_add_left _ _)

/-- An array of texts takes the characters of the texts and three marks for each. -/
theorem extent_of_list_text {room : Nat} {tree : Tree} {texts : List String}
    (h : Reader.list Reader.text room tree = some texts) :
    markedLength texts + 1 ≤ tree.extent := by
  have items : ∀ {items : List Tree} {room : Nat} {texts : List String},
      items.mapM (Reader.text room) = some texts →
      markedLength texts ≤ itemsExtent items := by
    intro items room
    induction items with
    | nil => rintro texts h; simp at h; subst h; simp [markedLength, itemsExtent]
    | cons item items ih =>
      intro texts h
      simp only [List.mapM_cons, Option.bind_eq_bind, Option.bind_eq_some_iff, Option.pure_def,
        Option.some.injEq] at h
      obtain ⟨text, first, rest, others, rfl⟩ := h
      have := ih others
      have : text.length + 2 ≤ item.extent := by
        unfold Reader.text at first
        split at first
        · have := length_le_of_text? first
          simp only [Tree.extent]
          omega
        · cases first
      simp only [markedLength, itemsExtent]
      omega
  unfold Reader.list at h
  split at h
  · have := items h
    simp only [Tree.extent]
    omega
  · cases h

/-- The frames of a batch, with the marks around each of them, fit into the batch. -/
theorem markedLength_le {batch : String} {frames : List String}
    (h : ofFrame batch = .ok (concat frames)) :
    markedLength frames + 3 ≤ batch.length := by
  unfold ofFrame at h
  split at h
  · next kind data split =>
    cases kind_of_ofPayload h
    simp only [kind, ofPayload, readPayload, decodeText?] at h
    cases parsed : Tree.parse? data with
    | none => simp [parsed, Except.map] at h
    | some tree =>
      simp only [parsed] at h
      cases read : Reader.list Reader.text maxLevels tree with
      | none => simp [read, Except.map] at h
      | some texts =>
        simp only [read, Except.map, Except.ok.injEq, concat.injEq] at h
        subst h
        have room := Tree.extent_le_of_parse? parsed
        have size := length_of_splitHeader split
        have := extent_of_list_text read
        omega
  · cases h

/-- Each frame of a batch is shorter than the batch. -/
theorem length_lt_of_mem {batch frame : String} {frames : List String}
    (h : ofFrame batch = .ok (concat frames)) (mem : frame ∈ frames) :
    frame.length + 6 ≤ batch.length := by
  have total := markedLength_le h
  have part := length_le_markedLength mem
  omega

end ServerMessage

end LiveThread
