import LiveThread.Json.Record
import LiveThread.Post.Basic

/-!
# Posts as JSON

How posts and their parts are written and read.  Every record is written as an
object with its members in a fixed order.  Members with a value of their own
may be missing when a record is read, and three lists of a post may be null.

Main results:

- Definitions `Image.tree`, `Link.tree`, `Command.tree`, `ModerationEntry.tree` and `Post.tree`:
  the written records.
- Definitions `Image.reader`, `Link.reader`, `Command.reader`, `ModerationEntry.reader` and
  `Post.reader`: the readers of the same records.
-/

namespace LiveThread

open Json

/-! ## Trees of common shapes -/

/-- The tree of what may be absent. -/
def nullableTree {α : Type} (tree : α → Tree) : Option α → Tree
  | some x => tree x
  | none => .null

/-- The tree of a list. -/
def listTree {α : Type} (tree : α → Tree) (items : List α) : Tree :=
  .array (items.map tree)

/-! ## Images -/

/-- The array of the four extents. -/
def Dimensions.tree (d : Dimensions) : Tree :=
  .array ([d.width, d.height, d.thumbWidth, d.thumbHeight].map fun n => Tree.ofInt n.toNat)

/-- Reads an array of exactly four extents. -/
def Dimensions.reader : Reader Dimensions := fun room tree =>
  match Reader.list Reader.uint16 room tree with
  | some [width, height, thumbWidth, thumbHeight] =>
    some ⟨width, height, thumbWidth, thumbHeight⟩
  | _ => none

/-- The members of an image, in order. -/
def Image.members (image : Image) : List (String × Tree) :=
  [("spoiler", .bool image.spoiler),
    ("file_type", Tree.ofInt image.fileType.toNat),
    ("thumb_type", Tree.ofInt image.thumbType.toNat),
    ("dims", image.dimensions.tree),
    ("size", Tree.ofInt image.size.toNat),
    ("length", Tree.ofInt image.length.toNat),
    ("md5", Tree.ofString image.md5),
    ("sha1", Tree.ofString image.sha1),
    ("name", Tree.ofString image.name)]

/-- The names of the members of an image, in order. -/
def Image.memberNames : List String :=
  ["spoiler", "file_type", "thumb_type", "dims", "size", "length", "md5", "sha1", "name"]

@[simp]
theorem Image.members_names (image : Image) : image.members.map Prod.fst = Image.memberNames :=
  rfl

/-- The image that members describe, `room` levels being left inside. -/
def Image.ofMembers? (room : Nat) (members : Members) : Option Image := do
  return {
    spoiler := ← members.withDefault "spoiler" room Reader.bool false
    fileType := ← members.withDefault "file_type" room Reader.uint8 0
    thumbType := ← members.withDefault "thumb_type" room Reader.uint8 0
    dimensions := ← members.withDefault "dims" room Dimensions.reader {}
    size := ← members.withDefault "size" room Reader.uint64 0
    length := ← members.withDefault "length" room Reader.uint32 0
    md5 := ← members.withDefault "md5" room Reader.text ""
    sha1 := ← members.withDefault "sha1" room Reader.text ""
    name := ← members.withDefault "name" room Reader.text "" }

/-- The object of an image. -/
def Image.tree (image : Image) : Tree :=
  Tree.record image.members

/-- Reads an image. -/
def Image.reader : Reader Image
  | room + 1, tree => do Image.ofMembers? room (← plainMembers? Image.memberNames tree)
  | 0, _ => none

/-! ## Links and commands -/

/-- The object of a link. -/
def Link.tree (link : Link) : Tree :=
  Tree.record [("id", Tree.ofInt link.id.toNat), ("op", Tree.ofInt link.op.toNat),
    ("board", Tree.ofString link.board)]

/-- Reads a link. -/
def Link.reader : Reader Link
  | room + 1, tree => do
    let members ← plainMembers? ["id", "op", "board"] tree
    return {
      id := ← members.required "id" room Reader.uint64
      op := ← members.required "op" room Reader.uint64
      board := ← members.withDefault "board" room Reader.text "" }
  | 0, _ => none

/-- The object of a command. -/
def Command.tree (command : Command) : Tree :=
  Tree.record [("type", Tree.ofInt command.kind.toNat), ("val", command.value.toTree)]

/-- Reads a command. -/
def Command.reader : Reader Command
  | room + 1, tree => do
    let members ← plainMembers? ["type", "val"] tree
    return {
      kind := ← members.required "type" room Reader.uint8
      value := ← members.withDefault "val" room Reader.document Document.null }
  | 0, _ => none

/-! ## Moderation -/

/-- The tree of an action. -/
def ModerationAction.tree (action : ModerationAction) : Tree :=
  Tree.ofInt action.code.toNat

/-- Reads the number of an action. -/
def ModerationAction.reader : Reader ModerationAction := fun room tree =>
  (Reader.uint8 room tree).bind ModerationAction.ofCode?

/-- The members of an entry of the moderation log, in order. -/
def ModerationEntry.members (entry : ModerationEntry) : List (String × Tree) :=
  [("type", entry.action.tree),
    ("length", Tree.ofInt entry.length.toNat),
    ("by", Tree.ofString entry.staff),
    ("data", Tree.ofString entry.data)]

/-- The names of the members of an entry, in order. -/
def ModerationEntry.memberNames : List String :=
  ["type", "length", "by", "data"]

@[simp]
theorem ModerationEntry.members_names (entry : ModerationEntry) :
    entry.members.map Prod.fst = ModerationEntry.memberNames :=
  rfl

/-- The entry that members describe, `room` levels being left inside. -/
def ModerationEntry.ofMembers? (room : Nat) (members : Members) : Option ModerationEntry := do
  return {
    action := ← members.required "type" room ModerationAction.reader
    length := ← members.withDefault "length" room Reader.uint64 0
    staff := ← members.withDefault "by" room Reader.text ""
    data := ← members.withDefault "data" room Reader.text "" }

/-- The object of an entry. -/
def ModerationEntry.tree (entry : ModerationEntry) : Tree :=
  Tree.record entry.members

/-- Reads an entry. -/
def ModerationEntry.reader : Reader ModerationEntry
  | room + 1, tree => do
    ModerationEntry.ofMembers? room (← plainMembers? ModerationEntry.memberNames tree)
  | 0, _ => none

/-! ## Posts -/

/-- The members of a post, in order.  That the post was shown is not among them. -/
def Post.members (p : Post) : List (String × Tree) :=
  [("id", Tree.ofInt p.id.toNat),
    ("op", Tree.ofInt p.op.toNat),
    ("board", Tree.ofString p.board),
    ("time", Tree.ofInt p.time.toInt),
    ("editing", .bool p.editing),
    ("sage", .bool p.sage),
    ("name", Tree.ofString p.name),
    ("trip", Tree.ofString p.trip),
    ("body", Tree.ofString p.body),
    ("image", nullableTree Image.tree p.image),
    ("links", listTree Link.tree p.links),
    ("commands", listTree Command.tree p.commands),
    ("moderation", listTree ModerationEntry.tree p.moderation)]

/-- The names of the members of a post, in order. -/
def Post.memberNames : List String :=
  ["id", "op", "board", "time", "editing", "sage", "name", "trip", "body", "image", "links",
    "commands", "moderation"]

@[simp]
theorem Post.members_names (p : Post) : p.members.map Prod.fst = Post.memberNames :=
  rfl

/-- The object of a post. -/
def Post.tree (p : Post) : Tree :=
  Tree.record p.members

/-- Reads a post; every member may be missing. -/
def Post.reader : Reader Post
  | room + 1, tree => do
    let members ← plainMembers? Post.memberNames tree
    return {
      id := ← members.withDefault "id" room Reader.uint64 0
      op := ← members.withDefault "op" room Reader.uint64 0
      board := ← members.withDefault "board" room Reader.text ""
      time := ← members.withDefault "time" room Reader.int64 0
      editing := ← members.withDefault "editing" room Reader.bool false
      sage := ← members.withDefault "sage" room Reader.bool false
      name := ← members.withDefault "name" room Reader.text ""
      trip := ← members.withDefault "trip" room Reader.text ""
      body := ← members.withDefault "body" room Reader.text ""
      image := ← members.withDefault "image" room (Reader.nullable Image.reader) none
      links := ← members.withDefault "links" room (Reader.nullableList Link.reader) []
      commands := ← members.withDefault "commands" room (Reader.nullableList Command.reader) []
      moderation :=
        ← members.withDefault "moderation" room (Reader.nullableList ModerationEntry.reader) [] }
  | 0, _ => none

end LiveThread
