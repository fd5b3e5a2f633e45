import LiveThread.Proofs.Json.Records
import LiveThread.Wire.Payload

/-!
# The schemas of posts and requests

Every record of a message is read back from the tree that it is written as,
provided that as many levels are left as stand inside each other in it.

Main results:

- Theorem `Post.reader_tree`: a post is read back but for the mark that it was shown, if its
  commands hold no doubles and are not too deep.
- Theorems `Image.reader_tree`, `Link.reader_tree`, `Command.reader_tree` and
  `ModerationEntry.ofMembers?_members`: so are its parts.
- Theorems `Splice.reader_tree`, `UploadedFile.reader_tree`, `AllocationRequest.reader_tree` and
  `SyncRequest.reader_tree`: so are the payloads of requests.
- Theorem `Post.levels_le_of_reader`: no command of a post is deeper than its reader allows.
-/

namespace LiveThread

open Json

/-! ## Images -/

namespace Dimensions

/-- Four numbers are the extents. -/
theorem reader_of_list {room : Nat} {tree : Tree} {width height thumbWidth thumbHeight : UInt16}
    (h : Reader.list Reader.uint16 room tree = some [width, height, thumbWidth, thumbHeight]) :
    Dimensions.reader room tree = some ⟨width, height, thumbWidth, thumbHeight⟩ := by
  unfold Dimensions.reader
  rw [h]

theorem reader_tree (d : Dimensions) (room : Nat) :
    Dimensions.reader (room + 1) d.tree = some d :=
  reader_of_list (Reader.list_listTree fun n _ => Reader.uint16_ofInt room n)

theorem isSome_ofTree?_tree (d : Dimensions) (room : Nat) :
    (Value.ofTree? (room + 1) d.tree).isSome := by
  apply isSome_ofTree?_array
  intro item mem
  obtain ⟨n, -, rfl⟩ := List.mem_map.1 mem
  exact isSome_ofTree?_uint16 room n

theorem printable_tree (d : Dimensions) : d.tree.Printable := by
  apply printable_array
  intro item mem
  obtain ⟨n, -, rfl⟩ := List.mem_map.1 mem
  exact printable_ofInt n.toNat

end Dimensions

namespace Image

theorem ofMembers?_members (image : Image) (room : Nat) :
    Image.ofMembers? (room + 1) image.members = some image := by
  simp [Image.ofMembers?, members, Dimensions.reader_tree]

theorem reader_tree (image : Image) (room : Nat) :
    Image.reader (room + 2) image.tree = some image := by
  have members : plainMembers? memberNames image.tree = some image.members :=
    plainMembers?_record (by simp) (by rw [members_names]; decide)
  rw [Image.reader, Option.bind_eq_bind, Option.bind_eq_some_iff]
  exact ⟨_, members, ofMembers?_members image room⟩

/-- Every member of an image is a value. -/
theorem isSome_ofTree?_of_mem {image : Image} {room : Nat} {member : String × Tree}
    (h : member ∈ image.members) : (Value.ofTree? (room + 1) member.2).isSome := by
  simp only [members, List.mem_cons, List.not_mem_nil, or_false] at h
  rcases h with rfl | rfl | rfl | rfl | rfl | rfl | rfl | rfl | rfl <;>
    simp [Dimensions.isSome_ofTree?_tree]

theorem printable_of_mem {image : Image} {member : String × Tree} (h : member ∈ image.members) :
    member.2.Printable := by
  simp only [members, List.mem_cons, List.not_mem_nil, or_false] at h
  rcases h with rfl | rfl | rfl | rfl | rfl | rfl | rfl | rfl | rfl <;>
    simp [Dimensions.printable_tree]

theorem printable_tree (image : Image) : image.tree.Printable :=
  printable_record fun _ => printable_of_mem

end Image

/-! ## Links and commands -/

theorem Link.reader_tree (link : Link) (room : Nat) :
    Link.reader (room + 1) link.tree = some link := by
  rw [Link.reader, Option.bind_eq_bind, Option.bind_eq_some_iff]
  exact ⟨_, plainMembers?_record (by simp) (by simp), by simp⟩

theorem Link.printable_tree (link : Link) : link.tree.Printable :=
  printable_record (by simp)

/-- A command is read back if its value has no doubles and fits into the levels left inside. -/
theorem Command.reader_tree {command : Command} {room : Nat}
    (integral : command.value.value.Integral) (fits : command.value.value.levels ≤ room) :
    Command.reader (room + 1) command.tree = some command := by
  have value : Reader.document room command.value.toTree = some command.value :=
    Document.ofTree?_toTree integral fits
  rw [Command.reader, Option.bind_eq_bind, Option.bind_eq_some_iff]
  exact ⟨_, plainMembers?_record (by simp) (by simp), by simp [value]⟩

theorem Command.printable_tree (command : Command) : command.tree.Printable :=
  printable_record (by simp)

/-- No command is deeper than its reader allows. -/
theorem Command.levels_le_of_reader {command : Command} {room : Nat} {tree : Tree}
    (h : Command.reader room tree = some command) : command.value.value.levels + 1 ≤ room := by
  cases room with
  | zero => cases h
  | succ room =>
    rw [Command.reader, Option.bind_eq_bind, Option.bind_eq_some_iff] at h
    obtain ⟨members, -, h⟩ := h
    simp only [Option.bind_eq_bind, Option.bind_eq_some_iff, Option.pure_def,
      Option.some.injEq] at h
    obtain ⟨kind, -, value, found, rfl⟩ := h
    apply Nat.succ_le_succ
    rcases Members.of_withDefault found with rfl | ⟨tree, read⟩
    · exact Nat.zero_le room
    · exact Document.levels_le_of_ofTree? read

/-! ## Moderation -/

@[simp]
theorem ModerationAction.reader_tree (action : ModerationAction) (room : Nat) :
    ModerationAction.reader room action.tree = some action := by
  simp [ModerationAction.reader, ModerationAction.tree]

namespace ModerationEntry

theorem ofMembers?_members (entry : ModerationEntry) (room : Nat) :
    ModerationEntry.ofMembers? room entry.members = some entry := by
  simp [ModerationEntry.ofMembers?, members]

theorem reader_tree (entry : ModerationEntry) (room : Nat) :
    ModerationEntry.reader (room + 1) entry.tree = some entry := by
  have members : plainMembers? memberNames entry.tree = some entry.members :=
    plainMembers?_record (by simp) (by rw [members_names]; decide)
  rw [ModerationEntry.reader, Option.bind_eq_bind, Option.bind_eq_some_iff]
  exact ⟨_, members, ofMembers?_members entry room⟩

/-- Every member of an entry is a value. -/
theorem isSome_ofTree?_of_mem {entry : ModerationEntry} {room : Nat} {member : String × Tree}
    (h : member ∈ entry.members) : (Value.ofTree? room member.2).isSome := by
  simp only [members, List.mem_cons, List.not_mem_nil, or_false] at h
  rcases h with rfl | rfl | rfl | rfl <;> simp [ModerationAction.tree]

theorem printable_of_mem {entry : ModerationEntry} {member : String × Tree}
    (h : member ∈ entry.members) : member.2.Printable := by
  simp only [members, List.mem_cons, List.not_mem_nil, or_false] at h
  rcases h with rfl | rfl | rfl | rfl <;> simp [ModerationAction.tree]

theorem printable_tree (entry : ModerationEntry) : entry.tree.Printable :=
  printable_record fun _ => printable_of_mem

end ModerationEntry

/-! ## Posts -/

namespace Post

/-- A post is read back, but not that it was shown. -/
theorem reader_tree {p : Post} {room : Nat}
    (commands : ∀ command ∈ p.commands,
      command.value.value.Integral ∧ command.value.value.levels ≤ room) :
    Post.reader (room + 3) p.tree = some { p with seenOnce := false } := by
  have members : plainMembers? memberNames p.tree = some p.members :=
    plainMembers?_record (by simp) (by rw [members_names]; decide)
  have image : Reader.nullable Image.reader (room + 2) (nullableTree Image.tree p.image)
      = some p.image :=
    Reader.nullable_nullableTree (fun image _ => image.reader_tree room)
      (by simp [Image.tree, Tree.record])
  have links : Reader.nullableList Link.reader (room + 2) (listTree Link.tree p.links)
      = some p.links :=
    Reader.nullableList_listTree fun link _ => link.reader_tree room
  have commands : Reader.nullableList Command.reader (room + 2) (listTree Command.tree p.commands)
      = some p.commands :=
    Reader.nullableList_listTree fun command mem =>
      Command.reader_tree (commands command mem).1 (commands command mem).2
  have moderation : Reader.nullableList ModerationEntry.reader (room + 2)
      (listTree ModerationEntry.tree p.moderation) = some p.moderation :=
    Reader.nullableList_listTree fun entry _ => entry.reader_tree room
  rw [Post.reader, Option.bind_eq_bind, Option.bind_eq_some_iff]
  refine ⟨_, members, ?_⟩
  simp [Post.members, image, links, commands, moderation]

/-- What is read is a post that was not shown, and none of its commands is deeper than the reader
allows. -/
theorem levels_le_of_reader {p : Post} {room : Nat} {tree : Tree}
    (h : Post.reader room tree = some p) :
    p.seenOnce = false ∧ ∀ command ∈ p.commands, 3 + command.value.value.levels ≤ room := by
  cases room with
  | zero => cases h
  | succ room =>
    rw [Post.reader, Option.bind_eq_bind, Option.bind_eq_some_iff] at h
    obtain ⟨members, -, h⟩ := h
    -- Eleven members come before the commands, and one comes after.
    iterate 11 obtain ⟨_, -, h⟩ := Option.bind_eq_some_iff.1 h
    obtain ⟨commands, found, h⟩ := Option.bind_eq_some_iff.1 h
    obtain ⟨_, -, h⟩ := Option.bind_eq_some_iff.1 h
    cases h
    refine ⟨rfl, ?_⟩
    intro command mem
    rcases Members.of_withDefault found with rfl | ⟨tree, read⟩
    · cases mem
    · obtain ⟨inner, part, rfl, item⟩ := Reader.of_mem_nullableList read mem
      have := Command.levels_le_of_reader item
      omega

theorem printable_tree (p : Post) : p.tree.Printable := by
  apply printable_record
  simp [members, printable_nullableTree Image.printable_tree,
    printable_listTree Link.printable_tree, printable_listTree Command.printable_tree,
    printable_listTree ModerationEntry.printable_tree]

end Post

/-! ## Splices -/

namespace Splice

theorem ofMembers?_members (s : Splice) (room : Nat) :
    Splice.ofMembers? room s.members = some s := by
  simp [Splice.ofMembers?, members]

theorem reader_tree (s : Splice) (room : Nat) : Splice.reader (room + 1) s.tree = some s := by
  have members : plainMembers? memberNames s.tree = some s.members :=
    plainMembers?_record (by simp) (by rw [members_names]; decide)
  rw [Splice.reader, Option.bind_eq_bind, Option.bind_eq_some_iff]
  exact ⟨_, members, ofMembers?_members s room⟩

/-- Every member of a splice is a value. -/
theorem isSome_ofTree?_of_mem {s : Splice} {room : Nat} {member : String × Tree}
    (h : member ∈ s.members) : (Value.ofTree? room member.2).isSome := by
  simp only [members, List.mem_cons, List.not_mem_nil, or_false] at h
  rcases h with rfl | rfl | rfl <;> simp

theorem printable_of_mem {s : Splice} {member : String × Tree} (h : member ∈ s.members) :
    member.2.Printable := by
  simp only [members, List.mem_cons, List.not_mem_nil, or_false] at h
  rcases h with rfl | rfl | rfl <;> simp

theorem printable_tree (s : Splice) : s.tree.Printable :=
  printable_record fun _ => printable_of_mem

end Splice

/-! ## Requests -/

theorem UploadedFile.reader_tree (file : UploadedFile) (room : Nat) :
    UploadedFile.reader (room + 1) file.tree = some file := by
  rw [UploadedFile.reader, Option.bind_eq_bind, Option.bind_eq_some_iff]
  exact ⟨_, plainMembers?_record (by simp) (by simp), by simp⟩

theorem UploadedFile.printable_tree (file : UploadedFile) : file.tree.Printable :=
  printable_record (by simp)

namespace AllocationRequest

/-- A request may leave out what it does not bring. -/
theorem reader_tree (request : AllocationRequest) (room : Nat) :
    AllocationRequest.reader (room + 2) request.tree = some request := by
  obtain ⟨editing, body, image, name⟩ := request
  have file : ∀ file : UploadedFile,
      Reader.nullable UploadedFile.reader (room + 1) file.tree = some (some file) := by
    intro file
    rw [Reader.nullable_of_ne_null (by simp [UploadedFile.tree, Tree.record]), file.reader_tree]
    rfl
  have text : ∀ text : String,
      Reader.nullable Reader.text (room + 1) (Tree.ofString text) = some (some text) := by
    intro text
    rw [Reader.nullable_of_ne_null (by simp [Tree.ofString]), Reader.text_ofString]
    rfl
  rw [AllocationRequest.reader, Option.bind_eq_bind, Option.bind_eq_some_iff]
  cases body <;> cases image <;> cases name <;>
    exact ⟨_, plainMembers?_record (by simp [optionalMember]) (by simp [optionalMember]),
      by simp [optionalMember, file, text]⟩

theorem printable_tree (request : AllocationRequest) : request.tree.Printable := by
  obtain ⟨editing, body, image, name⟩ := request
  apply printable_record
  cases body <;> cases image <;> cases name <;>
    simp [optionalMember, UploadedFile.printable_tree]

end AllocationRequest

theorem SyncRequest.reader_tree (request : SyncRequest) (room : Nat) :
    SyncRequest.reader (room + 1) request.tree = some request := by
  rw [SyncRequest.reader, Option.bind_eq_bind, Option.bind_eq_some_iff]
  exact ⟨_, plainMembers?_record (by simp) (by simp), by simp⟩

theorem SyncRequest.printable_tree (request : SyncRequest) : request.tree.Printable :=
  printable_record (by simp)

end LiveThread
