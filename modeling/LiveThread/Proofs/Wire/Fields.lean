import LiveThread.Proofs.Json.Fields
import LiveThread.Wire.ServerMessage

/-!
# The fields of records

Every record of a message with its fields, in their declared order: which of
them must be there, and of which shape each is.  The reader of a record accepts
just the trees of its shape.

Main results:

- Definitions `Image.fields`, `Link.fields`, `Command.fields`, `ModerationEntry.fields` and
  `Post.fields`: the fields of posts and their parts.
- Definitions `Splice.fields`, `UploadedFile.fields`, `AllocationRequest.fields` and
  `SyncRequest.fields`: those of the payloads of requests.
- Theorems `Post.takes_reader`, `AllocationRequest.takes_reader` and their like: the readers accept
  the records with these fields and nothing else.
-/

namespace LiveThread

open Json

/-! ## Posts and their parts -/

/-- The fields of an image. -/
def Image.fields : List Field :=
  [.may "spoiler" .bool, .may "file_type" (.unsigned 8), .may "thumb_type" (.unsigned 8),
    .may "dims" (.tuple (List.replicate 4 (.unsigned 16))), .may "size" (.unsigned 64),
    .may "length" (.unsigned 32), .may "md5" .text, .may "sha1" .text, .may "name" .text]

/-- The fields of a link. -/
def Link.fields : List Field :=
  [.must "id" (.unsigned 64), .must "op" (.unsigned 64), .may "board" .text]

/-- The fields of a command. -/
def Command.fields : List Field :=
  [.must "type" (.unsigned 8), .may "val" .value]

/-- The fields of an entry of the moderation log; there are nine actions. -/
def ModerationEntry.fields : List Field :=
  [.must "type" (.integer 0 9), .may "length" (.unsigned 64), .may "by" .text, .may "data" .text]

/-- The fields of a post. -/
def Post.fields : List Field :=
  [.may "id" (.unsigned 64), .may "op" (.unsigned 64), .may "board" .text, .may "time" (.signed 64),
    .may "editing" .bool, .may "sage" .bool, .may "name" .text, .may "trip" .text,
    .may "body" .text, .may "image" (.nullable (.plain Image.fields)),
    .may "links" (.nullable (.list (.plain Link.fields))),
    .may "commands" (.nullable (.list (.plain Command.fields))),
    .may "moderation" (.nullable (.list (.plain ModerationEntry.fields)))]

/-- A reader of four extents accepts arrays of just four. -/
theorem Dimensions.takes_reader :
    Dimensions.reader.Takes (.tuple (List.replicate 4 (.unsigned 16))) := by
  intro room tree
  rw [← Reader.exists_list_length_iff Reader.takes_uint16]
  constructor
  · intro h
    unfold Dimensions.reader at h
    split at h
    · next read => exact ⟨_, read, rfl⟩
    · cases h
  · rintro ⟨extents, read, length⟩
    obtain ⟨width, height, thumbWidth, thumbHeight, rfl⟩ := List.length_eq_four.1 length
    simp [Dimensions.reader, read]

theorem Image.isSome_ofMembers?_iff (room : Nat) (members : Members) :
    (Image.ofMembers? room members).isSome ↔ ∀ field ∈ Image.fields, field.Fits room members :=
  isSome_withDefault Reader.takes_bool fun _ =>
  isSome_withDefault Reader.takes_uint8 fun _ =>
  isSome_withDefault Reader.takes_uint8 fun _ =>
  isSome_withDefault Dimensions.takes_reader fun _ =>
  isSome_withDefault Reader.takes_uint64 fun _ =>
  isSome_withDefault Reader.takes_uint32 fun _ =>
  isSome_withDefault Reader.takes_text fun _ =>
  isSome_withDefault Reader.takes_text fun _ =>
  isSome_withDefault Reader.takes_text fun _ => isSome_complete

theorem Image.takes_reader : Image.reader.Takes (.plain Image.fields) :=
  takes_plain (show fields.map Field.name = memberNames from rfl) (by decide) (fun _ => rfl)
    (fun _ _ => rfl) isSome_ofMembers?_iff

theorem Link.takes_reader : Link.reader.Takes (.plain Link.fields) := by
  refine takes_plain (show fields.map Field.name = ["id", "op", "board"] from rfl) (by decide)
    (fun _ => rfl) (fun _ _ => rfl) fun room members => ?_
  exact isSome_required Reader.takes_uint64 fun _ =>
    isSome_required Reader.takes_uint64 fun _ =>
    isSome_withDefault Reader.takes_text fun _ => isSome_complete

theorem Command.takes_reader : Command.reader.Takes (.plain Command.fields) := by
  refine takes_plain (show fields.map Field.name = ["type", "val"] from rfl) (by decide)
    (fun _ => rfl) (fun _ _ => rfl) fun room members => ?_
  exact isSome_required Reader.takes_uint8 fun _ =>
    isSome_withDefault Reader.takes_document fun _ => isSome_complete

/-- Nine numbers name an action. -/
theorem ModerationAction.isSome_ofCode?_iff (code : UInt8) :
    (ModerationAction.ofCode? code).isSome ↔ code.toNat < 9 := by
  simp [ModerationAction.ofCode?]

theorem ModerationAction.takes_reader : ModerationAction.reader.Takes (.integer 0 9) := by
  intro room tree
  simp only [ModerationAction.reader, isSome_bind_iff, isSome_ofCode?_iff, Reader.uint8,
    Option.map_eq_some_iff, Reader.below_eq_some_iff]
  have same : ∀ n, n < UInt8.size → n.toUInt8.toNat = n := by
    intro n below
    rw [Nat.toUInt8, UInt8.toNat_ofNat']
    exact Nat.mod_eq_of_lt below
  constructor
  · rintro ⟨_, ⟨n, ⟨below, rfl⟩, rfl⟩, small⟩
    rw [same n below] at small
    exact ⟨n, by omega, by omega, rfl⟩
  · rintro ⟨n, low, high, rfl⟩
    have below : n.toNat < UInt8.size := by
      rw [UInt8.size]
      omega
    refine ⟨_, ⟨n.toNat, ⟨below, by rw [Int.toNat_of_nonneg low]⟩, rfl⟩, ?_⟩
    rw [same _ below]
    omega

theorem ModerationEntry.isSome_ofMembers?_iff (room : Nat) (members : Members) :
    (ModerationEntry.ofMembers? room members).isSome ↔
      ∀ field ∈ ModerationEntry.fields, field.Fits room members :=
  isSome_required ModerationAction.takes_reader fun _ =>
  isSome_withDefault Reader.takes_uint64 fun _ =>
  isSome_withDefault Reader.takes_text fun _ =>
  isSome_withDefault Reader.takes_text fun _ => isSome_complete

theorem ModerationEntry.takes_reader :
    ModerationEntry.reader.Takes (.plain ModerationEntry.fields) :=
  takes_plain (show fields.map Field.name = memberNames from rfl) (by decide) (fun _ => rfl)
    (fun _ _ => rfl) isSome_ofMembers?_iff

theorem Post.takes_reader : Post.reader.Takes (.plain Post.fields) := by
  refine takes_plain (show fields.map Field.name = memberNames from rfl) (by decide)
    (fun _ => rfl) (fun _ _ => rfl) fun room members => ?_
  exact isSome_withDefault Reader.takes_uint64 fun _ =>
    isSome_withDefault Reader.takes_uint64 fun _ =>
    isSome_withDefault Reader.takes_text fun _ =>
    isSome_withDefault Reader.takes_int64 fun _ =>
    isSome_withDefault Reader.takes_bool fun _ =>
    isSome_withDefault Reader.takes_bool fun _ =>
    isSome_withDefault Reader.takes_text fun _ =>
    isSome_withDefault Reader.takes_text fun _ =>
    isSome_withDefault Reader.takes_text fun _ =>
    isSome_withDefault (Reader.takes_nullable Image.takes_reader) fun _ =>
    isSome_withDefault (Reader.takes_nullableList Link.takes_reader) fun _ =>
    isSome_withDefault (Reader.takes_nullableList Command.takes_reader) fun _ =>
    isSome_withDefault (Reader.takes_nullableList ModerationEntry.takes_reader) fun _ =>
    isSome_complete

/-! ## Payloads of requests -/

/-- The fields of a splice. -/
def Splice.fields : List Field :=
  [.must "start" (.unsigned 64), .must "len" (.unsigned 64), .must "text" .text]

/-- The fields of a finished upload. -/
def UploadedFile.fields : List Field :=
  [.must "token" .text, .must "name" .text, .may "spoiler" .bool]

/-- The fields of a request for an id. -/
def AllocationRequest.fields : List Field :=
  [.must "open" .bool, .may "body" (.nullable .text),
    .may "image" (.nullable (.plain UploadedFile.fields)), .may "name" (.nullable .text)]

/-- The fields of a request for a thread. -/
def SyncRequest.fields : List Field :=
  [.must "board" .text, .must "thread" (.unsigned 64)]

theorem Splice.isSome_ofMembers?_iff (room : Nat) (members : Members) :
    (Splice.ofMembers? room members).isSome ↔ ∀ field ∈ Splice.fields, field.Fits room members :=
  isSome_required Reader.takes_uint64 fun _ =>
  isSome_required Reader.takes_uint64 fun _ =>
  isSome_required Reader.takes_text fun _ => isSome_complete

theorem Splice.takes_reader : Splice.reader.Takes (.plain Splice.fields) :=
  takes_plain (show fields.map Field.name = memberNames from rfl) (by decide) (fun _ => rfl)
    (fun _ _ => rfl) isSome_ofMembers?_iff

theorem UploadedFile.takes_reader : UploadedFile.reader.Takes (.plain UploadedFile.fields) := by
  refine takes_plain (show fields.map Field.name = ["token", "name", "spoiler"] from rfl)
    (by decide) (fun _ => rfl) (fun _ _ => rfl) fun room members => ?_
  exact isSome_required Reader.takes_text fun _ =>
    isSome_required Reader.takes_text fun _ =>
    isSome_withDefault Reader.takes_bool fun _ => isSome_complete

theorem AllocationRequest.takes_reader :
    AllocationRequest.reader.Takes (.plain AllocationRequest.fields) := by
  refine takes_plain (show fields.map Field.name = ["open", "body", "image", "name"] from rfl)
    (by decide) (fun _ => rfl) (fun _ _ => rfl) fun room members => ?_
  exact isSome_required Reader.takes_bool fun _ =>
    isSome_withDefault (Reader.takes_nullable Reader.takes_text) fun _ =>
    isSome_withDefault (Reader.takes_nullable UploadedFile.takes_reader) fun _ =>
    isSome_withDefault (Reader.takes_nullable Reader.takes_text) fun _ => isSome_complete

theorem SyncRequest.takes_reader : SyncRequest.reader.Takes (.plain SyncRequest.fields) := by
  refine takes_plain (show fields.map Field.name = ["board", "thread"] from rfl) (by decide)
    (fun _ => rfl) (fun _ _ => rfl) fun room members => ?_
  exact isSome_required Reader.takes_text fun _ =>
    isSome_required Reader.takes_uint64 fun _ => isSome_complete

/-! ## Payloads of the server -/

namespace ServerMessage

/-- The fields of a closed post. -/
def closeFields : List Field :=
  [.must "id" (.unsigned 64), .may "links" (.nullable (.list (.plain Link.fields))),
    .may "commands" (.nullable (.list (.plain Command.fields)))]

/-- The fields of the two counts of readers. -/
def countFields : List Field :=
  [.must "active" (.unsigned 64), .must "total" (.unsigned 64)]

theorem takes_closeReader : closeReader.Takes (.plain closeFields) := by
  refine takes_plain (show closeFields.map Field.name = ["id", "links", "commands"] from rfl)
    (by decide) (fun _ => rfl) (fun _ _ => rfl) fun room members => ?_
  exact isSome_required Reader.takes_uint64 fun _ =>
    isSome_withDefault (Reader.takes_nullable (Reader.takes_list Link.takes_reader)) fun _ =>
    isSome_withDefault (Reader.takes_nullable (Reader.takes_list Command.takes_reader)) fun _ =>
    isSome_complete

theorem takes_countReader : countReader.Takes (.plain countFields) := by
  refine takes_plain (show countFields.map Field.name = ["active", "total"] from rfl) (by decide)
    (fun _ => rfl) (fun _ _ => rfl) fun room members => ?_
  exact isSome_required Reader.takes_uint64 fun _ =>
    isSome_required Reader.takes_uint64 fun _ => isSome_complete

/-- A pair of numbers is read from the array of their trees. -/
theorem pairReader_eq_some_iff {room : Nat} {tree : Tree} {a b : UInt64} :
    pairReader room tree = some (a, b) ↔ ∃ inner, room = inner + 1 ∧
      tree = .array [Tree.ofInt a.toNat, Tree.ofInt b.toNat] := by
  have list : pairReader room tree = some (a, b) ↔
      Reader.list Reader.uint64 room tree = some [a, b] := by
    unfold pairReader
    split
    · next read => simp [read]
    · next other =>
      constructor
      · rintro ⟨⟩
      · intro read
        exact absurd read (other a b)
  rw [list, Reader.list_eq_some_iff]
  simp only [List.forall₂_cons_right_iff, List.forall₂_nil_right_iff, Reader.uint64_eq_some_iff]
  constructor
  · rintro ⟨inner, _, rfl, rfl, _, _, rfl, ⟨_, _, rfl, rfl, rfl⟩, rfl⟩
    exact ⟨inner, rfl, rfl⟩
  · rintro ⟨inner, rfl, rfl⟩
    exact ⟨inner, _, rfl, rfl, _, _, rfl, ⟨_, _, rfl, rfl, rfl⟩, rfl⟩

/-- The payload of an appended character: a pair of numbers of which the second one is small. -/
theorem tuple_append_iff (room : Nat) (tree : Tree) :
    Shape.tuple [.unsigned 64, .unsigned 32] room tree ↔
      ∃ id code, pairReader room tree = some (id, code) ∧ code.toNat < UInt32.size := by
  simp only [pairReader_eq_some_iff]
  constructor
  · intro h
    unfold Shape.tuple at h
    split at h
    · next inner items =>
      simp only [List.forall₂_cons_left_iff, List.forall₂_nil_left_iff] at h
      obtain ⟨_, _, ⟨id, low, high, rfl⟩, ⟨_, _, ⟨code, least, most, rfl⟩, rfl, rfl⟩, rfl⟩ := h
      have idSize : id.toNat < UInt64.size := by
        rw [UInt64.size]
        omega
      have codeSize : code.toNat < UInt64.size := by
        rw [UInt64.size]
        omega
      refine ⟨.ofNat id.toNat, .ofNat code.toNat, ⟨inner, rfl, ?_⟩, ?_⟩
      · rw [UInt64.toNat_ofNat_of_lt' idSize, UInt64.toNat_ofNat_of_lt' codeSize,
          Int.toNat_of_nonneg low, Int.toNat_of_nonneg least]
      · rw [UInt64.toNat_ofNat_of_lt' codeSize, UInt32.size]
        omega
    · cases h
  · rintro ⟨id, code, ⟨inner, rfl, rfl⟩, small⟩
    have range := id.toNat_lt
    rw [UInt32.size] at small
    refine .cons ⟨id.toNat, ?_, ?_, rfl⟩ (.cons ⟨code.toNat, ?_, ?_, rfl⟩ .nil) <;> omega

/-- A reader of a record beside the id of a post accepts flat records with the id as a field. -/
theorem takes_flatReader {α : Type} {fields : List Field} {names : List String}
    {ofMembers? : Nat → Members → Option α} (same : fields.map Field.name = names)
    (fits : ∀ room members,
      (ofMembers? room members).isSome ↔ ∀ field ∈ fields, field.Fits room members) :
    (flatReader names ofMembers?).Takes (.flat (.must "id" (.unsigned 64) :: fields)) := by
  have named : (Field.must "id" (.unsigned 64) :: fields).map Field.name = "id" :: names := by
    rw [List.map_cons, same]
    rfl
  refine takes_flat named (fun _ => rfl) (fun _ _ => rfl) fun room members => ?_
  refine isSome_required Reader.takes_uint64 fun _ => ?_
  simp only [Option.bind_eq_bind, isSome_bind_iff, Option.pure_def, Option.isSome_some, and_true,
    ← Option.isSome_iff_exists, fits]

end ServerMessage

end LiveThread
