import LiveThread.Proofs.Wire.Fields
import LiveThread.Proofs.Wire.Schemas
import LiveThread.Wire.ClientMessage

/-!
# Frames are read back

A message is read back from the frame that it is written as, whatever texts and
numbers it carries.  Only the documents inside a message of the server are
restricted: a double may come back as a neighbour, and the reader opens no more
than `maxLevels` arrays and objects inside each other, while the writer opens
as many as it is given.

Main results:

- Definition `ServerMessage.documents`: the documents of a message, each with the number of arrays
  and objects that are open around it.
- Theorem `ClientMessage.ofFrame_frame`: messages of the client are read back.
- Theorem `ServerMessage.ofFrame_frame`: so are those of the server.
- Theorem `ServerMessage.levels_le_of_ofFrame`: no document of a message is deeper than the reader
  allows.
- Theorem `frames_read_back`: both directions together, with the kinds that the headers name.
-/

namespace LiveThread

open Json

/-! ## Payloads -/

/-- A printable payload is read from its text. -/
theorem readPayload_print {α : Type} {read : Reader α} {tree : Tree} {x : α}
    (printable : tree.Printable) (h : read maxLevels tree = some x) :
    readPayload read tree.print = .ok x := by
  unfold readPayload
  rw [decodeText?_print read printable, h]

/-- The message of a printable payload is that of what is read from it. -/
theorem map_readPayload_print {α β : Type} {read : Reader α} {tree : Tree} {x : α} {f : α → β}
    (printable : tree.Printable) (h : read maxLevels tree = some x) :
    (readPayload read tree.print).map f = .ok (f x) := by
  rw [readPayload_print printable h]
  rfl

/-- A message of a payload is that of what was read from a tree. -/
theorem exists_of_map_readPayload {α β : Type} {read : Reader α} {data : List Char} {f : α → β}
    {y : β} (h : (readPayload read data).map f = .ok y) :
    ∃ tree x, read maxLevels tree = some x ∧ f x = y := by
  unfold readPayload decodeText? at h
  cases parsed : Tree.parse? data with
  | none => simp [parsed, Except.map] at h
  | some tree =>
    cases found : read maxLevels tree with
    | none => simp [parsed, found, Except.map] at h
    | some x =>
      simp only [parsed, found, Except.map, Except.ok.injEq] at h
      exact ⟨tree, x, found, h⟩

/-! ## Messages of the client -/

namespace ClientMessage

/-- The payload of a frame is read by the schema of the kind that heads it. -/
theorem ofFrame_frameOf (kind : MessageKind) (payload : Tree) :
    ofFrame (frameOf kind payload) = ofPayload kind payload.print := by
  simp only [ofFrame, frameOf, LiveThread.splitHeader_frame]

/-- A message of the client is read back. -/
theorem ofFrame_frame (m : ClientMessage) : ofFrame m.frame = .ok m := by
  cases m with
  | synchronise request =>
    exact (ofFrame_frameOf _ _).trans
      (map_readPayload_print request.printable_tree (request.reader_tree _))
  | insertPost request =>
    exact (ofFrame_frameOf _ _).trans
      (map_readPayload_print request.printable_tree (request.reader_tree _))
  | append code =>
    exact (ofFrame_frameOf _ _).trans
      (map_readPayload_print (printable_ofInt _) (Reader.uint32_ofInt _ code))
  | splice s =>
    exact (ofFrame_frameOf _ _).trans (map_readPayload_print s.printable_tree (s.reader_tree _))
  | insertImage file =>
    exact (ofFrame_frameOf _ _).trans
      (map_readPayload_print file.printable_tree (file.reader_tree _))
  | backspace | closePost | spoiler | noop => rfl

/-- A message is read only under its own kind. -/
theorem kind_of_ofPayload {kind : MessageKind} {data : List Char} {m : ClientMessage}
    (h : ofPayload kind data = .ok m) : m.kind = kind := by
  cases kind <;> simp only [ofPayload] at h
  case synchronise | insertPost | append | splice | insertImage =>
    obtain ⟨_, _, _, rfl⟩ := exists_of_map_readPayload h
    rfl
  all_goals cases h <;> rfl

/-- The header of a frame names the kind of the message that is read. -/
theorem splitHeader_of_ofFrame {frame : String} {m : ClientMessage} (h : ofFrame frame = .ok m) :
    ∃ data, splitHeader frame = .ok (m.kind, data) := by
  unfold ofFrame at h
  split at h
  · next kind data split => exact ⟨data, by rw [split, kind_of_ofPayload h]⟩
  · cases h

end ClientMessage

/-! ## Schemas of messages of the server -/

namespace ServerMessage

/-- A record that names a post beside the members of another record is read back. -/
theorem flatReader_record {α : Type} {names : List String} {members : Members} {room : Nat}
    {ofMembers? : Nat → Members → Option α} {x : α} (id : UInt64)
    (named : members.map Prod.fst = names) (once : ("id" :: names).Nodup)
    (values : ∀ member ∈ members, (Value.ofTree? room member.2).isSome)
    (h : ofMembers? room (idMember id :: members) = some x) :
    flatReader names ofMembers? (room + 1) (Tree.record (idMember id :: members))
      = some (id, x) := by
  have all : (idMember id :: members).map Prod.fst = "id" :: names := by
    rw [List.map_cons, named]
    rfl
  have flat : flatMembers? ("id" :: names) room (Tree.record (idMember id :: members))
      = some (idMember id :: members) := by
    apply flatMembers?_record
    · rw [all]
      exact fun _ mem => mem
    · rw [all]
      exact once
    · intro member mem
      rcases List.mem_cons.1 mem with rfl | mem
      · exact isSome_ofTree?_uint64 room id
      · exact values member mem
  have found : Members.required (idMember id :: members) "id" room Reader.uint64 = some id := by
    simp [idMember]
  rw [flatReader, Option.bind_eq_bind, Option.bind_eq_some_iff]
  refine ⟨_, flat, ?_⟩
  simp only [found, h, Option.bind_eq_bind, Option.bind_some, Option.pure_def]

theorem flatReader_splice (id : UInt64) (s : Splice) (room : Nat) :
    flatReader Splice.memberNames Splice.ofMembers? (room + 1)
      (Tree.record (idMember id :: s.members)) = some (id, s) := by
  apply flatReader_record id s.members_names (by decide)
  · exact fun _ => Splice.isSome_ofTree?_of_mem
  · simp [Splice.ofMembers?, Splice.members, idMember]

theorem flatReader_image (id : UInt64) (image : Image) (room : Nat) :
    flatReader Image.memberNames Image.ofMembers? (room + 2)
      (Tree.record (idMember id :: image.members)) = some (id, image) := by
  apply flatReader_record id image.members_names (by decide)
  · exact fun _ => Image.isSome_ofTree?_of_mem
  · simp [Image.ofMembers?, Image.members, idMember, Dimensions.reader_tree]

theorem flatReader_entry (id : UInt64) (entry : ModerationEntry) (room : Nat) :
    flatReader ModerationEntry.memberNames ModerationEntry.ofMembers? (room + 1)
      (Tree.record (idMember id :: entry.members)) = some (id, entry) := by
  apply flatReader_record id entry.members_names (by decide)
  · exact fun _ => ModerationEntry.isSome_ofTree?_of_mem
  · simp [ModerationEntry.ofMembers?, ModerationEntry.members, idMember]

theorem printable_idMember_record (id : UInt64) {members : Members}
    (h : ∀ member ∈ members, member.2.Printable) :
    (Tree.record (idMember id :: members)).Printable := by
  apply printable_record
  intro member mem
  rcases List.mem_cons.1 mem with rfl | mem
  · exact printable_ofInt id.toNat
  · exact h member mem

/-- The links and commands of a closed post are read back, or their absence. -/
theorem closeReader_record (id : UInt64) (links : Option (List Link))
    (commands : Option (List Command)) {room : Nat}
    (fits : ∀ command ∈ commands.getD [],
      command.value.value.Integral ∧ command.value.value.levels ≤ room) :
    closeReader (room + 3) (Tree.record [idMember id,
      ("links", nullableTree (listTree Link.tree) links),
      ("commands", nullableTree (listTree Command.tree) commands)])
      = some (id, links, commands) := by
  have readLinks : Reader.nullable (Reader.list Link.reader) (room + 2)
      (nullableTree (listTree Link.tree) links) = some links := by
    apply Reader.nullable_nullableTree
    · exact fun links _ => Reader.list_listTree fun link _ => link.reader_tree room
    · simp [listTree]
  have readCommands : Reader.nullable (Reader.list Command.reader) (room + 2)
      (nullableTree (listTree Command.tree) commands) = some commands := by
    apply Reader.nullable_nullableTree
    · rintro commands rfl
      apply Reader.list_listTree
      intro command mem
      exact Command.reader_tree (fits command mem).1 (fits command mem).2
    · simp [listTree]
  rw [closeReader, Option.bind_eq_bind, Option.bind_eq_some_iff]
  exact ⟨_, plainMembers?_record (by simp [idMember]) (by simp [idMember]),
    by simp [idMember, readLinks, readCommands]⟩

theorem printable_close (id : UInt64) (links : Option (List Link))
    (commands : Option (List Command)) :
    (Tree.record [idMember id, ("links", nullableTree (listTree Link.tree) links),
      ("commands", nullableTree (listTree Command.tree) commands)]).Printable := by
  apply printable_idMember_record
  simp [printable_nullableTree, printable_listTree, Link.printable_tree, Command.printable_tree]

theorem countReader_record (active total : UInt64) (room : Nat) :
    countReader (room + 1) (Tree.record [("active", Tree.ofInt active.toNat),
      ("total", Tree.ofInt total.toNat)]) = some (active, total) := by
  rw [countReader, Option.bind_eq_bind, Option.bind_eq_some_iff]
  exact ⟨_, plainMembers?_record (by simp) (by simp), by simp⟩

theorem pairReader_array (id : UInt64) (code : UInt32) (room : Nat) :
    pairReader (room + 1) (.array [Tree.ofInt id.toNat, Tree.ofInt code.toNat])
      = some (id, code.toUInt64) :=
  pairReader_eq_some_iff.2 ⟨room, rfl, by rw [UInt32.toNat_toUInt64]⟩

/-- Every code point is that of a pair of numbers. -/
theorem ofPair_toUInt64 (id : UInt64) (code : UInt32) :
    ofPair id code.toUInt64 = .ok (append id code) := by
  have small : code.toUInt64.toNat < UInt32.size := by
    rw [UInt32.toNat_toUInt64]
    exact code.toNat_lt_size
  unfold ofPair
  rw [if_pos small, UInt32.toUInt32_toUInt64]

/-! ## The documents of a message -/

/-- The documents of a message, each with the number of arrays and objects open around it. -/
def documents : ServerMessage → List (Nat × Document)
  | insertPost post => post.commands.map fun command => (3, command.value)
  | closePost _ _ commands => (commands.getD []).map fun command => (3, command.value)
  | synchronise document | configs document => [(0, document)]
  | _ => []

/-- The message without the mark that its post was shown. -/
def unseen : ServerMessage → ServerMessage
  | insertPost post => insertPost { post with seenOnce := false }
  | m => m

@[simp]
theorem documents_unseen (m : ServerMessage) : m.unseen.documents = m.documents := by
  cases m <;> rfl

/-! ## Messages of the server are read back -/

/-- The payload of a frame is read by the schema of the kind that heads it. -/
theorem ofFrame_frameOf (kind : MessageKind) (payload : Tree) :
    ofFrame (frameOf kind payload) = ofPayload kind payload.print := by
  simp only [ofFrame, frameOf, LiveThread.splitHeader_frame]

theorem ofFrame_append (id : UInt64) (code : UInt32) :
    ofFrame (append id code).frame = .ok (append id code) := by
  have read : readPayload pairReader
      (Tree.array [Tree.ofInt id.toNat, Tree.ofInt code.toNat]).print
      = .ok (id, code.toUInt64) :=
    readPayload_print (printable_array (by simp)) (pairReader_array id code _)
  apply (ofFrame_frameOf _ _).trans
  simp only [kind, ofPayload, read, Except.bind, ofPair_toUInt64]

/-- A message of the server is read back, but not that its post was shown, if its documents hold
no doubles and are not too deep. -/
theorem ofFrame_frame (m : ServerMessage)
    (h : ∀ entry ∈ m.documents,
      entry.2.value.Integral ∧ entry.1 + entry.2.value.levels ≤ maxLevels) :
    ofFrame m.frame = .ok m.unseen := by
  have shallow : ∀ {document : Document}, 3 + document.value.levels ≤ maxLevels →
      document.value.levels ≤ 124 := by
    intro document fits
    unfold maxLevels at fits
    omega
  cases m with
  | invalid text | redirect text | notification text =>
    exact (ofFrame_frameOf _ _).trans
      (map_readPayload_print (printable_ofString text) (Reader.text_ofString _ text))
  | insertPost post =>
    have commands : ∀ command ∈ post.commands,
        command.value.value.Integral ∧ command.value.value.levels ≤ 124 := by
      intro command mem
      have := h (3, command.value) (List.mem_map_of_mem mem)
      exact ⟨this.1, shallow this.2⟩
    exact (ofFrame_frameOf _ _).trans
      (map_readPayload_print post.printable_tree (Post.reader_tree commands))
  | append id code => exact ofFrame_append id code
  | backspace id | spoiler id | postId id =>
    exact (ofFrame_frameOf _ _).trans
      (map_readPayload_print (printable_ofInt _) (Reader.uint64_ofInt _ id))
  | splice id s =>
    exact (ofFrame_frameOf _ _).trans
      (map_readPayload_print (printable_idMember_record id fun _ => Splice.printable_of_mem)
        (flatReader_splice id s _))
  | closePost id links commands =>
    have fits : ∀ command ∈ commands.getD [],
        command.value.value.Integral ∧ command.value.value.levels ≤ 124 := by
      intro command mem
      have := h (3, command.value) (List.mem_map_of_mem mem)
      exact ⟨this.1, shallow this.2⟩
    exact (ofFrame_frameOf _ _).trans
      (map_readPayload_print (printable_close id links commands)
        (closeReader_record id links commands fits))
  | insertImage id image =>
    exact (ofFrame_frameOf _ _).trans
      (map_readPayload_print (printable_idMember_record id fun _ => Image.printable_of_mem)
        (flatReader_image id image _))
  | moderatePost id entry =>
    exact (ofFrame_frameOf _ _).trans
      (map_readPayload_print
        (printable_idMember_record id fun _ => ModerationEntry.printable_of_mem)
        (flatReader_entry id entry _))
  | synchronise document | configs document =>
    have := h (0, document) (by simp [documents])
    rw [Nat.zero_add] at this
    exact (ofFrame_frameOf _ _).trans
      (map_readPayload_print (printable_document document)
        (Document.ofTree?_toTree this.1 this.2))
  | concat frames =>
    exact (ofFrame_frameOf _ _).trans
      (map_readPayload_print (printable_listTree printable_ofString frames)
        (Reader.list_listTree fun text _ => Reader.text_ofString _ text))
  | syncCount active total =>
    exact (ofFrame_frameOf _ _).trans
      (map_readPayload_print (printable_record (by simp)) (countReader_record active total _))
  | serverTime time =>
    exact (ofFrame_frameOf _ _).trans
      (map_readPayload_print (printable_ofInt _) (Reader.int64_ofInt _ time))
  | noop | captcha => rfl

/-! ## No document is too deep to be read -/

/-- A message is read under the kind that heads its frame. -/
theorem splitHeader_of_ofFrame {frame : String} {m : ServerMessage} (h : ofFrame frame = .ok m) :
    ∃ data, splitHeader frame = .ok (m.kind, data) := by
  unfold ofFrame at h
  split at h
  · next kind data split => exact ⟨data, by rw [split, kind_of_ofPayload h]⟩
  · cases h

theorem levels_le_of_closeReader {room : Nat} {tree : Tree} {id : UInt64}
    {links : Option (List Link)} {commands : Option (List Command)} {command : Command}
    (h : closeReader room tree = some (id, links, commands)) (mem : command ∈ commands.getD []) :
    3 + command.value.value.levels ≤ room := by
  cases room with
  | zero => cases h
  | succ room =>
    rw [closeReader, Option.bind_eq_bind, Option.bind_eq_some_iff] at h
    obtain ⟨members, -, h⟩ := h
    simp only [Option.bind_eq_bind, Option.bind_eq_some_iff, Option.pure_def, Option.some.injEq,
      Prod.mk.injEq] at h
    obtain ⟨_, -, _, -, commands, found, -, -, rfl⟩ := h
    rcases Members.of_withDefault found with rfl | ⟨tree, read⟩
    · cases mem
    · cases commands with
      | none => cases mem
      | some commands =>
        obtain ⟨inner, part, rfl, item⟩ := Reader.of_mem_list (Reader.of_nullable read) mem
        have := Command.levels_le_of_reader item
        omega

/-- What is read is a message whose post was not shown and whose documents are not too deep. -/
theorem levels_le_of_ofPayload {kind : MessageKind} {data : List Char} {m : ServerMessage}
    (h : ofPayload kind data = .ok m) :
    m.unseen = m ∧ ∀ entry ∈ m.documents, entry.1 + entry.2.value.levels ≤ maxLevels := by
  cases kind_of_ofPayload h
  cases m with
  | synchronise document | configs document =>
    obtain ⟨tree, document, read, same⟩ := exists_of_map_readPayload h
    cases same
    have := Document.levels_le_of_ofTree? read
    simpa [documents, unseen] using this
  | insertPost post =>
    obtain ⟨tree, post, read, same⟩ := exists_of_map_readPayload h
    cases same
    obtain ⟨notSeen, shallow⟩ := Post.levels_le_of_reader read
    constructor
    · simp only [unseen, ← notSeen]
    · intro entry mem
      obtain ⟨command, among, rfl⟩ := List.mem_map.1 mem
      exact shallow command among
  | closePost id links commands =>
    obtain ⟨tree, ⟨id, links, commands⟩, read, same⟩ := exists_of_map_readPayload h
    cases same
    refine ⟨rfl, ?_⟩
    intro entry mem
    obtain ⟨command, among, rfl⟩ := List.mem_map.1 mem
    exact levels_le_of_closeReader read among
  | _ => simp [documents, unseen]

theorem levels_le_of_ofFrame {frame : String} {m : ServerMessage} (h : ofFrame frame = .ok m) :
    m.unseen = m ∧ ∀ entry ∈ m.documents, entry.1 + entry.2.value.levels ≤ maxLevels := by
  unfold ofFrame at h
  split at h
  · exact levels_le_of_ofPayload h
  · cases h

end ServerMessage

/-! ## Both directions -/

/-- Reading undoes writing.  Every message of the client is read back.  A message of the server
whose documents hold no doubles is read back, but not that its post was shown, exactly when its
documents are not too deep.  Headers name the kinds of messages, and what is read without doubles
is read again from its own frame. -/
theorem frames_read_back :
    (∀ m : ClientMessage,
      ClientMessage.ofFrame m.frame = .ok m ∧
      ∃ data, splitHeader m.frame = .ok (m.kind, data)) ∧
    (∀ (frame : String) (m : ClientMessage), ClientMessage.ofFrame frame = .ok m →
      (∃ data, splitHeader frame = .ok (m.kind, data)) ∧
      ClientMessage.ofFrame m.frame = .ok m) ∧
    (∀ m : ServerMessage,
      (∃ data, splitHeader m.frame = .ok (m.kind, data)) ∧
      ((∀ entry ∈ m.documents, entry.2.value.Integral) →
        (ServerMessage.ofFrame m.frame = .ok m.unseen ↔
          ∀ entry ∈ m.documents, entry.1 + entry.2.value.levels ≤ maxLevels))) ∧
    (∀ (frame : String) (m : ServerMessage), ServerMessage.ofFrame frame = .ok m →
      (∃ data, splitHeader frame = .ok (m.kind, data)) ∧
      ((∀ entry ∈ m.documents, entry.2.value.Integral) →
        ServerMessage.ofFrame m.frame = .ok m)) := by
  refine ⟨?_, ?_, ?_, ?_⟩
  · intro m
    exact ⟨m.ofFrame_frame, m.splitHeader_frame⟩
  · intro frame m read
    exact ⟨ClientMessage.splitHeader_of_ofFrame read, m.ofFrame_frame⟩
  · intro m
    refine ⟨m.splitHeader_frame, fun integral => ⟨fun read => ?_, fun shallow => ?_⟩⟩
    · simpa using (ServerMessage.levels_le_of_ofFrame read).2
    · exact m.ofFrame_frame fun entry mem => ⟨integral entry mem, shallow entry mem⟩
  · intro frame m read
    refine ⟨ServerMessage.splitHeader_of_ofFrame read, fun integral => ?_⟩
    obtain ⟨unseen, shallow⟩ := ServerMessage.levels_le_of_ofFrame read
    have again := m.ofFrame_frame fun entry mem => ⟨integral entry mem, shallow entry mem⟩
    rwa [unseen] at again

/-- A shown post with a nested result of a command loses only the mark, a splice nothing. -/
theorem frames_read_back_nested :
    let rolled : Document :=
      ⟨.array [.object [("sum", .number (.integer 7 (by decide)))]],
        by simp [Value.Ordered, OrderedItems, OrderedMembers, Ascending]⟩
    let post : Post := { id := 7, commands := [⟨1, rolled⟩], seenOnce := true }
    let edit : ClientMessage := .splice ⟨2, 0, "é"⟩
    ClientMessage.ofFrame edit.frame = .ok edit ∧
    ServerMessage.ofFrame (ServerMessage.insertPost post).frame
      = .ok (.insertPost { post with seenOnce := false }) ∧
    ServerMessage.ofFrame (ServerMessage.insertPost { post with seenOnce := false }).frame
      = .ok (.insertPost { post with seenOnce := false }) := by
  intro rolled post edit
  have integral : ∀ entry ∈ (ServerMessage.insertPost post).documents,
      entry.2.value.Integral := by
    simp [ServerMessage.documents, post, rolled, Value.Integral, IntegralItems, IntegralMembers]
  have shallow : ∀ entry ∈ (ServerMessage.insertPost post).documents,
      entry.1 + entry.2.value.levels ≤ maxLevels := by
    simp [ServerMessage.documents, post, rolled, Value.levels, valueItemLevels, valueMemberLevels,
      maxLevels]
  have written := (frames_read_back.1 edit).1
  have edited := (frames_read_back.2.1 edit.frame edit written).2
  have read := ((frames_read_back.2.2.1 (.insertPost post)).2 integral).2 shallow
  have again := (frames_read_back.2.2.2 _ _ read).2 (by simpa using integral)
  exact ⟨edited, read, again⟩

end LiveThread
