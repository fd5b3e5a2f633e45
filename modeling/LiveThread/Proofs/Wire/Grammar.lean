import LiveThread.Proofs.Wire.RoundTrip

/-!
# The grammar of frames

A frame of a direction is the two digits of a kind and what the kind has for a
body there: nothing, or a JSON text of a shape.  The readers accept the frames
of the grammar and, beyond it, frames of kinds without a body that go on after
the header: what stands there is never looked at.  So an update of a post in
the form of the server can pass for a request of the client.

Main results:

- Definitions `ClientMessage.body?` and `ServerMessage.body?`: what follows the header of a kind.
- Definitions `InGrammar` and `HasSurplus`: the frames of a direction, and those that go on where
  nothing should follow.
- Theorem `frames_accepted_iff`: what both readers accept, and which fault they find otherwise.
- Theorem `surplus_is_accepted`: a frame that is accepted though it is not in the grammar.
-/

namespace LiveThread

open Decimal Json

/-! ## Bodies -/

/-- What follows the header of a frame. -/
inductive Body where
  | empty
  /-- A JSON text of a shape. -/
  | json (shape : Shape)

/-- The characters that a body allows after the header. -/
def Body.Allows : Body → List Char → Prop
  | empty, data => data = []
  | json shape, data => ∃ tree : Tree, Padded tree.Spelled data ∧ shape maxLevels tree

/-- The body of a kind in frames of the client, `none` if the client sends no such frames. -/
def ClientMessage.body? : MessageKind → Option Body
  | .synchronise => some (.json (.plain SyncRequest.fields))
  | .insertPost => some (.json (.plain AllocationRequest.fields))
  | .append => some (.json (.unsigned 32))
  | .splice => some (.json (.plain Splice.fields))
  | .insertImage => some (.json (.plain UploadedFile.fields))
  | .backspace | .closePost | .spoiler | .noop => some .empty
  | _ => none

/-- The body of a kind in frames of the server, `none` if the server sends no such frames. -/
def ServerMessage.body? : MessageKind → Option Body
  | .invalid | .redirect | .notification => some (.json .text)
  | .insertPost => some (.json (.plain Post.fields))
  | .append => some (.json (.tuple [.unsigned 64, .unsigned 32]))
  | .backspace | .spoiler | .postId => some (.json (.unsigned 64))
  | .splice => some (.json (.flat (.must "id" (.unsigned 64) :: Splice.fields)))
  | .closePost => some (.json (.plain closeFields))
  | .insertImage => some (.json (.flat (.must "id" (.unsigned 64) :: Image.fields)))
  | .moderatePost => some (.json (.flat (.must "id" (.unsigned 64) :: ModerationEntry.fields)))
  | .synchronise | .configs => some (.json .value)
  | .concat => some (.json (.list .text))
  | .noop | .captcha => some .empty
  | .syncCount => some (.json (.plain countFields))
  | .serverTime => some (.json (.signed 64))
  | .reclaim | .meguTv => none

/-! ## Frames -/

/-- A frame begins with the two digits of a number, and these characters follow them. -/
def HasHeader (frame : String) (code : Nat) (data : List Char) : Prop :=
  ∃ tens ones : Digit, frame.toList = tens.toChar :: ones.toChar :: data ∧
    code = 10 * tens.val + ones.val

section Direction

variable (body? : MessageKind → Option Body) (frame : String)

/-- The frames of a direction in which kinds have these bodies. -/
def InGrammar : Prop :=
  ∃ kind body data, HasHeader frame kind.code data ∧ body? kind = some body ∧ body.Allows data

/-- A frame goes on after the header of a kind without a body. -/
def HasSurplus : Prop :=
  ∃ kind data, HasHeader frame kind.code data ∧ body? kind = some .empty ∧ data ≠ []

/-- A fault inside a payload. -/
def FrameError.IsPayloadFault : FrameError → Prop
  | impossiblePayload _ _ | undecodable => True
  | _ => False

/-- How a reader of a direction in which kinds have these bodies answers a frame. -/
structure Answers {M : Type} (answer : Except FrameError M) : Prop where
  /-- Accepted are the frames of the grammar, and beyond it what goes on after a bare header. -/
  accepted : (∃ m, answer = .ok m) ↔ InGrammar body? frame ∨ HasSurplus body? frame
  /-- Only what goes on where nothing should follow is accepted against the grammar. -/
  conforms : ((∃ m, answer = .ok m) ↔ InGrammar body? frame) ↔ ¬ HasSurplus body? frame
  /-- The first two characters are not both digits. -/
  malformed : ∀ start, answer = .error (.malformedHeader start) ↔
    (¬ ∃ code data, HasHeader frame code data) ∧
      start = String.ofList (frame.toList.take shownChars)
  /-- They are digits and name no kind. -/
  unknown : ∀ code, answer = .error (.unknownKind code) ↔
    (∃ data, HasHeader frame code data) ∧ ∀ kind : MessageKind, kind.code ≠ code
  /-- They name a kind that is not sent in this direction. -/
  unsupported : ∀ kind, answer = .error (.unsupported kind) ↔
    (∃ data, HasHeader frame kind.code data) ∧ body? kind = none
  /-- They name a kind with a payload, and no text of its shape follows. -/
  payload : (∃ e : FrameError, e.IsPayloadFault ∧ answer = .error e) ↔
    ∃ kind shape data, HasHeader frame kind.code data ∧ body? kind = some (.json shape) ∧
      ¬ (Body.json shape).Allows data

/-! ## Headers -/

variable {body?} {frame}

theorem headerCode?_eq_some_iff {code : Nat} {data : List Char} :
    headerCode? frame.toList = some (code, data) ↔ HasHeader frame code data := by
  unfold HasHeader
  constructor
  · intro h
    unfold headerCode? at h
    split at h
    · next a b rest eq =>
      split at h
      · next tens ones first second =>
        cases h
        refine ⟨tens, ones, ?_, rfl⟩
        rw [eq, Digit.toChar_of_ofChar? first, Digit.toChar_of_ofChar? second]
      · cases h
    · cases h
  · rintro ⟨tens, ones, eq, rfl⟩
    simp only [eq, headerCode?, Digit.ofChar?_toChar]

/-- A frame has one header at most. -/
theorem HasHeader.unique {code code' : Nat} {data data' : List Char}
    (h : HasHeader frame code data) (h' : HasHeader frame code' data') :
    code = code' ∧ data = data' := by
  have first := headerCode?_eq_some_iff.2 h
  rw [headerCode?_eq_some_iff.2 h'] at first
  cases first
  exact ⟨rfl, rfl⟩

/-- A frame has a header of a kind exactly if it is split there. -/
theorem splitHeader_eq_ok {kind : MessageKind} {data : List Char}
    (h : HasHeader frame kind.code data) : splitHeader frame = .ok (kind, data) := by
  simp only [splitHeader, headerCode?_eq_some_iff.2 h, MessageKind.ofCode?_code]

theorem splitHeader_eq_unknown {code : Nat} {data : List Char} (h : HasHeader frame code data)
    (unnamed : ∀ kind : MessageKind, kind.code ≠ code) :
    splitHeader frame = .error (.unknownKind code) := by
  have none : MessageKind.ofCode? code = none := by
    cases named : MessageKind.ofCode? code with
    | none => rfl
    | some kind => exact absurd (MessageKind.ofCode?_eq_some_iff.1 named) (unnamed kind)
  simp only [splitHeader, headerCode?_eq_some_iff.2 h, none]

theorem splitHeader_eq_malformed (h : ¬ ∃ code data, HasHeader frame code data) :
    splitHeader frame
      = .error (.malformedHeader (String.ofList (frame.toList.take shownChars))) := by
  have none : headerCode? frame.toList = none := by
    cases read : headerCode? frame.toList with
    | none => rfl
    | some header => exact absurd ⟨_, _, headerCode?_eq_some_iff.1 read⟩ h
  simp only [splitHeader, none]

/-! ## Payloads -/

/-- An answer is a message if a condition holds, and a fault inside the payload otherwise. -/
def Decides {M : Type} (condition : Prop) (answer : Except FrameError M) : Prop :=
  condition ∧ (∃ m, answer = .ok m) ∨
    ¬ condition ∧ ∃ e : FrameError, e.IsPayloadFault ∧ answer = .error e

theorem Decides.map {M N : Type} {condition : Prop} {answer : Except FrameError M}
    (h : Decides condition answer) (f : M → N) : Decides condition (answer.map f) := by
  rcases h with ⟨holds, m, rfl⟩ | ⟨fails, e, fault, rfl⟩
  · exact .inl ⟨holds, f m, rfl⟩
  · exact .inr ⟨fails, e, fault, rfl⟩

/-- A text is read by a schema exactly if it is a text of its shape. -/
theorem isSome_decodeText?_iff {α : Type} {read : Reader α} {shape : Shape}
    (takes : read.Takes shape) (data : List Char) :
    (decodeText? read data).isSome ↔ (Body.json shape).Allows data := by
  simp only [Body.Allows, ← Tree.parse?_eq_some_iff]
  unfold decodeText?
  cases parsed : Tree.parse? data with
  | none => simp
  | some tree => simpa using takes maxLevels tree

/-- The payload of a kind is read exactly if it is a text of its shape. -/
theorem decides_readPayload {α : Type} {read : Reader α} {shape : Shape}
    (takes : read.Takes shape) (data : List Char) :
    Decides ((Body.json shape).Allows data) (readPayload read data) := by
  rw [← isSome_decodeText?_iff takes]
  unfold readPayload Decides
  cases decodeText? read data with
  | none => exact .inr ⟨by simp, .undecodable, trivial, rfl⟩
  | some x => exact .inl ⟨by simp, x, rfl⟩

/-! ## Answers -/

section Answers

variable {M : Type} {answer : Except FrameError M}

/-- The answer to a frame without a header. -/
theorem answers_malformed (headless : ∀ code data, ¬ HasHeader frame code data)
    (eq : answer = .error (.malformedHeader (String.ofList (frame.toList.take shownChars)))) :
    Answers body? frame answer := by
  subst eq
  constructor <;> simp [InGrammar, HasSurplus, headless, eq_comm, FrameError.IsPayloadFault]

/-- The answer to a frame whose header names no kind. -/
theorem answers_unknown {code : Nat} {data : List Char} (header : HasHeader frame code data)
    (unnamed : ∀ kind : MessageKind, code ≠ kind.code)
    (eq : answer = .error (.unknownKind code)) : Answers body? frame answer := by
  have headers : ∀ code' data', HasHeader frame code' data' ↔ code = code' ∧ data = data' :=
    fun code' data' => ⟨header.unique, by rintro ⟨rfl, rfl⟩; exact header⟩
  subst eq
  constructor <;>
    simp [InGrammar, HasSurplus, headers, unnamed, Ne.symm (unnamed _), FrameError.IsPayloadFault]

/-- What a reader makes of the characters after the header of a kind with this body. -/
def Reads (body : Option Body) (kind : MessageKind) (data : List Char)
    (answer : Except FrameError M) : Prop :=
  match body with
  | none => answer = .error (.unsupported kind)
  | some .empty => ∃ m, answer = .ok m
  | some (.json shape) => Decides ((Body.json shape).Allows data) answer

/-- The answer to a frame whose header names a kind. -/
theorem answers_named {kind : MessageKind} {data : List Char}
    (header : HasHeader frame kind.code data) (reads : Reads (body? kind) kind data answer) :
    Answers body? frame answer := by
  -- With its only header named, every part of the answer is about this kind and these characters.
  have headers : ∀ code' data', HasHeader frame code' data' ↔ kind.code = code' ∧ data = data' :=
    fun code' data' => ⟨header.unique, by rintro ⟨rfl, rfl⟩; exact header⟩
  have kinds : ∀ kind' : MessageKind, kind.code = kind'.code ↔ kind = kind' :=
    fun kind' => ⟨MessageKind.code_injective, congrArg _⟩
  cases body : body? kind with
  | none =>
    rw [body] at reads
    obtain rfl : answer = .error (.unsupported kind) := reads
    constructor <;>
      simp [InGrammar, HasSurplus, headers, kinds, body, FrameError.IsPayloadFault]
  | some content =>
    rw [body] at reads
    cases content with
    | empty =>
      obtain ⟨m, rfl⟩ := reads
      constructor <;>
        simp [InGrammar, HasSurplus, headers, kinds, body, FrameError.IsPayloadFault, Body.Allows,
          Classical.em]
    | json shape =>
      rcases reads with ⟨allowed, m, rfl⟩ | ⟨refused, e, fault, rfl⟩
      · constructor <;>
          simp [InGrammar, HasSurplus, headers, kinds, body, FrameError.IsPayloadFault, allowed]
      · cases e with
        | impossiblePayload | undecodable =>
          constructor <;>
            simp [InGrammar, HasSurplus, headers, kinds, body, FrameError.IsPayloadFault, refused]
        | malformedHeader | unknownKind | unsupported => cases fault

/-- A reader that splits a frame and reads what follows the header answers every frame. -/
theorem answers_of_splitHeader {ofPayload : MessageKind → List Char → Except FrameError M}
    (found : ∀ {kind data}, splitHeader frame = .ok (kind, data) → answer = ofPayload kind data)
    (failed : ∀ {e}, splitHeader frame = .error e → answer = .error e)
    (reads : ∀ kind data, Reads (body? kind) kind data (ofPayload kind data)) :
    Answers body? frame answer := by
  by_cases headed : ∃ code data, HasHeader frame code data
  · obtain ⟨code, data, header⟩ := headed
    by_cases named : ∃ kind : MessageKind, code = kind.code
    · obtain ⟨kind, rfl⟩ := named
      rw [found (splitHeader_eq_ok header)]
      exact answers_named header (reads kind data)
    · have unnamed : ∀ kind : MessageKind, code ≠ kind.code := fun kind same => named ⟨kind, same⟩
      exact answers_unknown header unnamed
        (failed (splitHeader_eq_unknown header fun kind => (unnamed kind).symm))
  · exact answers_malformed (fun code data header => headed ⟨code, data, header⟩)
      (failed (splitHeader_eq_malformed headed))

end Answers

end Direction

/-! ## Directions -/

namespace ClientMessage

theorem reads_ofPayload (kind : MessageKind) (data : List Char) :
    Reads (body? kind) kind data (ofPayload kind data) := by
  cases kind with
  | synchronise => exact (decides_readPayload SyncRequest.takes_reader data).map _
  | insertPost => exact (decides_readPayload AllocationRequest.takes_reader data).map _
  | append => exact (decides_readPayload Reader.takes_uint32 data).map _
  | splice => exact (decides_readPayload Splice.takes_reader data).map _
  | insertImage => exact (decides_readPayload UploadedFile.takes_reader data).map _
  | backspace | closePost | spoiler | noop => exact ⟨_, rfl⟩
  | _ => exact rfl

/-- The client's reader answers a frame by the grammar of its direction. -/
theorem answers_ofFrame (frame : String) : Answers body? frame (ofFrame frame) := by
  apply answers_of_splitHeader _ _ reads_ofPayload
  · intro kind data split
    simp only [ofFrame, split]
  · intro e split
    simp only [ofFrame, split]

end ClientMessage

namespace ServerMessage

/-- A pair is read as an appended character exactly if its second number is small. -/
theorem decides_append (data : List Char) :
    Decides ((Body.json (.tuple [.unsigned 64, .unsigned 32])).Allows data)
      (ofPayload .append data) := by
  have allowed : (Body.json (.tuple [.unsigned 64, .unsigned 32])).Allows data ↔
      ∃ id code, decodeText? pairReader data = some (id, code) ∧ code.toNat < UInt32.size := by
    simp only [Body.Allows, tuple_append_iff, ← Tree.parse?_eq_some_iff, decodeText?]
    cases Tree.parse? data <;> simp
  rw [allowed]
  unfold ofPayload readPayload
  cases decodeText? pairReader data with
  | none => exact .inr ⟨by simp, .undecodable, trivial, rfl⟩
  | some pair =>
    obtain ⟨id, code⟩ := pair
    simp only [Except.bind, ofPair]
    split
    · next small => exact .inl ⟨⟨id, code, rfl, small⟩, _, rfl⟩
    · next large =>
      refine .inr ⟨?_, .impossiblePayload .append (.codePoint code), trivial, rfl⟩
      rintro ⟨_, _, ⟨⟩, small⟩
      exact large small

theorem reads_ofPayload (kind : MessageKind) (data : List Char) :
    Reads (body? kind) kind data (ofPayload kind data) := by
  cases kind with
  | invalid | redirect | notification =>
    exact (decides_readPayload Reader.takes_text data).map _
  | insertPost => exact (decides_readPayload Post.takes_reader data).map _
  | append => exact decides_append data
  | backspace | spoiler | postId => exact (decides_readPayload Reader.takes_uint64 data).map _
  | splice =>
    exact (decides_readPayload (takes_flatReader rfl Splice.isSome_ofMembers?_iff) data).map _
  | closePost => exact (decides_readPayload takes_closeReader data).map _
  | insertImage =>
    exact (decides_readPayload (takes_flatReader rfl Image.isSome_ofMembers?_iff) data).map _
  | moderatePost =>
    exact (decides_readPayload (takes_flatReader rfl ModerationEntry.isSome_ofMembers?_iff)
      data).map _
  | synchronise | configs => exact (decides_readPayload Reader.takes_document data).map _
  | concat => exact (decides_readPayload (Reader.takes_list Reader.takes_text) data).map _
  | noop | captcha => exact ⟨_, rfl⟩
  | syncCount => exact (decides_readPayload takes_countReader data).map _
  | serverTime => exact (decides_readPayload Reader.takes_int64 data).map _
  | reclaim | meguTv => exact rfl

/-- The server's reader answers a frame by the grammar of its direction. -/
theorem answers_ofFrame (frame : String) : Answers body? frame (ofFrame frame) := by
  apply answers_of_splitHeader _ _ reads_ofPayload
  · intro kind data split
    simp only [ofFrame, split]
  · intro e split
    simp only [ofFrame, split]

end ServerMessage

/-! ## Updates of posts as requests -/

/-- A printed tree is a text of a shape exactly if it is itself of that shape. -/
theorem allows_print_iff {shape : Shape} {tree : Tree} (printable : tree.Printable) :
    (Body.json shape).Allows tree.print ↔ shape maxLevels tree := by
  simp only [Body.Allows, ← Tree.parse?_eq_some_iff, Tree.parse?_print printable,
    Option.some.injEq, exists_eq_left']

/-- A written payload is accepted by the client's reader exactly if it is of the shape of the
kind that heads it. -/
theorem ClientMessage.accepts_frameOf_iff {kind : MessageKind} {shape : Shape} {payload : Tree}
    (body : body? kind = some (.json shape)) (printable : payload.Printable) :
    (∃ request, ofFrame (frameOf kind payload) = .ok request) ↔ shape maxLevels payload := by
  have decides : Reads (body? kind) kind payload.print (ofPayload kind payload.print) :=
    reads_ofPayload kind payload.print
  rw [body] at decides
  rw [ofFrame_frameOf]
  rcases decides with ⟨allowed, request, read⟩ | ⟨refused, e, -, read⟩
  · exact iff_of_true ⟨request, read⟩ ((allows_print_iff printable).1 allowed)
  · exact iff_of_false (by simp [read]) fun fits => refused ((allows_print_iff printable).2 fits)

namespace ServerMessage

/-- The members of a splice of a post follow the fields of a request, the id between them. -/
theorem follow_splice (id : UInt64) (s : Splice) (room : Nat) :
    Follow Splice.fields room (idMember id :: s.members) := by
  have number : ∀ n : UInt64, Shape.unsigned 64 room (Tree.ofInt n.toNat) := fun n =>
    (Reader.takes_uint64 room _).1 (by simp)
  have text : Shape.text room (Tree.ofString s.text) := (Reader.takes_text room _).1 (by simp)
  constructor <;>
    simp [Splice.fields, Splice.members, idMember, Field.must, number, text]

/-- Of the updates of posts in the server's form, the client's reader accepts those without a body
in its own direction, and splices. -/
theorem accepted_as_request_iff (m : ServerMessage) :
    (m.kind.isPostUpdate = true ∧ ∃ request, ClientMessage.ofFrame m.frame = .ok request) ↔
      m.kind = .backspace ∨ m.kind = .splice ∨ m.kind = .closePost ∨ m.kind = .spoiler := by
  cases m with
  | insertPost post =>
    have refused : ¬ Shape.plain AllocationRequest.fields maxLevels post.tree := by
      intro plain
      have given := (plain_record_iff.1 plain).given (.must "open" .bool) (by
        simp [AllocationRequest.fields]) rfl
      rw [Post.members_names] at given
      exact absurd given (by decide)
    have frame : (∃ request, ClientMessage.ofFrame (insertPost post).frame = .ok request) ↔ _ :=
      ClientMessage.accepts_frameOf_iff (show ClientMessage.body? .insertPost = _ from rfl)
        post.printable_tree
    exact iff_of_false (fun h => refused (frame.1 h.2)) (by simp [kind])
  | append id code =>
    have refused : ¬ Shape.unsigned 32 maxLevels
        (.array [Tree.ofInt id.toNat, Tree.ofInt code.toNat]) := by
      rintro ⟨n, -, -, ⟨⟩⟩
    have frame : (∃ request, ClientMessage.ofFrame (append id code).frame = .ok request) ↔ _ :=
      ClientMessage.accepts_frameOf_iff (show ClientMessage.body? .append = _ from rfl)
        (printable_array (by simp))
    exact iff_of_false (fun h => refused (frame.1 h.2)) (by simp [kind])
  | splice id s =>
    have accepted : Shape.plain Splice.fields maxLevels (Tree.record (idMember id :: s.members)) :=
      plain_record_iff.2 (follow_splice id s _)
    have frame : (∃ request, ClientMessage.ofFrame (splice id s).frame = .ok request) ↔ _ :=
      ClientMessage.accepts_frameOf_iff (show ClientMessage.body? .splice = _ from rfl)
        (printable_idMember_record id fun _ => Splice.printable_of_mem)
    exact iff_of_true ⟨rfl, frame.2 accepted⟩ (by simp [kind])
  | insertImage id image =>
    have refused : ¬ Shape.plain UploadedFile.fields maxLevels
        (Tree.record (idMember id :: image.members)) := by
      intro plain
      have given := (plain_record_iff.1 plain).given (.must "token" .text) (by
        simp [UploadedFile.fields]) rfl
      simp [idMember, Field.must, Image.memberNames] at given
    have frame : (∃ request, ClientMessage.ofFrame (insertImage id image).frame = .ok request) ↔ _ :=
      ClientMessage.accepts_frameOf_iff (show ClientMessage.body? .insertImage = _ from rfl)
        (printable_idMember_record id fun _ => Image.printable_of_mem)
    exact iff_of_false (fun h => refused (frame.1 h.2)) (by simp [kind])
  | moderatePost id entry =>
    have refused : ClientMessage.ofFrame (moderatePost id entry).frame
        = .error (.unsupported .moderatePost) := ClientMessage.ofFrame_frameOf _ _
    exact iff_of_false (by simp [refused]) (by simp [kind])
  | backspace | closePost | spoiler =>
    exact iff_of_true ⟨rfl, _, ClientMessage.ofFrame_frameOf _ _⟩ (by simp [kind])
  | _ => simp [kind, MessageKind.isPostUpdate, MessageKind.code]

end ServerMessage

/-! ## Both directions -/

/-- Both readers accept the frames of their grammar and those that go on where nothing should
follow, and find the first fault of every other frame; and of the updates of posts in the server's
form, the client's reader accepts the four kinds for which it reads no id. -/
theorem frames_accepted_iff (frame : String) (update : ServerMessage) :
    Answers ClientMessage.body? frame (ClientMessage.ofFrame frame) ∧
      Answers ServerMessage.body? frame (ServerMessage.ofFrame frame) ∧
      ((update.kind.isPostUpdate = true ∧
          ∃ request, ClientMessage.ofFrame update.frame = .ok request) ↔
        update.kind = .backspace ∨ update.kind = .splice ∨ update.kind = .closePost ∨
          update.kind = .spoiler) :=
  ⟨ClientMessage.answers_ofFrame frame, ServerMessage.answers_ofFrame frame,
    update.accepted_as_request_iff⟩

/-- That the server took a character from a post is accepted as a request, though the post's id
stands where a request has nothing. -/
theorem surplus_is_accepted :
    ServerMessage.ofFrame "0310" = .ok (.backspace 10) ∧
      ¬ InGrammar ClientMessage.body? "0310" ∧ HasSurplus ClientMessage.body? "0310" ∧
      ClientMessage.ofFrame "0310" = .ok .backspace := by
  have header : HasHeader "0310" MessageKind.backspace.code ['1', '0'] := ⟨0, 3, rfl, rfl⟩
  refine ⟨rfl, ?_, ⟨.backspace, _, header, rfl, by simp⟩, rfl⟩
  rintro ⟨kind, body, data, own, bodied, allowed⟩
  obtain ⟨same, rfl⟩ := header.unique own
  obtain rfl := MessageKind.code_injective same
  cases bodied
  cases allowed

end LiveThread
