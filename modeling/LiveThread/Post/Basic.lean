import LiveThread.Json.Value
import LiveThread.Text.Quoted

/-!
# Posts

A post of a thread.  A post may still be written when it is first seen: its
body then grows, shrinks and changes in the middle until the post is closed.
Bodies are counted in characters.

Main results:

- Definition `Post`: a post with its image, links, commands and moderation log.
- Definitions `Post.append?`, `Post.backspace`, `Post.splice?`: the changes of an open body.
- Theorems `Post.append?_eq_ok_iff` and `Post.splice?_eq_ok_iff`: when a body takes a change.
- Definition `Post.mergeEcho`: what the server's copy of an own post adds to it.
-/

namespace LiveThread

/-! ## Parts of a post -/

/-- Width and height of an image and of its thumbnail. -/
structure Dimensions where
  width : UInt16 := 0
  height : UInt16 := 0
  thumbWidth : UInt16 := 0
  thumbHeight : UInt16 := 0
  deriving DecidableEq

/-- An uploaded file that is attached to a post. -/
structure Image where
  spoiler : Bool := false
  fileType : UInt8 := 0
  thumbType : UInt8 := 0
  dimensions : Dimensions := {}
  size : UInt64 := 0
  /-- Seconds of sound or film. -/
  length : UInt32 := 0
  md5 : String := ""
  sha1 : String := ""
  name : String := ""
  deriving DecidableEq

/-- A link to another post. -/
structure Link where
  id : UInt64
  op : UInt64
  board : String := ""
  deriving DecidableEq

/-- The result of a command in the body, shown and not interpreted. -/
structure Command where
  kind : UInt8
  value : Json.Document := Json.Document.null

/-- What staff can do to a post. -/
inductive ModerationAction where
  | banPost
  | unbanPost
  | deletePost
  | deleteImage
  | spoilerImage
  | lockThread
  | deleteBoard
  | meidoVision
  | purgePost
  deriving DecidableEq

/-- The number of an action. -/
def ModerationAction.code : ModerationAction → UInt8
  | .banPost => 0
  | .unbanPost => 1
  | .deletePost => 2
  | .deleteImage => 3
  | .spoilerImage => 4
  | .lockThread => 5
  | .deleteBoard => 6
  | .meidoVision => 7
  | .purgePost => 8

/-- The action with a number. -/
def ModerationAction.ofCode? (code : UInt8) : Option ModerationAction :=
  [banPost, unbanPost, deletePost, deleteImage, spoilerImage, lockThread, deleteBoard,
    meidoVision, purgePost][code.toNat]?

@[simp]
theorem ModerationAction.ofCode?_code (action : ModerationAction) :
    ofCode? action.code = some action := by
  cases action <;> rfl

/-- An entry of the moderation log of a post. -/
structure ModerationEntry where
  action : ModerationAction
  /-- Seconds of a ban. -/
  length : UInt64 := 0
  /-- Who acted. -/
  staff : String := ""
  data : String := ""
  deriving DecidableEq

/-! ## Posts -/

/-- A post.  Its id is zero until the server has given it one. -/
structure Post where
  id : UInt64 := 0
  /-- The post that opened the thread. -/
  op : UInt64 := 0
  board : String := ""
  /-- Unix time in seconds. -/
  time : Int64 := 0
  /-- Whether the post is still being written. -/
  editing : Bool := false
  sage : Bool := false
  name : String := ""
  trip : String := ""
  body : String := ""
  image : Option Image := none
  links : List Link := []
  commands : List Command := []
  moderation : List ModerationEntry := []
  /-- Whether this page has shown the post; never part of a message. -/
  seenOnce : Bool := false

/-- A new open post of a thread. -/
def Post.draft (op : UInt64) (board : String) (time : Int64) : Post :=
  { op := op, board := board, time := time, editing := true }

/-- The number of characters of the body. -/
def Post.bodyLength (p : Post) : Nat :=
  p.body.length

/-! ## Changes of the body -/

/-- Why a body refuses a change. -/
inductive PostError where
  | invalidCodePoint (code : UInt32)
  | spliceOutOfRange (start count : UInt64) (bodyLength : Nat)
  deriving DecidableEq

/-- The wording of a refusal. -/
def PostError.message : PostError → String
  | .invalidCodePoint code => "Invalid code point: 0x" ++ String.ofList (Text.hexDigits code.toNat)
  | .spliceOutOfRange start count bodyLength =>
    "Splice out of range: start " ++ toString start.toNat ++ ", len " ++ toString count.toNat
      ++ ", body has " ++ toString bodyLength ++ " characters"

/-- The character with a code point: surrogates and numbers above 0x10ffff have none. -/
def charOfCode? (code : UInt32) : Option Char :=
  if h : code.isValidChar then some ⟨code, h⟩ else none

/-- Appends the character with a code point to the body. -/
def Post.append? (p : Post) (code : UInt32) : Except PostError Post :=
  match charOfCode? code with
  | some c => .ok { p with body := p.body.push c }
  | none => .error (.invalidCodePoint code)

/-- Removes the last character of the body, if there is one. -/
def Post.backspace (p : Post) : Post :=
  { p with body := String.ofList p.body.toList.dropLast }

/-- Replaces `count` characters of the body from `start` on, if it has that many. -/
def Post.splice? (p : Post) (start count : UInt64) (text : String) : Except PostError Post :=
  if start.toNat + count.toNat ≤ p.bodyLength then
    .ok { p with
      body := String.ofList
        (p.body.toList.take start.toNat ++ text.toList
          ++ p.body.toList.drop (start.toNat + count.toNat)) }
  else .error (.spliceOutOfRange start count p.bodyLength)

/-- A body takes a code point exactly when a character has it, and nothing else changes. -/
theorem Post.append?_eq_ok_iff {p q : Post} {code : UInt32} :
    p.append? code = .ok q ↔
      ∃ c : Char, c.val = code ∧ q = { p with body := p.body.push c } := by
  unfold append? charOfCode?
  constructor
  · intro h
    split at h
    · next c hc =>
      split at hc
      · next valid =>
        cases hc
        exact ⟨_, rfl, (Except.ok.inj h).symm⟩
      · cases hc
    · cases h
  · rintro ⟨c, rfl, rfl⟩
    simp [c.valid]

/-- A body takes a splice exactly when the replaced characters lie in it. -/
theorem Post.splice?_eq_ok_iff {p q : Post} {start count : UInt64} {text : String} :
    p.splice? start count text = .ok q ↔
      start.toNat + count.toNat ≤ p.bodyLength ∧
      q = { p with
        body := String.ofList
          (p.body.toList.take start.toNat ++ text.toList
            ++ p.body.toList.drop (start.toNat + count.toNat)) } := by
  unfold splice?
  split
  · next h => simp [h, eq_comm]
  · next h => simp [h]

/-! ## Other changes -/

/-- Closes the post and notes the links and commands that the server found, if it names any. -/
def Post.close (p : Post) (links : Option (List Link)) (commands : Option (List Command)) : Post :=
  { p with
    links := links.getD p.links
    commands := commands.getD p.commands
    editing := false }

/-- Attaches an image, in place of one attached before. -/
def Post.insertImage (p : Post) (image : Image) : Post :=
  { p with image := some image }

/-- Hides the image, if there is one. -/
def Post.spoilerImage (p : Post) : Post :=
  { p with image := p.image.map fun image => { image with spoiler := true } }

/-- The effect of an action on the visible post. -/
def Post.obey (p : Post) : ModerationAction → Post
  | .deleteImage | .purgePost => { p with image := none }
  | .spoilerImage => p.spoilerImage
  | _ => p

/-- Notes an action of staff in the log and applies its effect. -/
def Post.moderate (p : Post) (entry : ModerationEntry) : Post :=
  { p.obey entry.action with moderation := p.moderation ++ [entry] }

/-- Whether staff deleted the post. -/
def Post.isDeleted (p : Post) : Bool :=
  p.moderation.any fun entry => entry.action = .deletePost

/-- Takes over the server's copy of the post.  The thread and the board are kept when the copy
does not name them, the body when the copy has none, and that the post was shown stays so. -/
def Post.mergeEcho (p : Post) (data : Post) : Post :=
  { data with
    op := if data.op = 0 then p.op else data.op
    board := if data.board = "" then p.board else data.board
    body := if data.body = "" then p.body else data.body
    seenOnce := p.seenOnce }

/-- Marks the post as shown. -/
def Post.markSeen (p : Post) : Post :=
  { p with seenOnce := true }

/-! ## Views -/

/-- What a renderer sees of a post, be it registered or still being composed. -/
structure PostView where
  id : UInt64
  op : UInt64
  body : String
  editing : Bool
  image : Option Image
  deriving DecidableEq

/-- A post without an id is a draft. -/
def PostView.isDraft (v : PostView) : Bool :=
  v.id = 0

/-- The view of a post. -/
def Post.view (p : Post) : PostView :=
  { id := p.id, op := p.op, body := p.body, editing := p.editing, image := p.image }

end LiveThread
