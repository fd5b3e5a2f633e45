import LiveThread.Composition.Phase
import LiveThread.Input.Trim
import LiveThread.Post.Basic

/-!
# Composers

The state of one post while it is composed.  The post belongs to its composer
until the server has given it an id; then it belongs to the registry.

Main results:

- Definition `Composer`: the state of a composition.
- Definition `Composer.new`: a composition of which nothing has been sent.
- Definition `DraftView.view`: what a renderer sees of it.
-/

namespace LiveThread

/-- What a composer is set up with. -/
structure ComposerConfig where
  /-- The greatest number of characters of a body. -/
  maxLength : UInt64 := 2000
  /-- The greatest number of lines of a body; zero for no limit. -/
  maxLines : UInt64 := 100
  /-- Milliseconds after which a waiting upload looks again, at the latest. -/
  retryInterval : UInt64 := 200
  /-- The name sent with the request for an id. -/
  posterName : Option String := none
  deriving DecidableEq

/-- Cuts an input down to the limits of a body. -/
def ComposerConfig.trim (config : ComposerConfig) (input : String) : TrimmedInput :=
  trimInput input config.maxLength.toNat config.maxLines.toNat

/-- The right to the answer of a request for an id, good for one answer. -/
structure Ticket where
  /-- Whether the request carried an image. -/
  carriesImage : Bool
  deriving DecidableEq

/-- The state of a composition. -/
structure Composer where
  config : ComposerConfig
  board : String
  thread : UInt64
  phase : Phase := .draft
  /-- The post, until the registry has it. -/
  draft : Option Post
  /-- The id of the post, zero until there is one. -/
  id : UInt64 := 0
  /-- The body that the server has been told. -/
  sentBody : String := ""
  /-- The input as it was last seen, which may be ahead of the sent body. -/
  liveInput : String := ""
  /-- Whether an image has been sent that the post does not show yet. -/
  attachingImage : Bool := false
  /-- Whether the post is known to have an image. -/
  hasImage : Bool := false
  /-- The right to an id, while a request is unanswered. -/
  ticket : Option Ticket := none

namespace Composer

/-- A composition of which nothing has been sent, begun at the time `now`. -/
def new (config : ComposerConfig) (board : String) (thread : UInt64) (now : Int64) : Composer :=
  { config := config, board := board, thread := thread
    draft := some (Post.draft thread board now) }

/-- Whether an image of the post has been sent or seen. -/
def holdsImage (c : Composer) : Bool :=
  c.hasImage || c.attachingImage

end Composer

/-- What a renderer sees of a composition. -/
structure DraftView where
  post : Post
  input : String
  phase : Phase

/-- The view of a composition: the post with the text of the input, open until it is halted. -/
def DraftView.view (v : DraftView) : PostView :=
  { v.post.view with body := v.input, editing := v.phase ≠ .halted }

end LiveThread
