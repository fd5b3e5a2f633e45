import LiveThread.Composition.Composer
import LiveThread.Input.Edit
import LiveThread.Registry
import LiveThread.Transport.Basic

/-!
# Composing a post

What a composer does with its surroundings: the posts of the thread and the
way out for messages.  Every operation answers with its result and with the
surroundings as they are afterwards.

The sent body follows the messages that were accepted and nothing else, so a
refused message leaves it as it was and the next edit closes the gap.

Main results:

- Definition `Desk`: a composer and its surroundings.
- Definitions `Desk.edit`, `Desk.close`, `Desk.abandon`, `Desk.halt` and `Desk.hideImage`: what
  the author can do.
- Definitions `Desk.receiveId` and `Desk.mergeEcho`: what the server answers.
- Definition `Desk.snapshot`: what a renderer sees.
- Theorems `Desk.send_of_halted` and `Desk.send_of_open`: who hears of a message.
-/

namespace LiveThread

/-- A composer, the posts of its thread and its way out. -/
structure Desk (τ : Type) where
  composer : Composer
  registry : Registry
  transport : τ

/-- Why an operation of a composer did not succeed. -/
inductive ComposeError where
  | invalidTransition (e : InvalidTransition)
  /-- The message was refused. -/
  | connectionClosed
  deriving DecidableEq

/-- The wording of a failed operation. -/
def ComposeError.message : ComposeError → String
  | .invalidTransition e => e.message
  | .connectionClosed => "Connection closed"

/-- An answer to a request for an id that nobody is waiting for. -/
structure UnexpectedAllocation where
  id : UInt64
  deriving DecidableEq

/-- The wording of an unexpected answer. -/
def UnexpectedAllocation.message (e : UnexpectedAllocation) : String :=
  "Unexpected allocation response for post " ++ toString e.id.toNat

/-- What became of an input. -/
structure EditOutcome where
  /-- The kind of the message that was sent, if one was. -/
  sent : Option MessageKind
  /-- How many characters of the input were cut off. -/
  trimmed : Nat
  deriving DecidableEq

namespace Desk

variable {τ : Type} [Transport τ]

/-! ## Sending -/

/-- Sends a message; tells whether it was accepted.  A halted composer keeps silent. -/
def send (desk : Desk τ) (m : ClientMessage) : Bool × Desk τ :=
  if desk.composer.phase = .halted then (true, desk)
  else
    match Transport.send desk.transport m with
    | (accepted, transport) => (accepted, { desk with transport := transport })

/-- A halted composer keeps silent. -/
theorem send_of_halted {desk : Desk τ} (h : desk.composer.phase = .halted) (m : ClientMessage) :
    desk.send m = (true, desk) := by
  simp [send, h]

/-- An open composer hands its message to the way out. -/
theorem send_of_open {desk : Desk τ} (h : desk.composer.phase ≠ .halted) (m : ClientMessage) :
    desk.send m
      = ((Transport.send desk.transport m).1,
          { desk with transport := (Transport.send desk.transport m).2 }) := by
  simp [send, h]

/-- Sending changes the way out only. -/
@[simp]
theorem send_composer (desk : Desk τ) (m : ClientMessage) :
    (desk.send m).2.composer = desk.composer := by
  unfold send
  split <;> rfl

@[simp]
theorem send_registry (desk : Desk τ) (m : ClientMessage) :
    (desk.send m).2.registry = desk.registry := by
  unfold send
  split <;> rfl

/-- The request for an id with a first body, unless it is empty, and perhaps an image. -/
def allocationRequest (config : ComposerConfig) (body : String) (image : Option UploadedFile) :
    AllocationRequest :=
  { body := if body = "" then none else some body, image := image, name := config.posterName }

/-- Asks for an id.  The composer changes only if the request was accepted. -/
def requestAllocation (desk : Desk τ) (body : String) (image : Option UploadedFile) :
    Except ComposeError Unit × Desk τ :=
  match desk.send (.insertPost (allocationRequest desk.composer.config body image)) with
  | (false, desk) => (.error .connectionClosed, desk)
  | (true, desk) =>
    match desk.composer.phase.feed .allocationRequested with
    | .error e => (.error (.invalidTransition e), desk)
    | .ok phase =>
      (.ok (), { desk with
        composer := { desk.composer with
          phase := phase
          draft :=
            if body = "" then desk.composer.draft
            else desk.composer.draft.map fun post => { post with body := body }
          sentBody := if body = "" then desk.composer.sentBody else body
          ticket := some ⟨image.isSome⟩ } })

/-! ## What the author does -/

/-- Remembers an input. -/
def note (desk : Desk τ) (input : String) : Desk τ :=
  { desk with composer := { desk.composer with liveInput := input } }

/-- Sends the change from the sent body to a text, as one edit. -/
def sendChange (desk : Desk τ) (text : String) (excess : Nat) :
    Except ComposeError EditOutcome × Desk τ :=
  match Edit.between? desk.composer.sentBody text with
  | none => (.ok ⟨none, excess⟩, desk)
  | some edit =>
    match desk.send edit.message with
    | (false, desk) => (.error .connectionClosed, desk)
    | (true, desk) =>
      (.ok ⟨some edit.message.kind, excess⟩,
        { desk with composer := { desk.composer with sentBody := text } })

/-- Takes the input as it now is, cut down to the limits.  The first input that is not empty asks
for an id; once there is one the change is sent; in between and in the end the input is only
remembered. -/
def edit (desk : Desk τ) (input : String) : Except ComposeError EditOutcome × Desk τ :=
  let trimmed := desk.composer.config.trim input
  let desk := desk.note trimmed.text
  if desk.composer.phase.acceptsEdits = false ∨ trimmed.text = desk.composer.sentBody then
    (.ok ⟨none, trimmed.excess⟩, desk)
  else if desk.composer.phase = .draft then
    match desk.requestAllocation trimmed.text none with
    | (.ok (), desk) => (.ok ⟨some .insertPost, trimmed.excess⟩, desk)
    | (.error e, desk) => (.error e, desk)
  else desk.sendChange trimmed.text trimmed.excess

/-- Ends the composition without telling the server. -/
def abandon (desk : Desk τ) : Desk τ :=
  match desk.composer.phase.next? .postClosed with
  | none => desk
  | some phase =>
    { desk with
      composer := { desk.composer with phase := phase, draft := none }
      registry :=
        if desk.composer.id = 0 then desk.registry
        else desk.registry.modify desk.composer.id fun post => { post with editing := false } }

/-- Takes the final input and closes the post.  The server is told unless it never heard of it. -/
def close (desk : Desk τ) (input : String) : Except ComposeError Unit × Desk τ :=
  match desk.edit input with
  | (.error e, desk) => (.error e, desk)
  | (.ok _, desk) =>
    match desk.composer.phase with
    | .halted => (.ok (), desk)
    | .draft => (.ok (), desk.abandon)
    | .allocating | .allocated =>
      match desk.send .closePost with
      | (false, desk) => (.error .connectionClosed, desk)
      | (true, desk) => (.ok (), desk.abandon)

/-- Hides the image of the post; tells whether there is one to hide. -/
def hideImage (desk : Desk τ) : Except ComposeError Bool × Desk τ :=
  if desk.composer.phase = .allocated ∧ desk.composer.holdsImage = true then
    match desk.send .spoiler with
    | (false, desk) => (.error .connectionClosed, desk)
    | (true, desk) => (.ok true, desk)
  else (.ok false, desk)

/-- Ends the composition after a fatal error. -/
def halt (desk : Desk τ) : Desk τ :=
  { desk with
    composer := { desk.composer with phase := desk.composer.phase.after .fatalError } }

/-! ## What the server answers -/

/-- The post as the registry gets it: with its id, in the thread, with the sent body, and closed
if the composition has ended meanwhile. -/
def registeredPost (c : Composer) (id : UInt64) (now : Int64) : Post :=
  let post := c.draft.getD (Post.draft c.thread c.board now)
  { post with
    id := id
    op := c.thread
    seenOnce := true
    body := c.sentBody
    editing := (c.phase.next? .idReceived).isSome && post.editing }

/-- Takes the id that was asked for and hands the post over to the registry. -/
def receiveId (desk : Desk τ) (now : Int64) (id : UInt64) :
    Except UnexpectedAllocation Unit × Desk τ :=
  match desk.composer.ticket with
  | none => (.error ⟨id⟩, desk)
  | some ticket =>
    (.ok (), { desk with
      composer := { desk.composer with
        phase := desk.composer.phase.after .idReceived
        draft := none
        id := id
        hasImage := desk.composer.hasImage || ticket.carriesImage
        ticket := none }
      registry := desk.registry.insert (registeredPost desk.composer id now) })

/-- Adds what the server's copy of the own post says; tells whether it is the own post and the
registry has it. -/
def mergeEcho (desk : Desk τ) (data : Post) : Bool × Desk τ :=
  if desk.composer.id = 0 ∨ desk.composer.id ≠ data.id then (false, desk)
  else
    (desk.registry.contains data.id,
      { desk with
        composer := { desk.composer with
          hasImage := desk.composer.hasImage || data.image.isSome }
        registry := desk.registry.modify data.id fun post => post.mergeEcho data })

/-! ## What a renderer sees -/

/-- The post, from whoever has it, with the input and the phase. -/
def snapshot (desk : Desk τ) : DraftView :=
  { post := desk.composer.draft.getD ((desk.registry.get? desk.composer.id).getD {})
    input := desk.composer.liveInput
    phase := desk.composer.phase }

end Desk

end LiveThread
