import LiveThread.Composition.Upload
import LiveThread.Page.Event
import LiveThread.Wire.ServerMessage

/-!
# Pages

A page shows one thread.  It has the posts of the thread, the way out to the
server, and the compositions begun on it; at most one of them is attached,
which means that answers of the server go to it.

Main results:

- Definition `Page`: the state of a page.
- Definition `Page.atComposer`: running an operation of one composer.
- Definition `Reply`: what a page answers to something that arrived.
-/

namespace LiveThread

/-- The state of a page. -/
structure Page (τ : Type) where
  board : String
  thread : UInt64
  registry : Registry := .empty
  transport : τ
  /-- The compositions, the earliest first. -/
  composers : List Composer := []
  /-- The number of the attached composition. -/
  attached : Option Nat := none
  /-- By how many seconds the server is ahead of the local clock. -/
  serverOffset : Int64 := 0

namespace Page

variable {τ : Type}

/-! ## Composers -/

/-- A composer with its surroundings. -/
def desk? (page : Page τ) (number : Nat) : Option (Desk τ) :=
  page.composers[number]?.map fun composer =>
    { composer := composer, registry := page.registry, transport := page.transport }

/-- The page after an operation of a composer. -/
def putDesk (page : Page τ) (number : Nat) (desk : Desk τ) : Page τ :=
  { page with
    composers := page.composers.set number desk.composer
    registry := desk.registry
    transport := desk.transport }

/-- Runs an operation of a composer, if there is such a composer. -/
def atComposer {α : Type} (page : Page τ) (number : Nat) (operation : Desk τ → α × Desk τ) :
    Option α × Page τ :=
  match page.desk? number with
  | none => (none, page)
  | some desk =>
    let (answer, desk) := operation desk
    (some answer, page.putDesk number desk)

/-- Begins a composition without attaching it. -/
def addComposer (page : Page τ) (config : ComposerConfig) (now : Int64) : Page τ :=
  { page with
    composers := page.composers ++ [Composer.new config page.board page.thread now] }

/-- Attaches a composition in place of the one attached before. -/
def attach (page : Page τ) (number : Nat) : Page τ :=
  { page with attached := some number }

/-- Begins a composition and attaches it. -/
def newComposer (page : Page τ) (config : ComposerConfig) (now : Int64) : Page τ :=
  (page.addComposer config now).attach page.composers.length

/-- Attaches no composition; tells whether one was attached. -/
def detach (page : Page τ) : Bool × Page τ :=
  (page.attached.isSome, { page with attached := none })

/-- Runs an operation of the attached composer, if there is one. -/
def atAttached {α : Type} (page : Page τ) (operation : Desk τ → α × Desk τ) :
    Option α × Page τ :=
  match page.attached with
  | none => (none, page)
  | some number => page.atComposer number operation

end Page

/-! ## Replies -/

/-- Why something that arrived was rejected. -/
inductive DeliveryError where
  | frame (e : FrameError)
  | unexpectedAllocation (e : UnexpectedAllocation)
  /-- The server refuses to go on. -/
  | fatal (reason : String)
  deriving DecidableEq

/-- The wording of a rejection, if it has one. -/
def DeliveryError.message? : DeliveryError → Option String
  | .frame e => e.message?
  | .unexpectedAllocation e => some e.message
  | .fatal reason => some ("Server error: " ++ reason)

/-- What a page answers to something that arrived: whether it was accepted, the page afterwards,
and what the listener is told. -/
structure Reply (τ : Type) where
  result : Except DeliveryError Unit := .ok ()
  page : Page τ
  events : List Event := []

namespace Page

variable {τ : Type}

/-- Accepts and does nothing. -/
def ignore (page : Page τ) : Reply τ :=
  { page := page }

/-- Accepts, does nothing and tells the listener. -/
def tell (page : Page τ) (event : Event) : Reply τ :=
  { page := page, events := [event] }

/-- Rejects and does nothing. -/
def reject (page : Page τ) (e : DeliveryError) : Reply τ :=
  { result := .error e, page := page }

end Page

end LiveThread
