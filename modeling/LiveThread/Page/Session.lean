import LiveThread.Page.Action

/-!
# Sessions

A page in use: its handlers, the queue of its listener, and the uploads that
wait for an id.  Waiting uploads look again after everything that happens, in
the order in which they were begun.

Main results:

- Definition `Session`: a page in use.
- Definition `Session.act`: something happens on the page.
- Definition `Session.recheck`: waiting uploads look again.
- Theorem `Session.act_page`: neither the listener nor a waiting upload has a say in what
  happens on the page.
-/

namespace LiveThread

/-- An upload that waits for an id. -/
structure WaitingUpload where
  number : Nat
  /-- The number of its composer. -/
  composer : Nat
  file : UploadedFile
  deriving DecidableEq

/-- A waiting upload that has finished. -/
structure FinishedUpload where
  number : Nat
  result : Except ComposeError UploadOutcome

/-- A page in use. -/
structure Session (τ : Type) where
  handlers : Handlers τ
  page : Page τ
  queue : EventQueue := {}
  /-- The waiting uploads, the earliest first. -/
  waiting : List WaitingUpload := []
  /-- How many uploads were begun. -/
  uploads : Nat := 0

/-- The answer to an action, with the number of an upload that has to wait. -/
inductive SessionAnswer where
  | finished (answer : PageAnswer)
  | pending (number : Nat)

namespace Session

variable {τ : Type} [Transport τ]

/-- The page after something happened on it, of which the listener is told. -/
def turn (s : Session τ) (page : Page τ) (events : List Event) : Session τ :=
  { s with page := page, queue := s.queue.pushAll events }

/-- The number of the composition begun last, if there is one. -/
def lastComposer? (s : Session τ) : Option Nat :=
  if s.page.composers.isEmpty then none else some (s.page.composers.length - 1)

/-- Counts an upload, and keeps its file if it has to wait. -/
def noteUpload (s : Session τ) (composer : Nat) (file : Option UploadedFile) : Session τ :=
  { s with
    uploads := s.uploads + 1
    waiting := s.waiting ++ file.toList.map fun file => ⟨s.uploads, composer, file⟩ }

/-- Something happens on the page. -/
def act (s : Session τ) (now : Int64) (action : PageAction) : SessionAnswer × Session τ :=
  let turn := s.page.act s.handlers now action
  let after := s.turn turn.page turn.events
  match action, turn.answer with
  | .compose number action, .composed (.uploaded none) =>
    (.pending s.uploads, after.noteUpload number action.file?)
  | .compose number _, .composed (.uploaded (some _)) =>
    (.finished turn.answer, after.noteUpload number none)
  | _, answer => (.finished answer, after)

/-- Neither the listener nor a waiting upload has a say in what happens on the page. -/
theorem act_page (s : Session τ) (now : Int64) (action : PageAction) :
    (s.act now action).2.page = (s.page.act s.handlers now action).page := by
  unfold act
  dsimp only
  split <;> rfl

/-- Looks again at one waiting upload. -/
def recheckOne (s : Session τ) (upload : WaitingUpload) :
    Option FinishedUpload × Session τ :=
  match s.page.atComposer upload.composer (·.offer upload.file) with
  | (some (some outcome), page) => (some ⟨upload.number, outcome⟩, { s with page := page })
  | (_, page) => (none, { s with page := page, waiting := s.waiting ++ [upload] })

/-- Looks again at waiting uploads in order, keeping those that still wait. -/
def recheckAll (s : Session τ) : List WaitingUpload → List FinishedUpload × Session τ
  | [] => ([], s)
  | upload :: uploads =>
    let (finished, s) := s.recheckOne upload
    let (others, s) := s.recheckAll uploads
    (finished.toList ++ others, s)

/-- Looks again at every waiting upload; tells which ones have finished. -/
def recheck (s : Session τ) : List FinishedUpload × Session τ :=
  { s with waiting := [] }.recheckAll s.waiting

end Session

end LiveThread
