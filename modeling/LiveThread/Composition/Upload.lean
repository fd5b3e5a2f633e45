import LiveThread.Composition.Desk

/-!
# Attaching an image

An upload finishes at any time.  Before anything was sent, the file goes along
with the request for an id; once the post has an id, it is sent on its own; in
between the upload waits and looks again later; after the end it is dropped.
Only one image is ever attached, so a second upload is ignored.

Main results:

- Definition `Desk.offer`: the decision about a finished upload, `none` while it has to wait.
- Definitions `Desk.upload` and `Desk.retryUpload`: a first and a further attempt.
- Theorem `Desk.offer_fst_eq_none_iff`: when an upload has to wait.
-/

namespace LiveThread

/-- What became of an upload. -/
inductive UploadOutcome where
  /-- There was no file. -/
  | discarded
  /-- The post has an image already. -/
  | ignored
  /-- The file went along with the request for an id. -/
  | sentWithAllocation
  /-- The file was sent on its own. -/
  | attached
  /-- The composition had ended. -/
  | abandoned
  deriving DecidableEq

/-- The name of an outcome. -/
def UploadOutcome.name : UploadOutcome → String
  | .discarded => "Discarded"
  | .ignored => "Ignored"
  | .sentWithAllocation => "SentWithAllocation"
  | .attached => "Attached"
  | .abandoned => "Abandoned"

namespace Desk

variable {τ : Type} [Transport τ]

/-- Notes whether an image is on its way. -/
def setAttaching (desk : Desk τ) (attaching : Bool) : Desk τ :=
  { desk with composer := { desk.composer with attachingImage := attaching } }

/-- Decides about a finished upload; there is no answer while an id is awaited. -/
def offer (desk : Desk τ) (file : UploadedFile) :
    Option (Except ComposeError UploadOutcome) × Desk τ :=
  if desk.composer.holdsImage then (some (.ok .ignored), desk)
  else
    match desk.composer.phase with
    | .draft =>
      match desk.requestAllocation desk.composer.liveInput (some file) with
      | (.error e, desk) => (some (.error e), desk)
      | (.ok (), desk) => (some (.ok .sentWithAllocation), desk.setAttaching true)
    | .allocated =>
      match desk.send (.insertImage file) with
      | (false, desk) => (some (.error .connectionClosed), desk)
      | (true, desk) => (some (.ok .attached), desk.setAttaching true)
    | .halted => (some (.ok .abandoned), desk)
    | .allocating => (none, desk)

/-- Takes the result of an upload, which is no file if it failed or was cancelled. -/
def upload (desk : Desk τ) (result : Option UploadedFile) :
    Option (Except ComposeError UploadOutcome) × Desk τ :=
  match result with
  | none => (some (.ok .discarded), desk)
  | some file => desk.offer file

/-- Takes the result of a further attempt; an image on its way no longer counts. -/
def retryUpload (desk : Desk τ) (result : Option UploadedFile) :
    Option (Except ComposeError UploadOutcome) × Desk τ :=
  (desk.setAttaching false).upload result

/-- An upload has to wait exactly while an id is awaited and no image is attached. -/
theorem offer_fst_eq_none_iff (desk : Desk τ) (file : UploadedFile) :
    (desk.offer file).1 = none ↔
      desk.composer.phase = .allocating ∧ desk.composer.holdsImage = false := by
  unfold offer
  split
  · next held => simp [held]
  · next free =>
    split
    · split <;> simp_all
    · split <;> simp_all
    · simp_all
    · simp_all

end Desk

end LiveThread
