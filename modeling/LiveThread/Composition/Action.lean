import LiveThread.Composition.Upload

/-!
# Actions of a composition

Everything that can happen to a composition as data, so that a whole history
of it can be spoken of.

Main results:

- Definition `Action`: what can happen.
- Definition `Desk.perform`: an action with its answer.
- Definition `Desk.run`: the desk after a history.
- Theorem `Desk.run_append`: a history goes on where its first part ended.
-/

namespace LiveThread

/-- What can happen to a composition. -/
inductive Action where
  /-- The author typed: this is the whole input now. -/
  | edit (input : String)
  | close (input : String)
  | abandon
  | halt
  | hideImage
  /-- An upload finished; without a file it failed or was cancelled. -/
  | upload (result : Option UploadedFile)
  /-- A further attempt at an upload finished at once.  One that takes time begins as an attempt
  without a file, and when it ends its result is that of an upload. -/
  | retryUpload (result : Option UploadedFile)
  /-- A waiting upload looks again. -/
  | offer (file : UploadedFile)
  /-- The server gave an id, at this local time. -/
  | receiveId (now : Int64) (id : UInt64)
  /-- The server's copy of a post arrived. -/
  | mergeEcho (data : Post)

/-- The answer to an action. -/
inductive Answer where
  | edited (result : Except ComposeError EditOutcome)
  | closed (result : Except ComposeError Unit)
  | done
  | hidden (result : Except ComposeError Bool)
  /-- What became of an upload, `none` while it has to wait. -/
  | uploaded (result : Option (Except ComposeError UploadOutcome))
  | allocated (result : Except UnexpectedAllocation Unit)
  | merged (found : Bool)

/-- The file of an upload. -/
def Action.file? : Action → Option UploadedFile
  | upload result | retryUpload result => result
  | offer file => some file
  | _ => none

namespace Desk

variable {τ : Type} [Transport τ]

/-- Performs an action. -/
def perform (desk : Desk τ) : Action → Answer × Desk τ
  | .edit input => let (result, desk) := desk.edit input; (.edited result, desk)
  | .close input => let (result, desk) := desk.close input; (.closed result, desk)
  | .abandon => (.done, desk.abandon)
  | .halt => (.done, desk.halt)
  | .hideImage => let (result, desk) := desk.hideImage; (.hidden result, desk)
  | .upload file => let (result, desk) := desk.upload file; (.uploaded result, desk)
  | .retryUpload file => let (result, desk) := desk.retryUpload file; (.uploaded result, desk)
  | .offer file => let (result, desk) := desk.offer file; (.uploaded result, desk)
  | .receiveId now id => let (result, desk) := desk.receiveId now id; (.allocated result, desk)
  | .mergeEcho data => let (found, desk) := desk.mergeEcho data; (.merged found, desk)

/-- The desk after a history. -/
def run (desk : Desk τ) (actions : List Action) : Desk τ :=
  actions.foldl (fun desk action => (desk.perform action).2) desk

@[simp]
theorem run_nil (desk : Desk τ) : desk.run [] = desk :=
  rfl

@[simp]
theorem run_cons (desk : Desk τ) (action : Action) (actions : List Action) :
    desk.run (action :: actions) = (desk.perform action).2.run actions :=
  rfl

/-- A history goes on where its first part ended. -/
theorem run_append (desk : Desk τ) (before after : List Action) :
    desk.run (before ++ after) = (desk.run before).run after := by
  simp [run, List.foldl_append]

end Desk

end LiveThread
