import LiveThread.Proofs.Composition.Closing
import LiveThread.Transport.Memory

/-!
# The silence of an ended composition

Nothing leads out of the last phase, and in it the way out is left alone, whatever
the author does, the uploads that still wait do, or the server answers.  In every
phase an action does nothing with the way out but hand messages to it, so a way
out that has failed stays failed and lets nothing through.

Main results:

- Theorem `Desk.perform_of_halted`: no action of an ended composition touches the way out.
- Definition `Handed`: messages were handed to a way out.
- Theorem `Desk.perform_handed`: that is all that an action does with it.
- Theorem `Memory.Failed.send`: a way out that has failed stays failed and lets nothing through.
-/

namespace LiveThread

open Relation

/-! ## The last phase -/

namespace Desk

variable {τ : Type} [Transport τ]

/-- No decision about an upload touches an ended composition. -/
theorem upload_of_halted {desk : Desk τ} (halted : desk.composer.phase = .halted)
    (result : Option UploadedFile) : (desk.upload result).2 = desk := by
  cases result with
  | none => rfl
  | some file =>
    simp only [upload, offer]
    split
    · rfl
    · simp only [halted]

/-- An ended composition stays ended, and no action of it touches the way out. -/
theorem perform_of_halted {desk : Desk τ} (halted : desk.composer.phase = .halted)
    (action : Action) :
    (desk.perform action).2.composer.phase = .halted ∧
      (desk.perform action).2.transport = desk.transport := by
  have held : desk.composer.phase.acceptsEdits = false := by
    rw [halted]
    rfl
  cases action with
  | edit input =>
    simp only [perform, edit_of_held held]
    exact ⟨halted, rfl⟩
  | close input =>
    simp only [perform, close, edit_of_held held, note, halted, and_self]
  | abandon => simp [perform, abandon, halted, Phase.next?]
  | halt => simp [perform, halt]
  | hideImage => simp [perform, hideImage, halted]
  | upload result =>
    simp only [perform, upload_of_halted halted]
    exact ⟨halted, trivial⟩
  | retryUpload result =>
    have ended : (desk.setAttaching false).composer.phase = .halted := halted
    simp only [perform, retryUpload, upload_of_halted ended]
    exact ⟨halted, rfl⟩
  | offer file =>
    have same : (desk.offer file).2 = desk := upload_of_halted halted (some file)
    simp only [perform, same]
    exact ⟨halted, trivial⟩
  | receiveId now id =>
    simp only [perform, receiveId]
    split
    · exact ⟨halted, rfl⟩
    · exact ⟨by simp [halted], rfl⟩
  | mergeEcho data =>
    simp only [perform, mergeEcho]
    split <;> exact ⟨halted, rfl⟩

/-- Whatever happens to an ended composition, it stays ended and leaves the way out alone. -/
theorem run_of_halted {desk : Desk τ} (halted : desk.composer.phase = .halted)
    (actions : List Action) :
    (desk.run actions).composer.phase = .halted ∧
      (desk.run actions).transport = desk.transport := by
  induction actions generalizing desk with
  | nil => exact ⟨halted, rfl⟩
  | cons action actions ih =>
    obtain ⟨ended, untouched⟩ := perform_of_halted halted action
    obtain ⟨stays, silent⟩ := ih ended
    exact ⟨stays, silent.trans untouched⟩

end Desk

/-! ## Messages are handed over -/

section Handed

variable {τ : Type} [Transport τ]

/-- Messages were handed to a way out, which may have accepted or refused each of them. -/
def Handed (before after : τ) : Prop :=
  ReflTransGen (fun t u => ∃ m, u = (Transport.send t m).2) before after

/-- What holds of a way out whatever is handed to it holds of it after any number of messages. -/
theorem Handed.keeps {P : τ → Prop} (sends : ∀ way m, P way → P (Transport.send way m).2)
    {before after : τ} (handed : Handed before after) (start : P before) : P after := by
  induction handed with
  | refl => exact start
  | tail _ sent ih =>
    obtain ⟨m, rfl⟩ := sent
    exact sends _ m ih

namespace Desk

variable {desk after : Desk τ}

/-- Sending hands a message over, unless the composition has ended. -/
theorem send_handed (desk : Desk τ) (m : ClientMessage) :
    Handed desk.transport (desk.send m).2.transport := by
  unfold send
  split
  · exact .refl
  · exact .single ⟨m, rfl⟩

/-- The result of sending is what the way out answered. -/
theorem handed_of_send {accepted : Bool} {m : ClientMessage}
    (sent : desk.send m = (accepted, after)) : Handed desk.transport after.transport := by
  have handed := send_handed desk m
  rwa [sent] at handed

theorem requestAllocation_handed (desk : Desk τ) (body : String) (image : Option UploadedFile) :
    Handed desk.transport (desk.requestAllocation body image).2.transport := by
  unfold requestAllocation
  split
  · next sent => exact handed_of_send sent
  · next after sent =>
    have handed : Handed desk.transport after.transport := handed_of_send sent
    split <;> exact handed

theorem sendChange_handed (desk : Desk τ) (text : String) (excess : Nat) :
    Handed desk.transport (desk.sendChange text excess).2.transport := by
  unfold sendChange
  split
  · exact .refl
  · split
    · next sent => exact handed_of_send sent
    · next after sent =>
      have handed : Handed desk.transport after.transport := handed_of_send sent
      exact handed

theorem edit_handed (desk : Desk τ) (input : String) :
    Handed desk.transport (desk.edit input).2.transport := by
  unfold edit
  dsimp only
  split
  · exact .refl
  · split
    · have asked := requestAllocation_handed (desk.note (desk.composer.config.trim input).text)
        (desk.composer.config.trim input).text none
      split <;> next outcome => rw [outcome] at asked; exact asked
    · exact sendChange_handed (desk.note (desk.composer.config.trim input).text)
        (desk.composer.config.trim input).text (desk.composer.config.trim input).excess

omit [Transport τ] in
/-- Ending a composition leaves the way out alone. -/
theorem abandon_transport (desk : Desk τ) : desk.abandon.transport = desk.transport := by
  unfold abandon
  split <;> rfl

theorem close_handed (desk : Desk τ) (input : String) :
    Handed desk.transport (desk.close input).2.transport := by
  have taken := edit_handed desk input
  unfold close
  split
  · next outcome => rwa [outcome] at taken
  · next after outcome =>
    rw [outcome] at taken
    have told : ∀ {accepted : Bool} {last : Desk τ}, after.send .closePost = (accepted, last) →
        Handed desk.transport last.transport := fun sent => taken.trans (handed_of_send sent)
    split
    · exact taken
    · rwa [abandon_transport]
    all_goals
      split
      · next sent => exact told sent
      · next sent =>
        rw [abandon_transport]
        exact told sent

theorem hideImage_handed (desk : Desk τ) : Handed desk.transport desk.hideImage.2.transport := by
  unfold hideImage
  split
  · split <;> next sent => exact handed_of_send sent
  · exact .refl

theorem upload_handed (desk : Desk τ) (result : Option UploadedFile) :
    Handed desk.transport (desk.upload result).2.transport := by
  cases result with
  | none => exact .refl
  | some file =>
    simp only [upload, offer]
    split
    · exact .refl
    · split
      · have asked := requestAllocation_handed desk desk.composer.liveInput (some file)
        split <;> next outcome => rw [outcome] at asked; exact asked
      · split
        · next sent => exact handed_of_send sent
        · next after sent =>
          have handed : Handed desk.transport after.transport := handed_of_send sent
          exact handed
      · exact .refl
      · exact .refl

/-- An action does nothing with the way out but hand messages to it. -/
theorem perform_handed (desk : Desk τ) (action : Action) :
    Handed desk.transport (desk.perform action).2.transport := by
  cases action with
  | edit input => exact edit_handed desk input
  | close input => exact close_handed desk input
  | abandon =>
    simp only [perform, abandon_transport]
    exact .refl
  | halt => exact .refl
  | hideImage => exact hideImage_handed desk
  | upload result => exact upload_handed desk result
  | retryUpload result => exact upload_handed (desk.setAttaching false) result
  | offer file => exact upload_handed desk (some file)
  | receiveId now id =>
    simp only [perform, receiveId]
    split <;> exact .refl
  | mergeEcho data =>
    simp only [perform, mergeEcho]
    split <;> exact .refl

end Desk

end Handed

/-! ## A way out that has failed -/

namespace Memory

/-- The connection has failed. -/
def Failed (log : Memory) : Prop :=
  log.way.failure.isSome = true

/-- The way out has failed once it was told so. -/
theorem failed_fail (log : Memory) (reason : String) : Failed (Transport.fail log reason) :=
  rfl

/-- After a failure nothing leaves, and the failure lasts. -/
theorem Failed.send {log : Memory} (failed : log.Failed) (m : ClientMessage) :
    (Transport.send log m).2.Failed ∧ (Transport.send log m).2.sent = log.sent := by
  obtain ⟨refused, lasts⟩ := Acceptance.send_of_failed failed
  constructor
  · show log.way.send.2.failure.isSome = true
    rw [lasts]
    exact failed
  · rw [Logged.send_sent]
    exact if_neg (by rw [show (Transport.send log m).1 = log.way.send.1 from rfl, refused]; simp)

end Memory

end LiveThread
