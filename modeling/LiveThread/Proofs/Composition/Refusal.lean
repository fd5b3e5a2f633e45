import LiveThread.Proofs.Composition.Silence

/-!
# A way out that refuses everything

Nothing is accepted after the end of a connection.  Whatever is then done with a
composition, it does not come to think that the server has been told anything:
its sent body and the way out stay as they are.

Main results:

- Definition `Refuses`: a way out refuses every message and stays as it is.
- Theorem `Desk.edit_of_refusing`: an input is then only remembered.
- Theorem `Desk.perform_of_refusing`: no action changes the sent body.
-/

namespace LiveThread

variable {τ : Type} [Transport τ]

/-- A way out refuses every message and stays as it is. -/
def Refuses (way : τ) : Prop :=
  ∀ m, Transport.send way m = (false, way)

namespace Desk

variable {desk : Desk τ}

/-- An open composition is refused. -/
theorem send_of_refusing (refuses : Refuses desk.transport) (opened : desk.composer.phase ≠ .halted)
    (m : ClientMessage) : desk.send m = (false, desk) := by
  rw [send_of_open opened, refuses m]

theorem requestAllocation_of_refusing (refuses : Refuses desk.transport)
    (opened : desk.composer.phase ≠ .halted) (body : String) (image : Option UploadedFile) :
    desk.requestAllocation body image = (.error .connectionClosed, desk) := by
  rw [requestAllocation, send_of_refusing refuses opened]

/-- An input is only remembered. -/
theorem edit_of_refusing (refuses : Refuses desk.transport) (input : String) :
    (desk.edit input).2 = desk.note (desk.composer.config.trim input).text := by
  have noted : Refuses (desk.note (desk.composer.config.trim input).text).transport := refuses
  unfold edit
  dsimp only
  split
  · rfl
  · next taken =>
    have opened : (desk.note (desk.composer.config.trim input).text).composer.phase ≠ .halted := by
      intro halted
      have ended : desk.composer.phase = .halted := halted
      simp [ended, Phase.acceptsEdits] at taken
    split
    · rw [requestAllocation_of_refusing noted opened]
    · unfold sendChange
      split
      · rfl
      · rw [send_of_refusing noted opened]

omit [Transport τ] in
/-- To end a composition leaves its sent body alone. -/
theorem abandon_sentBody (desk : Desk τ) :
    desk.abandon.composer.sentBody = desk.composer.sentBody := by
  unfold abandon
  split <;> rfl

/-- To close a post remembers the input, and ends the composition if it had nothing to send. -/
theorem close_of_refusing (refuses : Refuses desk.transport) (input : String) :
    (desk.close input).2.composer.sentBody = desk.composer.sentBody ∧
      (desk.close input).2.transport = desk.transport := by
  have noted := edit_of_refusing refuses input
  unfold close
  split
  · next outcome =>
    rw [outcome] at noted
    rw [show _ = desk.note _ from noted]
    exact ⟨rfl, rfl⟩
  · next after outcome =>
    rw [outcome] at noted
    obtain rfl : after = desk.note _ := noted
    have still : Refuses (desk.note (desk.composer.config.trim input).text).transport := refuses
    split
    · exact ⟨rfl, rfl⟩
    · exact ⟨abandon_sentBody _, abandon_transport _⟩
    all_goals
      next waits =>
      rw [send_of_refusing still (by rw [waits]; rintro ⟨⟩)]
      exact ⟨rfl, rfl⟩

/-- No decision about an upload changes anything. -/
theorem offer_of_refusing (refuses : Refuses desk.transport) (file : UploadedFile) :
    (desk.offer file).2 = desk := by
  unfold offer
  split
  · rfl
  · split
    · next draft => rw [requestAllocation_of_refusing refuses (by rw [draft]; rintro ⟨⟩)]
    · next allocated => rw [send_of_refusing refuses (by rw [allocated]; rintro ⟨⟩)]
    · rfl
    · rfl

theorem upload_of_refusing (refuses : Refuses desk.transport) (result : Option UploadedFile) :
    (desk.upload result).2 = desk := by
  cases result with
  | none => rfl
  | some file => exact offer_of_refusing refuses file

/-- No action changes the sent body or the way out. -/
theorem perform_of_refusing (refuses : Refuses desk.transport) (action : Action) :
    (desk.perform action).2.composer.sentBody = desk.composer.sentBody ∧
      (desk.perform action).2.transport = desk.transport := by
  cases action with
  | edit input =>
    simp only [perform, edit_of_refusing refuses]
    exact ⟨rfl, rfl⟩
  | close input => exact close_of_refusing refuses input
  | abandon => exact ⟨abandon_sentBody desk, abandon_transport desk⟩
  | halt => exact ⟨rfl, rfl⟩
  | hideImage =>
    simp only [perform, hideImage]
    split
    · next shown =>
      rw [send_of_refusing refuses (by rw [shown.1]; rintro ⟨⟩)]
      exact ⟨rfl, rfl⟩
    · exact ⟨rfl, rfl⟩
  | upload result =>
    simp only [perform, upload_of_refusing refuses]
    exact ⟨trivial, trivial⟩
  | retryUpload result =>
    have still : Refuses (desk.setAttaching false).transport := refuses
    simp only [perform, retryUpload, upload_of_refusing still]
    exact ⟨rfl, rfl⟩
  | offer file =>
    simp only [perform, offer_of_refusing refuses]
    exact ⟨trivial, trivial⟩
  | receiveId now id =>
    simp only [perform, receiveId]
    split <;> exact ⟨rfl, rfl⟩
  | mergeEcho data =>
    simp only [perform, mergeEcho]
    split <;> exact ⟨rfl, rfl⟩

end Desk

end LiveThread
