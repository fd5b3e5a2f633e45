import LiveThread.Proofs.Composition.Requests
import LiveThread.Proofs.Composition.Silence

/-!
# Actions that are tried again

An action that was refused may be performed again with the same argument.  A refusal
leaves no trace but the remembered input; only a close of which the final input was
taken goes on from there.  So however often an action is refused, it ends in the
end as if nothing had been refused, and no message leaves twice or is skipped.

Main results:

- Definition `Verdicts`: a way out with a list of verdicts to come.
- Definition `Relents`: a way out that refuses only finitely often.
- Definition `Account.outcome`: what an action leads to if nothing is refused.
- Theorem `Desk.completes_or_stalls`: an action leads to its outcome, or it stops on its way.
- Theorem `Desk.Stalled.outcome_eq`: an action that stopped still has its outcome ahead.
- Theorem `Desk.retries_are_transparent`: so has every number of attempts.
-/

namespace LiveThread

/-! ## Ways out that refuse for a while -/

/-- A way out that follows a list of verdicts and accepts whatever comes after them. -/
structure Verdicts where
  coming : List Bool := []

instance : Transport Verdicts where
  send way _ := (way.coming.headD true, ⟨way.coming.tail⟩)
  fail way _ := way

section Relents

variable {τ : Type} [Transport τ]

/-- A way out refuses only finitely often: the number of refusals to come is bounded. -/
structure Relents (refusals : τ → Nat) : Prop where
  refused : ∀ way m, (Transport.send way m).1 = false →
    refusals (Transport.send way m).2 < refusals way
  le : ∀ way m, refusals (Transport.send way m).2 ≤ refusals way

/-- A list of verdicts has as many refusals to come as it holds. -/
theorem Verdicts.relents : Relents fun way : Verdicts => way.coming.count false where
  refused := by
    rintro ⟨_ | ⟨_ | _, coming⟩⟩ m refused
    · cases refused
    · simp [Transport.send]
    · cases refused
  le := by
    rintro ⟨_ | ⟨verdict, coming⟩⟩ m
    · exact Nat.le_refl _
    · exact List.count_le_count_cons

/-- The log of a way out changes nothing about that. -/
theorem Relents.logged {refusals : τ → Nat} (h : Relents refusals) :
    Relents fun log : Logged τ => refusals log.way where
  refused log m := h.refused log.way m
  le log m := h.le log.way m

/-- Messages that are handed over bring no new refusals. -/
theorem Relents.handed {refusals : τ → Nat} (h : Relents refusals) {before after : τ}
    (handed : Handed before after) : refusals after ≤ refusals before := by
  induction handed with
  | refl => exact Nat.le_refl _
  | tail _ step ih =>
    obtain ⟨m, rfl⟩ := step
    exact (h.le _ m).trans ih

/-- The last of the messages that were handed to a way out was refused. -/
def Refused (before after : τ) : Prop :=
  ∃ way m, Handed before way ∧ (Transport.send way m).1 = false ∧ after = (Transport.send way m).2

/-- A refusal is one less to come. -/
theorem Relents.lt_of_refused {refusals : τ → Nat} (h : Relents refusals) {before after : τ}
    (refused : Refused before after) : refusals after < refusals before := by
  obtain ⟨way, m, handed, no, rfl⟩ := refused
  exact Nat.lt_of_lt_of_le (h.refused way m no) (h.handed handed)

end Relents

/-! ## An action that fails was refused -/

namespace Desk

variable {τ : Type} [Transport τ] {desk after : Desk τ}

/-- A message is refused by the way out. -/
theorem send_refused (m : ClientMessage) (sent : desk.send m = (false, after)) :
    Refused desk.transport after.transport := by
  by_cases ended : desk.composer.phase = .halted
  · rw [send_of_halted ended] at sent
    cases sent
  · rw [send_of_open ended] at sent
    obtain ⟨no, rfl⟩ := Prod.mk.inj sent
    exact ⟨desk.transport, m, .refl, no, rfl⟩

/-- So is a request for an id that fails. -/
theorem requestAllocation_refused {body : String} {image : Option UploadedFile}
    (failed : desk.requestAllocation body image = (.error .connectionClosed, after)) :
    Refused desk.transport after.transport := by
  unfold requestAllocation at failed
  split at failed
  · next last sent =>
    cases failed
    exact send_refused _ sent
  · split at failed <;> cases failed

/-- So is a change. -/
theorem sendChange_refused {text : String} {excess : Nat}
    (failed : desk.sendChange text excess = (.error .connectionClosed, after)) :
    Refused desk.transport after.transport := by
  unfold sendChange at failed
  split at failed
  · cases failed
  · split at failed
    · next last sent =>
      cases failed
      exact send_refused _ sent
    · cases failed

/-- So is an input. -/
theorem edit_refused {input : String}
    (failed : desk.edit input = (.error .connectionClosed, after)) :
    Refused desk.transport after.transport := by
  unfold edit at failed
  dsimp only at failed
  split at failed
  · cases failed
  · split at failed
    · split at failed
      · cases failed
      · next asked =>
        cases failed
        have refused : Refused (desk.note _).transport after.transport :=
          requestAllocation_refused asked
        exact refused
    · have refused : Refused (desk.note _).transport after.transport := sendChange_refused failed
      exact refused

/-- So is a close, either by its final input or by what is sent after it. -/
theorem close_refused {input : String}
    (failed : desk.close input = (.error .connectionClosed, after)) :
    Refused desk.transport after.transport := by
  unfold close at failed
  split at failed
  · next taken =>
    cases failed
    exact edit_refused taken
  · next outcome last taken =>
    have handed : Handed desk.transport last.transport := by
      have all := edit_handed desk input
      rwa [taken] at all
    have late : ∀ {end_ : Desk τ}, last.send .closePost = (false, end_) →
        Refused desk.transport end_.transport := by
      intro end_ sent
      obtain ⟨way, m, before, no, same⟩ := send_refused _ sent
      exact ⟨way, m, handed.trans before, no, same⟩
    split at failed
    · cases failed
    · cases failed
    all_goals
      split at failed
      · next sent =>
        cases failed
        exact late sent
      · cases failed

theorem hideImage_refused (failed : desk.hideImage = (.error .connectionClosed, after)) :
    Refused desk.transport after.transport := by
  unfold hideImage at failed
  split at failed
  · split at failed
    · next sent =>
      cases failed
      exact send_refused _ sent
    · cases failed
  · cases failed

theorem upload_refused {result : Option UploadedFile}
    (failed : desk.upload result = (some (.error .connectionClosed), after)) :
    Refused desk.transport after.transport := by
  cases result with
  | none => cases failed
  | some file =>
    simp only [upload, offer] at failed
    split at failed
    · cases failed
    · split at failed
      · split at failed
        · next asked =>
          cases failed
          exact requestAllocation_refused asked
        · cases failed
      · split at failed
        · next sent =>
          cases failed
          exact send_refused _ sent
        · cases failed
      · cases failed
      · cases failed

/-- An action that fails was refused by the way out. -/
theorem perform_refused {desk : Desk (Logged τ)} {action : Action}
    (failed : (desk.perform action).1.error?.isSome) :
    Refused desk.transport (desk.perform action).2.transport := by
  obtain ⟨e, failed⟩ := Option.isSome_iff_exists.1 failed
  obtain rfl : e = .connectionClosed := perform_error failed
  have uploads : ∀ (desk : Desk (Logged τ)) (result : Option UploadedFile),
      (Answer.uploaded (desk.upload result).1).error? = some .connectionClosed →
      Refused desk.transport (desk.upload result).2.transport := by
    intro desk result failed
    cases outcome : desk.upload result with
    | mk answer after =>
      rw [outcome] at failed
      rcases answer with _ | _ | _ <;> cases failed
      exact upload_refused outcome
  cases action with
  | edit input =>
    simp only [perform] at failed ⊢
    cases outcome : desk.edit input with
    | mk answer after =>
      rw [outcome] at failed
      rcases answer with _ | _ <;> cases failed
      exact edit_refused outcome
  | close input =>
    simp only [perform] at failed ⊢
    cases outcome : desk.close input with
    | mk answer after =>
      rw [outcome] at failed
      rcases answer with _ | _ <;> cases failed
      exact close_refused outcome
  | hideImage =>
    simp only [perform] at failed ⊢
    cases outcome : desk.hideImage with
    | mk answer after =>
      rw [outcome] at failed
      rcases answer with _ | _ <;> cases failed
      exact hideImage_refused outcome
  | upload result => exact uploads desk result failed
  | retryUpload result => exact uploads (desk.setAttaching false) result failed
  | offer file => exact uploads desk (some file) failed
  | abandon | halt | receiveId | mergeEcho => cases failed

end Desk

/-! ## What an action leads to -/

/-- An action that an author tries again when it was refused, in the phase of the composition.  An
upload that has to wait for an id is not among them. -/
def Action.Repeatable (phase : Phase) : Action → Prop
  | edit _ | close _ | hideImage => True
  | upload (some _) => phase ≠ .allocating
  | _ => False

namespace Account

/-- What is due to be sent for the live input: the kind of the message and the account once it has
left. -/
def due? (a : Account) : Option (MessageKind × Account) :=
  match a.composer.phase with
  | .draft =>
    if a.composer.liveInput = a.composer.sentBody then none
    else some (.insertPost, a.requested none)
  | .allocated =>
    (Edit.between? a.composer.sentBody a.composer.liveInput).map fun edit =>
      (edit.message.kind, a.changed edit)
  | .allocating | .halted => none

/-- The account once what is due has left. -/
def caughtUp (a : Account) : Account :=
  (a.due?.map Prod.snd).getD a

/-- The account once the post was closed; the server is told unless it never heard of it. -/
def ended (a : Account) : Account :=
  match a.composer.phase with
  | .halted => a
  | .draft => a.abandoned
  | .allocating | .allocated => (a.left .closePost).abandoned

/-- The answer of an action that may be tried again, and the account after it, if nothing is
refused. -/
def outcome (a : Account) : Action → Answer × Account
  | .edit input =>
    (.edited (.ok ⟨(a.noted input).due?.map Prod.fst, (a.composer.config.trim input).excess⟩),
      (a.noted input).caughtUp)
  | .close input => (.closed (.ok ()), (a.noted input).caughtUp.ended)
  | .hideImage =>
    if a.composer.phase = .allocated ∧ a.composer.holdsImage = true then
      (.hidden (.ok true), a.left .spoiler)
    else (.hidden (.ok false), a)
  | .upload (some file) =>
    if a.composer.holdsImage then (.uploaded (some (.ok .ignored)), a)
    else
      match a.composer.phase with
      | .draft =>
        (.uploaded (some (.ok .sentWithAllocation)), (a.requested (some file)).attaching true)
      | .allocated =>
        (.uploaded (some (.ok .attached)), (a.left (.insertImage file)).attaching true)
      | .halted => (.uploaded (some (.ok .abandoned)), a)
      | .allocating => (.uploaded none, a)
  | _ => (.done, a)

/-- The account after an action was begun: its input is remembered, if it takes one. -/
def begun (a : Account) (action : Action) : Account :=
  match action.input? with
  | some input => a.noted input
  | none => a

variable {a : Account} {input : String} {action : Action}

/-- Nothing is left to be sent once what is due has left. -/
theorem due?_caughtUp (a : Account) : a.caughtUp.due? = none := by
  unfold caughtUp
  cases due : a.due? with
  | none => exact due
  | some next =>
    simp only [Option.map_some, Option.getD_some]
    unfold due? at due
    cases phase : a.composer.phase with
    | draft =>
      simp only [phase] at due
      split at due <;> cases due
      rfl
    | allocated =>
      simp only [phase] at due
      obtain ⟨edit, -, rfl⟩ := Option.map_eq_some_iff.1 due
      have still : (a.changed edit).composer.phase = .allocated := phase
      have even : Edit.between? (a.changed edit).composer.sentBody
          (a.changed edit).composer.liveInput = none := Edit.between?_eq_none_iff.2 rfl
      simp only [due?, still, even, Option.map_none]
    | allocating | halted =>
      simp only [phase] at due
      cases due

@[simp]
theorem caughtUp_caughtUp (a : Account) : a.caughtUp.caughtUp = a.caughtUp := by
  show (a.caughtUp.due?.map Prod.snd).getD a.caughtUp = a.caughtUp
  rw [due?_caughtUp]
  rfl

/-- Sending what is due changes neither the limits nor the live input. -/
theorem caughtUp_input (a : Account) :
    a.caughtUp.composer.config = a.composer.config ∧
      a.caughtUp.composer.liveInput = a.composer.liveInput := by
  unfold caughtUp
  cases due : a.due? with
  | none => exact ⟨rfl, rfl⟩
  | some next =>
    unfold due? at due
    split at due
    · split at due <;> cases due
      exact ⟨rfl, rfl⟩
    · obtain ⟨edit, -, rfl⟩ := Option.map_eq_some_iff.1 due
      exact ⟨rfl, rfl⟩
    · cases due
    · cases due

/-- An input that is remembered already changes nothing. -/
theorem noted_of_eq (same : a.composer.liveInput = (a.composer.config.trim input).text) :
    a.noted input = a := by
  rw [noted, ← same]

@[simp]
theorem noted_noted (a : Account) (input : String) : (a.noted input).noted input = a.noted input :=
  noted_of_eq rfl

@[simp]
theorem noted_caughtUp (a : Account) (input : String) :
    (a.noted input).caughtUp.noted input = (a.noted input).caughtUp := by
  obtain ⟨config, live⟩ := caughtUp_input (a.noted input)
  apply noted_of_eq
  rw [config, live]
  rfl

/-- An action that was begun still has its outcome ahead. -/
theorem outcome_begun (repeatable : action.Repeatable a.composer.phase) :
    (a.begun action).outcome action = a.outcome action ∧
      action.Repeatable (a.begun action).composer.phase := by
  cases action with
  | edit input =>
    have same : (a.noted input).composer.config = a.composer.config := rfl
    simp [outcome, begun, Action.input?, Action.Repeatable, same]
  | close input => simp [outcome, begun, Action.input?, Action.Repeatable]
  | hideImage => exact ⟨rfl, repeatable⟩
  | upload result => exact ⟨rfl, repeatable⟩
  | _ => cases repeatable

/-- A close that has sent what was due still has its outcome ahead. -/
theorem outcome_caughtUp (a : Account) (input : String) :
    (a.noted input).caughtUp.outcome (.close input) = a.outcome (.close input) := by
  simp [outcome]

/-- An outcome is no failure. -/
theorem error?_outcome (a : Account) (action : Action) : (a.outcome action).1.error? = none := by
  unfold outcome
  split
  · rfl
  · rfl
  · split <;> rfl
  · split
    · rfl
    · split <;> rfl
  · rfl

end Account

/-! ## An action leads to its outcome or stalls -/

namespace Desk

variable {τ : Type} [Transport τ]

/-- Taking an input sends what is due for it, or the message was refused and the input is only
remembered. -/
theorem edit_due (desk : Desk (Logged τ)) (input : String) :
    (∃ after, desk.edit input = (.ok ⟨(desk.account.noted input).due?.map Prod.fst,
        (desk.composer.config.trim input).excess⟩, after) ∧
      after.account = (desk.account.noted input).caughtUp) ∨
    ∃ after, desk.edit input = (.error .connectionClosed, after) ∧
      after.account = desk.account.noted input := by
  have noted_phase : (desk.account.noted input).composer.phase = desk.composer.phase := rfl
  rcases edit_cases desk input with ⟨after, taken, same, still⟩ | ⟨after, taken, asked, draft, new⟩
    | ⟨edit, after, taken, sent, allocated, between⟩ | ⟨after, refused, same, -⟩
  · have nothing : (desk.account.noted input).due? = none := by
      unfold Account.due?
      rw [noted_phase]
      rcases still with held | same
      · cases phase : desk.composer.phase <;> rw [phase] at held <;> first | rfl | cases held
      · have even : (desk.account.noted input).composer.liveInput
            = (desk.account.noted input).composer.sentBody := same
        split
        · exact if_pos even
        · rw [even, Edit.between?_eq_none_iff.2 rfl]
          rfl
        · rfl
        · rfl
    exact .inl ⟨after, by rw [taken, nothing]; rfl, by rw [same, Account.caughtUp, nothing]; rfl⟩
  · have request : (desk.account.noted input).due?
        = some (.insertPost, (desk.account.noted input).requested none) := by
      unfold Account.due?
      rw [noted_phase, draft]
      exact if_neg new
    exact .inl ⟨after, by rw [taken, request]; rfl, by rw [asked, Account.caughtUp, request]; rfl⟩
  · have change : (desk.account.noted input).due?
        = some (edit.message.kind, (desk.account.noted input).changed edit) := by
      have between : Edit.between? (desk.account.noted input).composer.sentBody
          (desk.account.noted input).composer.liveInput = some edit := between
      unfold Account.due?
      rw [noted_phase, allocated]
      simp only [between, Option.map_some]
    exact .inl ⟨after, by rw [taken, change]; rfl, by rw [sent, Account.caughtUp, change]; rfl⟩
  · exact .inr ⟨after, refused, same⟩

/-- An action leads to its outcome. -/
def Completes (desk : Desk (Logged τ)) (action : Action) : Prop :=
  (desk.perform action).1 = (desk.account.outcome action).1 ∧
    (desk.perform action).2.account = (desk.account.outcome action).2

/-- Where an action may stop: it was only begun, or it is a close that has taken its input as an
edit would have. -/
inductive Stalled (desk : Desk (Logged τ)) : Action → Account → Prop
  | begun (action : Action) : Stalled desk action (desk.account.begun action)
  | taken {input : String} {outcome : EditOutcome} {after : Desk (Logged τ)}
      (taken : desk.edit input = (.ok outcome, after)) :
      Stalled desk (.close input) after.account

/-- An action fails and has stopped on its way. -/
def Stalls (desk : Desk (Logged τ)) (action : Action) : Prop :=
  (desk.perform action).1.error?.isSome ∧ desk.Stalled action (desk.perform action).2.account

/-- An action that stopped on its way still has its outcome ahead. -/
theorem Stalled.outcome_eq {desk : Desk (Logged τ)} {action : Action} {a : Account}
    (stalled : desk.Stalled action a) (repeatable : action.Repeatable desk.composer.phase) :
    a.outcome action = desk.account.outcome action ∧ action.Repeatable a.composer.phase := by
  cases stalled with
  | begun => exact Account.outcome_begun repeatable
  | @taken input outcome after taken =>
    refine ⟨?_, trivial⟩
    rcases edit_due desk input with ⟨last, again, same⟩ | ⟨last, refused, -⟩
    · obtain ⟨-, rfl⟩ := Prod.mk.inj (taken.symm.trans again)
      rw [same]
      exact Account.outcome_caughtUp _ input
    · rw [taken] at refused
      cases refused

/-- A close ends the post, or it stops before or after its final input was taken. -/
theorem close_completes_or_stalls (desk : Desk (Logged τ)) (input : String) :
    desk.Completes (.close input) ∨ desk.Stalls (.close input) := by
  rcases edit_due desk input with ⟨after, taken, same⟩ | ⟨after, refused, same⟩
  · have ends : (desk.account.outcome (.close input)).2 = after.account.ended := by
      rw [same]
      rfl
    rcases close_cases desk input with ⟨e, last, failed, -⟩ | ⟨outcome, last, again, rest⟩
    · rw [taken] at failed
      cases failed
    obtain ⟨-, rfl⟩ := Prod.mk.inj (taken.symm.trans again)
    rcases rest with ⟨halted, closed⟩ | ⟨draft, closed⟩ |
      ⟨asked, ⟨last, closed, told⟩ | ⟨last, failed, unchanged⟩⟩
    · refine .inl ⟨by simp only [perform, closed]; rfl, ?_⟩
      simp only [perform, closed]
      rw [ends]
      simp only [Account.ended, account, halted]
    · refine .inl ⟨by simp only [perform, closed]; rfl, ?_⟩
      simp only [perform, closed]
      rw [ends, abandon_account, if_neg (by rw [draft]; rintro ⟨⟩)]
      simp only [Account.ended, account, draft]
    · refine .inl ⟨by simp only [perform, closed]; rfl, ?_⟩
      simp only [perform, closed]
      rw [ends, told]
      rcases asked with phase | phase <;> simp only [Account.ended, account, phase]
    · refine .inr ⟨by simp only [perform, failed]; rfl, ?_⟩
      simp only [perform, failed, unchanged]
      exact .taken taken
  · rcases close_cases desk input with ⟨e, last, failed, closed⟩ | ⟨outcome, last, again, -⟩
    · obtain ⟨rfl, rfl⟩ : e = .connectionClosed ∧ last = after := by
        rw [refused] at failed
        cases failed
        exact ⟨rfl, rfl⟩
      refine .inr ⟨by simp only [perform, closed]; rfl, ?_⟩
      simp only [perform, closed, same]
      exact .begun _
    · rw [refused] at again
      cases again

/-- The image is hidden if there is one, or nothing has changed. -/
theorem hideImage_completes_or_stalls (desk : Desk (Logged τ)) :
    desk.Completes .hideImage ∨ desk.Stalls .hideImage := by
  by_cases shown : desk.composer.phase = .allocated ∧ desk.composer.holdsImage = true
  · have outcome : desk.account.outcome .hideImage = (.hidden (.ok true), _) := if_pos shown
    rcases hideImage_cases desk with ⟨-, ⟨after, hidden, left⟩ | ⟨after, refused, same⟩⟩ | nothing
    · exact .inl ⟨by simp only [perform, hidden, outcome],
        by simp only [perform, hidden, left, outcome]⟩
    · refine .inr ⟨by simp only [perform, refused]; rfl, ?_⟩
      simp only [perform, refused, same]
      exact .begun _
    · unfold hideImage at nothing
      rw [if_pos shown] at nothing
      split at nothing <;> cases nothing
  · have outcome : desk.account.outcome .hideImage = (.hidden (.ok false), _) := if_neg shown
    have nothing : desk.hideImage = (.ok false, desk) := if_neg shown
    exact .inl ⟨by simp only [perform, nothing, outcome], by simp only [perform, nothing, outcome]⟩

/-- Unless it has to wait, a file is decided about at once, or nothing has changed. -/
theorem upload_completes_or_stalls (desk : Desk (Logged τ)) (file : UploadedFile)
    (settled : desk.composer.phase ≠ .allocating) :
    desk.Completes (.upload (some file)) ∨ desk.Stalls (.upload (some file)) := by
  have completes : ∀ {outcome after}, desk.offer file = (some (.ok outcome), after) →
      desk.account.outcome (.upload (some file))
        = (.uploaded (some (.ok outcome)), after.account) →
      desk.Completes (.upload (some file)) := by
    intro outcome after offered same
    exact ⟨by simp only [perform, upload, offered, same],
      by simp only [perform, upload, offered, same]⟩
  rcases offer_cases desk file with ⟨held, ignored⟩ | ⟨free, ⟨draft, after, asked, left⟩ |
    ⟨allocated, after, attached, left⟩ | ⟨-, after, refused, same⟩ | ⟨halted, ended⟩ |
    ⟨allocating, -⟩⟩
  · exact .inl (completes ignored (if_pos held))
  · exact .inl (completes asked (by rw [left]; simp [Account.outcome, account, free, draft]))
  · exact .inl (completes attached (by rw [left]; simp [Account.outcome, account, free, allocated]))
  · refine .inr ⟨by simp only [perform, upload, refused]; rfl, ?_⟩
    simp only [perform, upload, refused, same]
    exact .begun _
  · exact .inl (completes ended (by simp [Account.outcome, account, free, halted]))
  · exact absurd allocating settled

/-- An action that may be tried again leads to its outcome, or it fails and stops on its way. -/
theorem completes_or_stalls (desk : Desk (Logged τ)) {action : Action}
    (repeatable : action.Repeatable desk.composer.phase) :
    desk.Completes action ∨ desk.Stalls action := by
  cases action with
  | edit input =>
    rcases edit_due desk input with ⟨after, taken, same⟩ | ⟨after, refused, same⟩
    · exact .inl ⟨by simp only [perform, taken]; rfl, by simp only [perform, taken]; exact same⟩
    · refine .inr ⟨by simp only [perform, refused]; rfl, ?_⟩
      simp only [perform, refused, same]
      exact .begun _
  | close input => exact close_completes_or_stalls desk input
  | hideImage => exact hideImage_completes_or_stalls desk
  | upload result =>
    cases result with
    | none => cases repeatable
    | some file => exact upload_completes_or_stalls desk file repeatable
  | _ => cases repeatable

end Desk

/-! ## Actions tried again -/

namespace Desk

variable {τ : Type} [Transport τ]

/-- The same composition with a way out that refuses nothing. -/
def unhindered (desk : Desk (Logged τ)) : Desk (Logged Verdicts) :=
  { composer := desk.composer
    registry := desk.registry
    transport := { way := {}, sent := desk.transport.sent } }

/-- An action is performed a number of times and fails every time. -/
def FailsTimes (desk : Desk (Logged τ)) (action : Action) (n : Nat) : Prop :=
  ∀ answer ∈ desk.answers (List.replicate n action), answer.error?.isSome

instance (desk : Desk (Logged τ)) (action : Action) (n : Nat) :
    Decidable (desk.FailsTimes action n) :=
  inferInstanceAs (Decidable (∀ answer ∈ desk.answers (List.replicate n action),
    answer.error?.isSome))

/-- An action is performed once more after a number of times. -/
def attempt (desk : Desk τ) (action : Action) (n : Nat) : Answer × Desk τ :=
  (desk.run (List.replicate n action)).perform action

/-- One more failure is one before the others. -/
theorem failsTimes_succ {desk : Desk (Logged τ)} {action : Action} {n : Nat} :
    desk.FailsTimes action (n + 1) ↔
      (desk.perform action).1.error?.isSome ∧ (desk.perform action).2.FailsTimes action n :=
  List.forall_mem_cons

omit [Transport τ] in
/-- If nothing is refused, an action leads to its outcome. -/
theorem unhindered_completes (desk : Desk (Logged τ)) {action : Action}
    (repeatable : action.Repeatable desk.composer.phase) : desk.unhindered.Completes action := by
  rcases completes_or_stalls desk.unhindered repeatable with completes | ⟨failed, -⟩
  · exact completes
  · have fewer := Verdicts.relents.logged.lt_of_refused (perform_refused failed)
    exact absurd fewer (Nat.not_lt_zero _)

/-- However often an action has failed, its outcome is still ahead. -/
theorem outcome_run_replicate {desk : Desk (Logged τ)} {action : Action} {n : Nat}
    (repeatable : action.Repeatable desk.composer.phase) (failed : desk.FailsTimes action n) :
    (desk.run (List.replicate n action)).account.outcome action = desk.account.outcome action ∧
      action.Repeatable (desk.run (List.replicate n action)).composer.phase := by
  induction n generalizing desk with
  | zero => exact ⟨rfl, repeatable⟩
  | succ n ih =>
    obtain ⟨first, rest⟩ := failsTimes_succ.1 failed
    rcases completes_or_stalls desk repeatable with ⟨same, -⟩ | ⟨-, stalled⟩
    · rw [same, Account.error?_outcome] at first
      cases first
    · obtain ⟨ahead, again⟩ := stalled.outcome_eq repeatable
      obtain ⟨same, still⟩ := ih again rest
      exact ⟨same.trans ahead, still⟩

/-- An action fails at most as often as the way out refuses something. -/
theorem exists_success {refusals : τ → Nat} (relents : Relents refusals) (desk : Desk (Logged τ))
    (action : Action) :
    ∃ n ≤ refusals desk.transport.way, desk.FailsTimes action n ∧
      (desk.attempt action n).1.error? = none := by
  -- Every failure uses up a refusal.
  induction left : refusals desk.transport.way using Nat.strong_induction_on generalizing desk with
  | _ bound ih =>
    cases failed : (desk.perform action).1.error? with
    | none => exact ⟨0, Nat.zero_le _, by simp [FailsTimes, answers], failed⟩
    | some e =>
      have failed : (desk.perform action).1.error?.isSome := by
        rw [failed]
        rfl
      have fewer := relents.logged.lt_of_refused (perform_refused failed)
      rw [left] at fewer
      obtain ⟨n, few, rest, success⟩ := ih _ fewer _ rfl
      exact ⟨n + 1, Nat.lt_of_le_of_lt few fewer, failsTimes_succ.2 ⟨failed, rest⟩, success⟩

/-- Failures are transparent to a retry.  An action that fails has changed nothing but the live
input, or it is a close that has taken its final input as an edit would have; and performed until
it succeeds, it gives the answer and leaves the composition, the registry and the sent messages of
one attempt with nothing refused.  That happens as soon as the way out relents. -/
theorem retries_are_transparent (desk : Desk (Logged τ)) {action : Action}
    (repeatable : action.Repeatable desk.composer.phase) :
    let calm := desk.unhindered.perform action
    calm.1.error? = none ∧
    ((desk.perform action).1.error?.isSome →
      desk.Stalled action (desk.perform action).2.account) ∧
    (∀ n, desk.FailsTimes action n → (desk.attempt action n).1.error? = none →
      (desk.attempt action n).1 = calm.1 ∧ (desk.attempt action n).2.account = calm.2.account) ∧
    ∀ refusals : τ → Nat, Relents refusals →
      ∃ n ≤ refusals desk.transport.way, desk.FailsTimes action n ∧
        (desk.attempt action n).1.error? = none := by
  intro calm
  obtain ⟨answer, after⟩ := unhindered_completes desk repeatable
  refine ⟨?_, fun failed => ?_, fun n failed success => ?_,
    fun refusals relents => exists_success relents desk action⟩
  · rw [answer]
    exact Account.error?_outcome _ action
  · rcases completes_or_stalls desk repeatable with ⟨same, -⟩ | ⟨-, stalled⟩
    · rw [same, Account.error?_outcome] at failed
      cases failed
    · exact stalled
  · obtain ⟨ahead, still⟩ := outcome_run_replicate repeatable failed
    rcases completes_or_stalls _ still with ⟨same, same_account⟩ | ⟨refused, -⟩
    · rw [ahead] at same same_account
      exact ⟨same.trans answer.symm, same_account.trans after.symm⟩
    · have no : (desk.attempt action n).1.error?.isSome := refused
      rw [success] at no
      cases no

/-- A close that is refused, first the request for an id and then that the post is closed. -/
theorem retries_are_transparent_to_close :
    let desk : Desk (Logged Verdicts) :=
      Desk.begin {} "a" 1 0 Registry.empty ⟨[false, true, false]⟩
    Action.Repeatable desk.composer.phase (.close "hi") ∧ desk.FailsTimes (.close "hi") 2 ∧
      (desk.attempt (.close "hi") 2).1.error? = none ∧
      (desk.attempt (.close "hi") 2).2.account
        = (desk.unhindered.perform (.close "hi")).2.account ∧
      (desk.attempt (.close "hi") 2).2.transport.sent
        = [.insertPost { body := some "hi", image := none, name := none }, .closePost] := by
  intro desk
  have repeatable : Action.Repeatable desk.composer.phase (.close "hi") := trivial
  have failed : desk.FailsTimes (.close "hi") 2 := by decide
  have success : (desk.attempt (.close "hi") 2).1.error? = none := by decide
  have sent : (desk.attempt (.close "hi") 2).2.transport.sent
      = [.insertPost { body := some "hi", image := none, name := none }, .closePost] := by decide
  obtain ⟨-, -, same, -⟩ := retries_are_transparent desk repeatable
  exact ⟨repeatable, failed, success, (same 2 failed success).2, sent⟩

end Desk

end LiveThread
