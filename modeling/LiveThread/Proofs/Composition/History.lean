import LiveThread.Proofs.Composition.Settled

/-!
# Histories of a composition

What is true after a history but was not before it became true in one of its
actions.  An action sends at most one message and perhaps that the post is
closed, and which ones it may send depends on how far the composition has come.
Messages are only ever added to those that left, so each of them left in one
action.

Main results:

- Definition `Desk.answers`: the answers in a history.
- Definition `Composer.Sends`: the messages that may leave in one action.
- Theorem `Desk.exists_turn`: what became true did so in an action.
- Theorem `Desk.perform_sends`: no action sends anything else.
- Theorem `Desk.exists_departure`: a message that left did so in an action.
-/

namespace LiveThread

/-! ## Answers and turns -/

/-- What is true after some steps but was not before them became true in one of them. -/
theorem foldl_turn {σ α : Type} {P : σ → Prop} {step : σ → α → σ} {start : σ} {steps : List α}
    (before : ¬ P start) (after : P (steps.foldl step start)) :
    ∃ past turn rest, steps = past ++ turn :: rest ∧
      ¬ P (past.foldl step start) ∧ P (step (past.foldl step start) turn) := by
  induction steps using List.reverseRecOn with
  | nil => exact absurd after before
  | append_singleton past last ih =>
    by_cases already : P (past.foldl step start)
    · obtain ⟨past, turn, rest, rfl, no, yes⟩ := ih already
      exact ⟨past, turn, rest ++ [last], by simp, no, yes⟩
    · rw [List.foldl_append] at after
      exact ⟨past, last, [], rfl, already, after⟩

/-- Whether an answer says that an id was taken. -/
def Answer.takesId : Answer → Bool
  | allocated (.ok ()) => true
  | _ => false

namespace Desk

variable {τ : Type} [Transport τ]

/-- The answers in a history, in order. -/
def answers (desk : Desk τ) : List Action → List Answer
  | [] => []
  | action :: actions => (desk.perform action).1 :: (desk.perform action).2.answers actions

/-- The answers in a history are those in its first part and those in the rest. -/
theorem answers_append (desk : Desk τ) (before after : List Action) :
    desk.answers (before ++ after) = desk.answers before ++ (desk.run before).answers after := by
  induction before generalizing desk with
  | nil => rfl
  | cons action before ih => simp only [List.cons_append, answers, ih, run_cons]

/-- One more action gives one more answer. -/
theorem answers_concat (desk : Desk τ) (past : List Action) (action : Action) :
    desk.answers (past ++ [action])
      = desk.answers past ++ [((desk.run past).perform action).1] :=
  answers_append desk past [action]

/-- One more action is performed after the others. -/
theorem run_concat (desk : Desk τ) (past : List Action) (action : Action) :
    desk.run (past ++ [action]) = ((desk.run past).perform action).2 :=
  run_append desk past [action]

/-- The answer to an action of a history is among the answers. -/
theorem perform_mem_answers (desk : Desk τ) (past : List Action) (action : Action)
    (rest : List Action) :
    ((desk.run past).perform action).1 ∈ desk.answers (past ++ action :: rest) := by
  rw [answers_append]
  exact List.mem_append_right _ List.mem_cons_self

/-- What is true after a history but was not before it became true in one of its actions. -/
theorem exists_turn {P : Desk τ → Prop} {desk : Desk τ} {actions : List Action}
    (before : ¬ P desk) (after : P (desk.run actions)) :
    ∃ past action rest, actions = past ++ action :: rest ∧
      ¬ P (desk.run past) ∧ P ((desk.run past).perform action).2 :=
  foldl_turn before after

end Desk

/-! ## What leaves in an action -/

/-- Whether a message concerns a post that has its id, and leaves it open. -/
def ClientMessage.streams : ClientMessage → Bool
  | append _ | backspace | splice _ | insertImage _ | spoiler => true
  | synchronise _ | insertPost _ | closePost | noop => false

/-- Every edit is streamed. -/
@[simp]
theorem Edit.streams_message (edit : Edit) : edit.message.streams = true := by
  cases edit <;> rfl

/-- No edit hides the image. -/
@[simp]
theorem Edit.message_ne_spoiler (edit : Edit) : edit.message ≠ .spoiler := by
  cases edit <;> simp [Edit.message]

/-- The messages that may leave in one action, given the compositions before and after it. -/
inductive Composer.Sends (before after : Composer) : List ClientMessage → Prop
  | nothing : Sends before after []
  | request (request : AllocationRequest) (draft : before.phase = .draft)
      (asked : after.phase = .allocating) :
      Sends before after [.insertPost request]
  | requestAndClose (request : AllocationRequest) (draft : before.phase = .draft)
      (ended : after.phase = .halted) :
      Sends before after [.insertPost request, .closePost]
  | stream {m : ClientMessage} (streams : m.streams = true)
      (shown : m = .spoiler → before.holdsImage = true)
      (allocated : before.phase = .allocated) (still : after.phase = .allocated) :
      Sends before after [m]
  | streamAndClose {m : ClientMessage} (streams : m.streams = true) (edits : m ≠ .spoiler)
      (allocated : before.phase = .allocated) (ended : after.phase = .halted) :
      Sends before after [m, .closePost]
  | close (asked : before.phase = .allocating ∨ before.phase = .allocated)
      (ended : after.phase = .halted) :
      Sends before after [.closePost]

/-- A streamed message is the first one of its action, which begins when the post has its id and
leaves it so unless it goes on to close the post. -/
theorem Composer.Sends.streamed {before after : Composer} {messages : List ClientMessage}
    (sends : before.Sends after messages) {i : Nat} {m : ClientMessage}
    (found : messages[i]? = some m) (streams : m.streams = true) :
    i = 0 ∧ before.phase = .allocated ∧ (m = .spoiler → before.holdsImage = true) ∧
      (messages = [m] ∧ after.phase = .allocated ∨ messages = [m, .closePost]) := by
  cases sends with
  | nothing => simp at found
  | request request draft asked =>
    obtain rfl := List.mem_singleton.1 (List.mem_of_getElem? found)
    cases streams
  | requestAndClose request draft ended =>
    rcases List.mem_pair.1 (List.mem_of_getElem? found) with rfl | rfl <;> cases streams
  | stream _ shown allocated still =>
    rcases i with _ | i
    · cases found
      exact ⟨rfl, allocated, shown, .inl ⟨rfl, still⟩⟩
    · simp at found
  | streamAndClose _ edits allocated ended =>
    rcases i with _ | i
    · cases found
      exact ⟨rfl, allocated, fun hides => absurd hides edits, .inr rfl⟩
    · have second : [ClientMessage.closePost][i]? = some m := found
      obtain rfl := List.mem_singleton.1 (List.mem_of_getElem? second)
      cases streams
  | close asked ended =>
    obtain rfl := List.mem_singleton.1 (List.mem_of_getElem? found)
    cases streams

/-- Between two accounts messages have left that may leave in one action. -/
def Account.Sends (a b : Account) : Prop :=
  ∃ left, b.sent = a.sent ++ left ∧ a.composer.Sends b.composer left

/-- Nothing has left if the log is as it was. -/
theorem Account.Sends.of_eq {a b : Account} (same : b.sent = a.sent) : a.Sends b :=
  ⟨[], by rw [same, List.append_nil], .nothing⟩

namespace Desk

variable {τ : Type} [Transport τ]

/-- Taking an input sends a request or an edit. -/
theorem edit_sends (desk : Desk (Logged τ)) (input : String) :
    desk.account.Sends (desk.edit input).2.account := by
  rcases edit_cases desk input with ⟨after, outcome, same, -⟩ | ⟨after, outcome, asked, draft, -⟩
    | ⟨edit, after, outcome, sent, allocated, -⟩ | ⟨after, outcome, same, -⟩
  · rw [outcome, same]
    exact .of_eq rfl
  · rw [outcome, asked]
    exact ⟨_, rfl, .request _ draft rfl⟩
  · rw [outcome, sent]
    exact ⟨_, rfl, .stream edit.streams_message (by simp) allocated allocated⟩
  · rw [outcome, same]
    exact .of_eq rfl

omit [Transport τ] in
/-- Ending a composition sends nothing. -/
theorem sent_abandon (desk : Desk (Logged τ)) : desk.abandon.account.sent = desk.account.sent := by
  rw [abandon_account]
  split <;> rfl

/-- If after an input was taken the composition still has an id to come or to use, closing it sends
that it is closed after what the input sent. -/
theorem edit_then_close_sends {desk : Desk (Logged τ)} {input : String} {outcome : EditOutcome}
    {after : Desk (Logged τ)} (taken : desk.edit input = (.ok outcome, after))
    (asked : after.composer.phase = .allocating ∨ after.composer.phase = .allocated) :
    desk.account.Sends (after.account.left .closePost).abandoned := by
  rcases edit_cases desk input with ⟨_, same, noted, -⟩ | ⟨_, same, requested, draft, -⟩
    | ⟨edit, _, same, changed, allocated, -⟩ | ⟨_, same, -⟩
  all_goals rw [taken] at same; cases same
  · have phase : after.composer.phase = desk.composer.phase := congrArg (·.composer.phase) noted
    rw [phase] at asked
    exact ⟨_, by rw [noted]; rfl, .close asked rfl⟩
  · exact ⟨_, by rw [requested]; exact List.append_assoc .., .requestAndClose _ draft rfl⟩
  · exact ⟨_, by rw [changed]; exact List.append_assoc ..,
      .streamAndClose edit.streams_message (by simp) allocated rfl⟩

/-- Closing sends what its final input sends, and perhaps that the post is closed. -/
theorem close_sends (desk : Desk (Logged τ)) (input : String) :
    desk.account.Sends (desk.close input).2.account := by
  have taking := edit_sends desk input
  rcases close_cases desk input with ⟨e, after, taken, closed⟩ | ⟨outcome, after, taken, rest⟩
  · rw [closed]
    rwa [taken] at taking
  · rw [taken] at taking
    rcases rest with ⟨-, closed⟩ | ⟨draft, closed⟩ |
      ⟨asked, ⟨last, closed, ended⟩ | ⟨last, closed, same⟩⟩
    · rwa [closed]
    · -- The input left a draft behind, so it sent nothing.
      obtain ⟨left, sent, sends⟩ := taking
      rw [closed]
      refine .of_eq ((sent_abandon after).trans (sent.trans ?_))
      cases sends with
      | nothing => exact List.append_nil _
      | request _ _ asked => simp [account, draft] at asked
      | requestAndClose _ _ ended => simp [account, draft] at ended
      | stream _ _ _ still => simp [account, draft] at still
      | streamAndClose _ _ _ ended => simp [account, draft] at ended
      | close _ ended => simp [account, draft] at ended
    · rw [closed, ended]
      exact edit_then_close_sends taken asked
    · rw [closed, same]
      exact taking

/-- A decision about an upload sends a request or the file.  What was noted about an image before
does not matter. -/
theorem offer_sends (desk : Desk (Logged τ)) (file : UploadedFile) {before : Account}
    (log : before.sent = desk.account.sent) (same : before.composer.phase = desk.composer.phase) :
    before.Sends (desk.offer file).2.account := by
  rcases offer_cases desk file with ⟨-, ignored⟩ | ⟨-, ⟨draft, after, asked, left⟩ |
    ⟨allocated, after, attached, left⟩ | ⟨-, after, refused, unchanged⟩ | ⟨-, ended⟩ |
    ⟨-, waiting⟩⟩
  · rw [ignored]
    exact .of_eq log.symm
  · rw [asked, left]
    exact ⟨_, by rw [log]; rfl, .request _ (same.trans draft) rfl⟩
  · rw [attached, left]
    exact ⟨_, by rw [log]; rfl, .stream rfl (by simp) (same.trans allocated) allocated⟩
  · rw [refused, unchanged]
    exact .of_eq log.symm
  · rw [ended]
    exact .of_eq log.symm
  · rw [waiting]
    exact .of_eq log.symm

theorem upload_sends (desk : Desk (Logged τ)) (result : Option UploadedFile) {before : Account}
    (log : before.sent = desk.account.sent) (same : before.composer.phase = desk.composer.phase) :
    before.Sends (desk.upload result).2.account := by
  cases result with
  | none => exact .of_eq log.symm
  | some file => exact offer_sends desk file log same

/-- No action sends anything else. -/
theorem perform_sends (desk : Desk (Logged τ)) (action : Action) :
    desk.account.Sends (desk.perform action).2.account := by
  cases action with
  | edit input => exact edit_sends desk input
  | close input => exact close_sends desk input
  | abandon => exact .of_eq (sent_abandon desk)
  | halt => exact .of_eq rfl
  | hideImage =>
    simp only [perform]
    rcases hideImage_cases desk with ⟨h, ⟨after, hidden, left⟩ | ⟨after, refused, same⟩⟩ | nothing
    · rw [hidden, left]
      exact ⟨_, rfl, .stream rfl (fun _ => h.2) h.1 h.1⟩
    · rw [refused, same]
      exact .of_eq rfl
    · rw [nothing]
      exact .of_eq rfl
  | upload result => exact upload_sends desk result rfl rfl
  | retryUpload result => exact upload_sends (desk.setAttaching false) result rfl rfl
  | offer file => exact offer_sends desk file rfl rfl
  | receiveId now id =>
    simp only [perform]
    rcases receiveId_cases desk now id with ⟨ticket, after, -, taken, given⟩ | ⟨-, rejected⟩
    · rw [taken, given]
      exact .of_eq rfl
    · rw [rejected]
      exact .of_eq rfl
  | mergeEcho data =>
    simp only [perform]
    rcases mergeEcho_cases desk data with ⟨-, -, after, merged, same⟩ | ignored
    · rw [merged, same]
      exact .of_eq rfl
    · rw [ignored]
      exact .of_eq rfl

/-- What has left stays in the log. -/
theorem isPrefix_sent_run (desk : Desk (Logged τ)) (actions : List Action) :
    desk.transport.sent <+: (desk.run actions).transport.sent := by
  induction actions generalizing desk with
  | nil => exact List.prefix_refl _
  | cons action actions ih =>
    obtain ⟨left, sent, -⟩ := perform_sends desk action
    have grown : desk.transport.sent <+: (desk.perform action).2.transport.sent :=
      ⟨left, sent.symm⟩
    exact grown.trans (ih _)

/-- A message that left in a history did so in one of its actions, as what that action may send. -/
theorem exists_departure {desk : Desk (Logged τ)} {actions : List Action} {i : Nat}
    {m : ClientMessage} (unsent : desk.transport.sent.length ≤ i)
    (left : (desk.run actions).transport.sent[i]? = some m) :
    ∃ past action rest messages, actions = past ++ action :: rest ∧
      ((desk.run past).perform action).2.transport.sent
        = (desk.run past).transport.sent ++ messages ∧
      (desk.run past).composer.Sends ((desk.run past).perform action).2.composer messages ∧
      (desk.run past).transport.sent.length ≤ i ∧
      messages[i - (desk.run past).transport.sent.length]? = some m := by
  have before : ¬ desk.transport.sent[i]? = some m := by
    rw [List.getElem?_eq_none unsent]
    rintro ⟨⟩
  obtain ⟨past, action, rest, rfl, no, yes⟩ :=
    exists_turn (P := fun d : Desk (Logged τ) => d.transport.sent[i]? = some m) before left
  obtain ⟨messages, sent, sends⟩ := perform_sends (desk.run past) action
  have log : ((desk.run past).perform action).2.transport.sent
      = (desk.run past).transport.sent ++ messages := sent
  have later : (desk.run past).transport.sent.length ≤ i := by
    by_contra earlier
    rw [log, List.getElem?_append_left (Nat.lt_of_not_le earlier)] at yes
    exact no yes
  rw [log, List.getElem?_append_right later] at yes
  exact ⟨past, action, rest, messages, rfl, log, sends, later, yes⟩

end Desk

end LiveThread
