import LiveThread.Proofs.Composition.Requests
import LiveThread.Proofs.Composition.Silence

/-!
# Uploads in flight

Any number of uploads may be under way at one desk, each looked at again and again
until its author gets an answer, with anything else happening in between.  Here it
is said what one step does: a look at an upload sends the image that goes with the
answer that it gives, and no other step sends an image.

Main results:

- Definition `BusyDesk`: a desk and the uploads begun at it.
- Definition `BusyDesk.step`: what can happen, one look at an upload at a time.
- Definition `BusyDesk.answers`: the answers to uploads, in order.
- Theorem `BusyDesk.images_step`: a step sends the image of the upload that it answers.
- Theorem `BusyDesk.answers_run`: an upload is answered at most once and stays so.
- Theorem `BusyDesk.waits_iff`: which uploads still wait after a look.
-/

namespace LiveThread

/-! ## Desks with uploads -/

/-- Whether an action is about an upload. -/
def Action.uploads : Action → Bool
  | upload _ | retryUpload _ | offer _ => true
  | edit _ | close _ | abandon | halt | hideImage | receiveId _ _ | mergeEcho _ => false

/-- How far an upload has come. -/
inductive UploadCall where
  /-- A further attempt at it is being made. -/
  | retrying
  /-- It has ended with this result, and its author has no answer yet. -/
  | pending (result : Option UploadedFile)
  /-- Its author has the answer. -/
  | answered (result : Option UploadedFile) (outcome : Except ComposeError UploadOutcome)

/-- A desk and the uploads begun at it, the earliest first. -/
structure BusyDesk (τ : Type) where
  desk : Desk τ
  calls : List UploadCall := []

/-- What can happen at a desk while uploads are in flight. -/
inductive DeskStep where
  /-- Anything that is not about an upload. -/
  | act (action : Action) (other : action.uploads = false)
  /-- An upload ends with a result. -/
  | submit (result : Option UploadedFile)
  /-- A further attempt at an upload begins. -/
  | retry
  /-- A further attempt ends with a result. -/
  | resolve (call : Nat) (result : Option UploadedFile)
  /-- The result of an upload is looked at, for the first time or again. -/
  | look (call : Nat)

/-- The answer to an upload. -/
structure UploadAnswer where
  call : Nat
  result : Option UploadedFile
  /-- The live input at that time. -/
  input : String
  outcome : Except ComposeError UploadOutcome

/-- The message by which the image of an answered upload left, if it left: the request for an id
with the file and the input, or the file on its own. -/
def UploadAnswer.message? (config : ComposerConfig) (a : UploadAnswer) : Option ClientMessage :=
  match a.result, a.outcome with
  | some file, .ok .sentWithAllocation =>
    some (.insertPost
      { body := if a.input = "" then none else some a.input
        image := some file
        name := config.posterName })
  | some file, .ok .attached => some (.insertImage file)
  | _, _ => none

/-! ## What leaves and what is remembered -/

namespace Desk

variable {τ : Type} [Transport τ]

/-- An image may leave: none is held before, one is on its way afterwards, and it leaves on its own
only if the post has its id. -/
structure SendsImage (before after : Desk τ) (m : ClientMessage) : Prop where
  carries : m.carriesImage = true
  free : before.composer.holdsImage = false
  attaching : after.composer.attachingImage = true
  allocated : ∀ file, m = .insertImage file → before.composer.phase = .allocated

/-- A decision about an upload sends the image that goes with its answer, if one does, and nothing
else. -/
theorem upload_image (desk : Desk (Logged τ)) (result : Option UploadedFile) (call : Nat) :
    let image := (desk.upload result).1.bind fun outcome =>
      UploadAnswer.message? desk.composer.config ⟨call, result, desk.composer.liveInput, outcome⟩
    (desk.upload result).2.transport.sent = desk.transport.sent ++ image.toList ∧
    ∀ m, image = some m → desk.SendsImage (desk.upload result).2 m := by
  intro image
  have nothing : ∀ {after : Desk (Logged τ)}, (desk.upload result).2 = after →
      after.account = desk.account → image = none →
      (desk.upload result).2.transport.sent = desk.transport.sent ++ image.toList ∧
      ∀ m, image = some m → desk.SendsImage (desk.upload result).2 m := by
    intro after decided same silent
    have log : after.transport.sent = desk.transport.sent := congrArg Account.sent same
    rw [decided, silent, log]
    exact ⟨(List.append_nil _).symm, by rintro _ ⟨⟩⟩
  cases result with
  | none => exact nothing rfl rfl rfl
  | some file =>
    have upload : desk.upload (some file) = desk.offer file := rfl
    rcases offer_cases desk file with ⟨-, ignored⟩ | ⟨free, ⟨draft, after, asked, left⟩ |
      ⟨allocated, after, attached, left⟩ | ⟨-, after, refused, same⟩ | ⟨-, ended⟩ | ⟨-, waiting⟩⟩
    · exact nothing (by rw [upload, ignored]) rfl (by simp only [image, upload, ignored]; rfl)
    · have log : after.transport.sent = desk.transport.sent ++ [.insertPost
          (allocationRequest desk.composer.config desk.composer.liveInput (some file))] :=
        congrArg Account.sent left
      have marked : after.composer.attachingImage = true :=
        congrArg (·.composer.attachingImage) left
      have sent : image = some (.insertPost
          (allocationRequest desk.composer.config desk.composer.liveInput (some file))) := by
        simp only [image, upload, asked]
        rfl
      rw [upload, asked, sent]
      refine ⟨log, ?_⟩
      rintro m ⟨⟩
      exact ⟨rfl, free, marked, by rintro _ ⟨⟩⟩
    · have log : after.transport.sent = desk.transport.sent ++ [.insertImage file] :=
        congrArg Account.sent left
      have marked : after.composer.attachingImage = true :=
        congrArg (·.composer.attachingImage) left
      have sent : image = some (.insertImage file) := by
        simp only [image, upload, attached]
        rfl
      rw [upload, attached, sent]
      refine ⟨log, ?_⟩
      rintro m ⟨⟩
      exact ⟨rfl, free, marked, fun _ _ => allocated⟩
    · exact nothing (by rw [upload, refused]) same (by simp only [image, upload, refused]; rfl)
    · exact nothing (by rw [upload, ended]) rfl (by simp only [image, upload, ended]; rfl)
    · exact nothing (by rw [upload, waiting]) rfl (by simp only [image, upload, waiting]; rfl)

/-- No input sends an image. -/
theorem edit_images (desk : Desk (Logged τ)) (input : String) :
    images (desk.edit input).2.transport.sent = images desk.transport.sent := by
  rcases edit_cases desk input with ⟨after, outcome, same, -⟩ | ⟨after, outcome, asked, -⟩
    | ⟨edit, after, outcome, sent, -⟩ | ⟨after, outcome, same, -⟩
  all_goals rw [outcome]
  · exact congrArg (images ·.sent) same
  · exact (congrArg (images ·.sent) asked).trans (images_append_of_bare _ rfl)
  · exact (congrArg (images ·.sent) sent).trans (images_append_of_bare _ edit.carriesImage_message)
  · exact congrArg (images ·.sent) same

/-- Closing a post sends no image. -/
theorem close_images (desk : Desk (Logged τ)) (input : String) :
    images (desk.close input).2.transport.sent = images desk.transport.sent := by
  have taking := edit_images desk input
  rcases close_cases desk input with ⟨e, after, taken, closed⟩ | ⟨outcome, after, taken, rest⟩
  · rw [closed]
    rwa [taken] at taking
  · rw [taken] at taking
    rcases rest with ⟨-, closed⟩ | ⟨-, closed⟩ | ⟨-, ⟨last, closed, told⟩ | ⟨last, closed, same⟩⟩
    all_goals rw [closed]
    · exact taking
    · rw [show after.abandon.transport.sent = after.transport.sent from sent_abandon after]
      exact taking
    · have log := congrArg (images ·.sent) told
      exact (log.trans (images_append_of_bare _ rfl)).trans taking
    · exact (congrArg (images ·.sent) same).trans taking

/-- Nor does anything else that is not about an upload. -/
theorem perform_images (desk : Desk (Logged τ)) {action : Action} (other : action.uploads = false) :
    images (desk.perform action).2.transport.sent = images desk.transport.sent := by
  cases action with
  | edit input => exact edit_images desk input
  | close input => exact close_images desk input
  | abandon => exact congrArg images (sent_abandon desk)
  | halt => rfl
  | hideImage =>
    simp only [perform]
    rcases hideImage_cases desk with ⟨-, ⟨after, hidden, left⟩ | ⟨after, refused, same⟩⟩ | nothing
    · rw [hidden]
      exact (congrArg (images ·.sent) left).trans (images_append_of_bare _ rfl)
    · rw [refused]
      exact congrArg (images ·.sent) same
    · rw [nothing]
  | receiveId now id =>
    simp only [perform, receiveId]
    split <;> rfl
  | mergeEcho data =>
    simp only [perform, mergeEcho]
    split <;> rfl
  | upload | retryUpload | offer => cases other

/-- A close remembers its input. -/
theorem close_liveInput (desk : Desk (Logged τ)) (input : String) :
    (desk.close input).2.composer.liveInput = (desk.composer.config.trim input).text := by
  have remembered := edit_liveInput desk input
  rcases close_cases desk input with ⟨e, after, taken, closed⟩ | ⟨outcome, after, taken, rest⟩
  · rw [closed]
    rwa [taken] at remembered
  · rw [taken] at remembered
    rcases rest with ⟨-, closed⟩ | ⟨-, closed⟩ | ⟨-, ⟨last, closed, told⟩ | ⟨last, closed, same⟩⟩
    all_goals rw [closed]
    · exact remembered
    · have kept : after.abandon.account.composer.liveInput = after.composer.liveInput := by
        rw [abandon_account]
        split <;> rfl
      exact kept.trans remembered
    · exact (congrArg (·.composer.liveInput) told).trans remembered
    · exact (congrArg (·.composer.liveInput) same).trans remembered

/-- A decision about an upload remembers nothing. -/
theorem upload_liveInput (desk : Desk (Logged τ)) (result : Option UploadedFile) :
    (desk.upload result).2.composer.liveInput = desk.composer.liveInput := by
  cases result with
  | none => rfl
  | some file =>
    show (desk.offer file).2.composer.liveInput = _
    rcases offer_cases desk file with ⟨-, outcome⟩ | ⟨-, ⟨-, after, outcome, same⟩ |
      ⟨-, after, outcome, same⟩ | ⟨-, after, outcome, same⟩ | ⟨-, outcome⟩ | ⟨-, outcome⟩⟩
    all_goals rw [outcome]
    all_goals exact congrArg (·.composer.liveInput) same

/-- The input that an action takes is remembered within the limits; no other action changes what
was remembered. -/
theorem perform_liveInput (desk : Desk (Logged τ)) (action : Action) :
    (desk.perform action).2.composer.liveInput
      = (action.input?.map fun input => (desk.composer.config.trim input).text).getD
          desk.composer.liveInput := by
  cases action with
  | edit input => exact edit_liveInput desk input
  | close input => exact close_liveInput desk input
  | abandon =>
    show desk.abandon.account.composer.liveInput = _
    rw [abandon_account]
    split <;> rfl
  | halt => rfl
  | hideImage =>
    simp only [perform]
    rcases hideImage_cases desk with ⟨-, ⟨after, hidden, left⟩ | ⟨after, refused, same⟩⟩ | nothing
    · rw [hidden]
      exact congrArg (·.composer.liveInput) left
    · rw [refused]
      exact congrArg (·.composer.liveInput) same
    · rw [nothing]
      rfl
  | receiveId now id =>
    simp only [perform, receiveId]
    split <;> rfl
  | mergeEcho data =>
    simp only [perform, mergeEcho]
    split <;> rfl
  | upload result => exact upload_liveInput desk result
  | retryUpload result => exact upload_liveInput (desk.setAttaching false) result
  | offer file => exact upload_liveInput desk (some file)

end Desk

/-- Unless it begins a further attempt, no move forgets that an image is on its way. -/
theorem Move.keeps_attaching {action : Action} {a b : Account} (move : Move action a b)
    (first : ∀ result, action ≠ .retryUpload result)
    (attaching : a.composer.attachingImage = true) : b.composer.attachingImage = true := by
  cases move with
  | request image given draft free => exact Bool.or_eq_true_iff.2 (.inl attaching)
  | insertImage file allocated free => rfl
  | forget again =>
    obtain ⟨result, rfl⟩ := again
    exact absurd rfl (first result)
  | note | change | close | abandon | halt | hideImage | receiveId | mergeEcho => exact attaching

/-! ## Steps -/

namespace BusyDesk

variable {τ : Type} [Transport τ]

/-- What happens in a step.  A look at an upload decides about it; the upload has its answer unless
it has to wait. -/
def step (busy : BusyDesk τ) : DeskStep → BusyDesk τ
  | .act action _ => { busy with desk := (busy.desk.perform action).2 }
  | .submit result => { busy with calls := busy.calls ++ [.pending result] }
  | .retry => { desk := busy.desk.setAttaching false, calls := busy.calls ++ [.retrying] }
  | .resolve call result =>
    match busy.calls[call]? with
    | some .retrying => { busy with calls := busy.calls.set call (.pending result) }
    | _ => busy
  | .look call =>
    match busy.calls[call]? with
    | some (.pending result) =>
      match busy.desk.upload result with
      | (none, desk) => { busy with desk := desk }
      | (some outcome, desk) =>
        { desk := desk, calls := busy.calls.set call (.answered result outcome) }
    | _ => busy

/-- The desk after some steps. -/
def run (busy : BusyDesk τ) (steps : List DeskStep) : BusyDesk τ :=
  steps.foldl step busy

/-- What a step does at the desk. -/
def action? (busy : BusyDesk τ) : DeskStep → Option Action
  | .act action _ => some action
  | .retry => some (.retryUpload none)
  | .look call =>
    match busy.calls[call]? with
    | some (.pending result) => some (.upload result)
    | _ => none
  | .submit _ | .resolve _ _ => none

/-- The answer that an upload gets in a step. -/
def answer? (busy : BusyDesk τ) : DeskStep → Option UploadAnswer
  | .look call =>
    match busy.calls[call]? with
    | some (.pending result) =>
      (busy.desk.upload result).1.map fun outcome =>
        { call := call
          result := result
          input := busy.desk.composer.liveInput
          outcome := outcome }
    | _ => none
  | _ => none

/-- The answers to uploads in some steps, in order. -/
def answers (busy : BusyDesk τ) : List DeskStep → List UploadAnswer
  | [] => []
  | step :: steps => (busy.answer? step).toList ++ (busy.step step).answers steps

/-- The image that leaves in a step. -/
def image? (busy : BusyDesk τ) (step : DeskStep) : Option ClientMessage :=
  (busy.answer? step).bind (UploadAnswer.message? busy.desk.composer.config)

theorem run_append (busy : BusyDesk τ) (before after : List DeskStep) :
    busy.run (before ++ after) = (busy.run before).run after :=
  List.foldl_append ..

theorem run_concat (busy : BusyDesk τ) (past : List DeskStep) (step : DeskStep) :
    busy.run (past ++ [step]) = (busy.run past).step step :=
  run_append busy past [step]

theorem answers_concat (busy : BusyDesk τ) (past : List DeskStep) (step : DeskStep) :
    busy.answers (past ++ [step]) = busy.answers past ++ ((busy.run past).answer? step).toList := by
  induction past generalizing busy with
  | nil => simp [answers, run]
  | cons first past ih => simp only [List.cons_append, answers, ih, List.append_assoc]; rfl

/-- A look at an upload that has ended is the decision about it. -/
theorem look_of_pending {busy : BusyDesk τ} {call : Nat} {result : Option UploadedFile}
    (pending : busy.calls[call]? = some (.pending result)) :
    (busy.step (.look call)).desk = (busy.desk.upload result).2 ∧
    (busy.step (.look call)).calls = (match (busy.desk.upload result).1 with
      | none => busy.calls
      | some outcome => busy.calls.set call (.answered result outcome)) ∧
    busy.answer? (.look call) = (busy.desk.upload result).1.map fun outcome =>
      ⟨call, result, busy.desk.composer.liveInput, outcome⟩ := by
  simp only [step, answer?, pending, and_true]
  cases decided : busy.desk.upload result with
  | mk outcome after => cases outcome <;> exact ⟨rfl, rfl⟩

/-- There is nothing to look at before an upload has ended or after it was answered. -/
theorem look_cases (busy : BusyDesk τ) (call : Nat) :
    (∃ result, busy.calls[call]? = some (.pending result)) ∨
    (busy.step (.look call) = busy ∧ busy.answer? (.look call) = none ∧
      busy.action? (.look call) = none) := by
  cases stage : busy.calls[call]? with
  | none => exact .inr (by simp only [step, answer?, action?, stage, and_self])
  | some c =>
    cases c with
    | pending result => exact .inl ⟨result, rfl⟩
    | retrying | answered => exact .inr (by simp only [step, answer?, action?, stage, and_self])

/-! ## The desk in a step -/

/-- A step is an action at the desk, or it leaves the desk as it is. -/
theorem step_desk (busy : BusyDesk τ) (step : DeskStep) :
    (busy.step step).desk = busy.desk.run (busy.action? step).toList := by
  cases step with
  | act action other => rfl
  | submit result => rfl
  | retry => rfl
  | resolve call result =>
    simp only [BusyDesk.step]
    split <;> rfl
  | look call =>
    rcases look_cases busy call with ⟨result, pending⟩ | ⟨same, -, still⟩
    · rw [(look_of_pending pending).1]
      simp only [action?, pending]
      rfl
    · rw [same, still]
      rfl

/-- What every move keeps is kept in every history. -/
theorem run_induct {P : Account → Prop} {busy : BusyDesk (Logged τ)} (steps : List DeskStep)
    (first : P busy.desk.account)
    (keep : ∀ {action : Action} {a b : Account}, Move action a b → P a → P b) :
    P (busy.run steps).desk.account := by
  induction steps generalizing busy with
  | nil => exact first
  | cons step steps ih =>
    apply ih
    rw [step_desk]
    exact Desk.run_induct _ first keep

/-- What has left stays in the log. -/
theorem isPrefix_sent_step (busy : BusyDesk (Logged τ)) (step : DeskStep) :
    busy.desk.transport.sent <+: (busy.step step).desk.transport.sent := by
  rw [step_desk]
  exact Desk.isPrefix_sent_run busy.desk _

theorem isPrefix_sent_run (busy : BusyDesk (Logged τ)) (steps : List DeskStep) :
    busy.desk.transport.sent <+: (busy.run steps).desk.transport.sent := by
  induction steps generalizing busy with
  | nil => exact List.prefix_refl _
  | cons step steps ih => exact (isPrefix_sent_step busy step).trans (ih _)

/-- Whatever happens at a desk whose composition has ended, it stays ended and nothing leaves. -/
theorem run_of_halted {busy : BusyDesk τ} (halted : busy.desk.composer.phase = .halted)
    (steps : List DeskStep) :
    (busy.run steps).desk.composer.phase = .halted ∧
      (busy.run steps).desk.transport = busy.desk.transport := by
  induction steps generalizing busy with
  | nil => exact ⟨halted, rfl⟩
  | cons step steps ih =>
    have first := Desk.run_of_halted halted (busy.action? step).toList
    rw [← step_desk] at first
    obtain ⟨ended, silent⟩ := ih first.1
    exact ⟨ended, silent.trans first.2⟩

/-! ## Images that leave in a step -/

/-- Only a look at an upload sends an image. -/
theorem look_of_image? {busy : BusyDesk τ} {step : DeskStep} {m : ClientMessage}
    (leaves : busy.image? step = some m) :
    ∃ call result, step = .look call ∧ busy.calls[call]? = some (.pending result) := by
  cases step with
  | look call =>
    rcases look_cases busy call with ⟨result, pending⟩ | ⟨-, silent, -⟩
    · exact ⟨call, result, rfl, pending⟩
    · rw [image?, silent] at leaves
      cases leaves
  | act | submit | retry | resolve => cases leaves

/-- The image of a look at an upload is that of the decision about it. -/
theorem image?_of_pending {busy : BusyDesk τ} {call : Nat} {result : Option UploadedFile}
    (pending : busy.calls[call]? = some (.pending result)) :
    busy.image? (.look call) = (busy.desk.upload result).1.bind fun outcome =>
      UploadAnswer.message? busy.desk.composer.config
        ⟨call, result, busy.desk.composer.liveInput, outcome⟩ := by
  rw [image?, (look_of_pending pending).2.2, Option.bind_map]
  rfl

/-- A look sends the image of the upload that it answers, and nothing else. -/
theorem sent_look (busy : BusyDesk (Logged τ)) (call : Nat) :
    (busy.step (.look call)).desk.transport.sent
      = busy.desk.transport.sent ++ (busy.image? (.look call)).toList := by
  rcases look_cases busy call with ⟨result, pending⟩ | ⟨same, silent, -⟩
  · rw [(look_of_pending pending).1, image?_of_pending pending]
    exact (Desk.upload_image busy.desk result call).1
  · rw [same, image?, silent]
    exact (List.append_nil _).symm

/-- The image that leaves in a step may leave. -/
theorem sendsImage_of_image? {busy : BusyDesk (Logged τ)} {step : DeskStep} {m : ClientMessage}
    (leaves : busy.image? step = some m) : busy.desk.SendsImage (busy.step step).desk m := by
  obtain ⟨call, result, rfl, pending⟩ := look_of_image? leaves
  rw [image?_of_pending pending] at leaves
  rw [(look_of_pending pending).1]
  exact (Desk.upload_image busy.desk result call).2 m leaves

/-- The images that leave in a step are that of the upload that is answered in it. -/
theorem images_step (busy : BusyDesk (Logged τ)) (step : DeskStep) :
    images (busy.step step).desk.transport.sent
      = images busy.desk.transport.sent ++ (busy.image? step).toList := by
  have silent : (busy.step step).desk.transport.sent = busy.desk.transport.sent →
      busy.image? step = none → images (busy.step step).desk.transport.sent
        = images busy.desk.transport.sent ++ (busy.image? step).toList := by
    intro same none
    rw [same, none]
    exact (List.append_nil _).symm
  cases step with
  | look call =>
    rw [sent_look, images_append]
    cases leaves : busy.image? (.look call) with
    | none => rfl
    | some m =>
      have carries := (sendsImage_of_image? leaves).carries
      simp [images, carries]
  | act action other =>
    have none : busy.image? (.act action other) = none := rfl
    rw [none]
    exact (Desk.perform_images busy.desk other).trans (List.append_nil _).symm
  | submit result => exact silent rfl rfl
  | retry => exact silent rfl rfl
  | resolve call result =>
    refine silent ?_ rfl
    rw [step_desk]
    rfl

/-- A message with an image that is in the log after a step was there before, or it is the last one
and leaves in the step. -/
theorem image_departs {busy : BusyDesk (Logged τ)} {step : DeskStep} {i : Nat} {m : ClientMessage}
    (found : (busy.step step).desk.transport.sent[i]? = some m) (carries : m.carriesImage = true) :
    busy.desk.transport.sent[i]? = some m ∨
      i = busy.desk.transport.sent.length ∧ busy.image? step = some m := by
  obtain ⟨left, grown⟩ := isPrefix_sent_step busy step
  rw [← grown] at found
  by_cases old : i < busy.desk.transport.sent.length
  · rw [List.getElem?_append_left old] at found
    exact .inl found
  · right
    rw [List.getElem?_append_right (Nat.le_of_not_lt old)] at found
    have pictured : m ∈ images left :=
      List.mem_filter.2 ⟨List.mem_of_getElem? found, carries⟩
    have new := images_step busy step
    rw [← grown, images_append, List.append_cancel_left_eq] at new
    rw [new, Option.mem_toList] at pictured
    obtain ⟨call, -, rfl, -⟩ := look_of_image? pictured
    -- A look sends nothing but its image, so the image is the last message.
    have alone := sent_look busy call
    rw [← grown, pictured, List.append_cancel_left_eq] at alone
    rw [alone] at found
    have first : i - busy.desk.transport.sent.length = 0 := by
      by_contra later
      rw [List.getElem?_eq_none (by simpa using Nat.one_le_iff_ne_zero.2 later)] at found
      cases found
    exact ⟨by omega, pictured⟩

/-! ## Answers -/

/-- An upload that is answered in a step had ended and had no answer yet. -/
theorem pending_of_answer? {busy : BusyDesk τ} {step : DeskStep} {a : UploadAnswer}
    (given : busy.answer? step = some a) :
    step = .look a.call ∧ busy.calls[a.call]? = some (.pending a.result) := by
  cases step with
  | look call =>
    rcases look_cases busy call with ⟨result, pending⟩ | ⟨-, silent, -⟩
    · rw [(look_of_pending pending).2.2, Option.map_eq_some_iff] at given
      obtain ⟨outcome, -, rfl⟩ := given
      exact ⟨rfl, pending⟩
    · rw [silent] at given
      cases given
  | act | submit | retry | resolve => cases given

/-- After a step those uploads are answered that were before, and the one that gets its answer in
the step. -/
theorem answered_step (busy : BusyDesk τ) (step : DeskStep) (call : Nat)
    (result : Option UploadedFile) (outcome : Except ComposeError UploadOutcome) :
    (busy.step step).calls[call]? = some (.answered result outcome) ↔
      busy.calls[call]? = some (.answered result outcome) ∨
      ∃ input, busy.answer? step = some ⟨call, result, input, outcome⟩ := by
  have begun : ∀ new : UploadCall, new ≠ .answered result outcome →
      ((busy.calls ++ [new])[call]? = some (.answered result outcome) ↔
        busy.calls[call]? = some (.answered result outcome)) := by
    intro new unanswered
    by_cases old : call < busy.calls.length
    · rw [List.getElem?_append_left old]
    · have none : busy.calls[call]? = none := List.getElem?_eq_none (Nat.le_of_not_lt old)
      rw [List.getElem?_append_right (Nat.le_of_not_lt old), none]
      cases call - busy.calls.length <;> simp [unanswered]
  cases step with
  | act action other => simp [BusyDesk.step, answer?]
  | submit result' => simpa [BusyDesk.step, answer?] using begun (.pending result') (by rintro ⟨⟩)
  | retry => simpa [BusyDesk.step, answer?] using begun .retrying (by rintro ⟨⟩)
  | resolve other result' =>
    simp only [BusyDesk.step, answer?, reduceCtorEq, exists_false, or_false]
    split
    · next retrying =>
      by_cases same : other = call
      · subst same
        simp [List.getElem?_set, retrying]
      · rw [List.getElem?_set_ne same]
    · rfl
  | look other =>
    rcases look_cases busy other with ⟨result', pending⟩ | ⟨same, silent, -⟩
    · obtain ⟨-, calls, given⟩ := look_of_pending pending
      obtain ⟨inside, there⟩ := List.getElem?_eq_some_iff.1 pending
      rw [calls, given]
      cases (busy.desk.upload result').1 with
      | none => simp
      | some outcome' =>
        by_cases same : other = call
        · subst same
          simp [inside, there]
        · simp [List.getElem?_set_ne same, same]
    · rw [same, silent]
      simp

/-- An upload that has its answer keeps it. -/
theorem answered_run {busy : BusyDesk τ} {call : Nat} {result : Option UploadedFile}
    {outcome : Except ComposeError UploadOutcome}
    (answered : busy.calls[call]? = some (.answered result outcome)) (steps : List DeskStep) :
    (busy.run steps).calls[call]? = some (.answered result outcome) := by
  induction steps generalizing busy with
  | nil => exact answered
  | cons step steps ih => exact ih ((answered_step ..).2 (.inl answered))

/-- The uploads that are answered after a history are those that got an answer in it, each of them
one. -/
theorem answers_run {busy : BusyDesk τ} (fresh : busy.calls = []) (steps : List DeskStep) :
    ((busy.answers steps).map UploadAnswer.call).Nodup ∧
    ∀ call result outcome, (busy.run steps).calls[call]? = some (.answered result outcome) ↔
      ∃ input, ⟨call, result, input, outcome⟩ ∈ busy.answers steps := by
  induction steps using List.reverseRecOn with
  | nil => simp [answers, run, fresh]
  | append_singleton past step ih =>
    obtain ⟨once, known⟩ := ih
    rw [answers_concat, run_concat]
    constructor
    · rw [List.map_append, List.nodup_append]
      refine ⟨once, ?_, ?_⟩
      · cases (busy.run past).answer? step <;> simp
      · -- An upload that was answered before has nothing to look at.
        rintro call old _ new rfl
        obtain ⟨a, given, rfl⟩ := List.mem_map.1 new
        obtain ⟨b, mem, same⟩ := List.mem_map.1 old
        have answered := (known b.call b.result b.outcome).2 ⟨b.input, mem⟩
        obtain ⟨-, pending⟩ := pending_of_answer? (Option.mem_toList.1 given)
        rw [same, pending] at answered
        cases answered
    · intro call result outcome
      simp only [answered_step, known, List.mem_append, Option.mem_toList, exists_or]

/-! ## Uploads that wait -/

/-- Right after it was looked at, an upload with a file still waits exactly if an id is awaited and
no image is held, and this is so then if it was so before. -/
theorem waits_iff {busy : BusyDesk (Logged τ)} {call : Nat} {file : UploadedFile}
    (pending : busy.calls[call]? = some (.pending (some file))) :
    ((busy.step (.look call)).calls[call]? = some (.pending (some file)) ↔
      busy.desk.composer.phase = .allocating ∧ busy.desk.composer.holdsImage = false) ∧
    ((busy.step (.look call)).calls[call]? = some (.pending (some file)) ↔
      (busy.step (.look call)).desk.composer.phase = .allocating ∧
        (busy.step (.look call)).desk.composer.holdsImage = false) := by
  obtain ⟨desk, calls, -⟩ := look_of_pending pending
  have upload : busy.desk.upload (some file) = busy.desk.offer file := rfl
  have waits : (busy.step (.look call)).calls[call]? = some (.pending (some file)) ↔
      (busy.desk.offer file).1 = none := by
    obtain ⟨inside, -⟩ := List.getElem?_eq_some_iff.1 pending
    rw [calls, upload]
    cases (busy.desk.offer file).1 with
    | none => simp [pending]
    | some outcome => simp [inside]
  rw [waits, Desk.offer_fst_eq_none_iff, desk, upload]
  refine ⟨Iff.rfl, ?_⟩
  -- Only the wait itself leaves a desk at which an id is awaited and no image is held.
  rcases Desk.offer_cases busy.desk file with ⟨held, ignored⟩ | ⟨free, ⟨draft, after, asked, left⟩ |
    ⟨allocated, after, attached, left⟩ | ⟨talking, after, refused, same⟩ | ⟨halted, ended⟩ |
    ⟨allocating, waiting⟩⟩
  · rw [ignored]
  · have marked : after.composer.attachingImage = true :=
      congrArg (·.composer.attachingImage) left
    simp [asked, draft, Composer.holdsImage, marked]
  · have marked : after.composer.attachingImage = true :=
      congrArg (·.composer.attachingImage) left
    simp [attached, allocated, Composer.holdsImage, marked]
  · have phase : after.composer.phase = busy.desk.composer.phase :=
      congrArg (·.composer.phase) same
    rw [refused, phase]
    rcases talking with draft | allocated
    · simp [draft]
    · simp [allocated]
  · rw [ended]
  · rw [waiting]

/-- An upload with a file that finds the composition ended without an image is abandoned, and
nothing leaves then or later. -/
theorem look_of_halted {busy : BusyDesk (Logged τ)} {call : Nat} {file : UploadedFile}
    (pending : busy.calls[call]? = some (.pending (some file)))
    (halted : busy.desk.composer.phase = .halted) (free : busy.desk.composer.holdsImage = false)
    (later : List DeskStep) :
    ((busy.step (.look call)).run later).calls[call]?
        = some (.answered (some file) (.ok .abandoned)) ∧
      ((busy.step (.look call)).run later).desk.transport = busy.desk.transport := by
  have decided : busy.desk.upload (some file) = (some (.ok .abandoned), busy.desk) := by
    simp [Desk.upload, Desk.offer, free, halted]
  obtain ⟨desk, calls, -⟩ := look_of_pending pending
  obtain ⟨inside, -⟩ := List.getElem?_eq_some_iff.1 pending
  rw [decided] at desk calls
  constructor
  · apply answered_run
    rw [calls]
    simp [inside]
  · have ended : (busy.step (.look call)).desk.composer.phase = .halted := by rwa [desk]
    rw [(run_of_halted ended later).2, desk]

end BusyDesk

end LiveThread
