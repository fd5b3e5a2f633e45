import Mathlib
import LiveThread.Composition.Action

/-!
# Moves of a composition

Every action of a composition is a sequence of a few elementary moves.  A move
says what has to hold before it, what changes, and which message leaves; a
refused message makes no move.  An id is asked for only with an input or a file,
edits are sent only when an input is taken, and only an answer of the server
gives or uses an id.  What every move keeps is kept by every history.

Main results:

- Definition `Account`: a composition, the posts of its thread and the messages that left.
- Definition `Move`: the elementary moves of an action.
- Theorem `Desk.perform_moves`: an action is a sequence of moves.
- Theorem `Account.induct`: what is kept by every move of an action is kept by the action.
- Theorem `Desk.run_induct`: what is kept by every move is kept by every history.
-/

namespace LiveThread

open Relation

/-! ## Accounts -/

/-- A composition, the posts of its thread, and the messages that have left, the earliest first. -/
structure Account where
  composer : Composer
  registry : Registry
  sent : List ClientMessage

namespace Account

/-- The account after the composition has ended without a further message. -/
def abandoned (a : Account) : Account :=
  { a with
    composer := { a.composer with phase := .halted, draft := none }
    registry :=
      if a.composer.id = 0 then a.registry
      else a.registry.modify a.composer.id fun post => { post with editing := false } }

/-- The account after one more message has left. -/
def left (a : Account) (m : ClientMessage) : Account :=
  { a with sent := a.sent ++ [m] }

/-- The account after it was noted whether an image is on its way. -/
def attaching (a : Account) (b : Bool) : Account :=
  { a with composer := { a.composer with attachingImage := b } }

/-- The account after an input was remembered, cut down to the limits. -/
def noted (a : Account) (input : String) : Account :=
  { a with composer := { a.composer with liveInput := (a.composer.config.trim input).text } }

/-- The account after a request for an id with the live input has left. -/
def requested (a : Account) (image : Option UploadedFile) : Account where
  composer :=
    { a.composer with
      phase := .allocating
      draft :=
        if a.composer.liveInput = "" then a.composer.draft
        else a.composer.draft.map fun post => { post with body := a.composer.liveInput }
      sentBody := if a.composer.liveInput = "" then a.composer.sentBody else a.composer.liveInput
      ticket := some ⟨image.isSome⟩ }
  registry := a.registry
  sent := a.sent ++
    [.insertPost (Desk.allocationRequest a.composer.config a.composer.liveInput image)]

/-- The account after the change to the live input has left as one edit. -/
def changed (a : Account) (edit : Edit) : Account :=
  { a.left edit.message with
    composer := { a.composer with sentBody := a.composer.liveInput } }

/-- The account after the ticket has been traded for an id. -/
def allocated (a : Account) (ticket : Ticket) (now : Int64) (id : UInt64) : Account where
  composer :=
    { a.composer with
      phase := a.composer.phase.after .idReceived
      draft := none
      id := id
      hasImage := a.composer.hasImage || ticket.carriesImage
      ticket := none }
  registry := a.registry.insert (Desk.registeredPost a.composer id now)
  sent := a.sent

/-- The account after the server's copy of the own post has been merged. -/
def merged (a : Account) (data : Post) : Account :=
  { a with
    composer := { a.composer with hasImage := a.composer.hasImage || data.image.isSome }
    registry := a.registry.modify data.id fun post => post.mergeEcho data }

end Account

/-! ## Moves -/

/-- The input that an action takes. -/
def Action.input? : Action → Option String
  | edit input | close input => some input
  | _ => none

/-- The id that an answer of the server names. -/
def Action.named? : Action → Option UInt64
  | receiveId _ id => some id
  | mergeEcho data => some data.id
  | _ => none

/-- The elementary moves of an action. -/
inductive Move (action : Action) : Account → Account → Prop
  /-- An input is remembered, cut down to the limits. -/
  | note (a : Account) (input : String) : Move action a (a.noted input)
  /-- An id is asked for; an image goes along only if there is none yet. -/
  | request {a : Account} (image : Option UploadedFile)
      (given : action.input?.isSome ∨ action.file?.isSome) (draft : a.composer.phase = .draft)
      (free : image.isSome → a.composer.holdsImage = false) :
      Move action a ((a.requested image).attaching (a.composer.attachingImage || image.isSome))
  /-- The change from the sent body to the live input is sent. -/
  | change {a : Account} {edit : Edit} (typed : action.input?.isSome)
      (allocated : a.composer.phase = .allocated)
      (between : Edit.between? a.composer.sentBody a.composer.liveInput = some edit) :
      Move action a (a.changed edit)
  /-- The post is closed and the server is told. -/
  | close {a : Account}
      (asked : a.composer.phase = .allocating ∨ a.composer.phase = .allocated) :
      Move action a (a.left .closePost).abandoned
  /-- The composition ends and the server is not told. -/
  | abandon {a : Account} (unfinished : a.composer.phase ≠ .halted) : Move action a a.abandoned
  | halt (a : Account) : Move action a { a with composer := { a.composer with phase := .halted } }
  /-- The server is told to hide the image. -/
  | hideImage {a : Account} (allocated : a.composer.phase = .allocated)
      (holds : a.composer.holdsImage = true) :
      Move action a (a.left .spoiler)
  /-- An image is sent on its own. -/
  | insertImage {a : Account} (file : UploadedFile) (allocated : a.composer.phase = .allocated)
      (free : a.composer.holdsImage = false) :
      Move action a ((a.left (.insertImage file)).attaching true)
  /-- An image on its way is forgotten, for a further attempt only. -/
  | forget (a : Account) (again : ∃ result, action = .retryUpload result) :
      Move action a (a.attaching false)
  | receiveId {a : Account} {ticket : Ticket} {now : Int64} {id : UInt64}
      (answer : action = .receiveId now id)
      (waiting : a.composer.ticket = some ticket) :
      Move action a (a.allocated ticket now id)
  | mergeEcho {a : Account} {data : Post} (answer : action = .mergeEcho data)
      (known : a.composer.id ≠ 0) (own : a.composer.id = data.id) :
      Move action a (a.merged data)

/-- What holds at first and is kept by every move of an action holds after any of them. -/
theorem Account.induct {P : Account → Prop} {action : Action} {a b : Account}
    (moves : ReflTransGen (Move action) a b) (first : P a)
    (keep : ∀ {a b : Account}, Move action a b → P a → P b) : P b := by
  induction moves with
  | refl => exact first
  | tail _ move ih => exact keep move ih

/-! ## The moves of an action -/

namespace Desk

variable {τ : Type} [Transport τ] {action : Action}

/-- The account of a desk whose way out is logged. -/
def account (desk : Desk (Logged τ)) : Account :=
  { composer := desk.composer, registry := desk.registry, sent := desk.transport.sent }

/-- A message of an open composition leaves exactly if it was accepted. -/
theorem send_account {desk : Desk (Logged τ)} (h : desk.composer.phase ≠ .halted)
    (m : ClientMessage) :
    (desk.send m).2.account =
      if (desk.send m).1 then desk.account.left m else desk.account := by
  rw [send_of_open h]
  simp only [account, Logged.send_sent]
  split <;> rfl

theorem send_accepted {desk after : Desk (Logged τ)} {m : ClientMessage}
    (h : desk.composer.phase ≠ .halted) (sent : desk.send m = (true, after)) :
    after.account = desk.account.left m := by
  have := send_account h m
  rwa [sent] at this

theorem send_refused_account {desk after : Desk (Logged τ)} {m : ClientMessage}
    (h : desk.composer.phase ≠ .halted) (sent : desk.send m = (false, after)) :
    after.account = desk.account := by
  have := send_account h m
  rwa [sent] at this

/-- A request for an id with the live input leaves, or the composition is as it was. -/
theorem requestAllocation_cases {desk : Desk (Logged τ)} (draft : desk.composer.phase = .draft)
    (image : Option UploadedFile) :
    (∃ after, desk.requestAllocation desk.composer.liveInput image = (.ok (), after) ∧
      after.account = desk.account.requested image) ∨
    (∃ after, desk.requestAllocation desk.composer.liveInput image
        = (.error .connectionClosed, after) ∧
      after.account = desk.account) := by
  have talking : desk.composer.phase ≠ .halted := by simp [draft]
  unfold requestAllocation
  cases sent : desk.send
      (.insertPost (allocationRequest desk.composer.config desk.composer.liveInput image)) with
  | mk accepted after =>
    cases accepted with
    | false => exact .inr ⟨after, rfl, send_refused_account talking sent⟩
    | true =>
      have left := send_accepted talking sent
      have same : after.composer = desk.composer := congrArg Account.composer left
      refine .inl ⟨_, by simp only [same, draft, Phase.feed, Phase.next?]; rfl, ?_⟩
      simp only [account, Account.left, Account.mk.injEq] at left
      obtain ⟨-, registry, log⟩ := left
      simp only [account, Account.requested, registry, log]
      rfl

omit [Transport τ] in
@[simp]
theorem note_phase (desk : Desk τ) (text : String) :
    (desk.note text).composer.phase = desk.composer.phase :=
  rfl

omit [Transport τ] in
@[simp]
theorem note_sentBody (desk : Desk τ) (text : String) :
    (desk.note text).composer.sentBody = desk.composer.sentBody :=
  rfl

omit [Transport τ] in
@[simp]
theorem note_liveInput (desk : Desk τ) (text : String) :
    (desk.note text).composer.liveInput = text :=
  rfl

/-- In a draft an input that says something new asks for an id. -/
theorem edit_of_draft {desk : Desk τ} {input : String} (draft : desk.composer.phase = .draft)
    (new : (desk.composer.config.trim input).text ≠ desk.composer.sentBody) :
    desk.edit input =
      (((desk.note (desk.composer.config.trim input).text).requestAllocation
          (desk.composer.config.trim input).text none).1.map fun _ =>
        ⟨some .insertPost, (desk.composer.config.trim input).excess⟩,
      ((desk.note (desk.composer.config.trim input).text).requestAllocation
          (desk.composer.config.trim input).text none).2) := by
  unfold edit
  simp only [note_phase, note_sentBody, draft, Phase.acceptsEdits, new, Bool.true_eq_false, or_self,
    if_false, if_true]
  generalize (desk.note _).requestAllocation _ none = asked
  obtain ⟨result, after⟩ := asked
  cases result <;> rfl

/-- Once there is an id, an input that says something new sends the change. -/
theorem edit_of_allocated {desk : Desk τ} {input : String}
    (allocated : desk.composer.phase = .allocated)
    (new : (desk.composer.config.trim input).text ≠ desk.composer.sentBody) :
    desk.edit input =
      (desk.note (desk.composer.config.trim input).text).sendChange
        (desk.composer.config.trim input).text (desk.composer.config.trim input).excess := by
  unfold edit
  simp only [note_phase, note_sentBody, allocated, Phase.acceptsEdits, new, Bool.true_eq_false,
    or_self, if_false, reduceCtorEq]

/-- The change to the live input leaves as one edit, or the composition is as it was. -/
theorem sendChange_cases {desk : Desk (Logged τ)} {edit : Edit}
    (allocated : desk.composer.phase = .allocated)
    (between : Edit.between? desk.composer.sentBody desk.composer.liveInput = some edit)
    (excess : Nat) :
    (∃ after, desk.sendChange desk.composer.liveInput excess
        = (.ok ⟨some edit.message.kind, excess⟩, after) ∧
      after.account = desk.account.changed edit) ∨
    (∃ after, desk.sendChange desk.composer.liveInput excess
        = (.error .connectionClosed, after) ∧
      after.account = desk.account) := by
  have talking : desk.composer.phase ≠ .halted := by simp [allocated]
  unfold sendChange
  simp only [between]
  cases sent : desk.send edit.message with
  | mk accepted after =>
    cases accepted with
    | false => exact .inr ⟨after, rfl, send_refused_account talking sent⟩
    | true =>
      have left := send_accepted talking sent
      simp only [account, Account.left, Account.mk.injEq] at left
      obtain ⟨composer, registry, log⟩ := left
      refine .inl ⟨_, rfl, ?_⟩
      simp only [account, Account.changed, Account.left, composer, registry, log]

/-- What a taken input leads to: nothing is sent, an id is asked for, the change is sent, or the
message was refused.  In each case the input is remembered. -/
theorem edit_cases (desk : Desk (Logged τ)) (input : String) :
    (∃ after, desk.edit input = (.ok ⟨none, (desk.composer.config.trim input).excess⟩, after) ∧
      after.account = desk.account.noted input ∧
      (desk.composer.phase.acceptsEdits = false ∨
        (desk.composer.config.trim input).text = desk.composer.sentBody)) ∨
    (∃ after, desk.edit input
        = (.ok ⟨some .insertPost, (desk.composer.config.trim input).excess⟩, after) ∧
      after.account = (desk.account.noted input).requested none ∧
      desk.composer.phase = .draft ∧
      (desk.composer.config.trim input).text ≠ desk.composer.sentBody) ∨
    (∃ edit after, desk.edit input
        = (.ok ⟨some edit.message.kind, (desk.composer.config.trim input).excess⟩, after) ∧
      after.account = (desk.account.noted input).changed edit ∧
      desk.composer.phase = .allocated ∧
      Edit.between? desk.composer.sentBody (desk.composer.config.trim input).text = some edit) ∨
    (∃ after, desk.edit input = (.error .connectionClosed, after) ∧
      after.account = desk.account.noted input ∧
      (desk.composer.phase = .draft ∨ desk.composer.phase = .allocated)) := by
  by_cases still : desk.composer.phase.acceptsEdits = false ∨
      (desk.composer.config.trim input).text = desk.composer.sentBody
  · exact .inl ⟨desk.note (desk.composer.config.trim input).text, if_pos still, rfl, still⟩
  · obtain ⟨accepts, new⟩ := not_or.1 still
    cases phase : desk.composer.phase with
    | draft =>
      rw [edit_of_draft phase new]
      have noted : (desk.note (desk.composer.config.trim input).text).composer.phase = .draft :=
        phase
      rcases requestAllocation_cases noted none with ⟨after, asked, left⟩ | ⟨after, asked, same⟩
      · rw [note_liveInput] at asked
        exact .inr (.inl ⟨after, by rw [asked]; rfl, left, rfl, new⟩)
      · rw [note_liveInput] at asked
        exact .inr (.inr (.inr ⟨after, by rw [asked]; rfl, same, .inl rfl⟩))
    | allocated =>
      rw [edit_of_allocated phase new]
      cases between : Edit.between? desk.composer.sentBody
          (desk.composer.config.trim input).text with
      | none => exact absurd (Edit.between?_eq_none_iff.1 between).symm new
      | some edit =>
        have noted : (desk.note (desk.composer.config.trim input).text).composer.phase
            = .allocated := phase
        rcases sendChange_cases noted between (desk.composer.config.trim input).excess with
          ⟨after, sent, left⟩ | ⟨after, sent, same⟩
        · exact .inr (.inr (.inl ⟨edit, after, sent, left, rfl, rfl⟩))
        · exact .inr (.inr (.inr ⟨after, sent, same, .inr rfl⟩))
    | allocating | halted => simp [phase, Phase.acceptsEdits] at accepts

/-- An input is taken by moves. -/
theorem edit_moves (desk : Desk (Logged τ)) (input : String) (typed : action.input?.isSome) :
    ReflTransGen (Move action) desk.account (desk.edit input).2.account := by
  have note : ReflTransGen (Move action) desk.account (desk.account.noted input) :=
    .single (.note _ _)
  rcases edit_cases desk input with ⟨after, outcome, same, -⟩ | ⟨after, outcome, asked, draft, -⟩
    | ⟨edit, after, outcome, sent, allocated, between⟩ | ⟨after, outcome, same, -⟩
  · rw [outcome, same]
    exact note
  · rw [outcome, asked]
    have request : Move action (desk.account.noted input) _ :=
      .request none (.inl typed) draft (by simp)
    exact note.tail (by simpa [Account.attaching, Account.requested] using request)
  · rw [outcome, sent]
    exact note.tail (.change typed allocated between)
  · rw [outcome, same]
    exact note

omit [Transport τ] in
/-- Ending a composition is a move unless it has ended. -/
theorem abandon_account (desk : Desk (Logged τ)) :
    desk.abandon.account =
      if desk.composer.phase = .halted then desk.account else desk.account.abandoned := by
  unfold abandon
  rw [Phase.next?_postClosed]
  by_cases halted : desk.composer.phase = .halted
  · simp [halted]
  · simp only [if_neg halted, account, Account.abandoned]
    rfl

omit [Transport τ] in
theorem abandon_moves (desk : Desk (Logged τ)) :
    ReflTransGen (Move action) desk.account desk.abandon.account := by
  rw [abandon_account]
  split
  · exact .refl
  · next unfinished => exact .single (.abandon unfinished)

/-- Telling the server that the post is closed either works, and the composition may end, or
leaves everything as it was. -/
theorem send_closePost_cases {desk : Desk (Logged τ)} (talking : desk.composer.phase ≠ .halted) :
    (∃ last, desk.send .closePost = (true, last) ∧
      last.abandon.account = (desk.account.left .closePost).abandoned) ∨
    (∃ last, desk.send .closePost = (false, last) ∧ last.account = desk.account) := by
  cases sent : desk.send .closePost with
  | mk accepted last =>
    cases accepted with
    | false => exact .inr ⟨last, rfl, send_refused_account talking sent⟩
    | true =>
      have left := send_accepted talking sent
      have same : last.composer = desk.composer := congrArg Account.composer left
      refine .inl ⟨last, rfl, ?_⟩
      rw [abandon_account, if_neg (by rw [same]; exact talking), left]

/-- What closing a post leads to once its final input was taken. -/
theorem close_cases (desk : Desk (Logged τ)) (input : String) :
    (∃ e after, desk.edit input = (.error e, after) ∧ desk.close input = (.error e, after)) ∨
    (∃ outcome after, desk.edit input = (.ok outcome, after) ∧
      ((after.composer.phase = .halted ∧ desk.close input = (.ok (), after)) ∨
      (after.composer.phase = .draft ∧ desk.close input = (.ok (), after.abandon)) ∨
      ((after.composer.phase = .allocating ∨ after.composer.phase = .allocated) ∧
        ((∃ last, desk.close input = (.ok (), last) ∧
          last.account = (after.account.left .closePost).abandoned) ∨
        (∃ last, desk.close input = (.error .connectionClosed, last) ∧
          last.account = after.account))))) := by
  unfold close
  cases taken : desk.edit input with
  | mk result after =>
    cases result with
    | error e => exact .inl ⟨e, after, rfl, rfl⟩
    | ok outcome =>
      refine .inr ⟨outcome, after, rfl, ?_⟩
      cases phase : after.composer.phase with
      | halted => exact .inl ⟨rfl, by simp only [phase]⟩
      | draft => exact .inr (.inl ⟨rfl, by simp only [phase]⟩)
      | allocating | allocated =>
        refine .inr (.inr ⟨by simp, ?_⟩)
        have talking : after.composer.phase ≠ .halted := by simp [phase]
        rcases send_closePost_cases talking with ⟨last, sent, ended⟩ | ⟨last, sent, same⟩
        · exact .inl ⟨last.abandon, by simp only [phase, sent], ended⟩
        · exact .inr ⟨last, by simp only [phase, sent], same⟩

/-- A post is closed by moves. -/
theorem close_moves (desk : Desk (Logged τ)) (input : String) (typed : action.input?.isSome) :
    ReflTransGen (Move action) desk.account (desk.close input).2.account := by
  have taking := edit_moves desk input typed
  rcases close_cases desk input with ⟨e, after, taken, closed⟩ | ⟨outcome, after, taken, rest⟩
  · rw [closed]
    rwa [taken] at taking
  · rw [taken] at taking
    rcases rest with ⟨-, closed⟩ | ⟨-, closed⟩ |
      ⟨asked, ⟨last, closed, ended⟩ | ⟨last, closed, same⟩⟩
    · rwa [closed]
    · rw [closed]
      exact taking.trans (abandon_moves after)
    · rw [closed, ended]
      exact taking.tail (.close asked)
    · rw [closed, same]
      exact taking

/-- Hiding the image sends one message, or the message was refused, or there is no image to hide. -/
theorem hideImage_cases (desk : Desk (Logged τ)) :
    ((desk.composer.phase = .allocated ∧ desk.composer.holdsImage = true) ∧
      ((∃ after, desk.hideImage = (.ok true, after) ∧
        after.account = desk.account.left .spoiler) ∨
      (∃ after, desk.hideImage = (.error .connectionClosed, after) ∧
        after.account = desk.account))) ∨
    desk.hideImage = (.ok false, desk) := by
  unfold hideImage
  split
  · next h =>
    have talking : desk.composer.phase ≠ .halted := by simp [h.1]
    refine .inl ⟨h, ?_⟩
    cases sent : desk.send .spoiler with
    | mk accepted after =>
      cases accepted with
      | false => exact .inr ⟨after, rfl, send_refused_account talking sent⟩
      | true => exact .inl ⟨after, rfl, send_accepted talking sent⟩
  · exact .inr rfl

/-- The image is hidden in at most one move. -/
theorem hideImage_moves (desk : Desk (Logged τ)) :
    ReflTransGen (Move action) desk.account desk.hideImage.2.account := by
  rcases hideImage_cases desk with ⟨h, ⟨after, hidden, left⟩ | ⟨after, refused, same⟩⟩ | nothing
  · rw [hidden, left]
    exact .single (.hideImage h.1 h.2)
  · rw [refused, same]
  · rw [nothing]

/-- What a finished upload leads to: it is ignored since there is an image already, or the file is
sent or refused, or the composition has ended, or the upload has to wait. -/
theorem offer_cases (desk : Desk (Logged τ)) (file : UploadedFile) :
    (desk.composer.holdsImage = true ∧ desk.offer file = (some (.ok .ignored), desk)) ∨
    (desk.composer.holdsImage = false ∧
      ((desk.composer.phase = .draft ∧ ∃ after,
        desk.offer file = (some (.ok .sentWithAllocation), after) ∧
        after.account = (desk.account.requested (some file)).attaching true) ∨
      (desk.composer.phase = .allocated ∧ ∃ after,
        desk.offer file = (some (.ok .attached), after) ∧
        after.account = (desk.account.left (.insertImage file)).attaching true) ∨
      ((desk.composer.phase = .draft ∨ desk.composer.phase = .allocated) ∧ ∃ after,
        desk.offer file = (some (.error .connectionClosed), after) ∧
        after.account = desk.account) ∨
      (desk.composer.phase = .halted ∧ desk.offer file = (some (.ok .abandoned), desk)) ∨
      (desk.composer.phase = .allocating ∧ desk.offer file = (none, desk)))) := by
  unfold offer
  split
  · next held => exact .inl ⟨held, rfl⟩
  · next held =>
    refine .inr ⟨Bool.eq_false_iff.2 held, ?_⟩
    cases phase : desk.composer.phase with
    | draft =>
      rcases requestAllocation_cases phase (some file) with
        ⟨after, asked, left⟩ | ⟨after, asked, same⟩
      · refine .inl ⟨rfl, after.setAttaching true, by simp only [asked], ?_⟩
        rw [← left]
        rfl
      · exact .inr (.inr (.inl ⟨.inl rfl, after, by simp only [asked], same⟩))
    | allocated =>
      have talking : desk.composer.phase ≠ .halted := by simp [phase]
      cases sent : desk.send (.insertImage file) with
      | mk accepted after =>
        cases accepted with
        | false =>
          exact .inr (.inr (.inl ⟨.inr rfl, after, rfl, send_refused_account talking sent⟩))
        | true =>
          refine .inr (.inl ⟨rfl, after.setAttaching true, rfl, ?_⟩)
          rw [← send_accepted talking sent]
          rfl
    | halted => exact .inr (.inr (.inr (.inl ⟨rfl, rfl⟩)))
    | allocating => exact .inr (.inr (.inr (.inr ⟨rfl, rfl⟩)))

/-- A decision about an upload sends at most the file. -/
theorem offer_moves (desk : Desk (Logged τ)) (file : UploadedFile)
    (given : action.file?.isSome) :
    ReflTransGen (Move action) desk.account (desk.offer file).2.account := by
  rcases offer_cases desk file with ⟨-, ignored⟩ | ⟨free, ⟨draft, after, asked, left⟩ |
    ⟨allocated, after, attached, left⟩ | ⟨-, after, refused, same⟩ | ⟨-, ended⟩ | ⟨-, waiting⟩⟩
  · rw [ignored]
  · rw [asked, left]
    have request : Move action desk.account _ :=
      .request (some file) (.inr given) draft fun _ => free
    exact .single (by simpa using request)
  · rw [attached, left]
    exact .single (.insertImage file allocated free)
  · rw [refused, same]
  · rw [ended]
  · rw [waiting]

/-- The result of an upload is taken by moves. -/
theorem upload_moves (desk : Desk (Logged τ)) (result : Option UploadedFile)
    (given : action.file? = result) :
    ReflTransGen (Move action) desk.account (desk.upload result).2.account := by
  cases result with
  | none => exact .refl
  | some file => exact offer_moves desk file (by rw [given]; rfl)

/-- So is the result of a further attempt, once an image on its way was forgotten. -/
theorem retryUpload_moves (desk : Desk (Logged τ)) (result : Option UploadedFile) :
    ReflTransGen (Move (.retryUpload result)) desk.account
      (desk.retryUpload result).2.account :=
  .head (.forget _ ⟨result, rfl⟩) (upload_moves (desk.setAttaching false) result rfl)

omit [Transport τ] in
/-- An id is taken if there is a ticket for it, and rejected otherwise. -/
theorem receiveId_cases (desk : Desk (Logged τ)) (now : Int64) (id : UInt64) :
    (∃ ticket after, desk.composer.ticket = some ticket ∧
      desk.receiveId now id = (.ok (), after) ∧
      after.account = desk.account.allocated ticket now id) ∨
    (desk.composer.ticket = none ∧ desk.receiveId now id = (.error ⟨id⟩, desk)) := by
  unfold receiveId
  cases desk.composer.ticket with
  | none => exact .inr ⟨rfl, rfl⟩
  | some ticket => exact .inl ⟨ticket, _, rfl, rfl, rfl⟩

omit [Transport τ] in
/-- A copy of the own post is merged, any other post is left alone. -/
theorem mergeEcho_cases (desk : Desk (Logged τ)) (data : Post) :
    (desk.composer.id ≠ 0 ∧ desk.composer.id = data.id ∧ ∃ after,
      desk.mergeEcho data = (desk.registry.contains data.id, after) ∧
      after.account = desk.account.merged data) ∨
    desk.mergeEcho data = (false, desk) := by
  unfold mergeEcho
  split
  · exact .inr rfl
  · next h =>
    simp only [not_or, ne_eq, Decidable.not_not] at h
    exact .inl ⟨h.1, h.2, _, rfl, rfl⟩

omit [Transport τ] in
/-- An id is taken in one move. -/
theorem receiveId_moves (desk : Desk (Logged τ)) (now : Int64) (id : UInt64) :
    ReflTransGen (Move (.receiveId now id)) desk.account (desk.receiveId now id).2.account := by
  rcases receiveId_cases desk now id with ⟨ticket, after, waiting, taken, given⟩ | ⟨-, rejected⟩
  · rw [taken, given]
    exact .single (.receiveId rfl waiting)
  · rw [rejected]

omit [Transport τ] in
/-- A copy of the own post is merged in one move. -/
theorem mergeEcho_moves (desk : Desk (Logged τ)) (data : Post) :
    ReflTransGen (Move (.mergeEcho data)) desk.account (desk.mergeEcho data).2.account := by
  rcases mergeEcho_cases desk data with ⟨known, own, after, merged, same⟩ | ignored
  · rw [merged, same]
    exact .single (.mergeEcho rfl known own)
  · rw [ignored]

/-- An action is a sequence of moves. -/
theorem perform_moves (desk : Desk (Logged τ)) (action : Action) :
    ReflTransGen (Move action) desk.account (desk.perform action).2.account := by
  cases action with
  | edit input => exact edit_moves desk input rfl
  | close input => exact close_moves desk input rfl
  | abandon => exact abandon_moves desk
  | halt =>
    have ended : Move .halt desk.account _ := .halt desk.account
    simpa [perform, halt, account] using .single ended
  | hideImage => exact hideImage_moves desk
  | upload result => exact upload_moves desk result rfl
  | retryUpload result => exact retryUpload_moves desk result
  | offer file => exact offer_moves desk file rfl
  | receiveId now id => exact receiveId_moves desk now id
  | mergeEcho data => exact mergeEcho_moves desk data

/-- What holds at first and is kept by every move holds after every history. -/
theorem run_induct {P : Account → Prop} {desk : Desk (Logged τ)} (actions : List Action)
    (first : P desk.account)
    (keep : ∀ {action : Action} {a b : Account}, Move action a b → P a → P b) :
    P (desk.run actions).account := by
  induction actions generalizing desk with
  | nil => exact first
  | cons action actions ih =>
    rw [run_cons]
    exact ih (Account.induct (perform_moves desk action) first keep)

end Desk

end LiveThread
