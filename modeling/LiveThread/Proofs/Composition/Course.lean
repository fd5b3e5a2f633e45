import LiveThread.Proofs.Composition.Image

/-!
# The course of a composition

The messages of a composition come in one order: the request for an id, then
whatever is streamed, then that the post is closed, and nothing after that.
What is streamed leaves only after the id was taken, and the image is hidden
only after it was sent or seen.

Main results:

- Definition `InOrder`: the order of the messages.
- Definition `Account.Orderly`: what has left at each phase.
- Theorem `Move.keeps_orderly`: no move breaks the order.
- Theorems `Desk.takesId_of_turn` and `Desk.hasImage_turn`: what makes a post have its id or be
  known to have an image.
- Theorem `Desk.sent_in_order`: every history keeps the order, and what is streamed was due.
-/

namespace LiveThread

/-! ## The order of messages -/

/-- A request for an id, and after it only what is streamed. -/
def Opened (messages : List ClientMessage) : Prop :=
  ∃ request streamed, messages = .insertPost request :: streamed ∧
    ∀ m ∈ streamed, m.streams = true

/-- No message; or a request for an id, then what is streamed, and in the end perhaps that the post
is closed. -/
def InOrder (messages : List ClientMessage) : Prop :=
  messages = [] ∨ ∃ opened, Opened opened ∧ (messages = opened ∨ messages = opened ++ [.closePost])

/-- A request for an id opens a post. -/
theorem opened_request (request : AllocationRequest) : Opened [.insertPost request] :=
  ⟨request, [], rfl, by simp⟩

/-- More may be streamed. -/
theorem Opened.stream {messages : List ClientMessage} (h : Opened messages) {m : ClientMessage}
    (streams : m.streams = true) : Opened (messages ++ [m]) := by
  obtain ⟨request, streamed, rfl, all⟩ := h
  refine ⟨request, streamed ++ [m], rfl, ?_⟩
  intro other mem
  rcases List.mem_append.1 mem with mem | mem
  · exact all other mem
  · rw [List.mem_singleton.1 mem]
    exact streams

theorem Opened.inOrder {messages : List ClientMessage} (h : Opened messages) : InOrder messages :=
  .inr ⟨messages, h, .inl rfl⟩

theorem Opened.inOrder_close {messages : List ClientMessage} (h : Opened messages) :
    InOrder (messages ++ [.closePost]) :=
  .inr ⟨messages, h, .inr rfl⟩

/-! ## What has left at each phase -/

/-- Of a draft nothing has left, and only the request for an id while it is awaited; once there is
an id, what has left opens a post. -/
structure Account.Orderly (a : Account) : Prop where
  draft : a.composer.phase = .draft → a.sent = []
  asked : a.composer.phase = .allocating → ∃ request, a.sent = [.insertPost request]
  opened : a.composer.phase = .allocated → Opened a.sent
  inOrder : InOrder a.sent

namespace Account.Orderly

variable {a b : Account}

/-- What ends a composition keeps the order if what has left is in order. -/
theorem ended (halted : b.composer.phase = .halted) (h : InOrder b.sent) : b.Orderly where
  draft := by simp [halted]
  asked := by simp [halted]
  opened := by simp [halted]
  inOrder := h

/-- So does what gives a post its id if what has left opens it. -/
theorem of_opened (allocated : b.composer.phase = .allocated) (h : Opened b.sent) : b.Orderly where
  draft := by simp [allocated]
  asked := by simp [allocated]
  opened := fun _ => h
  inOrder := h.inOrder

/-- What has left opens a post if the id was asked for and the composition goes on. -/
theorem opened_of_asked (h : a.Orderly)
    (asked : a.composer.phase = .allocating ∨ a.composer.phase = .allocated) : Opened a.sent := by
  rcases asked with allocating | allocated
  · obtain ⟨request, sent⟩ := h.asked allocating
    rw [sent]
    exact opened_request request
  · exact h.opened allocated

/-- What sends nothing and keeps the phase keeps the order. -/
theorem congr (h : a.Orderly) (same : b.sent = a.sent)
    (phase : b.composer.phase = a.composer.phase) : b.Orderly where
  draft := by
    rw [same, phase]
    exact h.draft
  asked := by
    rw [same, phase]
    exact h.asked
  opened := by
    rw [same, phase]
    exact h.opened
  inOrder := by
    rw [same]
    exact h.inOrder

/-- A post that has its id may stream. -/
theorem stream (h : a.Orderly) (allocated : a.composer.phase = .allocated) {m : ClientMessage}
    (streams : m.streams = true) (sent : b.sent = a.sent ++ [m])
    (still : b.composer.phase = .allocated) : b.Orderly := by
  apply of_opened still
  rw [sent]
  exact (h.opened allocated).stream streams

end Account.Orderly

/-- No move breaks the order. -/
theorem Move.keeps_orderly {action : Action} {a b : Account} (move : Move action a b)
    (h : a.Orderly) : b.Orderly := by
  cases move with
  | request image given draft free =>
    have sent : ((a.requested image).attaching (a.composer.attachingImage || image.isSome)).sent
        = [.insertPost (Desk.allocationRequest a.composer.config a.composer.liveInput image)] := by
      simp only [Account.attaching, Account.requested, h.draft draft, List.nil_append]
    constructor
    · rintro ⟨⟩
    · intro _
      exact ⟨_, sent⟩
    · rintro ⟨⟩
    · rw [sent]
      exact (opened_request _).inOrder
  | @change edit typed allocated between =>
    exact h.stream allocated edit.streams_message rfl allocated
  | close asked =>
    apply Account.Orderly.ended rfl
    exact (h.opened_of_asked asked).inOrder_close
  | abandon unfinished => exact .ended rfl h.inOrder
  | halt => exact .ended rfl h.inOrder
  | hideImage allocated holds => exact h.stream allocated rfl rfl allocated
  | insertImage file allocated free => exact h.stream allocated rfl rfl allocated
  | receiveId answer waiting =>
    cases phase : a.composer.phase with
    | allocating =>
      apply Account.Orderly.of_opened
      · simp [Account.allocated, phase, Phase.after, Phase.next?]
      · exact h.opened_of_asked (.inl phase)
    | draft | allocated | halted =>
      refine h.congr rfl ?_
      simp [Account.allocated, phase, Phase.after, Phase.next?]
  | note | forget | mergeEcho => exact h.congr rfl rfl

/-! ## What gives a post its id and its image -/

/-- Unless an id is taken, no move makes a post have one. -/
theorem Move.unallocated {action : Action} {a b : Account} (move : Move action a b)
    (unanswered : action.named? = none) (before : a.composer.phase ≠ .allocated) :
    b.composer.phase ≠ .allocated := by
  cases move with
  | request | close | abandon | halt => rintro ⟨⟩
  | receiveId answer waiting =>
    rw [answer] at unanswered
    cases unanswered
  | note | change | hideImage | insertImage | forget | mergeEcho => exact before

/-- Unless the server answers, no move makes an image known. -/
theorem Move.hasImage_eq {action : Action} {a b : Account} (move : Move action a b)
    (unanswered : action.named? = none) : b.composer.hasImage = a.composer.hasImage := by
  cases move with
  | receiveId answer waiting | mergeEcho answer known own =>
    rw [answer] at unanswered
    cases unanswered
  | _ => rfl

namespace Desk

variable {τ : Type} [Transport τ]

/-- An answer of the server gives the composition its id, or it is a copy of its post, or it does
nothing. -/
theorem perform_answer_cases (desk : Desk (Logged τ)) {action : Action} {id : UInt64}
    (answered : action.named? = some id) :
    (∃ ticket now, desk.composer.ticket = some ticket ∧
      (desk.perform action).1.takesId = true ∧
      (desk.perform action).2.account = desk.account.allocated ticket now id) ∨
    (∃ data, action = .mergeEcho data ∧ desk.composer.id ≠ 0 ∧ data.id = desk.composer.id ∧
      (desk.perform action).2.account = desk.account.merged data) ∨
    (desk.perform action).2.account = desk.account := by
  cases action with
  | receiveId now id =>
    cases answered
    simp only [perform]
    rcases receiveId_cases desk now id with ⟨ticket, after, waiting, taken, given⟩ | ⟨-, rejected⟩
    · rw [taken]
      exact .inl ⟨ticket, now, waiting, rfl, given⟩
    · rw [rejected]
      exact .inr (.inr rfl)
  | mergeEcho data =>
    simp only [perform]
    rcases mergeEcho_cases desk data with ⟨known, own, after, merged, same⟩ | ignored
    · rw [merged]
      exact .inr (.inl ⟨data, rfl, known, own.symm, same⟩)
    · rw [ignored]
      exact .inr (.inr rfl)
  | _ => cases answered

/-- A post comes to have its id by an action that takes one. -/
theorem takesId_of_turn {desk : Desk (Logged τ)} {action : Action}
    (before : desk.composer.phase ≠ .allocated)
    (after : (desk.perform action).2.composer.phase = .allocated) :
    (desk.perform action).1.takesId = true := by
  cases answered : action.named? with
  | none =>
    have still : (desk.perform action).2.account.composer.phase ≠ .allocated :=
      Account.induct (P := fun a => a.composer.phase ≠ .allocated) (perform_moves desk action)
        before fun move => move.unallocated answered
    exact absurd after still
  | some id =>
    rcases perform_answer_cases desk answered with ⟨-, -, -, taken, -⟩ | ⟨data, -, -, -, same⟩ |
      same
    · exact taken
    · have phase : (desk.perform action).2.composer.phase = desk.composer.phase :=
        congrArg (·.composer.phase) same
      exact absurd (phase.symm.trans after) before
    · have phase : (desk.perform action).2.composer.phase = desk.composer.phase :=
        congrArg (·.composer.phase) same
      exact absurd (phase.symm.trans after) before

/-- An image comes to be known when an id is taken that was asked for with an image, or when the
server's copy of the own post has an image. -/
theorem hasImage_turn {desk : Desk (Logged τ)} {action : Action}
    (before : ¬ desk.composer.hasImage = true)
    (after : (desk.perform action).2.composer.hasImage = true) :
    (∃ ticket, desk.composer.ticket = some ticket ∧ ticket.carriesImage = true) ∨
    ∃ data, action = .mergeEcho data ∧ desk.composer.id ≠ 0 ∧ data.id = desk.composer.id ∧
      data.image.isSome = true := by
  cases answered : action.named? with
  | none =>
    have still : (desk.perform action).2.account.composer.hasImage = desk.composer.hasImage :=
      Account.induct (P := fun a => a.composer.hasImage = desk.composer.hasImage)
        (perform_moves desk action) rfl fun move same => (move.hasImage_eq answered).trans same
    exact absurd (still.symm.trans after) before
  | some id =>
    rcases perform_answer_cases desk answered with ⟨ticket, now, waiting, -, given⟩ |
      ⟨data, rfl, known, own, same⟩ | same
    · have image : (desk.perform action).2.composer.hasImage
          = (desk.composer.hasImage || ticket.carriesImage) :=
        congrArg (·.composer.hasImage) given
      rw [image, Bool.or_eq_true] at after
      exact .inl ⟨ticket, waiting, after.resolve_left before⟩
    · have image : (desk.perform (.mergeEcho data)).2.composer.hasImage
          = (desk.composer.hasImage || data.image.isSome) :=
        congrArg (·.composer.hasImage) same
      rw [image, Bool.or_eq_true] at after
      exact .inr ⟨data, rfl, known, own, after.resolve_left before⟩
    · have image : (desk.perform action).2.composer.hasImage = desk.composer.hasImage :=
        congrArg (·.composer.hasImage) same
      exact absurd (image.symm.trans after) before

/-! ## Histories -/

section
variable (config : ComposerConfig) (board : String) (thread : UInt64) (now : Int64)
  (registry : Registry) (way : τ)

/-- The order is kept in every history. -/
theorem orderly_run (actions : List Action) :
    ((begin config board thread now registry way).run actions).account.Orderly := by
  refine run_induct actions ⟨fun _ => rfl, ?_, ?_, .inl rfl⟩ Move.keeps_orderly
  · rintro ⟨⟩
  · rintro ⟨⟩

/-- After a history a post has its id only if one was taken in it. -/
theorem exists_takesId (actions : List Action)
    (allocated : ((begin config board thread now registry way).run actions).composer.phase
      = .allocated) :
    ∃ answer ∈ (begin config board thread now registry way).answers actions,
      answer.takesId = true := by
  have before : ¬ (begin config board thread now registry way).composer.phase = .allocated := by
    rintro ⟨⟩
  obtain ⟨past, action, rest, rfl, no, yes⟩ := exists_turn
    (P := fun d : Desk (Logged τ) => d.composer.phase = .allocated) before allocated
  exact ⟨_, perform_mem_answers _ past action rest, takesId_of_turn no yes⟩

/-- After a history a composition holds an image only if one was sent in it or if the server's copy
of the own post showed one. -/
theorem image_sent_or_shown (actions : List Action)
    (holds : ((begin config board thread now registry way).run actions).composer.holdsImage
      = true) :
    images ((begin config board thread now registry way).run actions).transport.sent ≠ [] ∨
    ∃ past data rest, actions = past ++ .mergeEcho data :: rest ∧
      ((begin config board thread now registry way).run past).composer.id ≠ 0 ∧
      data.id = ((begin config board thread now registry way).run past).composer.id ∧
      data.image.isSome = true := by
  rcases Bool.or_eq_true_iff.1 holds with known | attaching
  · have before : ¬ (begin config board thread now registry way).composer.hasImage = true := by
      rintro ⟨⟩
    obtain ⟨past, action, rest, rfl, no, yes⟩ := exists_turn
      (P := fun d : Desk (Logged τ) => d.composer.hasImage = true) before known
    rcases hasImage_turn no yes with ⟨ticket, waiting, carries⟩ | ⟨data, rfl, own⟩
    · left
      rw [run_append]
      apply images_run_ne_nil
      exact (pictured_run config board thread now registry way past).carried ticket waiting carries
    · exact .inr ⟨past, data, rest, rfl, own⟩
  · exact .inl ((pictured_run config board thread now registry way actions).attaching attaching)

/-- After every history the messages that left are in order: nothing; or a request for an id, what
was streamed, and perhaps that the post is closed.  A streamed message left in an action that began
when the post had its id and that left it so, unless the next message and the last one of the action
was that the post is closed; an id had been taken before; and if the message was to hide the image,
an image had left before or the server's copy of the own post had shown one. -/
theorem sent_in_order (actions : List Action) :
    let start := begin config board thread now registry way
    InOrder (start.run actions).transport.sent ∧
    ∀ (i : Nat) (m : ClientMessage), (start.run actions).transport.sent[i]? = some m →
      m.streams = true →
      ∃ past action rest, actions = past ++ action :: rest ∧
        (start.run past).transport.sent.length = i ∧
        (start.run past).composer.phase = .allocated ∧
        (((start.run past).perform action).2.transport.sent
            = (start.run past).transport.sent ++ [m] ∧
          ((start.run past).perform action).2.composer.phase = .allocated ∨
        ((start.run past).perform action).2.transport.sent
            = (start.run past).transport.sent ++ [m, .closePost]) ∧
        (∃ answer ∈ start.answers past, answer.takesId = true) ∧
        (m = .spoiler →
          images (start.run past).transport.sent ≠ [] ∨
          ∃ earlier data later, past = earlier ++ .mergeEcho data :: later ∧
            (start.run earlier).composer.id ≠ 0 ∧
            data.id = (start.run earlier).composer.id ∧ data.image.isSome = true) := by
  intro start
  refine ⟨(orderly_run config board thread now registry way actions).inOrder, ?_⟩
  intro i m left streams
  obtain ⟨past, action, rest, messages, rfl, sent, sends, later, found⟩ :=
    exists_departure (Nat.zero_le i) left
  obtain ⟨first, allocated, hides, ending⟩ := sends.streamed found streams
  refine ⟨past, action, rest, rfl, by omega, allocated, ?_, ?_, ?_⟩
  · rw [sent]
    rcases ending with ⟨rfl, still⟩ | rfl
    · exact .inl ⟨rfl, still⟩
    · exact .inr rfl
  · exact exists_takesId config board thread now registry way past allocated
  · intro spoiler
    exact image_sent_or_shown config board thread now registry way past (hides spoiler)

end

end Desk

end LiveThread
