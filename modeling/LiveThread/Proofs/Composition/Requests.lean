import LiveThread.Proofs.Composition.Course

/-!
# Requests for an id

A composition asks for an id at most once, and it takes at most one.  Its
ticket is there exactly between the two, and the other fields follow from its
phase: a draft has nothing but its texts, a composition that waits still owns
its post, and one that has its id has given it away.

Main results:

- Definition `requests`: the requests for an id among messages.
- Definitions `Account.Unasked` and `Account.Asked`: an action asks for no id, or for one.
- Definition `Composer.Coherent`: the fields that go with a phase.
- Theorem `Move.keeps_coherent`: no move breaks that.
- Theorem `Desk.requests_run`: every request was answered or is waited for.
- Theorem `Desk.registeredPost_spec`: the post that the registry gets.
- Theorem `Desk.perform_error`: a failed action was refused by the way out.
- Theorem `Desk.fields_agree_with_phase`: all this holds after every history.
-/

namespace LiveThread

/-! ## Requests of a composition -/

/-- The requests for an id among messages. -/
def requests (messages : List ClientMessage) : List ClientMessage :=
  messages.filter fun m => m.kind = .insertPost

@[simp]
theorem requests_append (first second : List ClientMessage) :
    requests (first ++ second) = requests first ++ requests second :=
  List.filter_append ..

namespace Account

/-- Between two accounts no id was asked for or given. -/
def Unasked (a b : Account) : Prop :=
  b.composer.ticket = a.composer.ticket ∧
  (a.composer.phase ≠ .draft → b.composer.phase ≠ .draft) ∧
  ∃ left, b.sent = a.sent ++ left ∧ requests left = []

/-- Between two accounts an id was asked for, once. -/
def Asked (a b : Account) : Prop :=
  a.composer.phase = .draft ∧ b.composer.phase ≠ .draft ∧ b.composer.ticket.isSome ∧
  ∃ left request, b.sent = a.sent ++ left ∧ requests left = [request]

variable {a b c : Account}

theorem Unasked.refl (a : Account) : Unasked a a :=
  ⟨rfl, id, [], by simp, rfl⟩

theorem Unasked.trans (first : Unasked a b) (second : Unasked b c) : Unasked a c := by
  obtain ⟨ticket, phase, left, sent, silent⟩ := first
  obtain ⟨ticket', phase', left', sent', silent'⟩ := second
  exact ⟨ticket'.trans ticket, fun h => phase' (phase h), left ++ left',
    by rw [sent', sent, List.append_assoc],
    by rw [requests_append, silent, silent', List.append_nil]⟩

theorem Unasked.trans_asked (first : Unasked a b) (second : Asked b c) : Asked a c := by
  obtain ⟨ticket, phase, left, sent, silent⟩ := first
  obtain ⟨draft, begun, waiting, left', request, sent', one⟩ := second
  exact ⟨by_contra fun h => phase h draft, begun, waiting, left ++ left', request,
    by rw [sent', sent, List.append_assoc],
    by rw [requests_append, silent, one, List.nil_append]⟩

theorem Asked.trans_unasked (first : Asked a b) (second : Unasked b c) : Asked a c := by
  obtain ⟨draft, begun, waiting, left, request, sent, one⟩ := first
  obtain ⟨ticket, phase, left', sent', silent⟩ := second
  exact ⟨draft, phase begun, by rw [ticket]; exact waiting, left ++ left', request,
    by rw [sent', sent, List.append_assoc],
    by rw [requests_append, one, silent, List.append_nil]⟩

end Account

/-- Unless an id is given, a move asks for none, or it asks for one with an input or a file. -/
theorem Move.unasked_or_asked {action : Action} {a b : Account} (move : Move action a b)
    (own : ∀ now id, action ≠ .receiveId now id) :
    Account.Unasked a b ∨
      Account.Asked a b ∧ (action.input?.isSome ∨ action.file?.isSome) := by
  cases move with
  | request image given draft free =>
    exact .inr ⟨⟨draft, by rintro ⟨⟩, rfl, [_], _, rfl, rfl⟩, given⟩
  | @change edit typed allocated between =>
    refine .inl ⟨rfl, id, [edit.message], rfl, ?_⟩
    cases edit <;> rfl
  | close asked => exact .inl ⟨rfl, by rintro - ⟨⟩, [.closePost], rfl, rfl⟩
  | abandon unfinished => exact .inl ⟨rfl, by rintro - ⟨⟩, [], by simp [Account.abandoned], rfl⟩
  | halt => exact .inl ⟨rfl, by rintro - ⟨⟩, [], by simp, rfl⟩
  | hideImage allocated holds => exact .inl ⟨rfl, id, [.spoiler], rfl, rfl⟩
  | insertImage file allocated free => exact .inl ⟨rfl, id, [.insertImage file], rfl, rfl⟩
  | receiveId answer waiting => exact absurd answer (own _ _)
  | note | forget | mergeEcho =>
    exact .inl ⟨rfl, id, [], by simp [Account.noted, Account.attaching, Account.merged], rfl⟩

namespace Desk

variable {τ : Type} [Transport τ]

/-- Unless an id is given, an action asks for none, or it asks for one with an input or a file. -/
theorem perform_unasked_or_asked (desk : Desk (Logged τ)) {action : Action}
    (own : ∀ now id, action ≠ .receiveId now id) :
    Account.Unasked desk.account (desk.perform action).2.account ∨
      Account.Asked desk.account (desk.perform action).2.account ∧
        (action.input?.isSome ∨ action.file?.isSome) := by
  refine Account.induct (P := fun b => Account.Unasked desk.account b ∨
    Account.Asked desk.account b ∧ (action.input?.isSome ∨ action.file?.isSome))
    (perform_moves desk action) (.inl (.refl _)) fun move before => ?_
  rcases before with before | ⟨before, given⟩
  · rcases move.unasked_or_asked own with after | ⟨after, given⟩
    · exact .inl (before.trans after)
    · exact .inr ⟨before.trans_asked after, given⟩
  · rcases move.unasked_or_asked own with after | ⟨⟨draft, -⟩, -⟩
    · exact .inr ⟨before.trans_unasked after, given⟩
    · exact absurd draft before.2.1

end Desk

/-! ## The fields that go with a phase -/

/-- What the phase of a composition says about its other fields. -/
structure Composer.Coherent (c : Composer) : Prop where
  draft : c.phase = .draft →
    c.id = 0 ∧ c.sentBody = "" ∧ c.attachingImage = false ∧ c.hasImage = false ∧ c.ticket = none
  allocating : c.phase = .allocating → c.ticket.isSome ∧ c.id = 0
  allocated : c.phase = .allocated → c.ticket = none ∧ c.draft = none
  owned : c.phase = .draft ∨ c.phase = .allocating →
    ∃ post, c.draft = some post ∧ post.body = c.sentBody
  stillOpen : ∀ post, c.draft = some post → post.board = c.board ∧ post.editing = true
  waiting : c.ticket.isSome → c.phase = .allocating ∨ c.phase = .halted

namespace Composer.Coherent

variable {c d : Composer}

/-- The end of a composition leaves nothing to say but who owns the post and who waits. -/
theorem ended (halted : d.phase = .halted)
    (stillOpen : ∀ post, d.draft = some post → post.board = d.board ∧ post.editing = true) :
    d.Coherent where
  draft := by simp [halted]
  allocating := by simp [halted]
  allocated := by simp [halted]
  owned := by simp [halted]
  stillOpen := stillOpen
  waiting := fun _ => .inr halted

/-- Once the post has its id only the ticket and the draft matter. -/
theorem served (allocated : d.phase = .allocated) (ticket : d.ticket = none)
    (draft : d.draft = none) : d.Coherent where
  draft := by simp [allocated]
  allocating := by simp [allocated]
  allocated := fun _ => ⟨ticket, draft⟩
  owned := by simp [allocated]
  stillOpen := by simp [draft]
  waiting := by simp [ticket]

end Composer.Coherent

/-- A new composition is coherent. -/
theorem Composer.new_coherent (config : ComposerConfig) (board : String) (thread : UInt64)
    (now : Int64) : (Composer.new config board thread now).Coherent where
  draft := fun _ => ⟨rfl, rfl, rfl, rfl, rfl⟩
  allocating := by rintro ⟨⟩
  allocated := by rintro ⟨⟩
  owned := fun _ => ⟨_, rfl, rfl⟩
  stillOpen := by
    rintro post ⟨⟩
    exact ⟨rfl, rfl⟩
  waiting := by rintro ⟨⟩

/-- No move makes the fields disagree with the phase. -/
theorem Move.keeps_coherent {action : Action} {a b : Account} (move : Move action a b)
    (h : a.composer.Coherent) : b.composer.Coherent := by
  cases move with
  | note input => exact ⟨h.draft, h.allocating, h.allocated, h.owned, h.stillOpen, h.waiting⟩
  | request image given draft free =>
    obtain ⟨unnamed, unsent, -⟩ := h.draft draft
    obtain ⟨post, owned, body⟩ := h.owned (.inl draft)
    have board_open := h.stillOpen post owned
    refine ⟨by rintro ⟨⟩, fun _ => ⟨rfl, unnamed⟩, by rintro ⟨⟩, fun _ => ?_, ?_, fun _ => .inl rfl⟩
    · by_cases empty : a.composer.liveInput = ""
      · exact ⟨post, by simp [Account.attaching, Account.requested, empty, owned],
          by simp [Account.attaching, Account.requested, empty, body]⟩
      · exact ⟨{ post with body := a.composer.liveInput },
          by simp [Account.attaching, Account.requested, empty, owned],
          by simp [Account.attaching, Account.requested, empty]⟩
    · intro other same
      by_cases empty : a.composer.liveInput = ""
      · obtain rfl : post = other := by
          simpa [Account.attaching, Account.requested, empty, owned] using same
        exact board_open
      · obtain rfl : { post with body := a.composer.liveInput } = other := by
          simpa [Account.attaching, Account.requested, empty, owned] using same
        exact board_open
  | change typed allocated between =>
    obtain ⟨ticket, draft⟩ := h.allocated allocated
    exact .served allocated ticket draft
  | close asked => exact .ended rfl (by rintro _ ⟨⟩)
  | abandon unfinished => exact .ended rfl (by rintro _ ⟨⟩)
  | halt => exact .ended rfl h.stillOpen
  | hideImage allocated holds => exact h
  | insertImage file allocated free =>
    obtain ⟨ticket, draft⟩ := h.allocated allocated
    exact .served allocated ticket draft
  | forget again =>
    refine ⟨fun draft => ?_, h.allocating, h.allocated, h.owned, h.stillOpen, h.waiting⟩
    obtain ⟨unnamed, unsent, -, unknown, unasked⟩ := h.draft draft
    exact ⟨unnamed, unsent, rfl, unknown, unasked⟩
  | receiveId answer waiting =>
    rcases h.waiting (by rw [waiting]; rfl) with allocating | halted
    · exact .served (by simp [Account.allocated, allocating, Phase.after, Phase.next?]) rfl rfl
    · exact .ended (by simp [Account.allocated, halted]) (by rintro _ ⟨⟩)
  | mergeEcho answer known own =>
    refine ⟨fun draft => absurd (h.draft draft).1 known, h.allocating, h.allocated, h.owned,
      h.stillOpen, h.waiting⟩

/-- No move takes a composition to another thread. -/
theorem Move.place_eq {action : Action} {a b : Account} (move : Move action a b) :
    b.composer.board = a.composer.board ∧ b.composer.thread = a.composer.thread := by
  cases move <;> exact ⟨rfl, rfl⟩

/-! ## Requests in order -/

/-- What is streamed asks for no id. -/
theorem ClientMessage.kind_ne_of_streams {m : ClientMessage} (streams : m.streams = true) :
    m.kind ≠ .insertPost := by
  cases m <;> simp [ClientMessage.streams, ClientMessage.kind] at streams ⊢

theorem requests_of_streams {messages : List ClientMessage}
    (streams : ∀ m ∈ messages, m.streams = true) : requests messages = [] := by
  apply List.filter_eq_nil_iff.2
  intro m mem
  simp [ClientMessage.kind_ne_of_streams (streams m mem)]

/-- Messages in order ask for an id at most once. -/
theorem InOrder.length_requests_le {messages : List ClientMessage} (h : InOrder messages) :
    (requests messages).length ≤ 1 := by
  have opened : ∀ messages, Opened messages → (requests messages).length = 1 := by
    rintro _ ⟨request, streamed, rfl, streams⟩
    rw [← List.singleton_append, requests_append, requests_of_streams streams]
    rfl
  rcases h with rfl | ⟨messages, first, rfl | rfl⟩
  · exact Nat.zero_le 1
  · exact Nat.le_of_eq (opened messages first)
  · have closes : requests [ClientMessage.closePost] = [] := rfl
    rw [requests_append, closes, List.append_nil]
    exact Nat.le_of_eq (opened messages first)

/-! ## Ids -/

/-- The error that an answer reports. -/
def Answer.error? : Answer → Option ComposeError
  | edited (.error e) | closed (.error e) | hidden (.error e) | uploaded (some (.error e)) => some e
  | _ => none

namespace Desk

variable {τ : Type} [Transport τ]

/-- Only an answer of the server gives an id. -/
theorem takesId_eq_false (desk : Desk τ) {action : Action}
    (own : ∀ now id, action ≠ .receiveId now id) : (desk.perform action).1.takesId = false := by
  cases action with
  | receiveId now id => exact absurd rfl (own now id)
  | _ => rfl

omit [Transport τ] in
/-- An id is taken exactly if it is waited for. -/
theorem receiveId_eq_ok_iff (desk : Desk (Logged τ)) (now : Int64) (id : UInt64) :
    (desk.receiveId now id).1 = .ok () ↔ desk.composer.ticket.isSome := by
  rcases receiveId_cases desk now id with ⟨ticket, after, waiting, taken, -⟩ | ⟨idle, rejected⟩
  · simp [taken, waiting]
  · simp [rejected, idle]

omit [Transport τ] in
/-- The post that the registry gets when an id is taken: it has the id, belongs to the thread, has
the sent body, counts as shown, and is open exactly if the composition had not ended. -/
theorem registeredPost_spec {c : Composer} (h : c.Coherent) (waiting : c.ticket.isSome)
    (now : Int64) (id : UInt64) :
    (registeredPost c id now).id = id ∧ (registeredPost c id now).op = c.thread ∧
      (registeredPost c id now).board = c.board ∧ (registeredPost c id now).body = c.sentBody ∧
      (registeredPost c id now).seenOnce = true ∧
      ((registeredPost c id now).editing = true ↔ c.phase = .allocating) := by
  have kept : (c.draft.getD (Post.draft c.thread c.board now)).board = c.board ∧
      (c.draft.getD (Post.draft c.thread c.board now)).editing = true := by
    cases owned : c.draft with
    | none => exact ⟨rfl, rfl⟩
    | some post => exact h.stillOpen post owned
  refine ⟨rfl, rfl, kept.1, rfl, rfl, ?_⟩
  rcases h.waiting waiting with phase | phase
  · simp [registeredPost, phase, Phase.next?, kept.2]
  · simp [registeredPost, phase, Phase.next?]

/-- An input that fails was refused by the way out. -/
theorem edit_error {desk : Desk (Logged τ)} {input : String} {e : ComposeError}
    (failed : (desk.edit input).1 = .error e) : e = .connectionClosed := by
  rcases edit_cases desk input with ⟨_, outcome, -⟩ | ⟨_, outcome, -⟩ | ⟨_, _, outcome, -⟩ |
    ⟨_, outcome, -⟩
  all_goals rw [outcome] at failed; cases failed
  rfl

/-- So was a close that fails. -/
theorem close_error {desk : Desk (Logged τ)} {input : String} {e : ComposeError}
    (failed : (desk.close input).1 = .error e) : e = .connectionClosed := by
  rcases close_cases desk input with ⟨_, after, taken, closed⟩ | ⟨_, _, _, ⟨-, closed⟩ |
    ⟨-, closed⟩ | ⟨-, ⟨_, closed, -⟩ | ⟨_, closed, -⟩⟩⟩
  all_goals rw [closed] at failed; cases failed
  · exact edit_error (congrArg Prod.fst taken)
  · rfl

/-- So was an upload that fails. -/
theorem upload_error {desk : Desk (Logged τ)} {result : Option UploadedFile} {e : ComposeError}
    (failed : (desk.upload result).1 = some (.error e)) : e = .connectionClosed := by
  cases result with
  | none => cases failed
  | some file =>
    have failed : (desk.offer file).1 = some (.error e) := failed
    rcases offer_cases desk file with ⟨-, outcome⟩ | ⟨-, ⟨-, _, outcome, -⟩ | ⟨-, _, outcome, -⟩ |
      ⟨-, _, outcome, -⟩ | ⟨-, outcome⟩ | ⟨-, outcome⟩⟩
    all_goals rw [outcome] at failed; cases failed
    rfl

/-- An action that fails was refused by the way out: no event comes in a phase that it does not
fit. -/
theorem perform_error {desk : Desk (Logged τ)} {action : Action} {e : ComposeError}
    (failed : (desk.perform action).1.error? = some e) : e = .connectionClosed := by
  have uploads : ∀ (desk : Desk (Logged τ)) (result : Option UploadedFile),
      (Answer.uploaded (desk.upload result).1).error? = some e → e = .connectionClosed := by
    intro desk result failed
    cases outcome : (desk.upload result).1 with
    | none =>
      rw [outcome] at failed
      cases failed
    | some outcome' =>
      rw [outcome] at failed
      cases outcome' with
      | ok _ => cases failed
      | error _ =>
        cases failed
        exact upload_error outcome
  cases action with
  | edit input =>
    have failed : (Answer.edited (desk.edit input).1).error? = some e := failed
    cases outcome : (desk.edit input).1 with
    | ok _ =>
      rw [outcome] at failed
      cases failed
    | error _ =>
      rw [outcome] at failed
      cases failed
      exact edit_error outcome
  | close input =>
    have failed : (Answer.closed (desk.close input).1).error? = some e := failed
    cases outcome : (desk.close input).1 with
    | ok _ =>
      rw [outcome] at failed
      cases failed
    | error _ =>
      rw [outcome] at failed
      cases failed
      exact close_error outcome
  | hideImage =>
    have failed : (Answer.hidden desk.hideImage.1).error? = some e := failed
    rcases hideImage_cases desk with ⟨-, ⟨_, outcome, -⟩ | ⟨_, outcome, -⟩⟩ | outcome
    all_goals rw [outcome] at failed; cases failed
    rfl
  | upload result => exact uploads desk result failed
  | retryUpload result => exact uploads (desk.setAttaching false) result failed
  | offer file => exact uploads desk (some file) failed
  | abandon | halt | receiveId | mergeEcho => cases failed

/-! ## Histories -/

omit [Transport τ] in
/-- A composition that takes an id has it for good. -/
theorem settled_of_receiveId {desk : Desk (Logged τ)} (sound : desk.composer.Sound) {now : Int64}
    {id : UInt64} (taken : (desk.receiveId now id).1 = .ok ()) :
    (desk.receiveId now id).2.composer.Settled id := by
  rcases receiveId_cases desk now id with ⟨ticket, after, waiting, same, given⟩ | ⟨-, rejected⟩
  · have account : desk.account.composer.Sound := sound
    have settled := account.settled_allocated waiting now id
    rw [same]
    rwa [← given] at settled
  · rw [rejected] at taken
    cases taken

omit [Transport τ] in
/-- The registry gets the post of a composition that takes an id. -/
theorem registry_receiveId {desk : Desk (Logged τ)} {now : Int64} {id : UInt64}
    (taken : (desk.receiveId now id).1 = .ok ()) :
    (desk.receiveId now id).2.registry
      = desk.registry.insert (registeredPost desk.composer id now) := by
  rcases receiveId_cases desk now id with ⟨ticket, after, waiting, same, given⟩ | ⟨-, rejected⟩
  · rw [same]
    exact congrArg Account.registry given
  · rw [rejected] at taken
    cases taken

/-- An action that asks for an id adds a ticket, and one that takes an id uses it up. -/
theorem perform_requests {desk : Desk (Logged τ)} (coherent : desk.composer.Coherent)
    (action : Action) :
    (requests (desk.perform action).2.transport.sent).length + desk.composer.ticket.isSome.toNat
      = (requests desk.transport.sent).length
        + (desk.perform action).2.composer.ticket.isSome.toNat
        + (desk.perform action).1.takesId.toNat := by
  by_cases answered : ∃ now id, action = .receiveId now id
  · obtain ⟨now, id, rfl⟩ := answered
    simp only [perform]
    rcases receiveId_cases desk now id with ⟨ticket, last, waiting, taken, same⟩ | ⟨-, rejected⟩
    · have log : last.transport.sent = desk.transport.sent := congrArg Account.sent same
      have served : last.composer.ticket = none := congrArg (·.composer.ticket) same
      rw [taken, log, served, waiting]
      rfl
    · rw [rejected]
      rfl
  · have own : ∀ now id, action ≠ .receiveId now id := by
      intro now id same
      exact answered ⟨now, id, same⟩
    rw [takesId_eq_false desk own]
    rcases perform_unasked_or_asked desk own with ⟨ticket, -, left, sent, silent⟩ |
      ⟨⟨draft, -, waiting, left, request, sent, one⟩, -⟩
    · have log : (desk.perform action).2.transport.sent = desk.transport.sent ++ left := sent
      have same : (desk.perform action).2.composer.ticket = desk.composer.ticket := ticket
      rw [log, requests_append, silent, List.append_nil, same]
      rfl
    · have log : (desk.perform action).2.transport.sent = desk.transport.sent ++ left := sent
      have waits : (desk.perform action).2.composer.ticket.isSome = true := waiting
      have idle : desk.composer.ticket = none := (coherent.draft draft).2.2.2.2
      rw [log, requests_append, one, waits, idle, List.length_append]
      rfl

/-- Whatever a composition with an id does, it keeps it. -/
theorem settled_run {desk : Desk (Logged τ)} {id : UInt64} (settled : desk.composer.Settled id)
    (actions : List Action) : (desk.run actions).composer.Settled id := by
  induction actions generalizing desk with
  | nil => exact settled
  | cons action actions ih => exact ih (settled_perform settled action)

section
variable (config : ComposerConfig) (board : String) (thread : UInt64) (now : Int64)
  (registry : Registry) (way : τ)

/-- The fields agree with the phase after every history. -/
theorem coherent_run (actions : List Action) :
    ((begin config board thread now registry way).run actions).composer.Coherent :=
  run_induct (P := fun a => a.composer.Coherent) actions
    (Composer.new_coherent config board thread now) Move.keeps_coherent

/-- A composition stays in its thread. -/
theorem place_run (actions : List Action) :
    ((begin config board thread now registry way).run actions).composer.board = board ∧
      ((begin config board thread now registry way).run actions).composer.thread = thread := by
  refine run_induct (P := fun a => a.composer.board = board ∧ a.composer.thread = thread) actions
    ⟨rfl, rfl⟩ ?_
  intro action a b move same
  exact ⟨move.place_eq.1.trans same.1, move.place_eq.2.trans same.2⟩

/-- Every request that left was answered with an id or is waited for. -/
theorem requests_run (actions : List Action) :
    (requests ((begin config board thread now registry way).run actions).transport.sent).length
      = ((begin config board thread now registry way).answers actions).countP Answer.takesId
        + ((begin config board thread now registry way).run
            actions).composer.ticket.isSome.toNat := by
  induction actions using List.reverseRecOn with
  | nil => rfl
  | append_singleton past action ih =>
    have step := perform_requests (coherent_run config board thread now registry way past) action
    have counted : ∀ answer : Answer, [answer].countP Answer.takesId = answer.takesId.toNat := by
      intro answer
      cases taken : answer.takesId <;> simp [taken]
    rw [run_concat, answers_concat, List.countP_append, counted]
    omega

/-- After every history the ticket is there exactly if one request has left and no id was taken, and
the other fields go with the phase.  So at most one id is taken, exactly when the ticket is there,
and it stays for good; the post that the registry then gets has the id, the thread, the board and
the sent body, and is open exactly if the composition waited for the id.  No action ever fails since
an event does not fit the phase. -/
theorem fields_agree_with_phase (actions : List Action) :
    let start := begin config board thread now registry way
    let desk := start.run actions
    let c := desk.composer
    (c.ticket.isSome ↔ (requests desk.transport.sent).length = 1 ∧
      ∀ answer ∈ start.answers actions, answer.takesId = false) ∧
    (c.phase = .draft → requests desk.transport.sent = [] ∧ c.id = 0 ∧ c.sentBody = "" ∧
      c.draft.isSome ∧ c.attachingImage = false ∧ c.hasImage = false) ∧
    (c.phase = .allocating → c.ticket.isSome ∧ c.id = 0 ∧
      ∃ post, c.draft = some post ∧ post.body = c.sentBody) ∧
    (c.phase = .allocated → c.ticket = none ∧ c.draft = none) ∧
    (start.answers actions).countP Answer.takesId ≤ 1 ∧
    (∀ given id, (desk.receiveId given id).1 = .ok () ↔ c.ticket.isSome) ∧
    (∀ past given id rest, actions = past ++ .receiveId given id :: rest →
      ((start.run past).receiveId given id).1 = .ok () → c.id = id) ∧
    (∀ given id, (desk.receiveId given id).1 = .ok () →
      ∃ post, (desk.receiveId given id).2.registry.get? id = some post ∧
        post.id = id ∧ post.op = thread ∧ post.board = board ∧ post.body = c.sentBody ∧
        post.seenOnce = true ∧ (post.editing = true ↔ c.phase = .allocating)) ∧
    ∀ action e, (desk.perform action).1.error? ≠ some (.invalidTransition e) := by
  intro start desk c
  have coherent : c.Coherent := coherent_run config board thread now registry way actions
  have orderly := orderly_run config board thread now registry way actions
  have balance : (requests desk.transport.sent).length
      = (start.answers actions).countP Answer.takesId + c.ticket.isSome.toNat :=
    requests_run config board thread now registry way actions
  have once : (requests desk.transport.sent).length ≤ 1 := orderly.inOrder.length_requests_le
  refine ⟨?_, ?_, ?_, coherent.allocated, by omega, ?_, ?_, ?_, ?_⟩
  · have untaken : (∀ answer ∈ start.answers actions, answer.takesId = false) ↔
        (start.answers actions).countP Answer.takesId = 0 := by
      simp [List.countP_eq_zero]
    rw [untaken]
    cases waiting : c.ticket.isSome with
    | true =>
      rw [waiting, Bool.toNat_true] at balance
      simp only [true_iff]
      omega
    | false =>
      rw [waiting, Bool.toNat_false] at balance
      simp only [Bool.false_eq_true, false_iff]
      omega
  · intro draft
    obtain ⟨unnamed, unsent, unattached, unknown, -⟩ := coherent.draft draft
    obtain ⟨post, owned, -⟩ := coherent.owned (.inl draft)
    have nothing : desk.transport.sent = [] := orderly.draft draft
    rw [nothing, owned]
    exact ⟨rfl, unnamed, unsent, rfl, unattached, unknown⟩
  · intro allocating
    obtain ⟨waiting, unnamed⟩ := coherent.allocating allocating
    exact ⟨waiting, unnamed, coherent.owned (.inr allocating)⟩
  · exact receiveId_eq_ok_iff desk
  · rintro past given id rest rfl taken
    have sound : (start.run past).account.composer.Sound :=
      run_induct (P := fun a => a.composer.Sound) past (Composer.new_sound config board thread now)
        Move.keeps_sound
    have ends : desk = ((start.run past).receiveId given id).2.run rest := run_append ..
    show desk.composer.id = id
    rw [ends]
    exact (settled_run (settled_of_receiveId sound taken) rest).id_eq
  · intro given id taken
    have waiting := (receiveId_eq_ok_iff desk given id).1 taken
    obtain ⟨named, thread_eq, board_eq, rest⟩ := registeredPost_spec coherent waiting given id
    obtain ⟨same_board, same_thread⟩ := place_run config board thread now registry way actions
    refine ⟨registeredPost c id given, ?_, named, thread_eq.trans same_thread,
      board_eq.trans same_board, rest⟩
    rw [registry_receiveId taken, Registry.get?_insert, if_pos named.symm]
  · intro action e failed
    cases perform_error failed

end

end Desk

end LiveThread
