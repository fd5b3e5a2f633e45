import LiveThread.Proofs.Composition.Requests
import LiveThread.Proofs.Page.Moves

/-!
# Who gets an id

An id goes to the attached composition and to no other.  It is the composition
that asked for it as long as every id arrives while its asker is attached; when
another composition has been attached meanwhile, that one takes the id if it
waits for one itself.

Main results:

- Definition `Page.asked`: the compositions that have asked for an id, in order.
- Definition `answers`: the ids that have arrived, in order.
- Definition `Page.Routed`: the compositions that wait are those that asked and got no answer yet.
- Theorem `Page.Routed.follow`: that is so as long as every id arrives while its asker is attached.
- Theorem `Page.postId_reaches_attached_asker`: then an id reaches its asker exactly if the asker is
  attached when it arrives.
- Theorem `Page.postId_misses_replaced_asker`: a history in which it is not.
-/

namespace LiveThread

/-! ## Askers and answers -/

/-- The id that a step answers with. -/
def PageStep.answer? : PageStep → Option UInt64
  | .message (.postId id) => some id
  | _ => none

theorem PageStep.eq_message_of_answer? {step : PageStep} {id : UInt64}
    (h : step.answer? = some id) : step = .message (.postId id) := by
  unfold PageStep.answer? at h
  split at h <;> cases h
  rfl

/-- Only an answer gives an id. -/
theorem PageStep.heard?_ne_of_unanswered {step : PageStep} {now given : Int64} {id : UInt64}
    (unanswered : step.answer? = none) : step.heard? now ≠ some (.receiveId given id) := by
  intro heard
  unfold PageStep.heard? at heard
  split at heard <;> cases heard
  cases unanswered

/-- The ids that have arrived, in order. -/
def answers (steps : List (Int64 × PageStep)) : List UInt64 :=
  steps.filterMap fun (_, step) => step.answer?

namespace Page

variable {τ : Type} [Transport τ]

/-- The composition that asked for an id in a step, once for each request that left. -/
def askedBy (page : Page (Logged τ)) : PageStep → List Nat
  | .action (.compose number action) =>
    let after := page.perform number action
    (requests (after.transport.sent.drop page.transport.sent.length)).map fun _ => number
  | _ => []

/-- The compositions that have asked for an id, in the order in which the requests left. -/
def asked (page : Page (Logged τ)) : List (Int64 × PageStep) → List Nat
  | [] => []
  | (now, step) :: steps => page.askedBy step ++ (page.step now step).1.asked steps

theorem asked_concat (page : Page (Logged τ)) (past : List (Int64 × PageStep)) (now : Int64)
    (step : PageStep) :
    page.asked (past ++ [(now, step)])
      = page.asked past ++ (page.follow past).1.askedBy step := by
  induction past generalizing page with
  | nil => simp [asked, follow_nil]
  | cons entry past ih =>
    obtain ⟨now, first⟩ := entry
    simp only [List.cons_append, asked, follow_cons, ih, List.append_assoc]

/-- The requests of an action are those among the messages that left by it. -/
theorem askedBy_compose {page : Page (Logged τ)} {number : Nat} {c : Composer}
    (found : page.composers[number]? = some c) (action : Action) {left : List ClientMessage}
    (sent : ((page.deskOf c).perform action).2.account.sent = page.transport.sent ++ left) :
    page.askedBy (.action (.compose number action)) = (requests left).map fun _ => number := by
  have log : (page.perform number action).transport.sent = page.transport.sent ++ left := by
    rw [perform_of_some found]
    exact sent
  simp only [askedBy, log, List.drop_left]

/-! ## Who waits -/

/-- The compositions that wait for an id are those that asked for one and got no answer yet; none
asks twice. -/
structure Routed (asked : List Nat) (answered : Nat) (page : Page τ) : Prop where
  once : asked.Nodup
  due : answered ≤ asked.length
  begun : ∀ number ∈ asked, ∃ c, page.composers[number]? = some c ∧ c.phase ≠ .draft
  waiting : ∀ (number : Nat) (c : Composer), page.composers[number]? = some c →
    (c.ticket.isSome ↔ number ∈ asked.drop answered)

namespace Routed

variable {asked : List Nat} {answered : Nat} {page : Page (Logged τ)}

/-- An action that asks for no id does not matter. -/
theorem perform_unasked (h : page.Routed asked answered) {number : Nat} {c : Composer}
    {action : Action} (found : page.composers[number]? = some c)
    (unasked : Account.Unasked (page.deskOf c).account
      ((page.deskOf c).perform action).2.account) :
    (page.perform number action).Routed asked answered := by
  obtain ⟨ticket, phase, -⟩ := unasked
  have own := perform_composers_self found action
  refine ⟨h.once, h.due, fun other mem => ?_, fun other d there => ?_⟩
  · obtain ⟨d, there, begun⟩ := h.begun other mem
    by_cases same : other = number
    · subst same
      rw [found] at there
      cases there
      exact ⟨_, own, phase begun⟩
    · exact ⟨d, by rw [perform_composers_of_ne page action same, there], begun⟩
  · by_cases same : other = number
    · subst same
      rw [own] at there
      cases there
      have before := h.waiting other c found
      rwa [show c.ticket = _ from ticket.symm] at before
    · rw [perform_composers_of_ne page action same] at there
      exact h.waiting other d there

/-- An action that asks for an id adds the asker. -/
theorem perform_asked (h : page.Routed asked answered) {number : Nat} {c : Composer}
    {action : Action} (found : page.composers[number]? = some c)
    (new : Account.Asked (page.deskOf c).account ((page.deskOf c).perform action).2.account) :
    (page.perform number action).Routed (asked ++ [number]) answered := by
  obtain ⟨draft, begun, waiting, -⟩ := new
  have own := perform_composers_self found action
  have fresh : number ∉ asked := by
    intro mem
    obtain ⟨d, there, started⟩ := h.begun number mem
    rw [found] at there
    cases there
    exact started draft
  have rest : (asked ++ [number]).drop answered = asked.drop answered ++ [number] :=
    List.drop_append_of_le_length h.due
  refine ⟨?_, ?_, fun other mem => ?_, fun other d there => ?_⟩
  · rw [List.nodup_append]
    refine ⟨h.once, by simp, ?_⟩
    rintro other mem _ own rfl
    exact fresh (List.mem_singleton.1 own ▸ mem)
  · have := h.due
    rw [List.length_append]
    omega
  · rcases List.mem_append.1 mem with mem | mem
    · obtain ⟨d, there, started⟩ := h.begun other mem
      have different : other ≠ number := fun same => fresh (same ▸ mem)
      exact ⟨d, by rw [perform_composers_of_ne page action different, there], started⟩
    · rw [List.mem_singleton.1 mem]
      exact ⟨_, own, begun⟩
  · rw [rest]
    by_cases same : other = number
    · subst same
      rw [own] at there
      cases there
      exact iff_of_true waiting (by simp)
    · rw [perform_composers_of_ne page action same] at there
      have before := h.waiting other d there
      simpa [same] using before

/-- Nor does a move that answers nobody. -/
theorem move {after : Page (Logged τ)} {now : Int64} {step : PageStep}
    (move : PageMove now step page after) (unanswered : step.answer? = none)
    (h : page.Routed asked answered) : after.Routed asked answered := by
  cases move with
  | @hear number action attached heard =>
    cases found : page.composers[number]? with
    | none => rwa [perform_of_none found]
    | some c =>
      have own : ∀ now id, action ≠ .receiveId now id := by
        rintro now id rfl
        exact PageStep.heard?_ne_of_unanswered unanswered heard
      rcases Desk.perform_unasked_or_asked (page.deskOf c) own with unasked | ⟨-, typed | given⟩
      · exact h.perform_unasked found unasked
      · rw [PageStep.input?_of_heard? heard] at typed
        cases typed
      · rw [PageStep.file?_of_heard? heard] at given
        cases given
  | begin config =>
    refine ⟨h.once, h.due, fun number mem => ?_, fun number c there => ?_⟩
    · obtain ⟨c, there, begun⟩ := h.begun number mem
      obtain ⟨inside, -⟩ := List.getElem?_eq_some_iff.1 there
      refine ⟨c, ?_, begun⟩
      rw [addComposer, List.getElem?_append_left inside, there]
    · by_cases old : number < page.composers.length
      · rw [addComposer, List.getElem?_append_left old] at there
        exact h.waiting number c there
      · have new : c = .new config page.board page.thread now := by
          rw [addComposer, List.getElem?_append_right (Nat.le_of_not_lt old)] at there
          exact (List.mem_singleton.1 (List.mem_of_getElem? there))
        have unasked : number ∉ asked.drop answered := by
          intro mem
          obtain ⟨d, inside, -⟩ := h.begun number (List.mem_of_mem_drop mem)
          exact old (List.getElem?_eq_some_iff.1 inside).1
        exact iff_of_false (by simp [new, Composer.new]) unasked
  | posts | attach | clock | fail => exact ⟨h.once, h.due, h.begun, h.waiting⟩

/-- A step that answers nobody adds those who ask in it. -/
theorem step_unanswered (h : page.Routed asked answered) (now : Int64) {step : PageStep}
    (unanswered : step.answer? = none) (single : ∀ frame, step ≠ .action (.receive frame))
    (own : ∀ number given id, step ≠ .action (.compose number (.receiveId given id))) :
    (page.step now step).1.Routed (asked ++ page.askedBy step) answered := by
  by_cases composed : ∃ number action, step = .action (.compose number action)
  · obtain ⟨number, action, rfl⟩ := composed
    rw [step_compose]
    cases found : page.composers[number]? with
    | none =>
      have nothing : page.askedBy (.action (.compose number action)) = [] := by
        simp [askedBy, perform_of_none found, requests]
      rwa [perform_of_none found, nothing, List.append_nil]
    | some c =>
      have given : ∀ given id, action ≠ .receiveId given id := by
        rintro given id rfl
        exact own number given id rfl
      rcases Desk.perform_unasked_or_asked (page.deskOf c) given with unasked | ⟨new, -⟩
      · obtain ⟨left, sent, silent⟩ := unasked.2.2
        rw [askedBy_compose found action sent, silent, List.map_nil, List.append_nil]
        exact h.perform_unasked found unasked
      · obtain ⟨left, request, sent, one⟩ := new.2.2.2
        rw [askedBy_compose found action sent, one, List.map_singleton]
        exact h.perform_asked found new
  · have nothing : page.askedBy step = [] := by
      unfold askedBy
      split
      · exact absurd ⟨_, _, rfl⟩ composed
      · rfl
    rw [nothing, List.append_nil]
    exact step_induct composed single (fun move => Routed.move move unanswered) h

omit [Transport τ] in
/-- The asker of the next answer waits for it. -/
theorem exists_waiting (h : page.Routed asked answered) {number : Nat}
    (next : asked[answered]? = some number) :
    ∃ c ticket, page.composers[number]? = some c ∧ c.ticket = some ticket := by
  obtain ⟨inside, rfl⟩ := List.getElem?_eq_some_iff.1 next
  obtain ⟨c, found, -⟩ := h.begun _ (List.getElem_mem inside)
  have unserved : asked[answered] ∈ asked.drop answered := by
    rw [List.drop_eq_getElem_cons inside]
    exact List.mem_cons_self
  have waits := (h.waiting _ c found).2 unserved
  obtain ⟨ticket, waits⟩ := Option.isSome_iff_exists.1 waits
  exact ⟨c, ticket, found, waits⟩

/-- When the asker of the next answer is attached, the answer is for it and it waits no longer. -/
theorem step_answer (h : page.Routed asked answered) {number : Nat}
    (next : asked[answered]? = some number) (attached : page.attached = some number)
    (now : Int64) (id : UInt64) :
    (page.step now (.message (.postId id))).1.Routed asked (answered + 1) := by
  obtain ⟨c, ticket, found, waits⟩ := h.exists_waiting next
  obtain ⟨inside, same⟩ := List.getElem?_eq_some_iff.1 next
  have after : (page.step now (.message (.postId id))).1
      = page.perform number (.receiveId now id) := by
    rw [perform_of_some found]
    exact congrArg Reply.page (receiveId_of_waiting attached found waits now id)
  have own := perform_composers_self found (.receiveId now id)
  have rest : asked.drop answered = number :: asked.drop (answered + 1) := by
    rw [List.drop_eq_getElem_cons inside, same]
  have once : number ∉ asked.drop (answered + 1) := by
    have nodup : (asked.drop answered).Nodup := h.once.sublist (List.drop_sublist ..)
    rw [rest] at nodup
    exact (List.nodup_cons.1 nodup).1
  rw [after]
  refine ⟨h.once, inside, fun other mem => ?_, fun other d there => ?_⟩
  · obtain ⟨d, there, begun⟩ := h.begun other mem
    by_cases different : other = number
    · subst different
      rw [found] at there
      cases there
      refine ⟨_, own, ?_⟩
      simp only [Desk.perform, Desk.receiveId, deskOf, waits]
      cases phase : c.phase <;> simp_all [Phase.after, Phase.next?]
    · exact ⟨d, by rw [perform_composers_of_ne page _ different, there], begun⟩
  · by_cases different : other = number
    · subst different
      rw [own] at there
      cases there
      exact iff_of_false (by simp [Desk.perform, Desk.receiveId, deskOf, waits]) once
    · rw [perform_composers_of_ne page _ different] at there
      have before := h.waiting other d there
      rw [rest] at before
      simpa [different] using before

/-- As long as every answer arrives while its asker is attached, those wait who asked and got no
answer yet. -/
theorem follow {page : Page (Logged τ)} (fresh : page.composers = [])
    (past : List (Int64 × PageStep))
    (single : ∀ entry ∈ past, ∀ frame, entry.2 ≠ .action (.receive frame))
    (own : ∀ entry ∈ past, ∀ number given id,
      entry.2 ≠ .action (.compose number (.receiveId given id)))
    (earlier : ∀ before time other, before ++ [(time, .message (.postId other))] <+: past →
      ∃ number, (page.asked before)[(answers before).length]? = some number ∧
        (page.follow before).1.attached = some number) :
    (page.follow past).1.Routed (page.asked past) (answers past).length := by
  induction past using List.reverseRecOn with
  | nil =>
    exact ⟨.nil, Nat.le_refl 0, by simp [Page.asked], by simp [Page.follow, fresh, Page.asked]⟩
  | append_singleton past entry ih =>
    obtain ⟨now, step⟩ := entry
    have before := ih (fun entry mem => single entry (List.mem_append_left _ mem))
      (fun entry mem => own entry (List.mem_append_left _ mem))
      (fun before time other begun =>
        earlier before time other (begun.trans (List.prefix_append past _)))
    rw [follow_concat, asked_concat]
    cases answer : step.answer? with
    | none =>
      have same : answers (past ++ [(now, step)]) = answers past := by simp [answers, answer]
      rw [same]
      exact before.step_unanswered now answer (single (now, step) (by simp))
        (own (now, step) (by simp))
    | some id =>
      obtain rfl := PageStep.eq_message_of_answer? answer
      obtain ⟨number, next, attached⟩ := earlier past now id (List.prefix_refl _)
      have more : answers (past ++ [(now, .message (.postId id))]) = answers past ++ [id] := by
        simp [answers, PageStep.answer?]
      have nobody : (page.follow past).1.askedBy (.message (.postId id)) = [] := rfl
      rw [more, nobody, List.append_nil, List.length_append]
      exact before.step_answer next attached now id

end Routed

/-! ## Histories -/

/-- The attached composition takes the id that it waits for, and no other one hears of it. -/
theorem receive_postId_of_waiting {page : Page τ} {number : Nat} {c : Composer} {ticket : Ticket}
    (attached : page.attached = some number) (found : page.composers[number]? = some c)
    (waiting : c.ticket = some ticket) (now : Int64) (id : UInt64) :
    let reply := page.receive Handlers.standard now (.postId id)
    reply.result = .ok () ∧ reply.events = [.allocated id] ∧
    (∃ d, reply.page.composers[number]? = some d ∧ d.id = id ∧ d.ticket = none) ∧
    ∀ other, other ≠ number → reply.page.composers[other]? = page.composers[other]? := by
  intro reply
  have taken : reply = _ := receiveId_of_waiting attached found waiting now id
  obtain ⟨inside, -⟩ := List.getElem?_eq_some_iff.1 found
  rw [taken]
  refine ⟨rfl, rfl, ⟨((page.deskOf c).receiveId now id).2.composer, ?_, ?_, ?_⟩, ?_⟩
  · simp [putDesk, inside]
  · simp [Desk.receiveId, deskOf, waiting]
  · simp [Desk.receiveId, deskOf, waiting]
  · intro other different
    simp [putDesk, List.getElem?_set_ne (Ne.symm different)]

/-- Take a history of frames and actions on a page with the standard handlers, in which ids are
given only by the server, and an answer that arrives in it, the answers being in the order of the
requests.  As long as every earlier answer arrived while its asker was attached, the asker of this
one waits for it.  If it is attached, it takes the id, and every other composition stays as it was;
if it is not, it does not hear of the id, which is taken by the attached composition if that one
waits for an id itself, and rejected otherwise. -/
theorem postId_reaches_attached_asker (page : Page (Logged τ)) (fresh : page.composers = [])
    (actions : List (Int64 × PageAction)) (past : List (Int64 × PageStep)) (now : Int64)
    (id : UInt64) (asker : Nat)
    (own : ∀ entry ∈ stepsOf actions, ∀ number given other,
      entry.2 ≠ .action (.compose number (.receiveId given other)))
    (begun : past ++ [(now, .message (.postId id))] <+: stepsOf actions)
    (asked : (page.asked past)[(answers past).length]? = some asker)
    (earlier : ∀ before time other, before ++ [(time, .message (.postId other))] <+: past →
      ∃ number, (page.asked before)[(answers before).length]? = some number ∧
        (page.follow before).1.attached = some number) :
    let here := (page.follow past).1
    let reply := here.receive Handlers.standard now (.postId id)
    (∃ c, here.composers[asker]? = some c ∧ c.ticket.isSome) ∧
    (here.attached = some asker →
      reply.result = .ok () ∧ reply.events = [.allocated id] ∧
      (∃ c, reply.page.composers[asker]? = some c ∧ c.id = id ∧ c.ticket = none) ∧
      ∀ other, other ≠ asker → reply.page.composers[other]? = here.composers[other]?) ∧
    (here.attached ≠ some asker →
      reply.page.composers[asker]? = here.composers[asker]? ∧
      ((∃ number c, here.attached = some number ∧ here.composers[number]? = some c ∧
          c.ticket.isSome ∧ reply.result = .ok () ∧
          ∃ d, reply.page.composers[number]? = some d ∧ d.id = id) ∨
        reply.result = .error (.unexpectedAllocation ⟨id⟩) ∧ reply.page = here)) := by
  intro here reply
  have among : ∀ entry ∈ past, entry ∈ stepsOf actions := fun entry mem =>
    begun.subset (List.mem_append_left _ mem)
  have routed : here.Routed (page.asked past) (answers past).length :=
    Routed.follow fresh past (fun entry mem => single_of_mem_stepsOf (among entry mem))
      (fun entry mem => own entry (among entry mem)) earlier
  obtain ⟨c, ticket, found, waits⟩ := routed.exists_waiting asked
  refine ⟨⟨c, found, by rw [waits]; rfl⟩, fun attached => ?_, fun elsewhere => ?_⟩
  · exact receive_postId_of_waiting attached found waits now id
  · by_cases busy : ∃ number d, here.attached = some number ∧ here.composers[number]? = some d ∧
        d.ticket.isSome
    · obtain ⟨number, d, attached, there, waiting⟩ := busy
      obtain ⟨ticket, served⟩ := Option.isSome_iff_exists.1 waiting
      obtain ⟨accepted, -, ⟨e, after, given, -⟩, others⟩ :=
        receive_postId_of_waiting attached there served now id
      have different : asker ≠ number := fun same => elsewhere (same ▸ attached)
      exact ⟨others asker different,
        .inl ⟨number, d, attached, there, waiting, accepted, e, after, given⟩⟩
    · have idle : ∀ number d, here.attached = some number → here.composers[number]? = some d →
          d.ticket = none := by
        intro number d attached there
        by_contra waiting
        exact busy ⟨number, d, attached, there, Option.isSome_iff_ne_none.2 waiting⟩
      have rejected : reply = here.reject (.unexpectedAllocation ⟨id⟩) :=
        receiveId_of_idle idle now id
      rw [rejected]
      exact ⟨rfl, .inr ⟨rfl, rfl⟩⟩

/-- Two authors, each attached until the id has come. -/
theorem postId_reaches_attached_asker_twice :
    ∃ c, ((Page.inMemory "a" 1).follow
        [(0, .action (.newComposer {})), (0, .action (.compose 0 (.edit "a"))),
          (1, .message (.postId 10)), (1, .action (.newComposer {})),
          (1, .action (.compose 1 (.edit "b"))), (2, .message (.postId 11))]).1.composers[1]?
      = some c ∧ c.id = 11 := by
  have alone : ∀ id, Delivery.ofFrame (ServerMessage.postId id).frame = .single (.postId id) :=
    fun id => Delivery.ofFrame_frame (by rintro ⟨⟩) rfl rfl
  have history : stepsOf
      [(0, .newComposer {}), (0, .compose 0 (.edit "a")),
        (1, .receive (ServerMessage.postId 10).frame), (1, .newComposer {}),
        (1, .compose 1 (.edit "b")), (2, .receive (ServerMessage.postId 11).frame)]
      = [(0, .action (.newComposer {})), (0, .action (.compose 0 (.edit "a"))),
          (1, .message (.postId 10)), (1, .action (.newComposer {})),
          (1, .action (.compose 1 (.edit "b"))), (2, .message (.postId 11))] := by
    simp [stepsOf, PageAction.steps, alone, Delivery.messages]
  obtain ⟨-, attached, -⟩ := postId_reaches_attached_asker (Page.inMemory "a" 1) rfl _
    [(0, .action (.newComposer {})), (0, .action (.compose 0 (.edit "a"))),
      (1, .message (.postId 10)), (1, .action (.newComposer {})),
      (1, .action (.compose 1 (.edit "b")))] 2 11 1
    (by rw [history]; simp) (by rw [history]; exact List.prefix_refl _) (by rfl)
    (by
      intro before time other begun
      rcases before with _ | ⟨_, _ | ⟨_, _ | ⟨_, _ | ⟨_, _ | ⟨_, _⟩⟩⟩⟩⟩ <;> simp at begun
      obtain ⟨rfl, rfl, -⟩ := begun
      exact ⟨0, by rfl, by rfl⟩)
  obtain ⟨-, -, ⟨c, found, given, -⟩, -⟩ := attached (by rfl)
  exact ⟨c, found, given⟩

/-- An author who is replaced before the id has come does not get it: the next one does, and the id
of that one is rejected. -/
theorem postId_misses_replaced_asker :
    (Page.inMemory "a" 1).asked
      [(0, .action (.newComposer {})), (0, .action (.compose 0 (.edit "a"))),
        (0, .action (.newComposer {})), (0, .action (.compose 1 (.edit "b")))] = [0, 1] ∧
    ((Page.inMemory "a" 1).follow
      [(0, .action (.newComposer {})), (0, .action (.compose 0 (.edit "a"))),
        (0, .action (.newComposer {})), (0, .action (.compose 1 (.edit "b"))),
        (1, .message (.postId 10))]).1.composers.map Composer.id = [0, 10] ∧
    (((Page.inMemory "a" 1).follow
      [(0, .action (.newComposer {})), (0, .action (.compose 0 (.edit "a"))),
        (0, .action (.newComposer {})), (0, .action (.compose 1 (.edit "b"))),
        (1, .message (.postId 10))]).1.receive Handlers.standard 1 (.postId 11)).result
      = .error (.unexpectedAllocation ⟨11⟩) := by
  refine ⟨?_, ?_, ?_⟩ <;> rfl

end Page

end LiveThread
