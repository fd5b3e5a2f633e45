import LiveThread.Proofs.Page.Moves

/-!
# Echoes of the own edits

The server returns every edit of an author to the page, addressed to the id of
the post, in the order in which the edits left and as late as it likes.  From
the moment on at which the composition has its id, the registered post follows
the sent body, each echo leading to the body that was sent with its edit.

Main results:

- Definition `Page.told`: the echoes that are due, each with the body that had been sent then.
- Definition `arrived`: the messages about a post that have arrived.
- Theorem `Page.receive_echo`: an echo of an edit is never rejected.
- Theorem `Page.Agrees.follow`: every history keeps the registered post in agreement.
- Theorem `Page.echoes_rebuild_sentBody`: so does every history of frames.
-/

namespace LiveThread

/-! ## Echoes due and arrived -/

/-- The message of a step, if it is about the post with an id. -/
def PageStep.about? (id : UInt64) : PageStep → Option ServerMessage
  | .message m => if m.target? = some id then some m else none
  | .action _ => none

/-- Only a message can be about a post. -/
theorem PageStep.eq_message_of_about? {id : UInt64} {step : PageStep} {m : ServerMessage}
    (h : step.about? id = some m) : step = .message m := by
  cases step with
  | message other =>
    simp only [about?] at h
    split at h <;> cases h
    rfl
  | action what => cases h

/-- The messages about the post with an id that have arrived, in order. -/
def arrived (id : UInt64) (steps : List (Int64 × PageStep)) : List ServerMessage :=
  steps.filterMap fun (_, step) => step.about? id

namespace Page

variable {τ : Type} [Transport τ]

/-- The body that the server has been told by a composition. -/
def sentBody? (page : Page τ) (number : Nat) : Option String :=
  page.composers[number]?.map Composer.sentBody

/-- The echoes due for the edits that left a composition in a step, each with the body that had
been sent after it. -/
def toldBy (id : UInt64) (number : Nat) (page : Page (Logged τ)) :
    PageStep → List (ServerMessage × String)
  | .action (.compose other action) =>
    if other = number then
      let after := page.perform number action
      let left := after.transport.sent.drop page.transport.sent.length
      (left.filterMap (ClientMessage.echo? id)).map fun echo =>
        (echo, (after.sentBody? number).getD "")
    else []
  | _ => []

/-- The echoes due after some steps. -/
def told (id : UInt64) (number : Nat) (page : Page (Logged τ)) :
    List (Int64 × PageStep) → List (ServerMessage × String)
  | [] => []
  | (now, step) :: steps =>
    page.toldBy id number step ++ (page.step now step).1.told id number steps

theorem told_concat (id : UInt64) (number : Nat) (page : Page (Logged τ))
    (past : List (Int64 × PageStep)) (now : Int64) (step : PageStep) :
    page.told id number (past ++ [(now, step)])
      = page.told id number past ++ (page.follow past).1.toldBy id number step := by
  induction past generalizing page with
  | nil => simp [told, follow_nil]
  | cons entry past ih =>
    obtain ⟨now, first⟩ := entry
    simp only [List.cons_append, told, follow_cons, ih, List.append_assoc]

/-- The echoes due for an action of a composition are those of the edits among the messages that
left by it. -/
theorem toldBy_self {page : Page (Logged τ)} {id : UInt64} {number : Nat} {c : Composer}
    (found : page.composers[number]? = some c) (action : Action) {left : List ClientMessage}
    (sent : ((page.deskOf c).perform action).2.account.sent = page.transport.sent ++ left) :
    page.toldBy id number (.action (.compose number action))
      = (left.filterMap (ClientMessage.echo? id)).map fun echo =>
          (echo, ((page.deskOf c).perform action).2.composer.sentBody) := by
  have log : (page.perform number action).transport.sent = page.transport.sent ++ left := by
    rw [perform_of_some found]
    exact sent
  have body : (page.perform number action).sentBody? number
      = some ((page.deskOf c).perform action).2.composer.sentBody := by
    rw [sentBody?, perform_composers_self found]
    rfl
  simp only [toldBy, if_true, log, List.drop_left, body, Option.getD_some]

/-! ## An echo is never rejected -/

/-- An echo leads from one body to another. -/
def Leads (id : UInt64) (body : String) (echo : ServerMessage) (next : String) : Prop :=
  ∃ edit, Edit.between? body next = some edit ∧ edit.message.echo? id = some echo ∧
    body.length < 0x10000000000000000

omit [Transport τ] in
/-- A change that a post takes is told. -/
theorem changePost_of_ok {page : Page τ} {id : UInt64} {post changed : Post} {kind : MessageKind}
    {change : Post → Except PostError Post} (found : page.registry.get? id = some post)
    (h : change post = .ok changed) :
    page.changePost id kind change
      = { page := { page with registry := page.registry.modify id fun _ => changed }
          events := [.postChanged id kind] } := by
  simp only [changePost, found, h]

/-- An echo that leads on from the body of the registered post is taken and told. -/
theorem receive_echo {page : Page τ} {id : UInt64} {post : Post} {echo : ServerMessage}
    {next : String} (now : Int64) (found : page.registry.get? id = some post)
    (leads : Leads id post.body echo next) :
    page.receive Handlers.standard now echo
      = { page :=
            { page with registry := page.registry.modify id fun _ => { post with body := next } }
          events := [.postChanged id echo.kind] } := by
  obtain ⟨edit, between, heard, short⟩ := leads
  have taken := Post.hear?_message between short
  cases edit with
  | append c =>
    cases heard
    exact changePost_of_ok found taken
  | backspace =>
    cases heard
    change page.changePost id .backspace (.ok ·.backspace) = _
    rw [changePost_of_ok found taken]
    rfl
  | splice start count text =>
    cases heard
    exact changePost_of_ok found taken

/-! ## Agreement -/

/-- The bodies that had been sent before and after each of the edits. -/
def bodies (first : String) (told : List (ServerMessage × String)) : List String :=
  first :: told.map Prod.snd

/-- The composition has the id, each echo due leads on from the body before it, the last body is
the sent one, and the registered post is as far as echoes have been heard. -/
structure Agrees (id : UInt64) (number : Nat) (first : String)
    (told : List (ServerMessage × String)) (heard : Nat) (page : Page τ) : Prop where
  settled : ∃ c, page.composers[number]? = some c ∧ c.Settled id ∧
    (bodies first told).getLast? = some c.sentBody
  leads : ∀ (n : Nat) (echo : ServerMessage) (next : String), told[n]? = some (echo, next) →
    ∃ body, (bodies first told)[n]? = some body ∧ Leads id body echo next
  due : heard ≤ told.length
  body : page.registry.body? id = (bodies first told)[heard]?

namespace Agrees

variable {id : UInt64} {number : Nat} {first : String} {told : List (ServerMessage × String)}
  {heard : Nat} {page : Page (Logged τ)}

omit [Transport τ] in
/-- A further echo is due that leads on from the sent body. -/
theorem leads_concat (h : page.Agrees id number first told heard) {echo : ServerMessage}
    {sent next : String} (last : (bodies first told).getLast? = some sent)
    (leads : Leads id sent echo next) :
    ∀ (n : Nat) (e : ServerMessage) (b : String), (told ++ [(echo, next)])[n]? = some (e, b) →
      ∃ body, (bodies first (told ++ [(echo, next)]))[n]? = some body ∧ Leads id body e b := by
  have longer : bodies first (told ++ [(echo, next)]) = bodies first told ++ [next] := by
    simp [bodies]
  have size : (bodies first told).length = told.length + 1 := by simp [bodies]
  intro n e b found
  rw [longer]
  by_cases old : n < told.length
  · rw [List.getElem?_append_left old] at found
    rw [List.getElem?_append_left (by omega)]
    exact h.leads n e b found
  · rw [List.getElem?_append_right (by omega)] at found
    have same : n = told.length := by
      by_contra different
      rw [List.getElem?_eq_none (by simp; omega)] at found
      cases found
    subst same
    simp only [Nat.sub_self, List.getElem?_cons_zero, Option.some.injEq, Prod.mk.injEq] at found
    obtain ⟨rfl, rfl⟩ := found
    rw [List.getLast?_eq_getElem?, size] at last
    rw [List.getElem?_append_left (by omega)]
    exact ⟨sent, last, leads⟩

omit [Transport τ] in
/-- Nothing has changed that matters. -/
theorem congr {after : Page (Logged τ)} (h : page.Agrees id number first told heard)
    (settled : ∀ c, page.composers[number]? = some c → c.Settled id →
      ∃ d, after.composers[number]? = some d ∧ d.Settled id ∧ d.sentBody = c.sentBody)
    (body : after.registry.body? id = page.registry.body? id) :
    after.Agrees id number first told heard := by
  obtain ⟨c, found, own, last⟩ := h.settled
  obtain ⟨d, foundAfter, ownAfter, same⟩ := settled c found own
  exact ⟨⟨d, foundAfter, ownAfter, same ▸ last⟩, h.leads, h.due, body.trans h.body⟩

/-- An action changes no body but under the id that an answer names. -/
theorem body?_perform (page : Page (Logged τ)) (other : Nat) {action : Action}
    (spared : action.named? ≠ some id) :
    (page.perform other action).registry.body? id = page.registry.body? id :=
  registry_perform_induct (P := fun posts => posts.body? id = page.registry.body? id)
    (fun move before => (move.body_eq spared).trans before) rfl other

/-- Another author does not matter. -/
theorem perform_other (h : page.Agrees id number first told heard) {other : Nat}
    (different : other ≠ number) {action : Action} (spared : action.named? ≠ some id) :
    (page.perform other action).Agrees id number first told heard := by
  apply h.congr
  · intro c found own
    exact ⟨c, by rw [perform_composers_of_ne page action (Ne.symm different), found], own, rfl⟩
  · exact body?_perform page other spared

/-- Nor does the own author, unless an input is taken. -/
theorem perform_untyped (h : page.Agrees id number first told heard) (other : Nat)
    {action : Action} (untyped : action.input? = none) (spared : action.named? ≠ some id) :
    (page.perform other action).Agrees id number first told heard := by
  by_cases same : other = number
  · subst same
    apply h.congr
    · intro c found own
      have settled : (page.deskOf c).composer.Settled id := own
      exact ⟨_, perform_composers_self found action, Desk.settled_perform settled action,
        (Desk.perform_silent settled untyped).1⟩
    · exact body?_perform page other spared
  · exact h.perform_other same spared

/-- A move that spares the post does not matter. -/
theorem move {after : Page (Logged τ)} {now : Int64} {step : PageStep}
    (move : PageMove now step page after) (spared : step.Spares id)
    (h : page.Agrees id number first told heard) : after.Agrees id number first told heard := by
  cases move with
  | hear attached heardNow =>
    exact h.perform_untyped _ (PageStep.input?_of_heard? heardNow) (spared.named?_ne heardNow)
  | posts registry same => exact h.congr (fun c found own => ⟨c, found, own, rfl⟩) (same id spared)
  | begin config =>
    refine h.congr (fun c found own => ⟨c, ?_, own, rfl⟩) rfl
    obtain ⟨inside, -⟩ := List.getElem?_eq_some_iff.1 found
    simp only [addComposer]
    rw [List.getElem?_append_left inside, found]
  | attach | clock | fail => exact h.congr (fun c found own => ⟨c, found, own, rfl⟩) rfl

/-- The own author may send an edit; its echo is then due. -/
theorem author (h : page.Agrees id number first told heard) {action : Action}
    (spared : action.named? ≠ some id) :
    (page.perform number action).Agrees id number first
      (told ++ page.toldBy id number (.action (.compose number action))) heard := by
  obtain ⟨c, found, own, last⟩ := h.settled
  have settled : (page.deskOf c).composer.Settled id := own
  have after := Desk.settled_perform settled action
  have foundAfter := perform_composers_self found action
  have sameBody := body?_perform page number spared
  rcases Desk.perform_silent_or_edited settled action with
    ⟨body, left, sent, silent⟩ | ⟨edit, between, left, echo, sent, back, one⟩
  · rw [toldBy_self found action sent, silent, List.map_nil, List.append_nil]
    refine ⟨⟨_, foundAfter, after, ?_⟩, h.leads, h.due, sameBody.trans h.body⟩
    rw [last]
    exact congrArg some body.symm
  · rw [toldBy_self found action sent, one, List.map_singleton]
    have short : c.sentBody.length < 0x10000000000000000 :=
      Nat.lt_of_le_of_lt own.sent.length_le c.config.maxLength.toNat_lt
    have inside : heard < (bodies first told).length := by
      have := h.due
      simp only [bodies, List.length_cons, List.length_map]
      omega
    have longer : ∀ next, bodies first (told ++ [(echo, next)]) = bodies first told ++ [next] := by
      simp [bodies]
    refine ⟨⟨_, foundAfter, after, ?_⟩, h.leads_concat last ⟨edit, between, back, short⟩, ?_, ?_⟩
    · rw [longer, List.getLast?_concat]
    · have := h.due
      rw [List.length_append]
      omega
    · rw [longer, List.getElem?_append_left inside]
      exact sameBody.trans h.body

/-- A step that spares the post leaves it as far as it is. -/
theorem step_spared (h : page.Agrees id number first told heard) (now : Int64) {step : PageStep}
    (spared : step.Spares id) :
    (page.step now step).1.Agrees id number first (told ++ page.toldBy id number step) heard := by
  by_cases composed : ∃ other action, step = .action (.compose other action)
  · obtain ⟨other, action, rfl⟩ := composed
    rw [step_compose]
    by_cases same : other = number
    · subst same
      exact h.author spared
    · rw [toldBy, if_neg same, List.append_nil]
      exact h.perform_other same spared
  · have silent : page.toldBy id number step = [] := by
      unfold toldBy
      split
      · exact absurd ⟨_, _, rfl⟩ composed
      · rfl
    rw [silent, List.append_nil]
    exact step_induct composed (by rintro frame rfl; exact spared)
      (fun move => Agrees.move move spared) h

/-- The next echo is taken and told, and the post is one edit further. -/
theorem step_echo (h : page.Agrees id number first told heard) (now : Int64)
    {echo : ServerMessage} {next : String} (due : told[heard]? = some (echo, next)) :
    (page.receive Handlers.standard now echo).page.Agrees id number first told (heard + 1) ∧
    (page.receive Handlers.standard now echo).result = .ok () ∧
    (page.receive Handlers.standard now echo).events = [.postChanged id echo.kind] := by
  obtain ⟨body, before, leads⟩ := h.leads heard echo next due
  have shown := h.body
  rw [before, Registry.body?, Option.map_eq_some_iff] at shown
  obtain ⟨post, found, rfl⟩ := shown
  rw [receive_echo now found leads]
  obtain ⟨inside, -⟩ := List.getElem?_eq_some_iff.1 due
  refine ⟨⟨h.settled, h.leads, inside, ?_⟩, rfl, rfl⟩
  simp [Registry.body?, found, bodies, due]

omit [Transport τ] in
/-- The registered post is as far as echoes have been heard, and has the sent body once all have. -/
theorem exists_post (h : page.Agrees id number first told heard) :
    ∃ post, page.registry.get? id = some post ∧ (bodies first told)[heard]? = some post.body ∧
      (heard = told.length → page.sentBody? number = some post.body) := by
  have inside : heard < (bodies first told).length := by
    have := h.due
    simp only [bodies, List.length_cons, List.length_map]
    omega
  have shown := h.body
  rw [List.getElem?_eq_getElem inside, Registry.body?, Option.map_eq_some_iff] at shown
  obtain ⟨post, found, body⟩ := shown
  have there : (bodies first told)[heard]? = some post.body := by
    rw [List.getElem?_eq_getElem inside, body]
  refine ⟨post, found, there, ?_⟩
  rintro rfl
  obtain ⟨c, own, -, last⟩ := h.settled
  have length : (bodies first told).length - 1 = told.length := by simp [bodies]
  rw [List.getLast?_eq_getElem?, length, there] at last
  rw [sentBody?, own]
  exact last.symm

/-- An echo that arrives in order is the next one that is due. -/
theorem exists_due {page : Page (Logged τ)} {past : List (Int64 × PageStep)} {now : Int64}
    {echo : ServerMessage} (about : (PageStep.message echo).about? id = some echo)
    (inOrder : arrived id (past ++ [(now, .message echo)]) <+:
      (page.told id number (past ++ [(now, .message echo)])).map Prod.fst) :
    ∃ body, (page.told id number past)[(arrived id past).length]? = some (echo, body) := by
  have next : arrived id (past ++ [(now, .message echo)]) = arrived id past ++ [echo] := by
    simp [arrived, about]
  have silent : (page.follow past).1.toldBy id number (.message echo) = [] := rfl
  rw [told_concat, silent, List.append_nil, next] at inOrder
  have due : ((page.told id number past).map Prod.fst)[(arrived id past).length]? = some echo := by
    obtain ⟨rest, eq⟩ := inOrder
    rw [← eq]
    simp
  rw [List.getElem?_map, Option.map_eq_some_iff] at due
  obtain ⟨⟨_, body⟩, due, rfl⟩ := due
  exact ⟨body, due⟩

/-- Every history of echoes in order, among steps that spare the post, keeps the agreement. -/
theorem follow (h : page.Agrees id number first [] 0) {after : List (Int64 × PageStep)}
    (others : ∀ entry ∈ after, entry.2.about? id = none → entry.2.Spares id)
    (echoed : ∀ past, past <+: after →
      arrived id past <+: (page.told id number past).map Prod.fst)
    (past : List (Int64 × PageStep)) (begun : past <+: after) :
    (page.follow past).1.Agrees id number first (page.told id number past)
      (arrived id past).length := by
  induction past using List.reverseRecOn with
  | nil => exact h
  | append_singleton past entry ih =>
    obtain ⟨now, step⟩ := entry
    have earlier := ih ((List.prefix_append past _).trans begun)
    rw [follow_concat, told_concat]
    cases about : step.about? id with
    | none =>
      have same : arrived id (past ++ [(now, step)]) = arrived id past := by
        simp [arrived, about]
      rw [same]
      exact earlier.step_spared now (others (now, step) (begun.subset (by simp)) about)
    | some echo =>
      have next : arrived id (past ++ [(now, step)]) = arrived id past ++ [echo] := by
        simp [arrived, about]
      obtain rfl := PageStep.eq_message_of_about? about
      obtain ⟨body, due⟩ := exists_due about (echoed _ begun)
      have silent : (page.follow past).1.toldBy id number (.message echo) = [] := rfl
      rw [next, silent, List.append_nil, List.length_append]
      exact (earlier.step_echo now due).1

end Agrees

/-! ## Histories -/

/-- When a sound composition gets its id, the registered post agrees with it. -/
theorem agrees_of_receiveId {page : Page (Logged τ)} (sound : page.Sound) {number : Nat}
    {c : Composer} (attached : page.attached = some number)
    (found : page.composers[number]? = some c) (waiting : c.ticket.isSome) (now : Int64)
    (id : UInt64) :
    (page.step now (.message (.postId id))).1.Agrees id number c.sentBody [] 0 := by
  obtain ⟨ticket, waiting⟩ := Option.isSome_iff_exists.1 waiting
  have taken := receiveId_of_waiting attached found waiting now id
  have after : (page.step now (.message (.postId id))).1
      = page.putDesk number ((page.deskOf c).receiveId now id).2 := congrArg Reply.page taken
  have traded : ((page.deskOf c).receiveId now id).2.account
      = (page.deskOf c).account.allocated ticket now id := by
    simp only [Desk.receiveId, deskOf, waiting]
    rfl
  have sound : (page.deskOf c).account.composer.Sound := sound c (List.mem_of_getElem? found)
  obtain ⟨inside, -⟩ := List.getElem?_eq_some_iff.1 found
  rw [after]
  refine ⟨⟨((page.deskOf c).receiveId now id).2.composer, ?_, ?_, ?_⟩, by simp, Nat.le_refl 0, ?_⟩
  · simp [putDesk, inside]
  · rw [show ((page.deskOf c).receiveId now id).2.composer
        = ((page.deskOf c).account.allocated ticket now id).composer from
      congrArg Account.composer traded]
    exact sound.settled_allocated waiting now id
  · have body := congrArg (·.composer.sentBody) traded
    exact congrArg some body.symm
  · have registry : ((page.deskOf c).receiveId now id).2.registry
        = page.registry.insert (Desk.registeredPost c id now) := congrArg Account.registry traded
    have own : (Desk.registeredPost c id now).id = id := rfl
    simp only [putDesk, registry, Registry.body?, Registry.get?_insert, own, if_true]
    rfl

/-- Take a page with the standard handlers and any history of frames and actions on it, at some
point of which the attached composition gets the id that it waits for.  Suppose that the messages
about this post that arrive later are, at every point, the echoes of edits that have left by then,
in order, and that nothing else concerns the post.  Then at every point the registered post has the
body that had been sent with the last edit whose echo has arrived, which is the sent body once all
have; and no echo is rejected.  An echo may come in a frame of its own or in batches of batches, and
every frame is taken message by message. -/
theorem echoes_rebuild_sentBody (page : Page (Logged τ)) (fresh : page.composers = [])
    (actions : List (Int64 × PageAction)) (before after : List (Int64 × PageStep)) (now : Int64)
    (id : UInt64) (number : Nat) (c : Composer)
    (history : stepsOf actions = before ++ (now, .message (.postId id)) :: after)
    (attached : (page.follow before).1.attached = some number)
    (asker : (page.follow before).1.composers[number]? = some c) (waiting : c.ticket.isSome)
    (others : ∀ entry ∈ after, entry.2.about? id = none → entry.2.Spares id)
    (echoed : ∀ past, past <+: after → arrived id past <+:
      (((page.follow before).1.step now (.message (.postId id))).1.told id number past).map
        Prod.fst) :
    let start := ((page.follow before).1.step now (.message (.postId id))).1
    (∀ past, past <+: after →
      let here := (start.follow past).1
      let told := start.told id number past
      let echoes := arrived id past
      (∃ post, here.registry.get? id = some post ∧
        (c.sentBody :: told.map Prod.snd)[echoes.length]? = some post.body ∧
        (echoes.length = told.length → here.sentBody? number = some post.body)) ∧
      ∀ later echo, past ++ [(later, .message echo)] <+: after → echo.target? = some id →
        (here.receive Handlers.standard later echo).result = .ok () ∧
        (here.receive Handlers.standard later echo).events = [.postChanged id echo.kind]) ∧
    (start.follow after).1 = (page.happen actions).1 ∧
    (∀ (edit : ClientMessage) (echo : ServerMessage), edit.echo? id = some echo →
      Delivery.ofFrame echo.frame = .single echo) ∧
    ∀ frames : List String, Delivery.ofFrame (ServerMessage.concat frames).frame
      = .batch (frames.map Delivery.ofFrame) := by
  intro start
  have single : ∀ entry ∈ before, ∀ frame, entry.2 ≠ .action (.receive frame) := by
    intro entry mem
    have among : entry ∈ stepsOf actions := by
      rw [history]
      simp [mem]
    exact single_of_mem_stepsOf among
  have empty : page.Sound := by simp [Sound, fresh]
  have first := agrees_of_receiveId (empty.follow single) attached asker waiting now id
  refine ⟨fun past begun => ⟨?_, ?_⟩, ?_, ?_, Delivery.ofFrame_concat⟩
  · exact (first.follow others echoed past begun).exists_post
  · intro later echo next target
    have about : (PageStep.message echo).about? id = some echo := by simp [PageStep.about?, target]
    obtain ⟨body, due⟩ := Agrees.exists_due about (echoed _ next)
    exact ((first.follow others echoed past begun).step_echo later due).2
  · rw [happen_eq_follow, history, follow_append]
    rfl
  · intro edit echo back
    cases edit <;> cases back <;> exact Delivery.ofFrame_frame (by rintro ⟨⟩) rfl rfl

/-- An edit that comes back in a batch of a batch. -/
theorem echoes_rebuild_sentBody_in_batches :
    ∃ post, ((Page.inMemory "b" 1).happen
        [(0, .newComposer {}), (0, .compose 0 (.edit "a")),
          (1, .receive (ServerMessage.postId 10).frame), (1, .compose 0 (.edit "ab")),
          (2, .receive (ServerMessage.concat
            [(ServerMessage.concat [(ServerMessage.append 10 98).frame]).frame]).frame)]
      ).1.registry.get? 10 = some post ∧ post.body = "ab" := by
  have alone : Delivery.ofFrame (ServerMessage.postId 10).frame = .single (.postId 10) :=
    Delivery.ofFrame_frame (by rintro ⟨⟩) rfl rfl
  have back : Delivery.ofFrame (ServerMessage.append 10 98).frame = .single (.append 10 98) :=
    Delivery.ofFrame_frame (by rintro ⟨⟩) rfl rfl
  have history : stepsOf
      [(0, .newComposer {}), (0, .compose 0 (.edit "a")),
        (1, .receive (ServerMessage.postId 10).frame), (1, .compose 0 (.edit "ab")),
        (2, .receive (ServerMessage.concat
          [(ServerMessage.concat [(ServerMessage.append 10 98).frame]).frame]).frame)]
      = [(0, .action (.newComposer {})), (0, .action (.compose 0 (.edit "a")))]
        ++ (1, .message (.postId 10))
        :: [(1, .action (.compose 0 (.edit "ab"))), (2, .message (.append 10 98))] := by
    simp [stepsOf, PageAction.steps, alone, Delivery.ofFrame_concat, back, Delivery.messages,
      partMessages, ServerMessage.kind]
  have due : Page.told 10 0
      (((Page.inMemory "b" 1).follow
        [(0, .action (.newComposer {})), (0, .action (.compose 0 (.edit "a")))]).1.step 1
        (.message (.postId 10))).1
      [(1, .action (.compose 0 (.edit "ab"))), (2, .message (.append 10 98))]
      = [(.append 10 98, "ab")] := by rfl
  obtain ⟨along, ends, -⟩ := echoes_rebuild_sentBody (Page.inMemory "b" 1) rfl _ _ _ 1 10 0
    (((Page.inMemory "b" 1).follow
      [(0, .action (.newComposer {})), (0, .action (.compose 0 (.edit "a")))]).1.composers.headD
      (.new {} "" 0 0)) history (by rfl) (by rfl) (by rfl)
    (by simp [PageStep.about?, PageStep.Spares, Action.named?, ServerMessage.target?])
    (by
      intro past begun
      simp only [List.prefix_cons_iff, List.prefix_nil] at begun
      rcases begun with rfl | ⟨_, rfl, rfl | ⟨_, rfl, rfl⟩⟩
      · exact List.nil_prefix
      · exact List.nil_prefix
      · rw [due]
        exact List.prefix_refl _)
  obtain ⟨⟨post, found, -, all⟩, -⟩ := along _ (List.prefix_refl _)
  have last : Page.sentBody?
      ((((Page.inMemory "b" 1).follow
        [(0, .action (.newComposer {})), (0, .action (.compose 0 (.edit "a")))]).1.step 1
        (.message (.postId 10))).1.follow
          [(1, .action (.compose 0 (.edit "ab"))), (2, .message (.append 10 98))]).1 0
      = some "ab" := by rfl
  rw [due, last] at all
  rw [ends] at found
  exact ⟨post, found, (Option.some.inj (all rfl)).symm⟩

end Page

end LiveThread
