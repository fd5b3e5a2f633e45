import LiveThread.Connection.Reader
import LiveThread.Proofs.Composition.Refusal
import LiveThread.Proofs.Page.Events
import LiveThread.Proofs.Page.Silence

/-!
# A page and its connection

A page hands frames to its connection, and lets go of it when the server
refuses to go on or a failure is reported.  It leaves everything else to the
reader and the writer, and it never tells of the end of a connection itself.

Main results:

- Theorem `Connection.refuses_iff`: a connection refuses messages unless it is held and written to.
- Definition `Connection.Used`: what a page does with its connection.
- Definition `PageAction.Fails`: an action by which the page lets go of it.
- Theorem `Page.used_act`: an action does no more than that.
- Theorem `Page.state_act`: an action makes the connection errored exactly if it lets go of it.
- Theorem `Page.sentBody_act`: while messages are refused no composition counts anything as sent.
-/

namespace LiveThread

/-! ## A connection as a way out -/

namespace Connection

variable {c d e : Connection} {failed again : Prop}

/-- Messages are accepted. -/
def Accepts (c : Connection) : Prop :=
  c.held = true ∧ c.writing = true

theorem refuses_iff : Refuses c ↔ ¬ c.Accepts := by
  have sending : ∀ m, Transport.send c m = c.send m := fun _ => rfl
  constructor
  · rintro refuses ⟨held, writing⟩
    have refused := congrArg Prod.fst (refuses .closePost)
    simp [sending, send, held, writing] at refused
  · intro closed m
    have other : ¬ (c.held && c.writing) = true := by simpa [Accepts] using closed
    rw [sending, send, if_neg other]

/-- Whether a connection is over, as far as the page is told of it. -/
def IsOver (c : Connection) : Prop :=
  c.state = .disconnected ∨ c.state = .errored

/-- A connection in use: frames are handed over, it may be let go after a failure, and it may be
noted that it is over.  Everything else stays. -/
structure Used (failed : Prop) (c d : Connection) : Prop where
  held : d.held = true ↔ c.held = true ∧ ¬ failed
  state : d.state = c.state ∨ d.IsOver
  writing : d.writing = c.writing
  reading : d.reading = c.reading
  arrived : d.arrived = c.arrived
  peerOpen : d.peerOpen = c.peerOpen
  received : d.received = c.received
  older : d.older = c.older

theorem Used.refl (c : Connection) : Used False c c :=
  ⟨by simp, .inl rfl, rfl, rfl, rfl, rfl, rfl, rfl⟩

theorem used_send (c : Connection) (m : ClientMessage) : Used False c (c.send m).2 := by
  unfold send
  split
  · exact ⟨by simp, .inl rfl, rfl, rfl, rfl, rfl, rfl, rfl⟩
  · exact .refl c

theorem used_fail (c : Connection) : Used True c c.fail :=
  ⟨by simp [fail], .inr (.inr rfl), rfl, rfl, rfl, rfl, rfl, rfl⟩

theorem used_break (c : Connection) : Used False c { c with state := .errored } :=
  ⟨by simp, .inr (.inr rfl), rfl, rfl, rfl, rfl, rfl, rfl⟩

theorem used_disconnect (c : Connection) : Used True c c.disconnect := by
  unfold disconnect
  split
  · exact ⟨by simp, .inr (.inl rfl), rfl, rfl, rfl, rfl, rfl, rfl⟩
  · next free => exact ⟨by simp [free], .inl rfl, rfl, rfl, rfl, rfl, rfl, rfl⟩

theorem Used.trans (first : Used failed c d) (second : Used again d e) :
    Used (failed ∨ again) c e where
  held := by rw [second.held, first.held, not_or, and_assoc]
  state := by
    rcases second.state with same | ended
    · rw [IsOver, same]
      exact first.state
    · exact .inr ended
  writing := second.writing.trans first.writing
  reading := second.reading.trans first.reading
  arrived := second.arrived.trans first.arrived
  peerOpen := second.peerOpen.trans first.peerOpen
  received := second.received.trans first.received
  older := second.older.trans first.older

theorem Used.number (used : Used failed c d) : d.number = c.number :=
  congrArg List.length used.older

theorem Used.of_iff (used : Used failed c d) (same : failed ↔ again) : Used again c d := by
  rwa [← propext same]

/-- Messages that are handed over leave everything else alone. -/
theorem used_of_handed (handed : Handed c d) : Used False c d := by
  induction handed with
  | refl => exact .refl c
  | tail _ sent ih =>
    obtain ⟨m, rfl⟩ := sent
    exact (ih.trans (used_send _ m)).of_iff (or_self_iff)

end Connection

/-! ## What a page does with its connection -/

/-- A step lets go of the connection after a failure: the server refuses to go on, or the failure is
reported. -/
def PageStep.Fails : PageStep → Prop
  | .message m => m.kind = .invalid
  | .action (.fail _) => True
  | _ => False

/-- One of the steps of an action does. -/
def PageAction.Fails (action : PageAction) : Prop :=
  ∃ step ∈ action.steps, step.Fails

namespace Page

section Ways

variable {τ : Type}

/-- An operation that leaves the way out of its desk alone leaves that of the page alone. -/
theorem atAttached_transport {α : Type} (page : Page τ) {operation : Desk τ → α × Desk τ}
    (same : ∀ desk, (operation desk).2.transport = desk.transport) :
    (page.atAttached operation).2.transport = page.transport := by
  unfold atAttached atComposer
  split
  · rfl
  · split
    · rfl
    · next number _ desk found =>
      obtain ⟨c, -, rfl⟩ := Option.map_eq_some_iff.1 found
      exact same _

variable [Transport τ]

/-- The way out is told of a fatal message, and is left alone by every other one. -/
theorem receive_transport (now : Int64) (page : Page τ) (m : ServerMessage) :
    (m.kind = .invalid → ∃ reason,
      (page.receive Handlers.standard now m).page.transport
        = Transport.fail page.transport reason) ∧
    (m.kind ≠ .invalid →
      (page.receive Handlers.standard now m).page.transport = page.transport) := by
  have changes : ∀ id kind change,
      (page.changePost id kind change).page.transport = page.transport := by
    intro id kind change
    obtain ⟨registry, same⟩ := page.changePost_page id kind change
    rw [same]
  cases m with
  | invalid reason =>
    refine ⟨fun _ => ⟨reason, ?_⟩, fun other => absurd rfl other⟩
    exact atAttached_transport { page with transport := Transport.fail page.transport reason }
      fun _ => rfl
  | postId id =>
    refine ⟨by rintro ⟨⟩, fun _ => ?_⟩
    refine (congrArg Page.transport (receiveId_page now page id)).trans
      (atAttached_transport page fun desk => ?_)
    unfold Desk.receiveId
    split <;> rfl
  | insertPost data =>
    refine ⟨by rintro ⟨⟩, fun _ => ?_⟩
    have heard : (page.atAttached (·.mergeEcho data)).2.transport = page.transport :=
      atAttached_transport page fun desk => by
        unfold Desk.mergeEcho
        split <;> rfl
    simp only [receive, Handlers.standard, handle, insertPost]
    split
    · next merged =>
      rw [merged] at heard
      exact heard
    · next other =>
      rw [other] at heard
      split <;> exact heard
  | serverTime time =>
    refine ⟨by rintro ⟨⟩, fun _ => ?_⟩
    simp only [receive, setClock]
    split <;> rfl
  | append | backspace | splice | closePost | insertImage | spoiler | moderatePost =>
    exact ⟨by rintro ⟨⟩, fun _ => changes _ _ _⟩
  | synchronise | concat | noop | syncCount | redirect | notification | captcha | configs =>
    exact ⟨by rintro ⟨⟩, fun _ => rfl⟩

/-- No message tells of the beginning or the end of a connection. -/
theorem notMem_receive_of_life {event : Event} (life : event = .connected ∨ event = .disconnected)
    (now : Int64) (page : Page τ) (m : ServerMessage) :
    event ∉ (page.receive Handlers.standard now m).events := by
  cases receive_response now page m with
  | inserted data announced new told => rcases life with rfl | rfl <;> simp [told]
  | changed id post about found takes told => rcases life with rfl | rfl <;> simp [told]
  | passed id about missing refused same => simp [same, ignore]
  | allocated id given awaited registered told => rcases life with rfl | rfl <;> simp [told]
  | rejected id given idle same => simp [same, reject]
  | elsewhere about other told =>
    cases m with
    | postId id => exact absurd rfl (other id)
    | serverTime time =>
      simp only [receive, setClock]
      split <;> rcases life with rfl | rfl <;> simp [reject]
    | insertPost | append | backspace | splice | closePost | insertImage | spoiler
    | moderatePost => cases about
    | _ =>
      rcases life with rfl | rfl <;>
        simp [receive, failWith, Handlers.standard, handle, tell, ignore]

/-- Nor does any action. -/
theorem notMem_act_of_life {event : Event} (life : event = .connected ∨ event = .disconnected)
    (now : Int64) (page : Page τ) (action : PageAction) :
    event ∉ (page.act Handlers.standard now action).events := by
  intro told
  obtain ⟨before, time, m, here⟩ := exists_receive_of_mem_act told
  exact notMem_receive_of_life life time before m here

end Ways

open Connection

/-- A step of a page uses its connection. -/
theorem used_step (now : Int64) (page : Page Connection) {step : PageStep}
    (single : ∀ frame, step ≠ .action (.receive frame)) :
    Used step.Fails page.transport (page.step now step).1.transport := by
  have same : ∀ {d : Connection} {fails : Prop}, ¬ fails → d = page.transport →
      Used fails page.transport d := by
    rintro d fails never rfl
    exact (Used.refl _).of_iff (by simp [never])
  cases step with
  | message m =>
    obtain ⟨failed, other⟩ := receive_transport now page m
    by_cases fails : m.kind = .invalid
    · obtain ⟨reason, failing⟩ := failed fails
      simp only [Page.step, failing]
      exact (used_fail _).of_iff (by simp [PageStep.Fails, fails])
    · exact same fails (other fails)
  | action what =>
    cases what with
    | receive frame => exact absurd rfl (single frame)
    | compose number action =>
      rw [step_compose]
      exact (used_of_handed (perform_handed page number action)).of_iff Iff.rfl
    | attach number =>
      simp only [Page.step, act]
      split <;> exact same (by rintro ⟨⟩) rfl
    | fail reason => exact (used_fail _).of_iff Iff.rfl
    | newComposer | addComposer | detach | register | drop => exact same (by rintro ⟨⟩) rfl

/-- So do several of them. -/
theorem used_follow (page : Page Connection) {steps : List (Int64 × PageStep)}
    (single : ∀ entry ∈ steps, ∀ frame, entry.2 ≠ .action (.receive frame)) :
    Used (∃ entry ∈ steps, entry.2.Fails) page.transport (page.follow steps).1.transport := by
  induction steps generalizing page with
  | nil => exact (Used.refl _).of_iff (by simp)
  | cons entry steps ih =>
    obtain ⟨now, step⟩ := entry
    have first := used_step now page (single (now, step) List.mem_cons_self)
    have rest := ih (page.step now step).1
      fun later mem => single later (List.mem_cons_of_mem _ mem)
    exact (first.trans rest).of_iff (by simp)

/-- So does an action. -/
theorem used_act (now : Int64) (page : Page Connection) (action : PageAction) :
    Used action.Fails page.transport
      (page.act Handlers.standard now action).page.transport := by
  have used := used_follow page
    fun entry (mem : entry ∈ action.steps.map fun step => (now, step)) =>
      PageAction.single_of_mem_steps mem
  rw [← congrArg Prod.fst (act_eq_follow now page action)] at used
  exact used.of_iff (by simp [PageAction.Fails])

/-! ## Failures -/

/-- Messages that are handed over leave the state alone. -/
theorem state_of_handed {c d : Connection} (handed : Handed c d) : d.state = c.state := by
  refine handed.keeps (P := fun d => d.state = c.state) (fun way m same => ?_) rfl
  simp only [Transport.send, Connection.send]
  split <;> exact same

/-- A step makes the connection errored if it lets go of it, and leaves its state alone else. -/
theorem state_step (now : Int64) (page : Page Connection) {step : PageStep}
    (single : ∀ frame, step ≠ .action (.receive frame)) :
    (step.Fails → (page.step now step).1.transport.state = .errored) ∧
    (¬ step.Fails → (page.step now step).1.transport.state = page.transport.state) := by
  have aside : ∀ {d : Connection}, ¬ step.Fails → d.state = page.transport.state →
      (step.Fails → d.state = .errored) ∧ (¬ step.Fails → d.state = page.transport.state) :=
    fun never same => ⟨fun fails => absurd fails never, fun _ => same⟩
  cases step with
  | message m =>
    obtain ⟨failed, other⟩ := receive_transport now page m
    refine ⟨fun fails => ?_, fun goes => congrArg Connection.state (other goes)⟩
    obtain ⟨reason, failing⟩ := failed fails
    exact congrArg Connection.state failing
  | action what =>
    cases what with
    | receive frame => exact absurd rfl (single frame)
    | compose number action =>
      rw [step_compose]
      exact aside id (state_of_handed (perform_handed page number action))
    | attach number =>
      simp only [Page.step, act]
      split <;> exact aside id rfl
    | fail reason => exact ⟨fun _ => rfl, fun goes => absurd trivial goes⟩
    | newComposer | addComposer | detach | register | drop => exact aside id rfl

/-- So do several of them. -/
theorem state_follow (page : Page Connection) {steps : List (Int64 × PageStep)}
    (single : ∀ entry ∈ steps, ∀ frame, entry.2 ≠ .action (.receive frame)) :
    ((∃ entry ∈ steps, entry.2.Fails) → (page.follow steps).1.transport.state = .errored) ∧
    ((∀ entry ∈ steps, ¬ entry.2.Fails) →
      (page.follow steps).1.transport.state = page.transport.state) := by
  induction steps generalizing page with
  | nil => exact ⟨by simp, fun _ => rfl⟩
  | cons entry steps ih =>
    obtain ⟨now, step⟩ := entry
    obtain ⟨failed, other⟩ := state_step now page (single (now, step) List.mem_cons_self)
    obtain ⟨later, rest⟩ := ih (page.step now step).1
      fun entry mem => single entry (List.mem_cons_of_mem _ mem)
    simp only [List.exists_mem_cons_iff, List.forall_mem_cons, follow_cons]
    constructor
    · intro fails
      by_cases again : ∃ entry ∈ steps, entry.2.Fails
      · exact later again
      · rw [rest fun entry mem fails => again ⟨entry, mem, fails⟩]
        exact failed (fails.resolve_right again)
    · rintro ⟨here, there⟩
      rw [rest there, other here]

/-- So does an action. -/
theorem state_act (now : Int64) (page : Page Connection) (action : PageAction) :
    (action.Fails →
      (page.act Handlers.standard now action).page.transport.state = .errored) ∧
    (¬ action.Fails →
      (page.act Handlers.standard now action).page.transport.state = page.transport.state) := by
  obtain ⟨failed, other⟩ := state_follow page
    fun entry (mem : entry ∈ action.steps.map fun step => (now, step)) =>
      PageAction.single_of_mem_steps mem
  rw [← congrArg Prod.fst (act_eq_follow now page action)] at failed other
  constructor
  · rintro ⟨step, mem, fails⟩
    exact failed ⟨(now, step), List.mem_map.2 ⟨step, mem, rfl⟩, fails⟩
  · intro goes
    refine other fun entry among fails => ?_
    obtain ⟨step, mem, rfl⟩ := List.mem_map.1 among
    exact goes ⟨step, mem, fails⟩

/-! ## Compositions after a refusal -/

section Compositions

variable {τ : Type} [Transport τ] {number : Nat} {c : Composer}

/-- What the server says does not make a composition count anything as sent. -/
theorem sentBody_move {now : Int64} {step : PageStep} {page after : Page τ}
    (move : PageMove now step page after) (found : page.composers[number]? = some c) :
    ∃ d, after.composers[number]? = some d ∧ d.sentBody = c.sentBody := by
  cases move with
  | @hear other action attached heard =>
    by_cases own : number = other
    · subst own
      refine ⟨_, perform_composers_self found action, ?_⟩
      unfold PageStep.heard? at heard
      split at heard <;> cases heard
      · simp only [Desk.perform, Desk.receiveId]
        split <;> rfl
      · simp only [Desk.perform, Desk.mergeEcho]
        split <;> rfl
      · rfl
    · exact ⟨c, (perform_composers_of_ne page action own).trans found, rfl⟩
  | begin config =>
    have inside := (List.getElem?_eq_some_iff.1 found).1
    exact ⟨c, (List.getElem?_append_left inside).trans found, rfl⟩
  | posts | attach | clock | fail => exact ⟨c, found, rfl⟩

/-- Nor does anything else, while everything is refused. -/
theorem sentBody_step (now : Int64) {page : Page τ} (refuses : Refuses page.transport)
    {step : PageStep} (single : ∀ frame, step ≠ .action (.receive frame))
    (found : page.composers[number]? = some c) :
    ∃ d, (page.step now step).1.composers[number]? = some d ∧ d.sentBody = c.sentBody := by
  by_cases composed : ∃ other action, step = .action (.compose other action)
  · obtain ⟨other, action, rfl⟩ := composed
    rw [step_compose]
    by_cases own : number = other
    · subst own
      have refusing : Refuses (page.deskOf c).transport := refuses
      exact ⟨_, perform_composers_self found action,
        (Desk.perform_of_refusing refusing action).1⟩
    · exact ⟨c, (perform_composers_of_ne page action own).trans found, rfl⟩
  · refine step_induct (P := fun after => ∃ d, after.composers[number]? = some d ∧
      d.sentBody = c.sentBody) composed single ?_ ⟨c, found, rfl⟩
    rintro before after move ⟨d, there, same⟩
    obtain ⟨e, here, again⟩ := sentBody_move move there
    exact ⟨e, here, again.trans same⟩

end Compositions

/-- Nor does an action, of whatever steps it consists. -/
theorem sentBody_act (now : Int64) {page : Page Connection} (closed : ¬ page.transport.Accepts)
    (action : PageAction) {number : Nat} {c : Composer}
    (found : page.composers[number]? = some c) :
    ∃ d, (page.act Handlers.standard now action).page.composers[number]? = some d ∧
      d.sentBody = c.sentBody := by
  refine (happen_induct (P := fun here => ¬ here.transport.Accepts ∧
    ∃ d, here.composers[number]? = some d ∧ d.sentBody = c.sentBody) ?_ ⟨closed, c, found, rfl⟩
    [(now, action)]).2
  rintro here later step single ⟨refused, d, there, same⟩
  have used := used_step later here single
  obtain ⟨e, after, again⟩ := sentBody_step later (refuses_iff.2 refused) single there
  refine ⟨?_, e, after, again.trans same⟩
  rintro ⟨held, writing⟩
  exact refused ⟨(used.held.1 held).1, used.writing ▸ writing⟩

end Page

end LiveThread
