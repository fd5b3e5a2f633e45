import LiveThread.Page.Action
import LiveThread.Proofs.Wire.RoundTrip
import LiveThread.Transport.Memory

/-!
# The steps of a page

A frame may bring many messages.  A page with the standard handlers takes them
one by one, up to the first one by which the server refuses to go on, so a
history of frames is a history of steps with one message each.

Main results:

- Definition `Delivery.messages`: the messages that a page takes from a frame.
- Definitions `PageStep`, `Page.step` and `Page.follow`: single steps and histories of them.
- Theorem `Page.result_handle`: the standard handlers reject nothing.
- Theorem `Page.deliverFrame_eq_follow`: a frame is taken message by message.
- Theorem `Page.happen_eq_follow`: so is every frame of a history.
- Theorem `Page.happen_induct`: what every step keeps holds after every history.
- Theorems `Delivery.ofFrame_frame` and `Delivery.ofFrame_concat`: a frame brings the message that
  was written, a batch brings what its frames bring.
-/

namespace LiveThread

/-! ## What a frame brings -/

mutual

/-- The messages that a page takes from a delivery, in order: those up to the first one by which
the server refuses to go on. -/
def Delivery.messages : Delivery → List ServerMessage
  | .rejected _ => []
  | .single m => [m]
  | .batch parts => partMessages parts

/-- The messages that a page takes from the parts of a batch. -/
def partMessages : List Delivery → List ServerMessage
  | [] => []
  | part :: parts =>
    if part.messages.any fun m => m.kind = .invalid then part.messages
    else part.messages ++ partMessages parts

end

namespace Delivery

/-- A frame brings the message that was written, if it is not a batch and holds no documents. -/
theorem ofFrame_frame {m : ServerMessage} (single : m.kind ≠ .concat) (plain : m.documents = [])
    (unseen : m.unseen = m) : Delivery.ofFrame m.frame = .single m := by
  have read : ServerMessage.ofFrame m.frame = .ok m.unseen := by
    apply ServerMessage.ofFrame_frame
    simp [plain]
  rw [unseen] at read
  exact Delivery.ofFrame_of_single read single

/-- A batch brings what its frames bring, in order. -/
theorem ofFrame_concat (frames : List String) :
    Delivery.ofFrame (ServerMessage.concat frames).frame
      = .batch (frames.map Delivery.ofFrame) := by
  apply Delivery.ofFrame_of_concat
  exact ServerMessage.ofFrame_frame (.concat frames) (by simp [ServerMessage.documents])

end Delivery

/-! ## Steps -/

/-- One thing that happens on a page: a message arrives, or something else is done. -/
inductive PageStep where
  | message (m : ServerMessage)
  | action (action : PageAction)

/-- The steps of an action: those of a frame are its messages. -/
def PageAction.steps : PageAction → List PageStep
  | .receive frame => (Delivery.ofFrame frame).messages.map .message
  | action => [.action action]

/-- The step of a frame with one message. -/
theorem PageAction.steps_frame {m : ServerMessage} (single : m.kind ≠ .concat)
    (plain : m.documents = []) (unseen : m.unseen = m) :
    (PageAction.receive m.frame).steps = [.message m] := by
  rw [steps, Delivery.ofFrame_frame single plain unseen]
  rfl

/-- The steps of timed actions. -/
def stepsOf (actions : List (Int64 × PageAction)) : List (Int64 × PageStep) :=
  actions.flatMap fun (now, action) => action.steps.map fun step => (now, step)

/-- Frames are always taken apart. -/
theorem single_of_mem_stepsOf {actions : List (Int64 × PageAction)} {entry : Int64 × PageStep}
    (h : entry ∈ stepsOf actions) (frame : String) : entry.2 ≠ .action (.receive frame) := by
  obtain ⟨⟨now, action⟩, -, mem⟩ := List.mem_flatMap.1 h
  obtain ⟨step, mem, rfl⟩ := List.mem_map.1 mem
  rintro rfl
  cases action <;> simp [PageAction.steps] at mem

/-- Those of one action are. -/
theorem PageAction.single_of_mem_steps {action : PageAction} {now : Int64}
    {entry : Int64 × PageStep} (h : entry ∈ action.steps.map fun step => (now, step))
    (frame : String) : entry.2 ≠ .action (.receive frame) := by
  have among : entry ∈ stepsOf [(now, action)] := by simpa [stepsOf] using h
  exact single_of_mem_stepsOf among frame

namespace Page

variable {τ : Type} [Transport τ]

/-- A page without posts, the messages of which are kept in memory. -/
def inMemory (board : String) (thread : UInt64) : Page Memory :=
  { board := board, thread := thread, transport := Memory.empty }

/-- A step of a page with the standard handlers, and what is told of it. -/
def step (now : Int64) (page : Page τ) : PageStep → Page τ × List Event
  | .message m =>
    ((page.receive Handlers.standard now m).page, (page.receive Handlers.standard now m).events)
  | .action action =>
    ((page.act Handlers.standard now action).page, (page.act Handlers.standard now action).events)

/-- The page after some steps, and what is told of them. -/
def follow (page : Page τ) (steps : List (Int64 × PageStep)) : Page τ × List Event :=
  page.through step steps

/-- The page after some timed actions, with the standard handlers, and what is told of them. -/
def happen (page : Page τ) (history : List (Int64 × PageAction)) : Page τ × List Event :=
  page.elapse Handlers.standard history

theorem follow_nil (page : Page τ) : page.follow [] = (page, []) :=
  rfl

theorem follow_cons (page : Page τ) (now : Int64) (step : PageStep)
    (steps : List (Int64 × PageStep)) :
    page.follow ((now, step) :: steps)
      = (((page.step now step).1.follow steps).1,
          (page.step now step).2 ++ ((page.step now step).1.follow steps).2) :=
  rfl

theorem happen_cons (page : Page τ) (now : Int64) (action : PageAction)
    (history : List (Int64 × PageAction)) :
    page.happen ((now, action) :: history)
      = (((page.act Handlers.standard now action).page.happen history).1,
          (page.act Handlers.standard now action).events
            ++ ((page.act Handlers.standard now action).page.happen history).2) :=
  rfl

/-- Steps go on where the first of them ended. -/
theorem follow_append (page : Page τ) (before after : List (Int64 × PageStep)) :
    page.follow (before ++ after)
      = (((page.follow before).1.follow after).1,
          (page.follow before).2 ++ ((page.follow before).1.follow after).2) :=
  page.through_append step before after

theorem follow_concat (page : Page τ) (past : List (Int64 × PageStep)) (now : Int64)
    (step : PageStep) :
    (page.follow (past ++ [(now, step)])).1 = ((page.follow past).1.step now step).1 := by
  rw [follow_append]
  rfl

/-- What every allowed step keeps holds after any number of them. -/
theorem follow_induct {P : Page τ → Prop} {allowed : PageStep → Prop}
    (keeps : ∀ page now step, allowed step → P page → P (page.step now step).1) {page : Page τ}
    (start : P page) {steps : List (Int64 × PageStep)} (all : ∀ entry ∈ steps, allowed entry.2) :
    P (page.follow steps).1 := by
  induction steps generalizing page with
  | nil => exact start
  | cons entry steps ih =>
    exact ih (keeps page entry.1 entry.2 (all entry List.mem_cons_self) start)
      fun later mem => all later (List.mem_cons_of_mem _ mem)

/-! ## Frames are taken message by message -/

omit [Transport τ] in
/-- A message about a registered post is accepted, whether the post takes it or not. -/
@[simp]
theorem result_changePost (page : Page τ) (id : UInt64) (kind : MessageKind)
    (change : Post → Except PostError Post) : (page.changePost id kind change).result = .ok () := by
  unfold changePost
  split
  · rfl
  · split <;> rfl

omit [Transport τ] in
/-- The announcement of a post is accepted. -/
@[simp]
theorem result_insertPost (page : Page τ) (data : Post) :
    (page.insertPost data).result = .ok () := by
  unfold insertPost
  split
  · rfl
  · split <;> rfl

omit [Transport τ] in
/-- The standard handlers reject nothing. -/
@[simp]
theorem result_handle (page : Page τ) (m : ServerMessage) : (page.handle m).result = .ok () := by
  cases m <;> simp [handle, tell, ignore]

/-- Only a message by which the server refuses to go on is fatal. -/
theorem fatal_receive_iff (page : Page τ) (now : Int64) (m : ServerMessage) :
    (∃ reason, (page.receive Handlers.standard now m).result = .error (.fatal reason)) ↔
      m.kind = .invalid := by
  cases m with
  | invalid reason => simp [receive, failWith, ServerMessage.kind]
  | postId id =>
    simp only [receive, receiveId, ServerMessage.kind]
    split <;> simp [tell, reject]
  | serverTime time =>
    simp only [receive, setClock, ServerMessage.kind]
    split <;> simp [reject]
  | noop | concat => simp [receive, ignore, ServerMessage.kind]
  | _ => simp [receive, Handlers.standard, ServerMessage.kind]

/-- The messages of a delivery, all at one time, as steps. -/
def arrivals (now : Int64) (messages : List ServerMessage) : List (Int64 × PageStep) :=
  messages.map fun m => (now, .message m)

mutual

/-- A delivery is taken message by message, and is fatal if one of them is. -/
theorem deliver_eq_follow (now : Int64) (page : Page τ) : (delivery : Delivery) →
    let reply := page.deliver Handlers.standard now delivery
    (reply.page, reply.events) = page.follow (arrivals now delivery.messages) ∧
    ((∃ reason, reply.result = .error (.fatal reason)) ↔
      ∃ m ∈ delivery.messages, m.kind = .invalid)
  | .rejected e => by simp [deliver, reject, Delivery.messages, arrivals, follow_nil]
  | .single m => by
    simp [deliver, Delivery.messages, arrivals, follow_cons, follow_nil, step, fatal_receive_iff]
  | .batch parts => by
    simpa only [deliver, Delivery.messages] using deliverAll_eq_follow now page parts

theorem deliverAll_eq_follow (now : Int64) (page : Page τ) : (parts : List Delivery) →
    let reply := page.deliverAll Handlers.standard now parts
    (reply.page, reply.events) = page.follow (arrivals now (partMessages parts)) ∧
    ((∃ reason, reply.result = .error (.fatal reason)) ↔
      ∃ m ∈ partMessages parts, m.kind = .invalid)
  | [] => by simp [deliverAll, ignore, partMessages, arrivals, follow_nil]
  | part :: parts => by
    obtain ⟨first, fatal⟩ := deliver_eq_follow now page part
    by_cases last : ∃ m ∈ part.messages, m.kind = .invalid
    · obtain ⟨reason, result⟩ := fatal.2 last
      have stop : partMessages (part :: parts) = part.messages := by
        rw [partMessages, if_pos (by simpa using last)]
      simp only [deliverAll, result, stop]
      exact ⟨first, by simpa [result] using last⟩
    · obtain ⟨rest, fatalRest⟩ :=
        deliverAll_eq_follow now (page.deliver Handlers.standard now part).page parts
      have goOn : partMessages (part :: parts) = part.messages ++ partMessages parts := by
        rw [partMessages, if_neg (by simpa using last)]
      have passed : deliverAll Handlers.standard now page (part :: parts)
          = { (page.deliver Handlers.standard now part).page.deliverAll Handlers.standard now parts
              with
              events := (page.deliver Handlers.standard now part).events
                ++ ((page.deliver Handlers.standard now part).page.deliverAll Handlers.standard
                  now parts).events } := by
        rw [deliverAll]
        split
        · next reason result => exact absurd (fatal.1 ⟨reason, result⟩) last
        · rfl
      constructor
      · rw [passed, goOn, arrivals, List.map_append, follow_append]
        rw [arrivals, Prod.ext_iff] at first rest
        simp only [← first.1, ← first.2, ← rest.1, ← rest.2]
      · rw [passed, goOn]
        simp only [fatalRest, List.mem_append]
        constructor
        · rintro ⟨m, mem, kind⟩
          exact ⟨m, .inr mem, kind⟩
        · rintro ⟨m, mem | mem, kind⟩
          · exact absurd ⟨m, mem, kind⟩ last
          · exact ⟨m, mem, kind⟩

end

/-- A frame is taken message by message. -/
theorem deliverFrame_eq_follow (now : Int64) (page : Page τ) (frame : String) :
    let reply := page.deliverFrame Handlers.standard now frame
    (reply.page, reply.events) = page.follow (arrivals now (Delivery.ofFrame frame).messages) :=
  (deliver_eq_follow now page (Delivery.ofFrame frame)).1

/-- An action is taken step by step. -/
theorem act_eq_follow (now : Int64) (page : Page τ) (action : PageAction) :
    let turn := page.act Handlers.standard now action
    (turn.page, turn.events) = page.follow (action.steps.map fun step => (now, step)) := by
  cases action with
  | receive frame =>
    have taken := deliverFrame_eq_follow now page frame
    simpa [act, PageAction.steps, arrivals, Function.comp_def] using taken
  | _ => simp [PageAction.steps, follow_cons, follow_nil, step]

/-- Whatever is told of some steps is told of a message. -/
theorem exists_receive_of_mem_follow {page : Page τ} {steps : List (Int64 × PageStep)}
    (single : ∀ entry ∈ steps, ∀ frame, entry.2 ≠ .action (.receive frame)) {event : Event}
    (told : event ∈ (page.follow steps).2) :
    ∃ (before : Page τ) (now : Int64) (m : ServerMessage),
      event ∈ (before.receive Handlers.standard now m).events := by
  induction steps generalizing page with
  | nil => simp [follow_nil] at told
  | cons entry steps ih =>
    obtain ⟨now, step⟩ := entry
    rcases List.mem_append.1 told with first | later
    · cases step with
      | message m => exact ⟨page, now, m, first⟩
      | action what =>
        cases what with
        | receive frame => exact absurd rfl (single _ List.mem_cons_self frame)
        | compose | attach =>
          simp only [step, act] at first
          split at first <;> cases first
        | newComposer | addComposer | detach | register | drop | fail => cases first
    · exact ih (fun entry mem => single entry (List.mem_cons_of_mem _ mem)) later

/-- So is whatever is told of an action. -/
theorem exists_receive_of_mem_act {page : Page τ} {now : Int64} {action : PageAction}
    {event : Event} (told : event ∈ (page.act Handlers.standard now action).events) :
    ∃ (before : Page τ) (now : Int64) (m : ServerMessage),
      event ∈ (before.receive Handlers.standard now m).events := by
  have taken := congrArg Prod.snd (act_eq_follow now page action)
  simp only at taken
  rw [taken] at told
  exact exists_receive_of_mem_follow (fun _ mem => PageAction.single_of_mem_steps mem) told

/-- A history is taken step by step. -/
theorem happen_eq_follow (page : Page τ) (actions : List (Int64 × PageAction)) :
    page.happen actions = page.follow (stepsOf actions) := by
  induction actions generalizing page with
  | nil => rfl
  | cons entry actions ih =>
    obtain ⟨now, action⟩ := entry
    have first := act_eq_follow now page action
    rw [Prod.ext_iff] at first
    rw [stepsOf, List.flatMap_cons, follow_append, ← first.1, ← first.2]
    rw [happen_cons, ih]
    rfl

/-- What every step keeps holds after every history. -/
theorem happen_induct {P : Page τ → Prop}
    (keeps : ∀ page now step, (∀ frame, step ≠ .action (.receive frame)) → P page →
      P (page.step now step).1)
    {page : Page τ} (start : P page) (history : List (Int64 × PageAction)) :
    P (page.happen history).1 := by
  rw [happen_eq_follow]
  exact follow_induct keeps start fun entry mem => single_of_mem_stepsOf mem

/-- A frame with one message brings that message, and the history goes on. -/
theorem happen_frame (page : Page τ) (now : Int64) {m : ServerMessage} (single : m.kind ≠ .concat)
    (plain : m.documents = []) (unseen : m.unseen = m) (rest : List (Int64 × PageAction)) :
    (page.happen ((now, .receive m.frame) :: rest)).1
      = ((page.receive Handlers.standard now m).page.happen rest).1 := by
  have first := act_eq_follow now page (.receive m.frame)
  rw [PageAction.steps_frame single plain unseen] at first
  exact congrArg (fun page => (happen page rest).1) (congrArg Prod.fst first)

end Page

end LiveThread
