import LiveThread.Proofs.Connection.Course
import LiveThread.Proofs.Page.Translation

/-!
# Writing to a connection

Whoever hands messages over, and whatever happens in between, the peer receives
the request for the thread and then the messages that were accepted, in order
and without gaps.  When the connection was let go nothing more is accepted, and
what was accepted before is still written, as long as the peer takes it.

What is accepted is found out by going through the same steps with a list at
hand, which makes no difference to the steps.

Main results:

- Definitions `Page.accepts` and `Page.acceptsAll`: the messages that are accepted.
- Definition `Connection.Queues`: messages were accepted and queued.
- Definition `Connection.Delivers`: what the peer has received of the frames that were queued.
- Theorem `Page.outgoing_undergo`: every step extends the queue, or the writer writes.
- Theorem `Page.delivers_undergoAll`: the peer receives what was accepted, in order.
- Theorem `Page.written_in_order`: the life of a connection, as the peer sees it.
-/

namespace LiveThread

/-! ## What is accepted -/

/-- The writer takes a step. -/
def ClientStep.isWrite : ClientStep → Bool
  | .around .write => true
  | _ => false

namespace Page

/-- The messages that are accepted in an action. -/
def acceptsIn (now : Int64) (page : Page Connection) (action : PageAction) :
    List ClientMessage :=
  (page.listing.act Handlers.standard now action).page.transport.sent

/-- The messages that are accepted in a step. -/
def accepts (now : Int64) (page : Page Connection) : ClientStep → List ClientMessage
  | .around (.act action) => page.acceptsIn now action
  | .around (.send m) => if (page.transport.send m).1 then [m] else []
  | .around .read =>
    match page.takes (.around .read) with
    | .text frame :: _ => page.shift.acceptsIn now (.receive frame)
    | _ => []
  | _ => []

/-- The messages that are accepted in some steps, in order. -/
def acceptsAll (page : Page Connection) : List (Int64 × ClientStep) → List ClientMessage
  | [] => []
  | (now, step) :: steps => page.accepts now step ++ (page.undergo now step).1.acceptsAll steps

/-- In further steps more is accepted. -/
theorem acceptsAll_append (page : Page Connection) (before after : List (Int64 × ClientStep)) :
    page.acceptsAll (before ++ after)
      = page.acceptsAll before ++ (page.undergoAll before).1.acceptsAll after := by
  induction before generalizing page with
  | nil => rfl
  | cons entry before ih =>
    obtain ⟨now, step⟩ := entry
    simp only [List.cons_append, acceptsAll, undergoAll_cons, ih, List.append_assoc]

end Page

/-! ## The queue -/

namespace Connection

variable {c d : Connection} {ms : List ClientMessage} {frames : List String}

/-- Messages were accepted and queued, and nothing was written. -/
structure Queues (c d : Connection) (ms : List ClientMessage) : Prop where
  config : d.config = c.config
  held : d.held = true → c.held = true
  accepts : ms ≠ [] → c.Accepts
  writing : d.writing = c.writing
  queued : d.queued = c.queued ++ ms.map ClientMessage.frame
  received : d.received = c.received

theorem Queues.refl (c : Connection) : Queues c c [] :=
  ⟨rfl, id, fun nonempty => absurd rfl nonempty, rfl, by simp, rfl⟩

/-- To hand a message over extends the queue, if it is accepted. -/
theorem Queues.send (h : Queues c d ms) (m : ClientMessage) :
    Queues c (d.send m).2 (if (d.send m).1 then ms ++ [m] else ms) := by
  unfold Connection.send
  by_cases accepts : (d.held && d.writing) = true
  · rw [if_pos accepts]
    rw [Bool.and_eq_true] at accepts
    exact {
      config := h.config
      held := h.held
      accepts := fun _ => ⟨h.held accepts.1, h.writing ▸ accepts.2⟩
      writing := h.writing
      queued := by simp [h.queued]
      received := h.received }
  · rw [if_neg accepts]
    exact h

theorem Queues.fail (h : Queues c d ms) : Queues c d.fail ms :=
  ⟨h.config, by rintro ⟨⟩, h.accepts, h.writing, h.queued, h.received⟩

/-- The reader leaves the queue alone when it stops. -/
theorem Queues.endReading (h : Queues c d ms) (last : d.number = c.number) :
    Queues c (d.endReading c.number) ms := by
  rw [← last, endReading_number]
  exact ⟨h.config, h.held, h.accepts, h.writing, h.queued, h.received⟩

/-- The peer has received the first of the frames that were queued, and as long as it takes them the
others are still queued.  A writer that has ended left none behind. -/
structure Delivers (frames : List String) (c : Connection) : Prop where
  order : c.received <+: frames
  whole : c.peerOpen = true ∨ c.writing = true → c.received ++ c.queued = frames
  ended : c.peerOpen = true → c.writing = false → c.queued = []

/-- Frames are queued while the writer is at work. -/
theorem Delivers.queue (h : Delivers frames c) (queues : Queues c d ms)
    (peer : d.peerOpen = true → c.peerOpen = true) :
    Delivers (frames ++ ms.map ClientMessage.frame) d where
  order := by
    rw [queues.received]
    exact h.order.trans (List.prefix_append _ _)
  whole active := by
    rw [queues.writing] at active
    rw [queues.received, queues.queued, ← List.append_assoc, h.whole (active.imp_left peer)]
  ended active idle := by
    rw [queues.writing] at idle
    have none : ms = [] := by
      by_contra nonempty
      have accepts := queues.accepts nonempty
      rw [Accepts, idle] at accepts
      cases accepts.2
    rw [queues.queued, h.ended (peer active) idle, none]
    rfl

/-- The writer writes the next frame, or it gives the frames up if the peer takes no more. -/
theorem Delivers.writeNext (h : Delivers frames c) : Delivers frames c.writeNext := by
  rw [writeNext_eq]
  unfold Socket.writeNext
  split
  · next writing =>
    have whole := h.whole (.inr writing)
    split
    · next frame rest queued =>
      rw [queued] at whole
      split
      · next peer =>
        have moved : (c.received ++ [frame]) ++ rest = frames := by simpa using whole
        exact ⟨moved ▸ List.prefix_append _ _, fun _ => moved,
          fun _ idle => by simp [writing] at idle⟩
      · next gone =>
        exact ⟨h.order, fun active => by simp [gone] at active, fun peer => absurd peer gone⟩
    · next empty =>
      split
      · exact h
      · exact ⟨h.order, fun _ => whole, fun _ _ => empty⟩
  · exact h

/-- A step of the writer shortens the queue as long as the peer takes frames. -/
theorem Delivers.length_writeNext (h : Delivers frames c) (peer : c.peerOpen = true) :
    c.writeNext.queued.length ≤ c.queued.length - 1 := by
  rw [writeNext_eq]
  unfold Socket.writeNext
  split
  · split
    · next frame rest queued => simp [queued]
    · next empty => split <;> simp [empty]
  · next idle => simp [h.ended peer (Bool.eq_false_iff.2 idle)]

/-- A new connection has the request for the thread in its queue. -/
theorem delivers_connect (c : Connection) :
    Delivers [c.request.frame] (c.connect .accepted).2 where
  order := List.nil_prefix
  whole _ := rfl
  ended _ idle := by cases idle

end Connection

namespace Page

open Connection

variable {page : Page Connection}

/-- An action queues the messages that are accepted in it. -/
theorem queues_act (now : Int64) (page : Page Connection) (action : PageAction) :
    Queues page.transport (page.act Handlers.standard now action).page.transport
      (page.acceptsIn now action) := by
  have listed := deeds_induct
    (P := fun log : Logged Connection => Queues page.transport log.way log.sent)
    (fun log m queued => queued.send m) (fun log _ queued => queued.fail)
    (act_deeds Handlers.standard_restrained now page.listing action) (.refl page.transport)
  have same := act_mapWay Logged.mirrors_way page.listing now action
  rw [show (page.act Handlers.standard now action).page.transport
    = (page.listing.act Handlers.standard now action).page.transport.way from
      congrArg (fun turn : Turn Connection => turn.page.transport) same]
  exact listed

/-- The reader delivers what it takes. -/
theorem queues_read (now : Int64) (page : Page Connection) :
    Queues page.transport (page.undergo now (.around .read)).1.transport
      (page.accepts now (.around .read)) := by
  rcases page.read_cases now with ⟨nothing, idle⟩ | ⟨arrival, takes, read⟩
  · rw [idle, accepts, nothing]
    exact .refl page.transport
  · have shifted : page.shift.transport
        = { page.transport with toSocket := page.transport.toSocket.shift } :=
      shiftAt_number page.transport
    have start : Queues page.transport page.shift.transport [] := by
      rw [shifted]
      exact ⟨rfl, id, fun nonempty => absurd rfl nonempty, rfl, (List.append_nil _).symm, rfl⟩
    have same : page.shift.transport.number = page.transport.number := by rw [shifted]; rfl
    rw [read, accepts, takes]
    cases arrival with
    | text frame =>
      have handed := queues_act now page.shift (.receive frame)
      have last := (used_act now page.shift (.receive frame)).number.trans same
      rw [shifted] at handed
      have queues : Queues page.transport
          (page.shift.deliverFrame Handlers.standard now frame).page.transport
          (page.shift.acceptsIn now (.receive frame)) :=
        ⟨handed.config, handed.held, handed.accepts, handed.writing, handed.queued,
          handed.received⟩
      simp only [readArrival]
      split
      · exact queues.endReading last
      · exact queues
    | other => exact start
    | closed => exact start.endReading same
    | broken =>
      have broken : Queues page.transport { page.shift.transport with state := .errored } [] :=
        ⟨start.config, start.held, start.accepts, start.writing, start.queued, start.received⟩
      exact broken.endReading same

/-- In every step messages are queued, or the writer takes its next step. -/
theorem outgoing_undergo (now : Int64) (page : Page Connection) (step : ClientStep) :
    let after := (page.undergo now step).1.transport
    step.isWrite = true ∧ page.accepts now step = [] ∧ after = page.transport.writeNext ∨
      step.isWrite = false ∧ Queues page.transport after (page.accepts now step) := by
  have aside : ∀ {d : Connection}, d.config = page.transport.config →
      (d.held = true → page.transport.held = true) → d.writing = page.transport.writing →
      d.queued = page.transport.queued → d.received = page.transport.received →
      Queues page.transport d [] := fun config held writing queued received =>
    ⟨config, held, fun nonempty => absurd rfl nonempty, writing, by simp [queued], received⟩
  cases step with
  | attempt handshake failed =>
    simp only [undergo, connect_of_failed page failed]
    exact .inr ⟨rfl, aside rfl id rfl rfl rfl⟩
  | around step =>
    cases step with
    | act action => exact .inr ⟨rfl, queues_act now page action⟩
    | send m => exact .inr ⟨rfl, (Queues.refl page.transport).send m⟩
    | disconnect =>
      refine .inr ⟨rfl, ?_⟩
      simp only [undergo, advance, mapConnection, disconnect]
      split
      · next held => exact aside rfl (fun _ => held) rfl rfl rfl
      · exact .refl page.transport
    | arrive arrival =>
      refine .inr ⟨rfl, ?_⟩
      simp only [undergo, advance, mapConnection, arrive_eq, Socket.arrive]
      split
      · exact aside rfl id rfl rfl rfl
      · exact .refl page.transport
    | read => exact .inr ⟨rfl, queues_read now page⟩
    | write => exact .inl ⟨rfl, rfl, rfl⟩

/-! ## Any number of steps -/

/-- A step delivers what was queued before it, or queues what is accepted in it. -/
theorem delivers_undergo {frames : List String} (delivers : Delivers frames page.transport)
    (now : Int64) (step : ClientStep) :
    Delivers (frames ++ (page.accepts now step).map ClientMessage.frame)
      (page.undergo now step).1.transport := by
  rcases outgoing_undergo now page step with ⟨-, nothing, wrote⟩ | ⟨-, queues⟩
  · rw [nothing, wrote, List.map_nil, List.append_nil]
    exact delivers.writeNext
  · exact delivers.queue queues (incoming_undergo now page step).peerOpen

/-- The peer receives what was queued before and what is accepted, in order. -/
theorem delivers_undergoAll {frames : List String} (delivers : Delivers frames page.transport)
    (steps : List (Int64 × ClientStep)) :
    Delivers (frames ++ (page.acceptsAll steps).map ClientMessage.frame)
      (page.undergoAll steps).1.transport := by
  induction steps generalizing page frames with
  | nil => simpa [acceptsAll, undergoAll] using delivers
  | cons entry steps ih =>
    obtain ⟨now, step⟩ := entry
    rw [acceptsAll, List.map_append, ← List.append_assoc]
    exact ih (delivers_undergo delivers now step)

/-- A connection goes on with what it was set up with. -/
theorem config_undergoAll (page : Page Connection) (steps : List (Int64 × ClientStep)) :
    (page.undergoAll steps).1.transport.config = page.transport.config := by
  induction steps generalizing page with
  | nil => rfl
  | cons entry steps ih =>
    obtain ⟨now, step⟩ := entry
    refine (ih (page.undergo now step).1).trans ?_
    rcases outgoing_undergo now page step with ⟨-, -, wrote⟩ | ⟨-, queues⟩
    · rw [wrote, writeNext_eq]
    · exact queues.config

/-- After the connection was let go nothing is accepted, and it is not held again. -/
theorem undergo_of_released (now : Int64) (released : page.transport.held = false)
    (step : ClientStep) :
    (page.undergo now step).1.transport.held = false ∧ page.accepts now step = [] := by
  rcases outgoing_undergo now page step with ⟨-, nothing, wrote⟩ | ⟨-, queues⟩
  · rw [wrote, (writeNext_rest page.transport).1]
    exact ⟨released, nothing⟩
  · constructor
    · rw [Bool.eq_false_iff] at released ⊢
      exact fun held => released (queues.held held)
    · by_contra something
      have accepts := queues.accepts something
      rw [Accepts, released] at accepts
      cases accepts.1

theorem undergoAll_of_released (released : page.transport.held = false)
    (steps : List (Int64 × ClientStep)) :
    (page.undergoAll steps).1.transport.held = false ∧ page.acceptsAll steps = [] := by
  induction steps generalizing page with
  | nil => exact ⟨released, rfl⟩
  | cons entry steps ih =>
    obtain ⟨now, step⟩ := entry
    obtain ⟨still, nothing⟩ := undergo_of_released now released step
    obtain ⟨last, rest⟩ := ih still
    exact ⟨last, by rw [acceptsAll, nothing, rest]; rfl⟩

/-! ## What is still written -/

/-- The peer takes frames until the end arrives. -/
theorem peerOpen_undergoAll (peer : page.transport.peerOpen = true)
    {steps : List (Int64 × ClientStep)} (none : ∀ arrival ∈ arrivalsOf steps, ¬ arrival.Closes) :
    (page.undergoAll steps).1.transport.peerOpen = true := by
  induction steps generalizing page with
  | nil => exact peer
  | cons entry steps ih =>
    obtain ⟨now, step⟩ := entry
    rw [arrivalsOf, List.flatMap_cons, List.forall_mem_append] at none
    exact ih ((incoming_undergo now page step).peerOpen_of_open peer none.1) none.2

/-- The steps of the writer shorten the queue, if nothing is accepted meanwhile. -/
theorem length_undergoAll {frames : List String} (delivers : Delivers frames page.transport)
    (released : page.transport.held = false) (peer : page.transport.peerOpen = true)
    {steps : List (Int64 × ClientStep)} (none : ∀ arrival ∈ arrivalsOf steps, ¬ arrival.Closes) :
    (page.undergoAll steps).1.transport.queued.length
      ≤ page.transport.queued.length - steps.countP fun entry => entry.2.isWrite := by
  induction steps generalizing page frames with
  | nil => exact Nat.le_refl _
  | cons entry steps ih =>
    obtain ⟨now, step⟩ := entry
    obtain ⟨still, nothing⟩ := undergo_of_released now released step
    rw [arrivalsOf, List.flatMap_cons, List.forall_mem_append] at none
    have later := ih (delivers_undergo delivers now step) still
      ((incoming_undergo now page step).peerOpen_of_open peer none.1) none.2
    refine later.trans ?_
    rw [List.countP_cons]
    rcases outgoing_undergo now page step with ⟨write, -, wrote⟩ | ⟨other, queues⟩
    · have shorter := delivers.length_writeNext peer
      rw [← wrote] at shorter
      simp only [write, if_true]
      omega
    · have same : (page.undergo now step).1.transport.queued = page.transport.queued := by
        rw [queues.queued, nothing]
        exact List.append_nil _
      simp [other, same]

/-- A step that lets go of the connection leaves it released. -/
theorem released_of_letsGo (now : Int64) {step : ConnectionStep} (lets : page.LetsGo step) :
    (page.undergo now (.around step)).1.transport.held = false := by
  rw [Bool.eq_false_iff]
  exact fun held => ((advance_spec now page step).held.1 held).2 lets

/-- After the connection was let go nothing is accepted, and the peer receives what was. -/
theorem received_of_released {frames : List String} (delivers : Delivers frames page.transport)
    (peer : page.transport.peerOpen = true) {past : List (Int64 × ClientStep)}
    (released : (page.undergoAll past).1.transport.held = false)
    (later : List (Int64 × ClientStep)) :
    (page.undergoAll (past ++ later)).1.transport.held = false ∧
    page.acceptsAll (past ++ later) = page.acceptsAll past ∧
    ((∀ arrival ∈ arrivalsOf (past ++ later), ¬ arrival.Closes) →
      (page.undergoAll past).1.transport.queued.length
        ≤ later.countP (fun entry => entry.2.isWrite) →
      (page.undergoAll (past ++ later)).1.transport.received
        = frames ++ (page.acceptsAll (past ++ later)).map ClientMessage.frame) := by
  obtain ⟨last, nothing⟩ := undergoAll_of_released released later
  refine ⟨?_, ?_, fun none enough => ?_⟩
  · rw [undergoAll_append]
    exact last
  · rw [acceptsAll_append, nothing, List.append_nil]
  · have all := delivers_undergoAll delivers (past ++ later)
    have taking := peerOpen_undergoAll peer none
    rw [arrivalsOf, List.flatMap_append, List.forall_mem_append] at none
    have shorter := length_undergoAll (delivers_undergoAll delivers past) released
      (peerOpen_undergoAll peer none.1) none.2
    rw [← all.whole (.inl taking)]
    have empty : ((page.undergoAll past).1.undergoAll later).1.transport.queued = [] :=
      List.length_eq_zero_iff.1 (by omega)
    rw [undergoAll_append, empty, List.append_nil]

/-- Take a page with a new connection, any steps before it is accepted, attempts in vain to connect
among them, and any steps of its authors, its reader, its writer and its peer after that.

- Before, every message is refused, and the peer receives nothing.
- After that the peer has received the request for the thread, and then the messages that were
  accepted, in order; what it has not received yet are the last of them.
- Once the connection was let go, by choice or by a failure, every message is refused, nothing is
  accepted any more, and if the peer does not close its side, everything that was accepted is
  received as soon as the writer has taken as many steps as there were frames in the queue. -/
theorem written_in_order (page : Page Connection) (config : ConnectionConfig)
    (early steps : List (Int64 × ClientStep)) :
    let fresh := page.mapConnection fun _ => { config := config }
    let waiting := (fresh.undergoAll early).1
    let begun := (waiting.connect .accepted).1
    let here := (begun.undergoAll steps).1
    let frames := (ClientMessage.synchronise ⟨config.board, config.thread⟩).frame ::
      (begun.acceptsAll steps).map ClientMessage.frame
    Refuses waiting.transport ∧ fresh.acceptsAll early = [] ∧ waiting.transport.received = [] ∧
    here.transport.received <+: frames ∧
    ∀ before now step later, steps = before ++ (now, .around step) :: later →
      (begun.undergoAll before).1.LetsGo step →
      let past := before ++ [(now, .around step)]
      let released := (begun.undergoAll past).1
      Refuses here.transport ∧ begun.acceptsAll steps = begun.acceptsAll past ∧
      ((∀ arrival ∈ arrivalsOf steps, ¬ arrival.Closes) →
        released.transport.queued.length ≤ later.countP (fun entry => entry.2.isWrite) →
        here.transport.received = frames) := by
  intro fresh waiting begun here frames
  have idle : Delivers [] fresh.transport :=
    ⟨List.nil_prefix, by rintro (⟨⟨⟩⟩ | ⟨⟨⟩⟩), by rintro ⟨⟩⟩
  have unheld : fresh.transport.held = false := rfl
  obtain ⟨free, nothing⟩ := undergoAll_of_released unheld early
  have silent : waiting.transport.received = [] := by
    have delivers := delivers_undergoAll idle early
    rw [nothing] at delivers
    exact List.prefix_nil.1 delivers.order
  have refuses : ∀ {c : Connection}, c.held = false → Refuses c := by
    intro c released
    rw [refuses_iff, Accepts, released]
    rintro ⟨⟨⟩, -⟩
  have request : waiting.transport.request = .synchronise ⟨config.board, config.thread⟩ := by
    rw [Connection.request, config_undergoAll fresh early]
    rfl
  have start : Delivers [(ClientMessage.synchronise ⟨config.board, config.thread⟩).frame]
      begun.transport := by
    rw [← request]
    exact delivers_connect waiting.transport
  refine ⟨refuses free, nothing, silent, (delivers_undergoAll start steps).order, ?_⟩
  intro before now step later whole lets past released
  have along : steps = past ++ later := by rw [whole, List.append_cons]
  have letGo : released.transport.held = false := by
    simp only [released, past, undergoAll_append]
    exact released_of_letsGo now lets
  obtain ⟨last, same, all⟩ := received_of_released start rfl letGo later
  rw [← along] at last same all
  exact ⟨refuses last, same, all⟩

-- What was accepted is still written after the connection was let go; what comes then is not.
example (page : Page Connection) :
    let begun := ((page.mapConnection fun _ => {}).connect .accepted).1
    (begun.undergoAll [(0, .around (.send .closePost)), (1, .around .disconnect),
      (2, .around (.send .spoiler)), (3, .around .write), (4, .around .write),
      (5, .around .write)]).1.transport.received
      = [begun.transport.request.frame, ClientMessage.closePost.frame] :=
  rfl

end Page

end LiveThread
