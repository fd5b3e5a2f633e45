import LiveThread.Proofs.Connection.Use

/-!
# The end of a connection

The author, the writer, the reader and the peer go on in any order.  A
connection that was let go refuses every message at once.  When the peer goes
away the reader tells the listener, and the connection is not let go by that:
messages are still accepted until the writer, at the next of them, meets the
end itself.  What is accepted then never arrives.

Main results:

- Definitions `ConnectionStep` and `Page.advance`: what can happen around a connection.
- Definitions `Page.LetsGo` and `Page.MeetsEnd`: how a connection comes to refuse messages.
- Definition `Page.Advance`: what a step does to the connection.
- Theorem `Page.advance_spec`: every step does that.
- Theorem `Page.refused_after_end_iff`: messages are refused exactly once it was let go or the
  writer has met its end; what is accepted after the end is lost, and after a refusal no composition
  counts anything as sent.
- Theorem `Page.edit_after_end_is_lost`: a composition for which the end came too late.
-/

namespace LiveThread

namespace Connection

variable {c d : Connection} {failed : Prop}

/-! ## What the reader has seen -/

/-- An end that has arrived keeps the peer from taking more; after the end the connection is over,
and it was let go or the peer takes no more. -/
structure Sound (c : Connection) : Prop where
  noticed : .closed ∈ c.arrived ∨ .broken ∈ c.arrived → c.peerOpen = false
  ended : c.reading = false → c.IsOver
  left : c.reading = false → c.held = true → c.peerOpen = false

theorem sound_connect (c : Connection) : (c.connect .accepted).2.Sound :=
  ⟨by rintro (⟨⟨⟩⟩ | ⟨⟨⟩⟩), by rintro ⟨⟩, by rintro ⟨⟩⟩

theorem Sound.used (h : c.Sound) (used : Used failed c d) : d.Sound where
  noticed := by
    rw [used.arrived, used.peerOpen]
    exact h.noticed
  ended := by
    rw [used.reading]
    intro stopped
    rcases used.state with same | late
    · rw [IsOver, same]
      exact h.ended stopped
    · exact late
  left := by
    rw [used.reading, used.held, used.peerOpen]
    exact fun stopped holds => h.left stopped holds.1

/-- The reader may stop once the connection was let go or the peer takes no more. -/
theorem sound_endReading (cause : c.held = true → c.peerOpen = false) :
    (c.endReading c.number).Sound := by
  rw [endReading_number]
  refine ⟨by rintro (⟨⟨⟩⟩ | ⟨⟨⟩⟩), fun _ => ?_, fun _ holds => cause holds⟩
  simp only [IsOver]
  split
  · exact .inr rfl
  · exact .inl rfl

theorem Sound.arrive (h : c.Sound) (arrival : Arrival) : (c.arrive arrival).Sound := by
  rw [arrive_eq]
  unfold Socket.arrive
  split
  · next taken =>
    obtain ⟨reading, peer⟩ : c.reading = true ∧ c.peerOpen = true := by simpa using taken
    refine ⟨fun ends => ?_, fun stopped => ?_, fun stopped => ?_⟩
    · have earlier : ¬ (.closed ∈ c.arrived ∨ .broken ∈ c.arrived) := by
        intro ends
        rw [h.noticed ends] at peer
        cases peer
      simp only [List.mem_append, List.mem_singleton] at ends
      have last : arrival = .closed ∨ arrival = .broken := by tauto
      rcases last with rfl | rfl <;> rfl
    · rw [show c.reading = false from stopped] at reading
      cases reading
    · rw [show c.reading = false from stopped] at reading
      cases reading
  · exact h

theorem Sound.writeNext (h : c.Sound) : c.writeNext.Sound := by
  rw [writeNext_eq]
  unfold Socket.writeNext
  split
  · split
    · split <;> exact ⟨h.noticed, h.ended, h.left⟩
    · split
      · exact h
      · exact ⟨h.noticed, h.ended, h.left⟩
  · exact h

theorem arrive_rest (c : Connection) (arrival : Arrival) :
    (c.arrive arrival).held = c.held ∧ (c.arrive arrival).writing = c.writing ∧
      (c.arrive arrival).reading = c.reading ∧ (c.arrive arrival).received = c.received ∧
      (c.peerOpen = false → (c.arrive arrival).peerOpen = false) := by
  rw [arrive_eq]
  unfold Socket.arrive
  split
  · next taken => exact ⟨rfl, rfl, rfl, rfl, fun gone => by simp [gone] at taken⟩
  · exact ⟨rfl, rfl, rfl, rfl, fun gone => gone⟩

theorem writeNext_rest (c : Connection) :
    c.writeNext.held = c.held ∧ c.writeNext.reading = c.reading ∧
      c.writeNext.peerOpen = c.peerOpen ∧
      (c.peerOpen = false → c.writeNext.received = c.received) := by
  rw [writeNext_eq]
  unfold Socket.writeNext
  split
  · split
    · split
      · next peer => exact ⟨rfl, rfl, rfl, fun gone => by simp [gone] at peer⟩
      · exact ⟨rfl, rfl, rfl, fun _ => rfl⟩
    · split <;> exact ⟨rfl, rfl, rfl, fun _ => rfl⟩
  · exact ⟨rfl, rfl, rfl, fun _ => rfl⟩

/-- The writer of a connection that is held stops only when the peer takes its next frame no
more. -/
theorem writing_writeNext (held : c.held = true) :
    c.writeNext.writing = true ↔
      c.writing = true ∧ ¬ (c.writing = true ∧ c.queued ≠ [] ∧ c.peerOpen = false) := by
  rw [writeNext_eq]
  unfold Socket.writeNext
  split
  · next writing =>
    split
    · next frame rest queued =>
      split
      · next peer => simp [writing, peer]
      · next gone => simp [writing, queued, gone]
    · next empty => simp [writing, empty]
  · next idle => simp [idle]

/-- What has arrived first is taken. -/
theorem Sound.take (h : c.Sound) {arrival : Arrival} {rest : List Arrival}
    (next : c.arrived = arrival :: rest) : { c with arrived := rest }.Sound where
  noticed ends := h.noticed (by rw [next]; exact ends.imp (.tail _) (.tail _))
  ended := h.ended
  left := h.left

end Connection

/-! ## What happens around a connection -/

/-- What can happen around a connection. -/
inductive ConnectionStep where
  /-- Something is done on the page. -/
  | act (action : PageAction)
  /-- A message is handed over past the page. -/
  | send (m : ClientMessage)
  | disconnect
  /-- Something arrives from the peer. -/
  | arrive (arrival : Arrival)
  /-- The reader takes the first of what has arrived. -/
  | read
  /-- The writer writes the next frame. -/
  | write

namespace Page

open Connection

/-- A step around the connection of a page with the standard handlers, and what is told of it. -/
def advance (now : Int64) (page : Page Connection) :
    ConnectionStep → Page Connection × List Event
  | .act action =>
    ((page.act Handlers.standard now action).page, (page.act Handlers.standard now action).events)
  | .send m => (page.mapConnection fun c => (c.send m).2, [])
  | .disconnect => (page.mapConnection (·.disconnect), [])
  | .arrive arrival => (page.mapConnection (·.arrive arrival), [])
  | .read => page.readNext Handlers.standard now
  | .write => (page.mapConnection (·.writeNext), [])

/-- The page after some steps, and what is told of them. -/
def advanceAll (page : Page Connection) (steps : List (Int64 × ConnectionStep)) :
    Page Connection × List Event :=
  page.through advance steps

theorem advanceAll_cons (page : Page Connection) (now : Int64) (step : ConnectionStep)
    (steps : List (Int64 × ConnectionStep)) :
    page.advanceAll ((now, step) :: steps)
      = (((page.advance now step).1.advanceAll steps).1,
          (page.advance now step).2 ++ ((page.advance now step).1.advanceAll steps).2) :=
  rfl

/-- The connection is let go in a step: by choice, or by a failure that is done or read. -/
def LetsGo (page : Page Connection) : ConnectionStep → Prop
  | .act action => action.Fails
  | .disconnect => True
  | .read => page.transport.reading = true ∧
    ∃ frame rest, page.transport.arrived = .text frame :: rest ∧ (PageAction.receive frame).Fails
  | _ => False

/-- The writer meets the end of the connection in a step: the peer takes its next frame no more. -/
def MeetsEnd (page : Page Connection) (step : ConnectionStep) : Prop :=
  step = .write ∧ page.transport.writing = true ∧ page.transport.queued ≠ [] ∧
    page.transport.peerOpen = false

/-- What a step does to the connection of a page: how it comes to refuse messages, and what the
listener is told. -/
structure Advance (page : Page Connection) (step : ConnectionStep) (after : Page Connection)
    (events : List Event) : Prop where
  held : after.transport.held = true ↔ page.transport.held = true ∧ ¬ page.LetsGo step
  writing : page.transport.held = true →
    (after.transport.writing = true ↔ page.transport.writing = true ∧ ¬ page.MeetsEnd step)
  stopped : page.transport.writing = false → after.transport.writing = false
  told : .disconnected ∈ events ↔
    page.transport.reading = true ∧ after.transport.reading = false
  reading : page.transport.reading = false → after.transport.reading = false
  peer : page.transport.peerOpen = false → after.transport.peerOpen = false ∧
    after.transport.received = page.transport.received
  sound : page.transport.Sound → after.transport.Sound

/-- A step that only uses the connection, some of whose arrivals may have been taken before. -/
theorem advance_of_used {page after : Page Connection} {step : ConnectionStep}
    {rest : List Arrival} {events : List Event}
    (taken : page.transport.Sound → { page.transport with arrived := rest }.Sound)
    (used : Used (page.LetsGo step) { page.transport with arrived := rest } after.transport)
    (quiet : .disconnected ∉ events) (other : step ≠ .write) :
    page.Advance step after events where
  held := used.held
  writing _ := by simp [used.writing, MeetsEnd, other]
  stopped := by rw [used.writing]; exact fun h => h
  told := by simp [quiet, used.reading]
  reading := by rw [used.reading]; exact fun h => h
  peer gone := ⟨used.peerOpen.trans gone, used.received⟩
  sound h := (taken h).used used

/-! ## The reader -/

section Reader

variable {page after : Page Connection} {arrival : Arrival} {rest : List Arrival} {d : Connection}
  {events : List Event}

/-- The reader takes an arrival and stops. -/
theorem advance_of_readEnd (reading : page.transport.reading = true)
    (used : Used (page.LetsGo .read) { page.transport with arrived := rest } d)
    (cause : page.transport.Sound → d.held = true → d.peerOpen = false)
    (ended : after.transport = d.endReading page.transport.number)
    (told : .disconnected ∈ events) : page.Advance .read after events := by
  have last : d.number = page.transport.number := used.number
  rw [← last] at ended
  have sound : page.transport.Sound → after.transport.Sound := by
    rw [ended]
    exact fun h => sound_endReading (cause h)
  rw [endReading_number] at ended
  exact {
    held := by rw [ended]; exact used.held
    writing := fun _ => by
      rw [show after.transport.writing = d.writing by rw [ended]; rfl, used.writing]
      simp [MeetsEnd]
    stopped := by
      rw [show after.transport.writing = d.writing by rw [ended]; rfl, used.writing]
      exact fun h => h
    told := by
      rw [show after.transport.reading = false by rw [ended]; rfl]
      simp [told, reading]
    reading := by rw [ended]; exact fun _ => rfl
    peer := fun gone => by
      rw [ended]
      exact ⟨used.peerOpen.trans gone, used.received⟩
    sound := sound }

/-- A frame is fatal if one of its messages is. -/
theorem deliverFrame_fatal_iff (now : Int64) (page : Page Connection) (frame : String) :
    (∃ reason, (page.deliverFrame Handlers.standard now frame).result = .error (.fatal reason)) ↔
      (PageAction.receive frame).Fails := by
  refine (deliver_eq_follow now page (Delivery.ofFrame frame)).2.trans ?_
  simp [PageAction.Fails, PageAction.steps, PageStep.Fails]

/-- The reader takes what has arrived first. -/
theorem advance_read (now : Int64) (page : Page Connection) :
    page.Advance .read (page.readNext Handlers.standard now).1
      (page.readNext Handlers.standard now).2 := by
  cases next : page.transport.toSocket.next? with
  | none =>
    have idle : ¬ page.LetsGo .read := by
      rintro ⟨reading, frame, rest, arrived, -⟩
      rw [Socket.next?_eq_none_iff.1 next reading] at arrived
      cases arrived
    simp only [readNext, readAt, socket_number, next]
    exact advance_of_used id ((Used.refl _).of_iff (by simp [idle])) (by simp) (by rintro ⟨⟩)
  | some arrival =>
    obtain ⟨reading, first⟩ := Socket.next?_eq_some_iff.1 next
    let taken := page.mapConnection fun c => { c with toSocket := c.toSocket.shift }
    have step : page.readNext Handlers.standard now
        = taken.readArrival Handlers.standard now page.transport.number arrival := by
      simp only [readNext, readAt, socket_number, next, mapConnection, shiftAt_number, taken]
    rw [step]
    cases arrival with
    | text frame =>
      have fails : (PageAction.receive frame).Fails ↔ page.LetsGo .read := by
        simp [LetsGo, reading, first]
      have used := used_act now taken (.receive frame)
      have quiet := notMem_act_of_life (.inr rfl) now taken (.receive frame)
      have fatal := deliverFrame_fatal_iff now taken frame
      simp only [readArrival]
      split
      · next reason result =>
        refine advance_of_readEnd reading (used.of_iff fails) (fun _ held => ?_) rfl ?_
        · exact absurd (fatal.1 ⟨reason, result⟩) (used.held.1 held).2
        · simp [endReading]
      · exact advance_of_used (·.take first) (used.of_iff fails) quiet (by rintro ⟨⟩)
    | other =>
      have idle : ¬ page.LetsGo .read := by simp [LetsGo, first]
      exact advance_of_used (·.take first) ((Used.refl taken.transport).of_iff (by simp [idle]))
        (by simp [readArrival]) (by rintro ⟨⟩)
    | closed =>
      have idle : ¬ page.LetsGo .read := by simp [LetsGo, first]
      refine advance_of_readEnd reading ((Used.refl taken.transport).of_iff (by simp [idle]))
        (fun sound _ => ?_) rfl (by simp [readArrival, endReading])
      exact sound.noticed (.inl (by simp [first]))
    | broken =>
      have idle : ¬ page.LetsGo .read := by simp [LetsGo, first]
      refine advance_of_readEnd reading ((used_break taken.transport).of_iff (by simp [idle]))
        (fun sound _ => ?_) rfl (by simp [readArrival, endReading])
      exact sound.noticed (.inr (by simp [first]))

end Reader

/-! ## Every step -/

/-- Every step does to the connection what it is described to do. -/
theorem advance_spec (now : Int64) (page : Page Connection) (step : ConnectionStep) :
    page.Advance step (page.advance now step).1 (page.advance now step).2 := by
  cases step with
  | act action =>
    exact advance_of_used id (used_act now page action)
      (notMem_act_of_life (.inr rfl) now page action) (by rintro ⟨⟩)
  | send m =>
    exact advance_of_used id ((used_send page.transport m).of_iff (by simp [LetsGo]))
      (by simp [advance]) (by rintro ⟨⟩)
  | disconnect =>
    exact advance_of_used id ((used_disconnect page.transport).of_iff (by simp [LetsGo]))
      (by simp [advance]) (by rintro ⟨⟩)
  | arrive arrival =>
    obtain ⟨held, writing, reading, received, gone⟩ := arrive_rest page.transport arrival
    exact {
      held := by simp [advance, mapConnection, held, LetsGo]
      writing := fun _ => by simp [advance, mapConnection, writing, MeetsEnd]
      stopped := by simp [advance, mapConnection, writing]
      told := by simp [advance, mapConnection, reading]
      reading := by simp [advance, mapConnection, reading]
      peer := fun closed => ⟨gone closed, received⟩
      sound := fun h => h.arrive arrival }
  | read => exact advance_read now page
  | write =>
    obtain ⟨held, reading, peer, received⟩ := writeNext_rest page.transport
    exact {
      held := by simp [advance, mapConnection, held, LetsGo]
      writing := fun holds => by
        simpa [advance, mapConnection, MeetsEnd] using writing_writeNext holds
      stopped := fun idle => by
        simp [advance, mapConnection, writeNext_eq, Socket.writeNext, idle]
      told := by simp [advance, mapConnection, reading]
      reading := by simp [advance, mapConnection, reading]
      peer := fun gone => ⟨peer.trans gone, received gone⟩
      sound := fun h => h.writeNext }

/-! ## Histories -/

/-- In one of the steps the connection is let go, or the writer meets its end. -/
def Ended (page : Page Connection) : List (Int64 × ConnectionStep) → Prop
  | [] => False
  | (now, step) :: steps =>
    (page.LetsGo step ∨ page.MeetsEnd step) ∨ (page.advance now step).1.Ended steps

section Histories

variable {page : Page Connection}

/-- A step after which messages are accepted is none that ends that. -/
theorem Advance.accepts_iff {after : Page Connection} {step : ConnectionStep} {events : List Event}
    (h : page.Advance step after events) :
    after.transport.Accepts ↔
      page.transport.Accepts ∧ ¬ (page.LetsGo step ∨ page.MeetsEnd step) := by
  by_cases held : page.transport.held = true
  · rw [Accepts, Accepts, h.held, h.writing held, not_or]
    tauto
  · have free : ¬ after.transport.held = true := fun still => held (h.held.1 still).1
    simp [Accepts, held, free]

/-- Messages are accepted until a step ends that. -/
theorem accepts_advanceAll_iff (page : Page Connection) (steps : List (Int64 × ConnectionStep)) :
    (page.advanceAll steps).1.transport.Accepts ↔
      page.transport.Accepts ∧ ¬ page.Ended steps := by
  induction steps generalizing page with
  | nil => simp [advanceAll, Ended]
  | cons entry steps ih =>
    obtain ⟨now, step⟩ := entry
    have first := (advance_spec now page step).accepts_iff
    simp only [advanceAll_cons, Ended, ih, first]
    tauto

/-- The listener is told of the end when the reader stops. -/
theorem told_advanceAll_iff (page : Page Connection) (steps : List (Int64 × ConnectionStep)) :
    (.disconnected ∈ (page.advanceAll steps).2 ↔
      page.transport.reading = true ∧ (page.advanceAll steps).1.transport.reading = false) ∧
    (page.transport.reading = false →
      (page.advanceAll steps).1.transport.reading = false) := by
  induction steps generalizing page with
  | nil => simp [advanceAll]
  | cons entry steps ih =>
    obtain ⟨now, step⟩ := entry
    have first := advance_spec now page step
    obtain ⟨told, stays⟩ := ih (page.advance now step).1
    simp only [advanceAll_cons, List.mem_append, first.told, told]
    refine ⟨?_, fun stopped => stays (first.reading stopped)⟩
    cases before : page.transport.reading with
    | false => simp [first.reading before]
    | true =>
      cases between : (page.advance now step).1.transport.reading with
      | false => simp [stays between]
      | true => simp

theorem sound_advanceAll (sound : page.transport.Sound) (steps : List (Int64 × ConnectionStep)) :
    (page.advanceAll steps).1.transport.Sound := by
  induction steps generalizing page with
  | nil => exact sound
  | cons entry steps ih => exact ih ((advance_spec entry.1 page entry.2).sound sound)

/-- A peer that takes no more receives no more. -/
theorem received_advanceAll (gone : page.transport.peerOpen = false)
    (steps : List (Int64 × ConnectionStep)) :
    (page.advanceAll steps).1.transport.received = page.transport.received := by
  induction steps generalizing page with
  | nil => rfl
  | cons entry steps ih =>
    obtain ⟨still, received⟩ := (advance_spec entry.1 page entry.2).peer gone
    exact (ih still).trans received

end Histories

/-! ## Compositions after a refusal -/

section Refused

variable {page : Page Connection} {number : Nat} {c : Composer}

/-- While messages are refused, no step around the connection makes a composition count anything as
sent. -/
theorem sentBody_advance (now : Int64) (closed : ¬ page.transport.Accepts)
    (step : ConnectionStep) (found : page.composers[number]? = some c) :
    ∃ d, (page.advance now step).1.composers[number]? = some d ∧ d.sentBody = c.sentBody := by
  cases step with
  | act action => exact sentBody_act now closed action found
  | read =>
    simp only [advance, readNext, readAt, socket_number]
    split
    · exact ⟨c, found, rfl⟩
    · next arrival next =>
      cases arrival with
      | text frame =>
        let before := page.mapConnection (·.shiftAt page.transport.number)
        have still : ¬ before.transport.Accepts := by
          simp only [before, mapConnection, shiftAt_number]
          exact closed
        have taken := sentBody_act now still (.receive frame) found
        simp only [readArrival]
        split <;> exact taken
      | other | closed | broken => exact ⟨c, found, rfl⟩
  | send | disconnect | arrive | write => exact ⟨c, found, rfl⟩

/-- Nor do any number of them. -/
theorem sentBody_advanceAll (closed : ¬ page.transport.Accepts)
    (steps : List (Int64 × ConnectionStep)) (found : page.composers[number]? = some c) :
    ∃ d, (page.advanceAll steps).1.composers[number]? = some d ∧ d.sentBody = c.sentBody := by
  induction steps generalizing page c with
  | nil => exact ⟨c, found, rfl⟩
  | cons entry steps ih =>
    obtain ⟨now, step⟩ := entry
    obtain ⟨d, there, same⟩ := sentBody_advance now closed step found
    have still : ¬ (page.advance now step).1.transport.Accepts :=
      fun accepts => closed ((advance_spec now page step).accepts_iff.1 accepts).1
    obtain ⟨e, later, again⟩ := ih still there
    exact ⟨e, later, again.trans same⟩

end Refused

/-- Take a page whose connection is new, any steps before it is accepted, and any steps of its
author, its reader, its writer and its peer after that.

- Messages are refused before.
- The listener has been told of the end exactly if the reader has stopped, and then the connection
  is disconnected or broken.
- Messages are refused again exactly if in one of the steps the connection was let go, by choice or
  by a failure, or the writer has met its end.
- If they are accepted although the reader has stopped, nothing reaches the peer any more.
- Once they are refused, no composition counts anything more as sent. -/
theorem refused_after_end_iff (page : Page Connection) (config : ConnectionConfig)
    (new : page.transport = { config := config })
    (before steps : List (Int64 × ConnectionStep)) :
    let waiting := (page.advanceAll before).1
    let begun := waiting.mapConnection fun c => (c.connect .accepted).2
    let here := (begun.advanceAll steps).1
    Refuses waiting.transport ∧
    (.disconnected ∈ (begun.advanceAll steps).2 ↔ here.transport.reading = false) ∧
    (here.transport.reading = false → here.transport.IsOver) ∧
    (Refuses here.transport ↔ begun.Ended steps) ∧
    (here.transport.reading = false → ¬ Refuses here.transport →
      ∀ later, (here.advanceAll later).1.transport.received = here.transport.received) ∧
    (Refuses here.transport →
      ∀ later (number : Nat) (c : Composer), here.composers[number]? = some c →
        ∃ d, (here.advanceAll later).1.composers[number]? = some d ∧ d.sentBody = c.sentBody) := by
  intro waiting begun here
  have closed : ¬ page.transport.Accepts := by
    rw [new]
    rintro ⟨⟨⟩, -⟩
  have reading : begun.transport.reading = true := rfl
  have accepts : begun.transport.Accepts := ⟨rfl, rfl⟩
  have sound : here.transport.Sound := sound_advanceAll (sound_connect waiting.transport) steps
  have accepted : here.transport.Accepts ↔ begun.transport.Accepts ∧ ¬ begun.Ended steps :=
    accepts_advanceAll_iff begun steps
  refine ⟨?_, ?_, sound.ended, ?_, fun stopped accepting later => ?_,
    fun refuses later number c => ?_⟩
  · exact refuses_iff.2 fun early => closed ((accepts_advanceAll_iff page before).1 early).1
  · rw [(told_advanceAll_iff begun steps).1]
    simp [reading, here]
  · rw [refuses_iff, accepted]
    simp [accepts]
  · have held := (not_not.1 (fun refused => accepting (refuses_iff.2 refused))).1
    exact received_advanceAll (sound.left stopped held) later
  · exact sentBody_advanceAll (refuses_iff.1 refuses) later

/-- A connection is let go before anything is typed. -/
theorem refused_after_disconnect :
    let page : Page Connection := { board := "a", thread := 1, transport := {} }
    let begun := (page.advanceAll [(0, .act (.newComposer {}))]).1.mapConnection
      fun c => (c.connect .accepted).2
    let here := (begun.advanceAll [(1, .disconnect)]).1
    Refuses here.transport ∧
      ∃ c, (here.advanceAll [(2, .act (.compose 0 (.edit "a"))), (3, .write)]).1.composers[0]?
        = some c ∧ c.sentBody = "" := by
  intro page begun here
  obtain ⟨-, -, -, refused, -, kept⟩ := refused_after_end_iff page {} rfl
    [(0, .act (.newComposer {}))] [(1, .disconnect)]
  have refuses : Refuses here.transport := refused.2 (.inl (.inl trivial))
  exact ⟨refuses, kept refuses _ 0 (Composer.new {} "a" 1 0) rfl⟩

/-- The peer closes the connection and the listener is told.  Then a post is begun: its text counts
as sent, and never reaches the peer. -/
theorem edit_after_end_is_lost :
    let page : Page Connection :=
      { board := "a", thread := 1, transport := (Connection.connect {} .accepted).2 }
    let after := page.advanceAll [(0, .write), (1, .arrive .closed), (1, .read)]
    let edited := (after.1.advanceAll
      [(2, .act (.newComposer {})), (2, .act (.compose 0 (.edit "a")))]).1
    after.1.transport.state = .disconnected ∧ after.2 = [.disconnected] ∧
      ¬ Refuses after.1.transport ∧ edited.composers.map Composer.sentBody = ["a"] ∧
      ∀ later, (edited.advanceAll later).1.transport.received = after.1.transport.received := by
  intro page after edited
  have accepts : after.1.transport.Accepts := ⟨rfl, rfl⟩
  have gone : edited.transport.peerOpen = false := rfl
  exact ⟨rfl, rfl, fun refuses => refuses_iff.1 refuses accepts, rfl, received_advanceAll gone⟩

end Page

end LiveThread
