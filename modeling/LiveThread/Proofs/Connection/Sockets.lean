import LiveThread.Proofs.Connection.Ends

/-!
# The sockets of a client

A client may connect time and again, before the peer has answered, and while the
readers and the writers of older sockets are still at work.  All of them share
one page and one state.  Whatever is done on the page or on another socket, a
reader takes what arrives on its own socket, in the order of arrival, up to the
first thing at which it stops.

To let go of the connection, to report a failure, and to take what arrived are
single steps, and so is the answer of the peer to an attempt to connect, with
the request for the thread.

Main results:

- Definition `SocketStep`: what can happen on the sockets of a client.
- Definitions `Page.pursue` and `Page.pursueAll`: how a page goes through it.
- Definition `Arrival.Ends`: the reader stops at an arrival.
- Definition `Page.Taken`: what becomes of an arrival that is taken.
- Theorem `Page.pursue_read_cases`: a reader takes its first arrival, or nothing.
- Definition `Socket.Incoming`: what a step means to the reader of a socket.
- Theorem `Page.incoming_pursue`: every step means that, on whatever socket it is.
- Theorem `Page.told_pursue`: what the listener is told of beginnings and ends.
-/

namespace LiveThread

/-- The peer takes no more: it closed the connection, or the connection broke. -/
def Arrival.Closes (arrival : Arrival) : Prop :=
  arrival = .closed ∨ arrival = .broken

/-- The server refuses to go on. -/
def Arrival.Fails : Arrival → Prop
  | .text frame => (PageAction.receive frame).Fails
  | _ => False

/-- The reader stops at an arrival: the server refuses to go on, or the connection is over. -/
def Arrival.Ends (arrival : Arrival) : Prop :=
  arrival.Fails ∨ arrival.Closes

/-- What can happen on the sockets of a client. -/
inductive SocketStep where
  /-- Something is done on the page. -/
  | act (action : PageAction)
  /-- A message is handed over past the page. -/
  | send (m : ClientMessage)
  | disconnect
  /-- An attempt to connect begins. -/
  | call
  /-- The peer answers an attempt to connect. -/
  | answer (handshake : Handshake)
  /-- Something arrives on a socket. -/
  | arrive (number : Nat) (arrival : Arrival)
  /-- The reader of a socket takes the first of what has arrived on it. -/
  | read (number : Nat)
  /-- The writer of a socket writes the next frame. -/
  | write (number : Nat)

namespace SocketStep

/-- What arrives on a socket in a step. -/
def arrivals (step : SocketStep) (number : Nat) : List Arrival :=
  match step with
  | .arrive other arrival => if other = number then [arrival] else []
  | _ => []

/-- An attempt to connect begins or is answered. -/
def Attempts : SocketStep → Prop
  | .call | .answer _ => True
  | _ => False

end SocketStep

/-- What arrives on a socket in some steps. -/
def arrivalsAt (number : Nat) (steps : List (Int64 × SocketStep)) : List Arrival :=
  steps.flatMap (·.2.arrivals number)

namespace Page

/-- A step on the sockets of a page, and what is told of it. -/
def pursue (now : Int64) (page : Page Connection) : SocketStep → Page Connection × List Event
  | .act action =>
    ((page.act Handlers.standard now action).page, (page.act Handlers.standard now action).events)
  | .send m => (page.mapConnection fun c => (c.send m).2, [])
  | .disconnect => (page.mapConnection (·.disconnect), [])
  | .call => (page.mapConnection (·.call), [])
  | .answer handshake =>
    (page.mapConnection fun c => (c.answer handshake).2,
      if (page.transport.answer handshake).1 then [.connected] else [])
  | .arrive number arrival => (page.mapConnection (·.arriveAt number arrival), [])
  | .read number => page.readAt Handlers.standard now number
  | .write number => (page.mapConnection (·.writeAt number), [])

/-- The page after some steps, and what is told of them. -/
def pursueAll (page : Page Connection) (steps : List (Int64 × SocketStep)) :
    Page Connection × List Event :=
  page.through pursue steps

theorem pursueAll_cons (page : Page Connection) (now : Int64) (step : SocketStep)
    (steps : List (Int64 × SocketStep)) :
    page.pursueAll ((now, step) :: steps)
      = (((page.pursue now step).1.pursueAll steps).1,
          (page.pursue now step).2 ++ ((page.pursue now step).1.pursueAll steps).2) :=
  rfl

theorem pursueAll_append (page : Page Connection) (before after : List (Int64 × SocketStep)) :
    page.pursueAll (before ++ after)
      = (((page.pursueAll before).1.pursueAll after).1,
          (page.pursueAll before).2 ++ ((page.pursueAll before).1.pursueAll after).2) :=
  page.through_append pursue before after

/-- What the reader of a socket takes in a step. -/
def takesAt (page : Page Connection) (number : Nat) : SocketStep → List Arrival
  | .read other => if other = number then (page.transport.socket number).next?.toList else []
  | _ => []

/-- What is told in a step of the reader of a socket. -/
def tellsAt (now : Int64) (page : Page Connection) (number : Nat) : SocketStep → List Event
  | .read other => if other = number then (page.pursue now (.read other)).2 else []
  | _ => []

end Page

/-! ## A reader at work -/

namespace Page

open Connection

variable {page : Page Connection} {number : Nat}

/-- Nothing is told of the life of a connection. -/
def Quiet (events : List Event) : Prop :=
  .connected ∉ events ∧ .disconnected ∉ events

theorem quiet_act (now : Int64) (page : Page Connection) (action : PageAction) :
    Quiet (page.act Handlers.standard now action).events :=
  ⟨notMem_act_of_life (.inl rfl) now page action, notMem_act_of_life (.inr rfl) now page action⟩

theorem quiet_nil : Quiet [] :=
  ⟨List.not_mem_nil, List.not_mem_nil⟩

/-- What becomes of an arrival that the reader of a socket takes. -/
inductive Taken (c : Connection) (number : Nat) (arrival : Arrival) :
    Connection → List Event → Prop
  /-- The reader goes on. -/
  | goes {d : Connection} {events : List Event} (used : Used False c d) (same : d.state = c.state)
      (goes : ¬ arrival.Ends) (quiet : Quiet events) : Taken c number arrival d events
  /-- It stops, and the listener is told.  The connection is errored by then if it was before, and
  unless the peer just closed the socket. -/
  | stops {d : Connection} {events : List Event} (used : Used arrival.Fails c d)
      (errored : d.state = .errored ↔ c.state = .errored ∨ arrival ≠ .closed)
      (ends : arrival.Ends) (quiet : Quiet events) :
      Taken c number arrival (d.endReading number) (events ++ [.disconnected])

/-- The listener is told when the reader stops. -/
theorem Taken.told {c d : Connection} {arrival : Arrival} {events : List Event}
    (taken : Taken c number arrival d events) :
    .connected ∉ events ∧ (.disconnected ∈ events ↔ arrival.Ends) := by
  cases taken with
  | goes used same goes quiet => exact ⟨quiet.1, iff_of_false quiet.2 goes⟩
  | stops used errored ends quiet => simp [quiet.1, ends]

/-- When the reader stops, the listener is told after everything else, and the connection is errored
or disconnected. -/
theorem Taken.ended {c d : Connection} {arrival : Arrival} {events : List Event}
    (taken : Taken c number arrival d events) (ends : arrival.Ends) :
    (∃ before, events = before ++ [.disconnected] ∧ .disconnected ∉ before) ∧
      d.state = if c.state = .errored ∨ arrival ≠ .closed then .errored else .disconnected := by
  cases taken with
  | goes used same goes quiet => exact absurd ends goes
  | stops used errored ends quiet =>
    refine ⟨⟨_, rfl, quiet.2⟩, ?_⟩
    simp only [Connection.endReading, errored]

/-- The reader delivers a frame, and goes on if it is not fatal. -/
theorem readArrival_text_of_goes (page : Page Connection) (now : Int64) (number : Nat)
    {frame : String} (goes : ¬ (PageAction.receive frame).Fails) :
    let reply := page.deliverFrame Handlers.standard now frame
    page.readArrival Handlers.standard now number (.text frame) = (reply.page, reply.events) := by
  simp only [readArrival]
  split
  · next reason fatal =>
    exact absurd ((deliverFrame_fatal_iff now page frame).1 ⟨reason, fatal⟩) goes
  · rfl

/-- It stops after a fatal frame. -/
theorem readArrival_text_of_ends (page : Page Connection) (now : Int64) (number : Nat)
    {frame : String} (ends : (PageAction.receive frame).Fails) :
    let reply := page.deliverFrame Handlers.standard now frame
    page.readArrival Handlers.standard now number (.text frame)
      = reply.page.endReading number reply.events := by
  obtain ⟨reason, fatal⟩ := (deliverFrame_fatal_iff now page frame).2 ends
  simp only [readArrival, fatal]

/-- An arrival is taken as described. -/
theorem taken_readArrival (page : Page Connection) (now : Int64) (number : Nat)
    (arrival : Arrival) :
    let turn := page.readArrival Handlers.standard now number arrival
    Taken page.transport number arrival turn.1.transport turn.2 := by
  cases arrival with
  | text frame =>
    have used := used_act now page (.receive frame)
    have quiet := quiet_act now page (.receive frame)
    obtain ⟨failed, other⟩ := state_act now page (.receive frame)
    by_cases fails : (PageAction.receive frame).Fails
    · rw [readArrival_text_of_ends page now number fails]
      exact .stops used (iff_of_true (failed fails) (.inr (by rintro ⟨⟩))) (.inl fails) quiet
    · rw [readArrival_text_of_goes page now number fails]
      refine .goes (used.of_iff (iff_false_intro fails)) (other fails) ?_ quiet
      rintro (fatal | (⟨⟨⟩⟩ | ⟨⟨⟩⟩))
      exact fails fatal
  | other => exact .goes (.refl _) rfl (by rintro (⟨⟨⟩⟩ | (⟨⟨⟩⟩ | ⟨⟨⟩⟩))) quiet_nil
  | closed => exact .stops (.refl _) (by simp) (.inr (.inl rfl)) quiet_nil
  | broken =>
    exact .stops (used_break _) (iff_of_true rfl (.inr (by rintro ⟨⟩))) (.inr (.inr rfl)) quiet_nil

/-- The reader of a socket takes the first arrival, or it takes nothing: it has stopped, or nothing
has arrived. -/
theorem pursue_read_cases (now : Int64) (page : Page Connection) (number : Nat) :
    (page.transport.socket number).next? = none ∧
      page.pursue now (.read number) = (page, []) ∨
    ∃ arrival, (page.transport.socket number).next? = some arrival ∧
      page.pursue now (.read number)
        = (page.mapConnection (·.shiftAt number)).readArrival Handlers.standard now number arrival ∧
      let turn := page.pursue now (.read number)
      Taken (page.transport.shiftAt number) number arrival turn.1.transport turn.2 := by
  cases next : (page.transport.socket number).next? with
  | none => exact .inl ⟨rfl, by simp only [pursue, readAt, next]⟩
  | some arrival =>
    have step : page.pursue now (.read number)
        = (page.mapConnection (·.shiftAt number)).readArrival Handlers.standard now number
          arrival := by
      simp only [pursue, readAt, next]
    refine .inr ⟨arrival, rfl, step, ?_⟩
    rw [step]
    exact taken_readArrival (page.mapConnection (·.shiftAt number)) now number arrival

end Page

/-! ## What a step means to a reader -/

namespace Socket

/-- What arrives is taken note of. -/
def Hears (s : Socket) : Prop :=
  s.reading = true ∧ s.peerOpen = true

/-- The reader has still to take the end of the connection, once it has come. -/
def Noticed (s : Socket) : Prop :=
  s.reading = true → s.peerOpen = false → ∃ arrival ∈ s.arrived, arrival.Ends

/-- Nothing has changed for the reader. -/
structure Undisturbed (s t : Socket) : Prop where
  reading : t.reading = s.reading
  arrived : t.arrived = s.arrived
  peer : t.peerOpen = s.peerOpen

theorem Undisturbed.of_eq {s t : Socket} (same : t = s) : s.Undisturbed t := by
  subst same
  exact ⟨rfl, rfl, rfl⟩

/-- What a step means to the reader: what arrives in it, and what is taken. -/
inductive Incoming (s t : Socket) : List Arrival → List Arrival → Prop
  /-- It is none of its business. -/
  | aside (same : s.Undisturbed t) : Incoming s t [] []
  /-- Something arrives too late. -/
  | lost (arrival : Arrival) (deaf : ¬ s.Hears) (same : t = s) : Incoming s t [arrival] []
  /-- Something arrives. -/
  | came (arrival : Arrival) (hears : s.Hears) (reading : t.reading = true)
      (arrived : t.arrived = s.arrived ++ [arrival])
      (last : t.peerOpen = false → arrival.Closes) : Incoming s t [arrival] []
  /-- The first arrival is taken. -/
  | took (arrival : Arrival) (before : s.reading = true) (next : s.arrived = arrival :: t.arrived)
      (goes : ¬ arrival.Ends) (reading : t.reading = true)
      (peer : t.peerOpen = s.peerOpen) : Incoming s t [] [arrival]
  /-- It is taken, and the reader stops. -/
  | ended (arrival : Arrival) (rest : List Arrival) (before : s.reading = true)
      (next : s.arrived = arrival :: rest) (ends : arrival.Ends) (reading : t.reading = false)
      (arrived : t.arrived = []) (peer : t.peerOpen = s.peerOpen) : Incoming s t [] [arrival]

namespace Incoming

variable {s t : Socket} {came taken : List Arrival}

/-- The reader goes on unless it has taken something at which it stops. -/
theorem reading_iff (h : Incoming s t came taken) :
    t.reading = true ↔ s.reading = true ∧ ∀ arrival ∈ taken, ¬ arrival.Ends := by
  cases h with
  | aside same => simp [same.reading]
  | lost arrival deaf same => simp [same]
  | came arrival hears reading => simp [reading, hears.1]
  | took arrival before next goes reading => simp [reading, before, goes]
  | ended arrival rest before next ends reading => simp [reading, ends]

/-- A reader that has stopped takes nothing. -/
theorem taken_of_stopped (h : Incoming s t came taken) (stopped : s.reading = false) :
    taken = [] := by
  cases h with
  | aside | lost | came => rfl
  | took arrival before => simp [before] at stopped
  | ended arrival rest before => simp [before] at stopped

/-- What arrives is taken note of only if it was before. -/
theorem hears (h : Incoming s t came taken) (hears : t.Hears) : s.Hears := by
  cases h with
  | aside same => exact ⟨same.reading ▸ hears.1, same.peer ▸ hears.2⟩
  | lost arrival deaf same => exact same ▸ hears
  | came arrival before => exact before
  | took arrival before next goes reading peer => exact ⟨before, peer ▸ hears.2⟩
  | ended arrival rest before next ends reading arrived peer => exact ⟨before, peer ▸ hears.2⟩

/-- A peer that takes no more never takes more again. -/
theorem peerOpen (h : Incoming s t came taken) (peer : t.peerOpen = true) : s.peerOpen = true := by
  cases h with
  | aside same => exact same.peer ▸ peer
  | lost arrival deaf same => exact same ▸ peer
  | came arrival hears => exact hears.2
  | took arrival before next goes reading same => exact same ▸ peer
  | ended arrival rest before next ends reading arrived same => exact same ▸ peer

/-- The peer takes frames until the end arrives. -/
theorem peerOpen_of_open (h : Incoming s t came taken) (peer : s.peerOpen = true)
    (none : ∀ arrival ∈ came, ¬ arrival.Closes) : t.peerOpen = true := by
  cases h with
  | aside same => exact same.peer.trans peer
  | lost arrival deaf same => exact same ▸ peer
  | came arrival hears reading arrived last =>
    by_contra gone
    exact none arrival (List.mem_singleton_self _) (last (Bool.eq_false_iff.2 gone))
  | took arrival before next goes reading same => exact same.trans peer
  | ended arrival rest before next ends reading arrived same => exact same.trans peer

/-- Nothing is taken but what has arrived. -/
theorem conserves (h : Incoming s t came taken) : taken ++ t.arrived <+: s.arrived ++ came := by
  cases h with
  | aside same => simp [same.arrived]
  | lost arrival deaf same => simp [same]
  | came arrival hears reading arrived => simp [arrived]
  | took arrival before next => simp [next]
  | ended arrival rest before next ends reading arrived => simp [next, arrived]

/-- What arrives too late is never taken. -/
theorem conserves_deaf (h : Incoming s t came taken) (deaf : ¬ s.Hears) :
    taken ++ t.arrived <+: s.arrived := by
  cases h with
  | aside same => simp [same.arrived]
  | lost arrival deaf same => simp [same]
  | came arrival hears => exact absurd hears deaf
  | took arrival before next => simp [next]
  | ended arrival rest before next ends reading arrived => simp [next, arrived]

/-- While arrivals are taken note of, none is lost. -/
theorem complete (h : Incoming s t came taken) (hears : t.Hears) :
    taken ++ t.arrived = s.arrived ++ came := by
  cases h with
  | aside same => simp [same.arrived]
  | lost arrival deaf same => exact absurd (same ▸ hears) deaf
  | came arrival before reading arrived => simp [arrived]
  | took arrival before next => simp [next]
  | ended arrival rest before next ends reading => simp [Hears, reading] at hears

/-- The reader stops at what it takes. -/
theorem stops (h : Incoming s t came taken) (before : s.reading = true)
    (after : ¬ t.reading = true) : ∃ last, taken = [last] ∧ last.Ends := by
  cases h with
  | aside same => exact absurd (same.reading.trans before) after
  | lost arrival deaf same => exact absurd (same ▸ before) after
  | came arrival hears reading => exact absurd reading after
  | took arrival before next goes reading => exact absurd reading after
  | ended arrival rest before next ends => exact ⟨arrival, rfl, ends⟩

/-- If nothing arrives, what is taken is missing afterwards. -/
theorem drained (h : Incoming s t [] taken) (reading : t.reading = true) :
    taken ++ t.arrived = s.arrived := by
  cases h with
  | aside same => exact same.arrived
  | took arrival before next => exact next.symm
  | ended arrival rest before next ends stopped => simp [stopped] at reading

/-- The end of the connection is not forgotten before it is taken. -/
theorem noticed (h : Incoming s t came taken) (noticed : Noticed s) : Noticed t := by
  cases h with
  | aside same =>
    unfold Noticed
    rw [same.reading, same.arrived, same.peer]
    exact noticed
  | lost arrival deaf same => exact same ▸ noticed
  | came arrival hears reading arrived last =>
    intro _ gone
    exact ⟨arrival, by simp [arrived], .inr (last gone)⟩
  | took arrival before next goes reading peer =>
    intro _ gone
    obtain ⟨later, mem, ends⟩ := noticed before (peer ▸ gone)
    rw [next] at mem
    cases mem with
    | head => exact absurd ends goes
    | tail _ mem => exact ⟨later, mem, ends⟩
  | ended arrival rest before next ends reading =>
    intro still
    simp [reading] at still

end Incoming

/-- Something arrives, or it comes too late. -/
theorem incoming_arrive (s : Socket) (arrival : Arrival) :
    s.Incoming (s.arrive arrival) [arrival] [] := by
  unfold arrive
  split
  · next hears =>
    rw [Bool.and_eq_true] at hears
    refine .came arrival hears hears.1 rfl fun gone => ?_
    cases arrival with
    | closed => exact .inl rfl
    | broken => exact .inr rfl
    | text | other => cases gone
  · next deaf => exact .lost arrival (by simpa [Hears] using deaf) rfl

/-- The writer does not disturb the reader. -/
theorem undisturbed_writeNext (s : Socket) (held : Bool) :
    s.Undisturbed (s.writeNext held) := by
  unfold writeNext
  split
  · split <;> split <;> exact ⟨rfl, rfl, rfl⟩
  · exact ⟨rfl, rfl, rfl⟩

end Socket

namespace Connection

variable {c d : Connection} {failed : Prop}

/-- A connection in use disturbs no reader. -/
theorem Used.undisturbed (used : Used failed c d) (number : Nat) :
    (c.socket number).Undisturbed (d.socket number) := by
  unfold socket
  rw [used.number, used.older]
  split
  · exact ⟨used.reading, used.arrived, used.peerOpen⟩
  · exact .of_eq rfl

end Connection

namespace Page

open Connection Socket

variable {page : Page Connection} {number : Nat}

/-- A step on one socket concerns no other. -/
theorem socket_setSocket_cases {c : Connection} {number : Nat} (made : number ≤ c.number)
    (other : Nat) (s : Socket) :
    (c.setSocket other s).socket number = if other = number then s else c.socket number := by
  split
  · next same =>
    subst same
    exact socket_setSocket_self made s
  · next different => exact socket_setSocket_of_ne c (Ne.symm different) s

/-- What a reader takes means to it what it is described to mean, and means nothing to others. -/
theorem incoming_of_taken {c d : Connection} {other : Nat} {arrival : Arrival}
    {events : List Event} (made : number ≤ c.number)
    (next : (c.socket other).next? = some arrival)
    (taken : Taken (c.shiftAt other) other arrival d events) :
    d.number = c.number ∧
      (c.socket number).Incoming (d.socket number) []
        (if other = number then [arrival] else []) := by
  obtain ⟨reading, first⟩ := next?_eq_some_iff.1 next
  have shifted : (c.shiftAt other).number = c.number := number_setSocket c other _
  have view := socket_setSocket_cases made other (c.socket other).shift
  cases taken with
  | goes used same goes quiet =>
    have still := used.undisturbed number
    refine ⟨used.number.trans shifted, ?_⟩
    rw [shiftAt, view] at still
    by_cases own : other = number
    · subst own
      rw [if_pos rfl] at still ⊢
      exact .took arrival reading (by rw [still.arrived, first]) goes
        (still.reading.trans reading) still.peer
    · rw [if_neg own] at still ⊢
      exact .aside still
  | @stops d events used errored ends quiet =>
    have still := used.undisturbed number
    have count : d.number = c.number := used.number.trans shifted
    refine ⟨(number_setSocket d other _).trans count, ?_⟩
    have after : (d.endReading other).socket number
        = if other = number then (d.socket other).endReading else d.socket number :=
      socket_setSocket_cases (count ▸ made) other _
    rw [shiftAt, view] at still
    rw [after]
    by_cases own : other = number
    · subst own
      rw [if_pos rfl] at still
      rw [if_pos rfl, if_pos rfl]
      exact .ended arrival _ reading first ends rfl rfl still.peer
    · rw [if_neg own] at still
      rw [if_neg own, if_neg own]
      exact .aside still

/-- Every step means to the reader of a socket what it is described to mean, on whatever socket it
is. -/
theorem incoming_pursue (now : Int64) (made : number ≤ page.transport.number)
    (step : SocketStep) :
    let after := (page.pursue now step).1.transport
    number ≤ after.number ∧ (page.transport.socket number).Incoming (after.socket number)
      (step.arrivals number) (page.takesAt number step) := by
  have ofUsed : ∀ {d : Connection} {failed : Prop}, Used failed page.transport d →
      number ≤ d.number ∧ (page.transport.socket number).Incoming (d.socket number) [] [] :=
    fun used => ⟨used.number ▸ made, .aside (used.undisturbed number)⟩
  cases step with
  | act action => exact ofUsed (used_act now page action)
  | send m => exact ofUsed (used_send page.transport m)
  | disconnect => exact ofUsed (used_disconnect page.transport)
  | call => exact ⟨made, .aside (.of_eq rfl)⟩
  | answer handshake =>
    obtain ⟨still, same⟩ := socket_answer made handshake
    exact ⟨still, .aside (.of_eq same)⟩
  | arrive other arrival =>
    simp only [pursue, mapConnection, arriveAt, number_setSocket, socket_setSocket_cases made,
      SocketStep.arrivals]
    refine ⟨made, ?_⟩
    split
    · next own =>
      subst own
      exact incoming_arrive _ arrival
    · exact .aside (.of_eq rfl)
  | write other =>
    simp only [pursue, mapConnection, writeAt, number_setSocket, socket_setSocket_cases made]
    refine ⟨made, .aside ?_⟩
    split
    · next own =>
      subst own
      exact undisturbed_writeNext _ _
    · exact .of_eq rfl
  | read other =>
    rcases pursue_read_cases now page other with ⟨nothing, idle⟩ | ⟨arrival, next, -, taken⟩
    · rw [idle]
      refine ⟨made, ?_⟩
      simp only [takesAt]
      split
      · next own =>
        rw [← own, nothing]
        exact .aside (.of_eq rfl)
      · exact .aside (.of_eq rfl)
    · obtain ⟨count, incoming⟩ := incoming_of_taken made next taken
      refine ⟨count ▸ made, ?_⟩
      simp only [takesAt]
      split
      · next own =>
        subst own
        rw [if_pos rfl] at incoming
        rw [next]
        exact incoming
      · next foreign =>
        rw [if_neg foreign] at incoming
        exact incoming

/-- Only an attempt that succeeds makes a socket. -/
theorem number_pursue (now : Int64) (page : Page Connection) {step : SocketStep}
    (other : step ≠ .answer .accepted) :
    (page.pursue now step).1.transport.number = page.transport.number := by
  cases step with
  | act action => exact (used_act now page action).number
  | send m => exact (used_send page.transport m).number
  | disconnect => exact (used_disconnect page.transport).number
  | call => rfl
  | answer handshake =>
    cases handshake with
    | accepted => exact absurd rfl other
    | refused | timedOut => rfl
  | arrive number => exact number_setSocket page.transport number _
  | write number => exact number_setSocket page.transport number _
  | read number =>
    rcases pursue_read_cases now page number with ⟨-, idle⟩ | ⟨arrival, next, -, taken⟩
    · rw [idle]
    · exact (incoming_of_taken (Nat.zero_le _) next taken).1

/-! ## What the listener is told -/

/-- The listener is told of the beginning when the peer accepts, and of an end when a reader takes
something at which it stops. -/
theorem told_pursue (now : Int64) (page : Page Connection) (step : SocketStep) :
    (.connected ∈ (page.pursue now step).2 ↔ step = .answer .accepted) ∧
    (.disconnected ∈ (page.pursue now step).2 ↔
      ∃ number last, step = .read number ∧
        (page.transport.socket number).next? = some last ∧ last.Ends) := by
  cases step with
  | act action =>
    obtain ⟨begun, ended⟩ := quiet_act now page action
    exact ⟨iff_of_false begun (by rintro ⟨⟩), iff_of_false ended (by simp)⟩
  | send | disconnect | call | arrive | write => simp [pursue]
  | answer handshake => cases handshake <;> simp [pursue, answer]
  | read number =>
    rcases pursue_read_cases now page number with ⟨nothing, idle⟩ | ⟨arrival, next, -, taken⟩
    · simp [idle, nothing]
    · obtain ⟨untold, told⟩ := taken.told
      refine ⟨iff_of_false untold (by rintro ⟨⟩), told.trans ⟨fun ends => ?_, ?_⟩⟩
      · exact ⟨number, arrival, rfl, next, ends⟩
      · rintro ⟨number, last, ⟨⟩, same, ends⟩
        rw [next] at same
        cases same
        exact ends

end Page

end LiveThread
