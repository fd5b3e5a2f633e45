import LiveThread.Proofs.Connection.Sockets
import LiveThread.Proofs.Page.Rejections

/-!
# Reading a connection to its end

The reader of a socket takes what arrives on it in the order of arrival, up to
the first thing after which it stops: a fatal frame, or the end of the
connection.  Whatever the author, the writers and others do meanwhile, and
however often the client connects again, the listener is told of the beginning
before anything is taken, and of the end once, when the reader stops.

All sockets share one state.  If no other attempt to connect comes in between,
the connection is errored when its reader stops if a failure was reported, or
its socket broke.  But it is also errored if an older socket broke meanwhile
whose reader was still at work.

Main results:

- Definition `Page.takesAll`: what the reader of a socket takes in some steps.
- Theorem `Page.exists_end`: a reader that has stopped did so at an arrival that ends it.
- Definitions `Page.Reported` and `Page.StaysBroken`: how the connection comes to be errored.
- Theorem `Page.state_pursueAll`: it is errored exactly then.
- Theorem `Page.read_to_the_end`: the life of a connection, as the listener sees it.
- Theorem `Page.older_socket_leaves_errored`: a connection that an older socket made errored.
-/

namespace LiveThread

namespace Page

open Connection Socket

variable {page : Page Connection} {number : Nat}

/-! ## What a reader takes -/

/-- What the reader of a socket takes in some steps, in order. -/
def takesAll (page : Page Connection) (number : Nat) : List (Int64 × SocketStep) → List Arrival
  | [] => []
  | (now, step) :: steps =>
    page.takesAt number step ++ (page.pursue now step).1.takesAll number steps

/-- In further steps more is taken. -/
theorem takesAll_append (page : Page Connection) (number : Nat)
    (before after : List (Int64 × SocketStep)) :
    page.takesAll number (before ++ after)
      = page.takesAll number before ++ (page.pursueAll before).1.takesAll number after := by
  induction before generalizing page with
  | nil => rfl
  | cons entry before ih =>
    obtain ⟨now, step⟩ := entry
    simp only [List.cons_append, takesAll, pursueAll_cons, ih, List.append_assoc]

/-- The reader takes something only by reading. -/
theorem eq_read_of_mem_takesAt {step : SocketStep} {arrival : Arrival}
    (mem : arrival ∈ page.takesAt number step) :
    step = .read number ∧ (page.transport.socket number).next? = some arrival := by
  unfold takesAt at mem
  split at mem
  · split at mem
    · next own =>
      subst own
      exact ⟨rfl, Option.mem_toList.1 mem⟩
    · cases mem
  · cases mem

/-- The numbers of sockets stay. -/
theorem made_pursueAll (made : number ≤ page.transport.number)
    (steps : List (Int64 × SocketStep)) :
    number ≤ (page.pursueAll steps).1.transport.number := by
  induction steps generalizing page with
  | nil => exact made
  | cons entry steps ih => exact ih (incoming_pursue entry.1 made entry.2).1

/-- The reader goes on as long as it has taken nothing at which it stops. -/
theorem reading_pursueAll_iff (made : number ≤ page.transport.number)
    (steps : List (Int64 × SocketStep)) :
    ((page.pursueAll steps).1.transport.socket number).reading = true ↔
      (page.transport.socket number).reading = true ∧
        ∀ arrival ∈ page.takesAll number steps, ¬ arrival.Ends := by
  induction steps generalizing page with
  | nil => simp [pursueAll, takesAll]
  | cons entry steps ih =>
    obtain ⟨now, step⟩ := entry
    obtain ⟨still, incoming⟩ := incoming_pursue now made step
    rw [pursueAll_cons, ih still, incoming.reading_iff, takesAll, List.forall_mem_append,
      and_assoc]

/-- A reader that has stopped takes nothing any more. -/
theorem takesAll_of_stopped (made : number ≤ page.transport.number)
    (stopped : (page.transport.socket number).reading = false)
    (steps : List (Int64 × SocketStep)) : page.takesAll number steps = [] := by
  induction steps generalizing page with
  | nil => rfl
  | cons entry steps ih =>
    obtain ⟨now, step⟩ := entry
    obtain ⟨made, incoming⟩ := incoming_pursue now made step
    have still : ((page.pursue now step).1.transport.socket number).reading = false := by
      rw [Bool.eq_false_iff, ne_eq, incoming.reading_iff]
      simp [stopped]
    rw [takesAll, incoming.taken_of_stopped stopped, ih made still, List.append_nil]

/-- What arrives too late is never taken. -/
theorem conserves_deaf (made : number ≤ page.transport.number)
    (deaf : ¬ (page.transport.socket number).Hears) (steps : List (Int64 × SocketStep)) :
    page.takesAll number steps ++ ((page.pursueAll steps).1.transport.socket number).arrived
      <+: (page.transport.socket number).arrived := by
  induction steps generalizing page with
  | nil => exact List.prefix_rfl
  | cons entry steps ih =>
    obtain ⟨now, step⟩ := entry
    obtain ⟨still, incoming⟩ := incoming_pursue now made step
    have later := ih still fun hears => deaf (incoming.hears hears)
    rw [takesAll, List.append_assoc]
    exact ((List.prefix_append_right_inj _).2 later).trans (incoming.conserves_deaf deaf)

/-- Nothing is taken but what has arrived, in the order of arrival. -/
theorem conserves (made : number ≤ page.transport.number) (steps : List (Int64 × SocketStep)) :
    page.takesAll number steps ++ ((page.pursueAll steps).1.transport.socket number).arrived
      <+: (page.transport.socket number).arrived ++ arrivalsAt number steps := by
  induction steps generalizing page with
  | nil => simp [takesAll, pursueAll, arrivalsAt]
  | cons entry steps ih =>
    obtain ⟨now, step⟩ := entry
    obtain ⟨still, incoming⟩ := incoming_pursue now made step
    rw [takesAll, List.append_assoc, pursueAll_cons,
      show arrivalsAt number ((now, step) :: steps)
        = step.arrivals number ++ arrivalsAt number steps from rfl,
      ← List.append_assoc (page.transport.socket number).arrived]
    by_cases hears : ((page.pursue now step).1.transport.socket number).Hears
    · rw [← incoming.complete hears, List.append_assoc]
      exact (List.prefix_append_right_inj _).2 (ih still)
    · have late := conserves_deaf still hears steps
      exact (((List.prefix_append_right_inj _).2 late).trans incoming.conserves).trans
        (List.prefix_append _ _)

/-- As long as arrivals are taken note of, none is lost. -/
theorem complete (made : number ≤ page.transport.number) (steps : List (Int64 × SocketStep))
    (hears : ((page.pursueAll steps).1.transport.socket number).Hears) :
    (page.transport.socket number).Hears ∧
    page.takesAll number steps ++ ((page.pursueAll steps).1.transport.socket number).arrived
      = (page.transport.socket number).arrived ++ arrivalsAt number steps := by
  induction steps generalizing page with
  | nil => exact ⟨hears, by simp [takesAll, pursueAll, arrivalsAt]⟩
  | cons entry steps ih =>
    obtain ⟨now, step⟩ := entry
    obtain ⟨still, incoming⟩ := incoming_pursue now made step
    obtain ⟨between, later⟩ := ih still hears
    refine ⟨incoming.hears between, ?_⟩
    rw [takesAll, List.append_assoc, pursueAll_cons, later, ← List.append_assoc,
      incoming.complete between, List.append_assoc]
    rfl

/-- The reader does not forget the end of the connection. -/
theorem noticed_pursueAll (made : number ≤ page.transport.number)
    (noticed : (page.transport.socket number).Noticed) (steps : List (Int64 × SocketStep)) :
    ((page.pursueAll steps).1.transport.socket number).Noticed := by
  induction steps generalizing page with
  | nil => exact noticed
  | cons entry steps ih =>
    obtain ⟨still, incoming⟩ := incoming_pursue entry.1 made entry.2
    exact ih still (incoming.noticed noticed)

/-- Several steps of the reader of a socket. -/
def readsOf (number : Nat) (nows : List Int64) : List (Int64 × SocketStep) :=
  nows.map fun now => (now, .read number)

/-- As many reads as there are arrivals take all of them, unless the reader stops. -/
theorem arrived_of_reads (made : number ≤ page.transport.number) {nows : List Int64}
    (enough : (page.transport.socket number).arrived.length ≤ nows.length)
    (reading : ((page.pursueAll (readsOf number nows)).1.transport.socket number).reading
      = true) :
    ((page.pursueAll (readsOf number nows)).1.transport.socket number).arrived = [] := by
  induction nows generalizing page with
  | nil => exact List.length_eq_zero_iff.1 (Nat.le_zero.1 enough)
  | cons now nows ih =>
    obtain ⟨made, incoming⟩ := incoming_pursue now made (.read number)
    obtain ⟨still, -⟩ := (reading_pursueAll_iff made (readsOf number nows)).1 reading
    obtain ⟨before, -⟩ := incoming.reading_iff.1 still
    refine ih made ?_ reading
    have drained := congrArg List.length (incoming.drained still)
    rw [List.length_cons] at enough
    cases arrived : (page.transport.socket number).arrived with
    | nil =>
      rw [arrived, List.length_append] at drained
      exact Nat.le_trans (Nat.le_of_add_left_le (Nat.le_of_eq drained)) (Nat.zero_le _)
    | cons first rest =>
      have takes : page.takesAt number (.read number) = [first] := by
        simp [takesAt, next?, before, arrived]
      rw [takes, arrived, List.length_append] at drained
      rw [arrived] at enough
      simp only [List.length_cons, List.length_nil] at drained enough
      omega

/-- So as many reads as there are arrivals that wait take everything, unless the reader stops. -/
theorem takesAll_of_reads (made : number ≤ page.transport.number)
    (noticed : (page.transport.socket number).Noticed) {steps : List (Int64 × SocketStep)}
    {nows : List Int64}
    (enough : ((page.pursueAll steps).1.transport.socket number).arrived.length ≤ nows.length)
    (reading : (((page.pursueAll steps).1.pursueAll (readsOf number nows)).1.transport.socket
      number).reading = true) :
    page.takesAll number (steps ++ readsOf number nows)
      = (page.transport.socket number).arrived ++ arrivalsAt number steps := by
  have nothing := arrived_of_reads (made_pursueAll made steps) enough reading
  have remembers := noticed_pursueAll made noticed (steps ++ readsOf number nows)
  have whole := complete made (steps ++ readsOf number nows)
  rw [pursueAll_append] at remembers whole
  have peer : (((page.pursueAll steps).1.pursueAll (readsOf number nows)).1.transport.socket
      number).peerOpen = true := by
    by_contra gone
    obtain ⟨arrival, mem, -⟩ := remembers reading (Bool.eq_false_iff.2 gone)
    rw [nothing] at mem
    cases mem
  obtain ⟨-, all⟩ := whole ⟨reading, peer⟩
  rw [nothing, List.append_nil] at all
  rw [all]
  simp [arrivalsAt, readsOf, SocketStep.arrivals]

/-- A reader that has stopped did so at an arrival that ends it. -/
theorem exists_end (made : number ≤ page.transport.number) {steps : List (Int64 × SocketStep)}
    (reading : (page.transport.socket number).reading = true)
    (stopped : ¬ ((page.pursueAll steps).1.transport.socket number).reading = true) :
    ∃ before now later last, steps = before ++ (now, .read number) :: later ∧
      ((page.pursueAll before).1.transport.socket number).reading = true ∧
      ((page.pursueAll before).1.transport.socket number).next? = some last ∧ last.Ends := by
  induction steps generalizing page with
  | nil => exact absurd reading stopped
  | cons entry steps ih =>
    obtain ⟨now, step⟩ := entry
    obtain ⟨still, incoming⟩ := incoming_pursue now made step
    by_cases goesOn : ((page.pursue now step).1.transport.socket number).reading = true
    · obtain ⟨before, moment, later, last, rfl, between, next, ends⟩ := ih still goesOn stopped
      exact ⟨(now, step) :: before, moment, later, last, rfl, between, next, ends⟩
    · obtain ⟨last, takes, ends⟩ := incoming.stops reading goesOn
      obtain ⟨rfl, next⟩ := eq_read_of_mem_takesAt (takes ▸ List.mem_singleton_self last)
      exact ⟨[], now, steps, last, rfl, reading, next, ends⟩

/-! ## What is told of a socket -/

/-- What is told in the steps of the reader of a socket, in order. -/
def tellsAll (page : Page Connection) (number : Nat) : List (Int64 × SocketStep) → List Event
  | [] => []
  | (now, step) :: steps =>
    page.tellsAt now number step ++ (page.pursue now step).1.tellsAll number steps

/-- The end is told when the reader takes something at which it stops. -/
theorem told_tellsAll_iff (page : Page Connection) (number : Nat)
    (steps : List (Int64 × SocketStep)) :
    .disconnected ∈ page.tellsAll number steps ↔
      ∃ arrival ∈ page.takesAll number steps, arrival.Ends := by
  induction steps generalizing page with
  | nil => simp [tellsAll, takesAll]
  | cons entry steps ih =>
    obtain ⟨now, step⟩ := entry
    simp only [tellsAll, takesAll, List.mem_append, ih, or_and_right, exists_or]
    refine or_congr_left ?_
    cases step with
    | read other =>
      by_cases own : other = number
      · subst own
        simp [tellsAt, takesAt, (told_pursue now page (.read other)).2]
      · simp [tellsAt, takesAt, own]
    | _ => simp [tellsAt, takesAt]

/-! ## The state of the connection -/

/-- A failure is reported in a step: by an action, or by a reader to which the server refuses to go
on. -/
def Reports (page : Page Connection) : SocketStep → Prop
  | .act action => action.Fails
  | .read number =>
    ∃ arrival, (page.transport.socket number).next? = some arrival ∧ arrival.Fails
  | _ => False

/-- A reader finds in a step that its socket broke. -/
def Breaks (page : Page Connection) : SocketStep → Prop
  | .read number => (page.transport.socket number).next? = some .broken
  | _ => False

/-- The connection is not let go by choice in some steps: it is held no longer, or nobody tries. -/
def Stays (page : Page Connection) (steps : List (Int64 × SocketStep)) : Prop :=
  page.transport.held = false ∨ ∀ entry ∈ steps, entry.2 ≠ .disconnect

/-- A failure is reported in one of the steps. -/
def Reported (page : Page Connection) : List (Int64 × SocketStep) → Prop
  | [] => False
  | (now, step) :: steps => page.Reports step ∨ (page.pursue now step).1.Reported steps

/-- A reader finds in one of the steps that its socket broke, and the connection is not let go by
choice after that. -/
def StaysBroken (page : Page Connection) : List (Int64 × SocketStep) → Prop
  | [] => False
  | (now, step) :: steps =>
    page.Breaks step ∧ page.Stays steps ∨ (page.pursue now step).1.StaysBroken steps

/-- What a step that is no attempt to connect makes of the state of the connection. -/
inductive Leaves (page : Page Connection) (step : SocketStep) (d : Connection) : Prop
  /-- It is errored once a failure is reported, and it is let go. -/
  | failed (reports : page.Reports step) (errored : d.state = .errored) (free : d.held = false)
  /-- It is let go by choice. -/
  | left (choice : step = .disconnect) (held : page.transport.held = true)
      (state : d.state = .disconnected)
  /-- It becomes errored only if a socket broke. -/
  | goes (silent : ¬ page.Reports step) (held : d.held = page.transport.held)
      (errored : d.state = .errored ↔ page.transport.state = .errored ∨ page.Breaks step)
      (free : step = .disconnect → d.held = false)

/-- What an arrival that is taken makes of the state. -/
theorem leaves_of_taken {arrival : Arrival} {d : Connection} {events : List Event}
    (next : (page.transport.socket number).next? = some arrival)
    (taken : Taken (page.transport.shiftAt number) number arrival d events) :
    page.Leaves (.read number) d := by
  have breaks : page.Breaks (.read number) ↔ arrival = .broken := by simp [Breaks, next]
  have reports : page.Reports (.read number) ↔ arrival.Fails := by simp [Reports, next]
  cases taken with
  | goes used same goes quiet =>
    have intact : arrival ≠ .broken := by
      rintro rfl
      exact goes (.inr (.inr rfl))
    refine .goes (fun fails => goes (.inl (reports.1 fails))) ?_ ?_ (by rintro ⟨⟩)
    · rw [Bool.eq_iff_iff, used.held]
      simp [shiftAt]
    · rw [same, breaks, or_iff_left intact, shiftAt, state_setSocket]
  | @stops d events used errored ends quiet =>
    have free : (d.endReading number).held = d.held := held_setSocket d number _
    have noted : (d.endReading number).state = .errored ↔ d.state = .errored := by
      simp [Connection.endReading]
    by_cases fails : arrival.Fails
    · refine .failed (reports.2 fails) (noted.2 (errored.2 (.inr ?_))) ?_
      · rintro rfl
        exact fails
      · rw [free, Bool.eq_false_iff]
        exact fun still => (used.held.1 still).2 fails
    · refine .goes (fun reported => fails (reports.1 reported)) ?_ ?_ (by rintro ⟨⟩)
      · rw [free, Bool.eq_iff_iff, used.held]
        simp [shiftAt, fails]
      · have closes : arrival = .closed ∨ arrival = .broken := ends.resolve_left fails
        rw [noted, errored, breaks, shiftAt, state_setSocket]
        rcases closes with rfl | rfl <;> simp

/-- Every step that is no attempt to connect leaves the connection so. -/
theorem leaves_pursue (now : Int64) (page : Page Connection) {step : SocketStep}
    (alone : ¬ step.Attempts) : page.Leaves step (page.pursue now step).1.transport := by
  have aside : ∀ {d : Connection}, ¬ page.Reports step → ¬ page.Breaks step →
      step ≠ .disconnect → d.state = page.transport.state → d.held = page.transport.held →
      page.Leaves step d := fun silent intact other state held =>
    .goes silent held (by rw [state, or_iff_left intact]) fun choice => absurd choice other
  cases step with
  | act action =>
    have used := used_act now page action
    obtain ⟨failed, other⟩ := state_act now page action
    by_cases fails : action.Fails
    · refine .failed fails (failed fails) ?_
      rw [Bool.eq_false_iff]
      exact fun still => (used.held.1 still).2 fails
    · refine aside fails id (by rintro ⟨⟩) (other fails) ?_
      rw [Bool.eq_iff_iff]
      exact used.held.trans (and_iff_left fails)
  | send m =>
    refine aside id id (by rintro ⟨⟩) ?_ ?_
    all_goals
      simp only [pursue, mapConnection, send]
      split <;> rfl
  | disconnect =>
    simp only [pursue, mapConnection, disconnect]
    split
    · next held => exact .left rfl held rfl
    · next free =>
      exact .goes id rfl (by simp [Breaks]) fun _ => Bool.eq_false_iff.2 free
  | call | answer => exact absurd trivial alone
  | arrive number =>
    exact aside id id (by rintro ⟨⟩) (state_setSocket _ number _) (held_setSocket _ number _)
  | write number =>
    exact aside id id (by rintro ⟨⟩) (state_setSocket _ number _) (held_setSocket _ number _)
  | read number =>
    rcases pursue_read_cases now page number with ⟨nothing, idle⟩ | ⟨arrival, next, -, taken⟩
    · rw [idle]
      exact aside (by simp [Reports, nothing]) (by simp [Breaks, nothing]) (by rintro ⟨⟩) rfl rfl
    · exact leaves_of_taken next taken

/-- If no other attempt to connect comes in between, the connection is errored exactly if a failure
was reported, or a socket broke and it was not let go by choice after that. -/
theorem state_pursueAll (page : Page Connection) {steps : List (Int64 × SocketStep)}
    (alone : ∀ entry ∈ steps, ¬ entry.2.Attempts) :
    (page.pursueAll steps).1.transport.state = .errored ↔
      page.Reported steps ∨ page.StaysBroken steps ∨
        page.transport.state = .errored ∧ page.Stays steps := by
  induction steps generalizing page with
  | nil => simp [pursueAll, Reported, StaysBroken, Stays]
  | cons entry steps ih =>
    obtain ⟨now, step⟩ := entry
    obtain ⟨first, rest⟩ := List.forall_mem_cons.1 alone
    rw [pursueAll_cons, ih _ rest, Reported, StaysBroken]
    cases leaves_pursue now page first with
    | failed reports errored free =>
      exact iff_of_true (.inr (.inr ⟨errored, .inl free⟩)) (.inl (.inl reports))
    -- To let go of a connection that is held undoes what was noted of a broken socket; if it is held
    -- no longer, nothing is undone.
    | left choice held state =>
      subst choice
      have gone : ¬ page.Stays ((now, .disconnect) :: steps) := by simp [Stays, held]
      simp [state, gone, Reports, Breaks]
    | goes silent held errored free =>
      have stays : page.Stays ((now, step) :: steps) ↔ page.Stays steps := by
        rw [Stays, Stays, List.forall_mem_cons]
        by_cases choice : step = .disconnect
        · have released := held.symm.trans (free choice)
          simp [released]
        · simp [choice]
      have same : (page.pursue now step).1.Stays steps ↔ page.Stays steps := by
        rw [Stays, Stays, held]
      rw [errored, stays, same, or_and_right, or_iff_right silent]
      refine or_congr_right ?_
      rw [or_comm, or_assoc, or_comm]

/-! ## The life of a connection -/

/-- What the reader of a socket does with a frame that it takes: the frame is delivered, the reader
stops if it is fatal, and if it is rejected nothing comes of it. -/
structure Dispatches (page : Page Connection) (number : Nat) (now : Int64) (frame : String)
    (turn : Page Connection × List Event) : Prop where
  fatal_iff : (∃ reason,
    (page.deliverFrame Handlers.standard now frame).result = .error (.fatal reason)) ↔
      (Arrival.text frame).Ends
  stops : (Arrival.text frame).Ends →
    turn = (page.deliverFrame Handlers.standard now frame).page.endReading number
      (page.deliverFrame Handlers.standard now frame).events
  goes : ¬ (Arrival.text frame).Ends →
    turn = ((page.deliverFrame Handlers.standard now frame).page,
      (page.deliverFrame Handlers.standard now frame).events)
  rejected : ∀ e, (page.deliverFrame Handlers.standard now frame).result = .error e →
    (∀ reason, e ≠ .fatal reason) → turn = (page, [])

/-- The reader stops at a frame exactly if the server refuses to go on with it. -/
theorem ends_text_iff (frame : String) :
    (Arrival.text frame).Ends ↔ (PageAction.receive frame).Fails :=
  or_iff_left (by rintro (⟨⟨⟩⟩ | ⟨⟨⟩⟩))

theorem dispatches_readArrival (page : Page Connection) (number : Nat) (now : Int64)
    (frame : String) :
    page.Dispatches number now frame
      (page.readArrival Handlers.standard now number (.text frame)) where
  fatal_iff := (deliverFrame_fatal_iff now page frame).trans (ends_text_iff frame).symm
  stops ends := readArrival_text_of_ends page now number ((ends_text_iff frame).1 ends)
  goes goes := readArrival_text_of_goes page now number (mt (ends_text_iff frame).2 goes)
  rejected e result mild := by
    have goes : ¬ (PageAction.receive frame).Fails := by
      intro ends
      obtain ⟨reason, fatal⟩ := (deliverFrame_fatal_iff now page frame).2 ends
      rw [result] at fatal
      cases fatal
      exact mild reason rfl
    rw [readArrival_text_of_goes page now number goes, deliverFrame_rejected result mild]
    rfl

/-- The reader of a socket stops in a step: it takes the `last` arrival, and the listener is told of
the end after everything else. -/
structure StopsAt (page : Page Connection) (number : Nat) (last : Arrival)
    (turn : Page Connection × List Event) : Prop where
  takes : page.takesAt number (.read number) = [last]
  ends : last.Ends
  told : ∃ events, turn.2 = events ++ [.disconnected] ∧ .disconnected ∉ events

/-- A reader that takes something at which it stops does so in that step. -/
theorem pursue_end (now : Int64) (made : number ≤ page.transport.number) {last : Arrival}
    (next : (page.transport.socket number).next? = some last) (ends : last.Ends) :
    let turn := page.pursue now (.read number)
    page.StopsAt number last turn ∧ number ≤ turn.1.transport.number ∧
      (turn.1.transport.socket number).reading = false ∧
      turn.1.transport.state = (if page.transport.state = .errored ∨ last ≠ .closed
        then .errored else .disconnected) := by
  intro turn
  have takes : page.takesAt number (.read number) = [last] := by simp [takesAt, next]
  obtain ⟨still, incoming⟩ := incoming_pursue now made (.read number)
  have stopped : (turn.1.transport.socket number).reading = false := by
    rw [Bool.eq_false_iff, ne_eq, incoming.reading_iff, takes]
    simp [ends]
  rcases pursue_read_cases now page number with ⟨nothing, -⟩ | ⟨arrival, first, -, taken⟩
  · rw [nothing] at next
    cases next
  · rw [first] at next
    cases next
    obtain ⟨told, after⟩ := taken.ended ends
    rw [shiftAt, state_setSocket] at after
    exact ⟨⟨takes, ends, told⟩, still, stopped, after⟩

/-- Take a page that is accepted by its peer, whatever has happened to it before, and any steps
after that: of its author, and of the readers, the writers and the peers of all its sockets, with
further attempts to connect among them.  What follows is about the socket that was made then.

- The listener is told of the beginning before anything else, and of another beginning only when
  another attempt is accepted.  It is told of ends only when a reader takes a step.
- What the reader takes is taken in the order of arrival, and nothing is left out: as many reads as
  there are arrivals that wait take everything, unless the reader stops.
- Every frame that it takes is delivered, and a rejected one has no effect.
- While the reader goes on, it has taken nothing at which it stops, and it has told of no end.
- If it has stopped, then at the first arrival that ends it.  It tells of the end in that step and
  in no other one, and takes nothing any more.
- Suppose that no other attempt to connect began or was answered until then.  The connection is
  errored if a failure was reported since the beginning, in whatever order with letting go of it,
  or if the last arrival is fatal or tells that the socket broke.  It is also errored if an older
  socket broke since, and the connection was not let go by choice after that.  Else it is
  disconnected. -/
theorem read_to_the_end (page : Page Connection) (start : Int64)
    (steps : List (Int64 × SocketStep)) :
    let beginning := page.pursue start (.answer .accepted)
    let begun := beginning.1
    let number := begun.transport.number
    let here := (begun.pursueAll steps).1
    beginning.2 = [.connected] ∧
    begun.takesAll number steps <+: arrivalsAt number steps ∧
    (∀ nows : List Int64, (here.transport.socket number).arrived.length ≤ nows.length →
      ((here.pursueAll (readsOf number nows)).1.transport.socket number).reading = true →
        begun.takesAll number (steps ++ readsOf number nows) = arrivalsAt number steps) ∧
    (∀ before now step later, steps = before ++ (now, step) :: later →
      let there := (begun.pursueAll before).1
      let turn := there.pursue now step
      (.connected ∈ turn.2 ↔ step = .answer .accepted) ∧
      (.disconnected ∈ turn.2 → ∃ other, step = .read other) ∧
      ∀ frame, there.takesAt number step = [.text frame] →
        (there.mapConnection (·.shiftAt number)).Dispatches number now frame turn) ∧
    ((here.transport.socket number).reading = true →
      (∀ arrival ∈ begun.takesAll number steps, ¬ arrival.Ends) ∧
        .disconnected ∉ begun.tellsAll number steps) ∧
    ((here.transport.socket number).reading = false → ∃ before now later last,
      steps = before ++ (now, .read number) :: later ∧
      begun.takesAll number steps = begun.takesAll number before ++ [last] ∧
      (∀ arrival ∈ begun.takesAll number before, ¬ arrival.Ends) ∧
      let there := (begun.pursueAll before).1
      let turn := there.pursue now (.read number)
      there.StopsAt number last turn ∧
      .disconnected ∉ begun.tellsAll number before ∧
      .disconnected ∉ turn.1.tellsAll number later ∧
      ((∀ entry ∈ before, ¬ entry.2.Attempts) →
        let failed := begun.Reported before ∨ last ≠ .closed ∨ begun.StaysBroken before
        (failed → turn.1.transport.state = .errored) ∧
        (¬ failed → turn.1.transport.state = .disconnected))) := by
  intro beginning begun number here
  have made : number ≤ begun.transport.number := Nat.le_refl _
  have socket : begun.transport.socket number = .begin page.transport.request.frame :=
    socket_number _
  have order : begun.takesAll number steps ++ (here.transport.socket number).arrived
      <+: arrivalsAt number steps := by
    have all := conserves made steps
    rwa [socket] at all
  refine ⟨rfl, (List.prefix_append _ _).trans order, ?_, ?_, ?_, ?_⟩
  · intro nows enough reading
    have noticed : (begun.transport.socket number).Noticed := by
      rw [socket]
      rintro - ⟨⟩
    have all := takesAll_of_reads made noticed enough reading
    rwa [socket] at all
  · intro before now step later _ there turn
    obtain ⟨first, ended⟩ := told_pursue now there step
    refine ⟨first, fun told => ?_, fun frame takes => ?_⟩
    · obtain ⟨other, -, read, -⟩ := ended.1 told
      exact ⟨other, read⟩
    · obtain ⟨rfl, next⟩ := eq_read_of_mem_takesAt (takes ▸ List.mem_singleton_self _)
      rcases pursue_read_cases now there number with ⟨nothing, -⟩ | ⟨arrival, first, read, -⟩
      · rw [nothing] at next
        cases next
      · rw [first] at next
        cases next
        rw [show turn = _ from read]
        exact dispatches_readArrival _ number now frame
  · intro reading
    have goes := ((reading_pursueAll_iff made steps).1 reading).2
    refine ⟨goes, fun ended => ?_⟩
    obtain ⟨arrival, mem, ends⟩ := (told_tellsAll_iff begun number steps).1 ended
    exact goes arrival mem ends
  · intro stopped
    have started : (begun.transport.socket number).reading = true := by
      rw [socket]
      rfl
    obtain ⟨before, now, later, last, whole, reading, next, ends⟩ :=
      exists_end made started (Bool.eq_false_iff.1 stopped)
    obtain ⟨stops, still, idle, state⟩ := pursue_end now (made_pursueAll made before) next ends
    have nothing := takesAll_of_stopped still idle later
    have goes := ((reading_pursueAll_iff made before).1 reading).2
    refine ⟨before, now, later, last, whole, ?_, goes, stops, fun ended => ?_, fun ended => ?_,
      fun alone => ?_⟩
    · rw [whole, takesAll_append, takesAll, stops.takes, nothing]
      rfl
    · obtain ⟨arrival, mem, ends⟩ := (told_tellsAll_iff begun number before).1 ended
      exact goes arrival mem ends
    · obtain ⟨arrival, mem, -⟩ := (told_tellsAll_iff _ number later).1 ended
      rw [nothing] at mem
      cases mem
    · have errored := state_pursueAll begun alone
      have fresh : ¬ (begun.transport.state = .errored ∧ begun.Stays before) := by
        rintro ⟨⟨⟩, -⟩
      rw [or_iff_left fresh] at errored
      rw [state]
      refine ⟨fun failed => if_pos ?_, fun never => if_neg ?_⟩
      · rw [errored]
        rcases failed with reported | closes | broken
        · exact .inl (.inl reported)
        · exact .inr closes
        · exact .inl (.inr broken)
      · rw [errored]
        rintro ((reported | broken) | closes)
        · exact never (.inl reported)
        · exact never (.inr (.inr broken))
        · exact never (.inr (.inl closes))

/-- A client lets go of its connection and makes another one.  Then the first socket breaks, from
which its reader still reads, and the peer closes the second one: the connection ends errored,
although no failure was reported and its socket did not break.  Another client reports a failure,
and it is forgotten when an attempt that began earlier is refused: the connection ends
disconnected. -/
theorem older_socket_leaves_errored :
    let page : Page Connection := { board := "a", thread := 1, transport := {} }
    (let older := (page.pursueAll
        [(0, .call), (0, .answer .accepted), (1, .disconnect), (2, .call)]).1
      let begun := (older.pursue 2 (.answer .accepted)).1
      let steps := [(3, .arrive 1 .broken), (3, .read 1), (4, .arrive 2 .closed)]
      let there := (begun.pursueAll steps).1
      let turn := there.pursue 4 (.read 2)
      begun.transport.number = 2 ∧ (∀ entry ∈ steps, ¬ entry.2.Attempts) ∧
        ¬ begun.Reported steps ∧ there.takesAt 2 (.read 2) = [.closed] ∧
        .disconnected ∈ turn.2 ∧ turn.1.transport.state = .errored) ∧
    (let waiting := (page.pursueAll [(0, .call), (0, .call)]).1
      let begun := (waiting.pursue 1 (.answer .accepted)).1
      let steps := [(2, .act (.fail "banned")), (3, .answer .refused), (4, .arrive 1 .closed)]
      let turn := (begun.pursueAll steps).1.pursue 4 (.read 1)
      (∀ entry ∈ steps, entry.2 ≠ .call) ∧ begun.Reported steps ∧
        .disconnected ∈ turn.2 ∧ turn.1.transport.state = .disconnected) := by
  refine ⟨⟨by decide +kernel, by simp [SocketStep.Attempts], ?_, by decide +kernel, ?_,
    by decide +kernel⟩, by simp, .inl ⟨_, List.mem_singleton_self _, trivial⟩, ?_,
    by decide +kernel⟩
  · rintro (silent | ⟨arrival, next, fails⟩ | silent | silent)
    · exact silent
    · obtain rfl : arrival = .broken := Option.some.inj (next.symm.trans (by decide +kernel))
      exact fails
    · exact silent
    · exact silent
  · exact (told_pursue _ _ _).2.2 ⟨2, .closed, rfl, by decide +kernel, .inr (.inl rfl)⟩
  · exact (told_pursue _ _ _).2.2 ⟨1, .closed, rfl, by decide +kernel, .inr (.inl rfl)⟩

end Page

end LiveThread
