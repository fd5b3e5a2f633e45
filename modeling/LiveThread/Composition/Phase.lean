/-!
# Phases of a composition

A new post is first local, then waits for its id, then is streamed to the
server, and in the end is silent for good.

Main results:

- Definition `Phase.next?`: the phase after an event, if the event fits.
- Definition `Phase.feed`: the same with the misfit as an error.
- Theorem `Phase.next?_halted`: nothing leads out of the last phase.
-/

namespace LiveThread

/-- How far a composition has come. -/
inductive Phase where
  /-- Nothing has been sent. -/
  | draft
  /-- An id has been asked for; edits are held back. -/
  | allocating
  /-- The post has an id; edits are sent. -/
  | allocated
  /-- Closed or failed; nothing is sent any more. -/
  | halted
  deriving DecidableEq

/-- What moves a composition on. -/
inductive PhaseEvent where
  | allocationRequested
  | idReceived
  | postClosed
  | fatalError
  deriving DecidableEq

/-- The name of a phase in diagnostics. -/
def Phase.name : Phase → String
  | draft => "Draft"
  | allocating => "Allocating"
  | allocated => "Allocated"
  | halted => "Halted"

/-- The name of an event in diagnostics. -/
def PhaseEvent.name : PhaseEvent → String
  | allocationRequested => "SentAllocRequest"
  | idReceived => "IdReceived"
  | postClosed => "PostClosed"
  | fatalError => "FatalError"

/-- An event that does not fit the phase it came in. -/
structure InvalidTransition where
  phase : Phase
  event : PhaseEvent
  deriving DecidableEq

/-- The wording of a misfit. -/
def InvalidTransition.message (e : InvalidTransition) : String :=
  "No transition from " ++ e.phase.name ++ " on " ++ e.event.name

namespace Phase

/-- The phase after an event.  A post may be closed before it has an id, and a fatal error is
always possible. -/
def next? : Phase → PhaseEvent → Option Phase
  | _, .fatalError => some halted
  | draft, .allocationRequested => some allocating
  | allocating, .idReceived => some allocated
  | draft, .postClosed => some halted
  | allocating, .postClosed => some halted
  | allocated, .postClosed => some halted
  | _, _ => none

/-- The phase after an event, or why there is none. -/
def feed (phase : Phase) (event : PhaseEvent) : Except InvalidTransition Phase :=
  match phase.next? event with
  | some phase => .ok phase
  | none => .error ⟨phase, event⟩

/-- The phase after an event; one that does not fit changes nothing. -/
def after (phase : Phase) (event : PhaseEvent) : Phase :=
  (phase.next? event).getD phase

/-- Whether edits of the input may be sent. -/
def acceptsEdits : Phase → Bool
  | draft | allocated => true
  | allocating | halted => false

/-- Whether an event changes the phase, so that watchers hear of it. -/
def changesOn (phase : Phase) (event : PhaseEvent) : Bool :=
  phase.after event ≠ phase

/-- Nothing leads out of the last phase. -/
theorem next?_halted (event : PhaseEvent) :
    halted.next? event = none ∨ halted.next? event = some halted := by
  cases event <;> simp [next?]

/-- A fatal error ends every composition. -/
@[simp]
theorem after_fatalError (phase : Phase) : phase.after .fatalError = halted := by
  cases phase <;> rfl

/-- A composition that has ended stays so. -/
@[simp]
theorem after_halted (event : PhaseEvent) : halted.after event = halted := by
  cases event <;> rfl

/-- A post can be closed exactly once. -/
theorem next?_postClosed (phase : Phase) :
    phase.next? .postClosed = if phase = halted then none else some halted := by
  cases phase <;> rfl

end Phase

end LiveThread
