import LiveThread.Page.Handler

/-!
# Deliveries

What a frame brings: one message, a batch of further frames, or nothing that
can be read.  A batch may hold batches; every frame in it is shorter than the
whole, so there is a last level.

Main results:

- Definition `Delivery.ofFrame`: what a frame brings.
- Definition `Page.deliver`: what a page does with it.  In a batch only a fatal message stops the
  messages after it; other rejections are passed over.
- Theorems `Page.deliver_batch_nil` and `Page.deliver_batch_cons`: a batch is delivered in order.
-/

namespace LiveThread

/-- What a frame brings. -/
inductive Delivery where
  | rejected (e : FrameError)
  | single (m : ServerMessage)
  | batch (parts : List Delivery)

/-- What a frame brings. -/
def Delivery.ofFrame (frame : String) : Delivery :=
  match _h : ServerMessage.ofFrame frame with
  | .error e => .rejected e
  | .ok (.concat frames) => .batch (frames.attach.map fun ⟨part, _⟩ => Delivery.ofFrame part)
  | .ok m => .single m
termination_by frame.length
decreasing_by
  have := ServerMessage.length_lt_of_mem ‹_› ‹_›
  omega

/-- A batch brings what its frames bring. -/
theorem Delivery.ofFrame_of_concat {frame : String} {frames : List String}
    (h : ServerMessage.ofFrame frame = .ok (.concat frames)) :
    Delivery.ofFrame frame = .batch (frames.map Delivery.ofFrame) := by
  rw [Delivery.ofFrame]
  split
  · next read => simp [h] at read
  · next parts read =>
    rw [h] at read
    cases read
    simp
  · next m other read =>
    rw [h] at read
    cases read
    exact absurd rfl (other _)

/-- A frame that cannot be read brings nothing. -/
theorem Delivery.ofFrame_of_error {frame : String} {e : FrameError}
    (h : ServerMessage.ofFrame frame = .error e) : Delivery.ofFrame frame = .rejected e := by
  rw [Delivery.ofFrame]
  split <;> simp_all

/-- Every other frame brings its message. -/
theorem Delivery.ofFrame_of_single {frame : String} {m : ServerMessage}
    (h : ServerMessage.ofFrame frame = .ok m) (single : m.kind ≠ .concat) :
    Delivery.ofFrame frame = .single m := by
  rw [Delivery.ofFrame]
  split
  · next read => simp [h] at read
  · next parts read =>
    rw [h] at read
    cases read
    exact absurd rfl single
  · next m other read =>
    rw [h] at read
    cases read
    rfl

namespace Page

variable {τ : Type} [Transport τ]

mutual

/-- Takes what a frame brought. -/
def deliver (handlers : Handlers τ) (now : Int64) (page : Page τ) : Delivery → Reply τ
  | .rejected e => page.reject (.frame e)
  | .single m => page.receive handlers now m
  | .batch parts => page.deliverAll handlers now parts

/-- Takes the parts of a batch in order, up to the first one that is fatal. -/
def deliverAll (handlers : Handlers τ) (now : Int64) (page : Page τ) : List Delivery → Reply τ
  | [] => page.ignore
  | part :: parts =>
    let first := page.deliver handlers now part
    match first.result with
    | .error (.fatal _) => first
    | _ =>
      let rest := first.page.deliverAll handlers now parts
      { rest with events := first.events ++ rest.events }

end

/-- An empty batch changes nothing. -/
@[simp]
theorem deliver_batch_nil (handlers : Handlers τ) (now : Int64) (page : Page τ) :
    page.deliver handlers now (.batch []) = page.ignore :=
  rfl

/-- A batch is delivered in order; what is told of its parts is told in order. -/
theorem deliver_batch_cons (handlers : Handlers τ) (now : Int64) (page : Page τ)
    (part : Delivery) (parts : List Delivery) :
    page.deliver handlers now (.batch (part :: parts))
      = match (page.deliver handlers now part).result with
        | .error (.fatal _) => page.deliver handlers now part
        | _ =>
          let rest := (page.deliver handlers now part).page.deliver handlers now (.batch parts)
          { rest with events := (page.deliver handlers now part).events ++ rest.events } :=
  rfl

/-- Takes a frame. -/
def deliverFrame (handlers : Handlers τ) (now : Int64) (page : Page τ) (frame : String) :
    Reply τ :=
  page.deliver handlers now (Delivery.ofFrame frame)

end Page

end LiveThread
