import LiveThread.Composition.Action
import LiveThread.Page.Delivery

/-!
# Actions on a page

Everything that can happen on a page as data: frames arrive, composers are
begun and used, posts are registered and dropped, and the connection fails.

Main results:

- Definition `PageAction`: what can happen.
- Definition `Page.act`: an action with its answer and what the listener is told.
- Definition `Page.through`: timed steps of any kind, one after the other.
- Theorem `Page.through_append`: they go on where the first of them ended.
- Definition `Page.elapse`: the page after a history, and what is told of it.
-/

namespace LiveThread

/-- What can happen on a page. -/
inductive PageAction where
  | receive (frame : String)
  | compose (number : Nat) (action : Action)
  /-- A composition is begun and attached. -/
  | newComposer (config : ComposerConfig)
  /-- A composition is begun and not attached. -/
  | addComposer (config : ComposerConfig)
  | attach (number : Nat)
  | detach
  | register (post : Post)
  | drop (id : UInt64)
  | fail (reason : String)

/-- The answer to an action. -/
inductive PageAnswer where
  | received (result : Except DeliveryError Unit)
  | composed (answer : Answer)
  /-- There is no such composer. -/
  | noComposer
  | done
  | detached (was : Bool)
  /-- The post that was registered before. -/
  | replaced (post : Option Post)

/-- The outcome of an action: its answer, the page afterwards, and what the listener is told. -/
structure Turn (τ : Type) where
  answer : PageAnswer
  page : Page τ
  events : List Event := []

namespace Page

/-! ## One step after the other -/

section Through

variable {τ σ : Type}

/-- The page after some timed steps, and what is told of them, in order.  A step is taken by
`turn`. -/
def through (turn : Int64 → Page τ → σ → Page τ × List Event) (page : Page τ) :
    List (Int64 × σ) → Page τ × List Event
  | [] => (page, [])
  | (now, step) :: steps =>
    let first := turn now page step
    let rest := first.1.through turn steps
    (rest.1, first.2 ++ rest.2)

variable (turn : Int64 → Page τ → σ → Page τ × List Event) (page : Page τ)

@[simp]
theorem through_nil : page.through turn [] = (page, []) :=
  rfl

theorem through_cons (now : Int64) (step : σ) (steps : List (Int64 × σ)) :
    page.through turn ((now, step) :: steps)
      = (((turn now page step).1.through turn steps).1,
          (turn now page step).2 ++ ((turn now page step).1.through turn steps).2) :=
  rfl

/-- Steps go on where the first of them ended. -/
theorem through_append (before after : List (Int64 × σ)) :
    page.through turn (before ++ after)
      = (((page.through turn before).1.through turn after).1,
          (page.through turn before).2 ++ ((page.through turn before).1.through turn after).2) := by
  induction before generalizing page with
  | nil => rfl
  | cons entry before ih =>
    obtain ⟨now, step⟩ := entry
    simp only [List.cons_append, through_cons, ih, List.append_assoc]

end Through

/-! ## Actions -/

variable {τ : Type} [Transport τ]

/-- Performs an action at the local time `now`. -/
def act (handlers : Handlers τ) (now : Int64) (page : Page τ) : PageAction → Turn τ
  | .receive frame =>
    let reply := page.deliverFrame handlers now frame
    { answer := .received reply.result, page := reply.page, events := reply.events }
  | .compose number action =>
    match page.atComposer number (·.perform action) with
    | (none, page) => { answer := .noComposer, page := page }
    | (some answer, page) => { answer := .composed answer, page := page }
  | .newComposer config => { answer := .done, page := page.newComposer config now }
  | .addComposer config => { answer := .done, page := page.addComposer config now }
  | .attach number =>
    if number < page.composers.length then { answer := .done, page := page.attach number }
    else { answer := .noComposer, page := page }
  | .detach => let (was, page) := page.detach; { answer := .detached was, page := page }
  | .register post =>
    let (before, registry) := page.registry.getThenInsert post
    { answer := .replaced before, page := { page with registry := registry } }
  | .drop id =>
    let (before, registry) := page.registry.getThenErase id
    { answer := .replaced before, page := { page with registry := registry } }
  | .fail reason =>
    { answer := .done, page := { page with transport := Transport.fail page.transport reason } }

/-- The page after some timed actions, and what is told of them. -/
def elapse (handlers : Handlers τ) (page : Page τ) (history : List (Int64 × PageAction)) :
    Page τ × List Event :=
  page.through (fun now page action =>
    let turn := page.act handlers now action
    (turn.page, turn.events)) history

theorem elapse_cons (handlers : Handlers τ) (page : Page τ) (now : Int64) (action : PageAction)
    (history : List (Int64 × PageAction)) :
    page.elapse handlers ((now, action) :: history)
      = let turn := page.act handlers now action
        ((turn.page.elapse handlers history).1,
          turn.events ++ (turn.page.elapse handlers history).2) :=
  rfl

end Page

end LiveThread
