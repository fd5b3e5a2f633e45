import LiveThread.Proofs.Composition.Settled
import LiveThread.Proofs.Page.Steps

/-!
# Moves of a page

A step of a page is an action of one of its authors, or a sequence of a few
elementary moves: the attached composition hears what the server says to it,
posts change, a composition is begun, another one is attached, the clock is
set, or the way out fails.

Main results:

- Definition `Page.perform`: the page after an action of one of its authors.
- Definition `PageMove`: the elementary moves of all other steps.
- Definition `PageStep.Spares`: a step leaves the body of a post alone.
- Theorem `Page.step_moves`: every other step is a sequence of moves.
- Theorem `Page.step_induct`: what every move keeps, such a step keeps.
- Theorem `Page.Peopled.follow`: what no move of a composition breaks holds of all of a page.
- Theorem `Page.Sound.follow`: the compositions of a page stay sound.
-/

namespace LiveThread

open Relation

/-! ## Actions of authors -/

namespace Page

variable {τ : Type}

/-- A composition with its surroundings. -/
def deskOf (page : Page τ) (c : Composer) : Desk τ :=
  { composer := c, registry := page.registry, transport := page.transport }

variable [Transport τ]

/-- The page after an action of one of its authors. -/
def perform (page : Page τ) (number : Nat) (action : Action) : Page τ :=
  (page.atComposer number (·.perform action)).2

section Perform

variable {page : Page τ} {number other : Nat} {c : Composer} {action : Action}

/-- There is nothing to be done without a composition. -/
theorem perform_of_none (h : page.composers[number]? = none) (action : Action) :
    page.perform number action = page := by
  simp [perform, atComposer, desk?, h]

/-- A composition acts at its desk. -/
theorem perform_of_some (h : page.composers[number]? = some c) (action : Action) :
    page.perform number action
      = page.putDesk number ((page.deskOf c).perform action).2 := by
  simp [perform, atComposer, desk?, h, deskOf]

/-- The page after an operation is that after an action with the same effect. -/
theorem atComposer_snd {α : Type} {operation : Desk τ → α × Desk τ} (page : Page τ)
    (number : Nat) (same : ∀ desk, (operation desk).2 = (desk.perform action).2) :
    (page.atComposer number operation).2 = page.perform number action := by
  unfold perform atComposer
  split
  · rfl
  · next desk _ => exact congrArg (page.putDesk number) (same desk)

/-- An author who acts changes the own composition only. -/
theorem perform_composers_of_ne (page : Page τ) (action : Action) (h : other ≠ number) :
    (page.perform number action).composers[other]? = page.composers[other]? := by
  cases found : page.composers[number]? with
  | none => rw [perform_of_none found]
  | some c =>
    rw [perform_of_some found]
    simp [putDesk, List.getElem?_set_ne (Ne.symm h)]

/-- The own composition is that of the desk. -/
theorem perform_composers_self (h : page.composers[number]? = some c) (action : Action) :
    (page.perform number action).composers[number]?
      = some ((page.deskOf c).perform action).2.composer := by
  obtain ⟨inside, -⟩ := List.getElem?_eq_some_iff.1 h
  rw [perform_of_some h]
  simp [putDesk, inside]

/-- The posts are those of the desk. -/
theorem registry_perform (h : page.composers[number]? = some c) (action : Action) :
    (page.perform number action).registry = ((page.deskOf c).perform action).2.registry := by
  rw [perform_of_some h]
  rfl

/-- What no move of an action breaks of the posts, the action does not break. -/
theorem registry_perform_induct {P : Registry → Prop} {page : Page (Logged τ)}
    (kept : ∀ {a b : Account}, Move action a b → P a.registry → P b.registry)
    (first : P page.registry) (number : Nat) : P (page.perform number action).registry := by
  cases found : page.composers[number]? with
  | none => rwa [perform_of_none found]
  | some c =>
    rw [registry_perform found]
    exact Account.induct (P := fun a => P a.registry)
      (Desk.perform_moves (page.deskOf c) action) first kept

end Perform

/-! ## Steps that spare a post -/

end Page

/-- The id that a message names: that of the post that it changes or of a new one. -/
def ServerMessage.named? : ServerMessage → Option UInt64
  | postId id => some id
  | m => m.target?

/-- A step leaves the body of the post under an id alone, whatever the posts are. -/
def PageStep.Spares (id : UInt64) : PageStep → Prop
  | .message m => m.named? ≠ some id
  | .action (.register post) => post.id ≠ id
  | .action (.drop other) => other ≠ id
  | .action (.compose _ what) => what.named? ≠ some id
  | .action (.receive _) => False
  | .action _ => True

/-- What a message makes the attached composition hear at the local time `now`. -/
def PageStep.heard? (now : Int64) : PageStep → Option Action
  | .message (.postId id) => some (.receiveId now id)
  | .message (.insertPost data) => some (.mergeEcho data)
  | .message (.invalid _) => some .halt
  | _ => none

/-- A step that spares a post lets no composition hear its id. -/
theorem PageStep.Spares.named?_ne {step : PageStep} {id : UInt64} {now : Int64} {action : Action}
    (spared : step.Spares id) (heard : step.heard? now = some action) :
    action.named? ≠ some id := by
  unfold PageStep.heard? at heard
  split at heard <;> cases heard
  · exact spared
  · exact spared
  · rintro ⟨⟩

/-- What the server says takes no input. -/
theorem PageStep.input?_of_heard? {step : PageStep} {now : Int64} {action : Action}
    (heard : step.heard? now = some action) : action.input? = none := by
  unfold PageStep.heard? at heard
  split at heard <;> cases heard <;> rfl

/-- Nor does it bring a file. -/
theorem PageStep.file?_of_heard? {step : PageStep} {now : Int64} {action : Action}
    (heard : step.heard? now = some action) : action.file? = none := by
  unfold PageStep.heard? at heard
  split at heard <;> cases heard <;> rfl

/-! ## Moves -/

section Moves

variable {τ : Type} [Transport τ]

/-- The elementary moves of a step that is not an action of an author. -/
inductive PageMove (now : Int64) (step : PageStep) : Page τ → Page τ → Prop
  /-- The attached composition hears what the server says to it. -/
  | hear {page : Page τ} {number : Nat} {action : Action} (attached : page.attached = some number)
      (heard : step.heard? now = some action) :
      PageMove now step page (page.perform number action)
  /-- Posts change that the step names. -/
  | posts {page : Page τ} (registry : Registry)
      (spared : ∀ id, step.Spares id → registry.body? id = page.registry.body? id) :
      PageMove now step page { page with registry := registry }
  | begin (page : Page τ) (config : ComposerConfig) :
      PageMove now step page (page.addComposer config now)
  | attach (page : Page τ) (attached : Option Nat) :
      PageMove now step page { page with attached := attached }
  | clock (page : Page τ) (offset : Int64) :
      PageMove now step page { page with serverOffset := offset }
  | fail (page : Page τ) (reason : String) :
      PageMove now step page { page with transport := Transport.fail page.transport reason }

namespace Page

/-- What the server says to the attached composition is a move. -/
theorem atAttached_moves {α : Type} {operation : Desk τ → α × Desk τ} {now : Int64}
    {step : PageStep} {action : Action} (page : Page τ) (heard : step.heard? now = some action)
    (same : ∀ desk, (operation desk).2 = (desk.perform action).2) :
    ReflTransGen (PageMove now step) page (page.atAttached operation).2 := by
  unfold atAttached
  split
  · exact .refl
  · next number attached =>
    rw [atComposer_snd page number same]
    exact .single (.hear attached heard)

/-- A change of a post is a move. -/
theorem changePost_moves {now : Int64} {m : ServerMessage} {id : UInt64} (page : Page τ)
    (named : m.named? = some id) (kind : MessageKind)
    (change : Post → Except PostError Post) :
    ReflTransGen (PageMove now (.message m)) page (page.changePost id kind change).page := by
  unfold changePost
  split
  · exact .refl
  · split
    · exact .refl
    · refine .single (.posts _ fun other spared => ?_)
      apply Registry.body?_modify
      rintro rfl
      exact absurd named spared

/-- An announcement is heard by the attached composition, and may then register a post. -/
theorem insertPost_moves (now : Int64) (page : Page τ) (data : Post) :
    ReflTransGen (PageMove now (.message (.insertPost data))) page (page.insertPost data).page := by
  have heard : ReflTransGen (PageMove now (.message (.insertPost data))) page
      (page.atAttached (·.mergeEcho data)).2 :=
    atAttached_moves page rfl fun _ => rfl
  unfold insertPost
  split
  · next after merged =>
    rw [merged] at heard
    exact heard
  · next found after other =>
    rw [other] at heard
    split
    · exact heard
    · refine heard.tail (.posts _ fun id spared => ?_)
      exact Registry.body?_insert_of_ne fun same => spared (congrArg some same)

/-- Giving up tells the way out and halts the attached composition. -/
theorem failWith_moves (now : Int64) (page : Page τ) (reason : String) :
    ReflTransGen (PageMove now (.message (.invalid reason))) page (page.failWith reason).page :=
  .head (.fail page reason) (atAttached_moves _ rfl fun _ => rfl)

omit [Transport τ] in
/-- The attached composition takes the id that it waits for. -/
theorem receiveId_of_waiting {page : Page τ} {number : Nat} {c : Composer} {ticket : Ticket}
    (attached : page.attached = some number) (found : page.composers[number]? = some c)
    (waiting : c.ticket = some ticket) (now : Int64) (id : UInt64) :
    page.receiveId now id
      = { page := page.putDesk number ((page.deskOf c).receiveId now id).2
          events := [.allocated id] } := by
  simp [receiveId, atAttached, attached, atComposer, desk?, found, deskOf, Desk.receiveId, waiting,
    tell]

omit [Transport τ] in
/-- A composition that is put back as it was changes nothing. -/
theorem putDesk_deskOf {page : Page τ} {number : Nat} {c : Composer}
    (found : page.composers[number]? = some c) : page.putDesk number (page.deskOf c) = page := by
  obtain ⟨inside, rfl⟩ := List.getElem?_eq_some_iff.1 found
  simp [putDesk, deskOf]

omit [Transport τ] in
/-- An id for which the attached composition does not wait is rejected. -/
theorem receiveId_of_idle {page : Page τ}
    (idle : ∀ number c, page.attached = some number → page.composers[number]? = some c →
      c.ticket = none) (now : Int64) (id : UInt64) :
    page.receiveId now id = page.reject (.unexpectedAllocation ⟨id⟩) := by
  cases attached : page.attached with
  | none => simp [receiveId, atAttached, attached]
  | some number =>
    cases found : page.composers[number]? with
    | none => simp [receiveId, atAttached, attached, atComposer, desk?, found]
    | some c =>
      have same := putDesk_deskOf found
      have silent := idle number c attached found
      simp only [deskOf] at same
      simp [receiveId, atAttached, attached, atComposer, desk?, found, Desk.receiveId, silent, same]

omit [Transport τ] in
/-- An id is for the attached composition. -/
theorem receiveId_page (now : Int64) (page : Page τ) (id : UInt64) :
    (page.receiveId now id).page = (page.atAttached (·.receiveId now id)).2 := by
  unfold receiveId
  split <;> next taken => rw [taken]; rfl

/-- A message is taken by moves. -/
theorem receive_moves (now : Int64) (page : Page τ) (m : ServerMessage) :
    ReflTransGen (PageMove now (.message m)) page
      (page.receive Handlers.standard now m).page := by
  cases m with
  | invalid reason => exact failWith_moves now page reason
  | postId id =>
    simp only [receive, receiveId_page]
    exact atAttached_moves _ rfl fun _ => rfl
  | serverTime time =>
    simp only [receive, setClock]
    split
    · exact .single (.clock page _)
    · exact .refl
  | insertPost data => exact insertPost_moves now page data
  | append | backspace | splice | closePost | insertImage | spoiler | moderatePost =>
    exact changePost_moves page rfl _ _
  | synchronise | concat | noop | syncCount | redirect | notification | captcha | configs =>
    exact .refl

/-- The step of an author is the action. -/
theorem step_compose (now : Int64) (page : Page τ) (number : Nat) (action : Action) :
    (page.step now (.action (.compose number action))).1 = page.perform number action := by
  simp only [step, act, perform]
  split <;> next taken => rw [taken]

/-- A step is an action of an author, or it is taken by moves. -/
theorem step_moves (now : Int64) (page : Page τ) (step : PageStep)
    (other : ∀ number action, step ≠ .action (.compose number action))
    (single : ∀ frame, step ≠ .action (.receive frame)) :
    ReflTransGen (PageMove now step) page (page.step now step).1 := by
  cases step with
  | message m => exact receive_moves now page m
  | action what =>
    cases what with
    | receive frame => exact absurd rfl (single frame)
    | compose number action => exact absurd rfl (other number action)
    | newComposer config =>
      exact .tail (.single (.begin page config)) (.attach _ (some page.composers.length))
    | addComposer config => exact .single (.begin page config)
    | attach number =>
      simp only [step, act]
      split
      · exact .single (.attach page (some number))
      · exact .refl
    | detach => exact .single (.attach page none)
    | register post =>
      refine .single (.posts _ fun id spared => ?_)
      exact Registry.body?_insert_of_ne spared
    | drop id =>
      refine .single (.posts _ fun other spared => ?_)
      exact Registry.body?_erase_of_ne spared
    | fail reason => exact .single (.fail page reason)

/-- What every move keeps, a step keeps that is no action of an author. -/
theorem step_induct {P : Page τ → Prop} {now : Int64} {page : Page τ} {step : PageStep}
    (other : ¬ ∃ number action, step = .action (.compose number action))
    (single : ∀ frame, step ≠ .action (.receive frame))
    (moved : ∀ {before after : Page τ}, PageMove now step before after → P before → P after)
    (first : P page) : P (page.step now step).1 := by
  have moves := step_moves now page step (fun number action same => other ⟨_, _, same⟩) single
  generalize (page.step now step).1 = after at moves
  induction moves with
  | refl => exact first
  | tail _ move ih => exact moved move ih

end Page

end Moves

/-! ## Properties of all compositions -/

namespace Page

variable {τ : Type} [Transport τ] {P : Composer → Prop}

/-- A page is the one of a place, and all its compositions have a property. -/
structure Peopled (P : Composer → Prop) (board : String) (thread : UInt64) (page : Page τ) :
    Prop where
  board : page.board = board
  thread : page.thread = thread
  all : ∀ c ∈ page.composers, P c

section Peopled

variable {board : String} {thread : UInt64} {page : Page (Logged τ)}

/-- An author keeps what no move breaks. -/
theorem Peopled.perform
    (kept : ∀ {action : Action} {a b : Account}, Move action a b → P a.composer → P b.composer)
    (h : page.Peopled P board thread) (number : Nat) (action : Action) :
    (page.perform number action).Peopled P board thread := by
  cases found : page.composers[number]? with
  | none => rwa [perform_of_none found]
  | some old =>
    rw [perform_of_some found]
    refine ⟨h.board, h.thread, fun c mem => ?_⟩
    rcases List.mem_or_eq_of_mem_set mem with mem | rfl
    · exact h.all c mem
    · have moves := Desk.perform_moves (page.deskOf old) action
      exact Account.induct (P := fun a => P a.composer) moves
        (h.all old (List.mem_of_getElem? found)) kept

variable
  (kept : ∀ {action : Action} {a b : Account}, Move action a b → P a.composer → P b.composer)
  (new : ∀ config now, P (.new config board thread now))
include kept new

/-- So does a move of the page, if new compositions have it. -/
theorem Peopled.move {after : Page (Logged τ)} {now : Int64} {step : PageStep}
    (move : PageMove now step page after) (h : page.Peopled P board thread) :
    after.Peopled P board thread := by
  cases move with
  | hear attached heard => exact h.perform kept _ _
  | begin config =>
    refine ⟨h.board, h.thread, fun c mem => ?_⟩
    rcases List.mem_append.1 mem with mem | mem
    · exact h.all c mem
    · rw [List.mem_singleton.1 mem, h.board, h.thread]
      exact new config now
  | posts | attach | clock | fail => exact ⟨h.board, h.thread, h.all⟩

/-- So does a step. -/
theorem Peopled.step (h : page.Peopled P board thread) (now : Int64) {step : PageStep}
    (single : ∀ frame, step ≠ .action (.receive frame)) :
    (page.step now step).1.Peopled P board thread := by
  by_cases composed : ∃ number action, step = .action (.compose number action)
  · obtain ⟨number, action, rfl⟩ := composed
    rw [step_compose]
    exact h.perform kept number action
  · exact step_induct composed single (Peopled.move kept new) h

/-- So do all steps of a history. -/
theorem Peopled.follow (h : page.Peopled P board thread) {steps : List (Int64 × PageStep)}
    (single : ∀ entry ∈ steps, ∀ frame, entry.2 ≠ .action (.receive frame)) :
    (page.follow steps).1.Peopled P board thread :=
  follow_induct (P := Peopled P board thread)
    (fun _ now _ single h => h.step kept new now single) h single

/-- So does every history. -/
theorem Peopled.happen (h : page.Peopled P board thread) (history : List (Int64 × PageAction)) :
    (page.happen history).1.Peopled P board thread :=
  happen_induct (P := Peopled P board thread)
    (fun _ now _ single h => h.step kept new now single) h history

end Peopled

/-- Every composition of the page is sound. -/
def Sound (page : Page τ) : Prop :=
  ∀ c ∈ page.composers, c.Sound

/-- The steps of a history keep the compositions sound. -/
theorem Sound.follow {page : Page (Logged τ)} (h : page.Sound) {steps : List (Int64 × PageStep)}
    (single : ∀ entry ∈ steps, ∀ frame, entry.2 ≠ .action (.receive frame)) :
    (page.follow steps).1.Sound := by
  have first : page.Peopled Composer.Sound page.board page.thread := ⟨rfl, rfl, h⟩
  exact (first.follow Move.keeps_sound
    (fun config now => Composer.new_sound config page.board page.thread now) single).all

end Page

end LiveThread
