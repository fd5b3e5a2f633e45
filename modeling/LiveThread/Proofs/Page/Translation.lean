import LiveThread.Page.Action

/-!
# Ways out that answer alike

Of its way out a page sees nothing but whether a message was accepted.  So a way
out can be put in the place of another one that answers alike, and everything
goes on as before: the operations of a composition, the deliveries, and every
action of a page.  In particular it makes no difference whether somebody lists
the messages that leave.

Main results:

- Definition `Mirrors`: a translation of ways out after which they answer alike.
- Theorem `Desk.blind_perform`: no action of a composition sees the difference.
- Theorem `Page.act_mapWay`: no action of a page sees it.
- Theorem `Logged.mirrors_way`: to list what was accepted makes no difference.
-/

namespace LiveThread

variable {τ υ : Type} [Transport τ] [Transport υ] {f : τ → υ}

/-- After the translation a way out answers as it did before. -/
structure Mirrors (f : τ → υ) : Prop where
  send : ∀ way m,
    Transport.send (f way) m = ((Transport.send way m).1, f (Transport.send way m).2)
  fail : ∀ way reason, Transport.fail (f way) reason = f (Transport.fail way reason)

omit [Transport υ] in
/-- To list what was accepted makes no difference to the way out. -/
theorem Logged.mirrors_way : Mirrors (Logged.way : Logged τ → τ) :=
  ⟨fun _ _ => rfl, fun _ _ => rfl⟩

/-! ## Compositions -/

namespace Desk

/-- The desk with another way out. -/
def mapWay (f : τ → υ) (desk : Desk τ) : Desk υ :=
  { composer := desk.composer, registry := desk.registry, transport := f desk.transport }

section Fields

omit [Transport τ] [Transport υ]

variable (f) (desk : Desk τ)

@[simp]
theorem mapWay_composer : (desk.mapWay f).composer = desk.composer :=
  rfl

@[simp]
theorem mapWay_registry : (desk.mapWay f).registry = desk.registry :=
  rfl

@[simp]
theorem note_mapWay (input : String) :
    (desk.mapWay f).note input = (desk.note input).mapWay f :=
  rfl

@[simp]
theorem setAttaching_mapWay (attaching : Bool) :
    (desk.mapWay f).setAttaching attaching = (desk.setAttaching attaching).mapWay f :=
  rfl

@[simp]
theorem abandon_mapWay : (desk.mapWay f).abandon = desk.abandon.mapWay f := by
  unfold abandon
  rw [mapWay_composer]
  split <;> rfl

end Fields

/-- An operation does not see the difference between ways out. -/
def Blind {α : Type} (f : τ → υ) (here : Desk τ → α × Desk τ) (there : Desk υ → α × Desk υ) : Prop :=
  ∀ desk, there (desk.mapWay f) = ((here desk).1, (here desk).2.mapWay f)

omit [Transport τ] [Transport υ] in
/-- A decision that does not depend on the way out is the same for both. -/
theorem ite_mapWay {α : Type} {c : Prop} {here there : Decidable c} {a b : α × Desk τ}
    {a' b' : α × Desk υ} (pos : c → a' = (a.1, a.2.mapWay f))
    (neg : ¬ c → b' = (b.1, b.2.mapWay f)) :
    (@ite _ c there a' b') = ((@ite _ c here a b).1, (@ite _ c here a b).2.mapWay f) := by
  by_cases h : c
  · rw [if_pos h, if_pos h]
    exact pos h
  · rw [if_neg h, if_neg h]
    exact neg h

variable (mirrors : Mirrors f)

include mirrors

theorem blind_send (m : ClientMessage) : Blind f (·.send m) (·.send m) := by
  intro desk
  by_cases halted : desk.composer.phase = .halted
  · simp only [send, mapWay_composer, halted, if_true]
  · simp only [send, mapWay_composer, halted, if_false]
    simp only [mapWay, mirrors.send]

theorem blind_requestAllocation (body : String) (image : Option UploadedFile) :
    Blind f (·.requestAllocation body image) (·.requestAllocation body image) := by
  intro desk
  have send := blind_send mirrors (.insertPost (allocationRequest desk.composer.config body image))
    desk
  simp only [requestAllocation, mapWay_composer, send]
  rcases desk.send (.insertPost (allocationRequest desk.composer.config body image))
    with ⟨_ | _, after⟩
  · rfl
  · simp only [mapWay_composer]
    split <;> rfl

theorem blind_sendChange (text : String) (excess : Nat) :
    Blind f (·.sendChange text excess) (·.sendChange text excess) := by
  intro desk
  simp only [sendChange, mapWay_composer]
  cases Edit.between? desk.composer.sentBody text with
  | none => rfl
  | some edit =>
    have send := blind_send mirrors edit.message desk
    simp only [send]
    rcases desk.send edit.message with ⟨_ | _, after⟩ <;> rfl

theorem blind_edit (input : String) : Blind f (·.edit input) (·.edit input) := by
  intro desk
  let noted := desk.note (desk.composer.config.trim input).text
  refine ite_mapWay (fun _ => rfl) fun _ => ite_mapWay (fun _ => ?_) fun _ => ?_
  · have asked := blind_requestAllocation mirrors (desk.composer.config.trim input).text none noted
    dsimp only at asked ⊢
    rw [mapWay_composer, note_mapWay, asked]
    rcases noted.requestAllocation (desk.composer.config.trim input).text none
      with ⟨_ | _, after⟩ <;> rfl
  · exact blind_sendChange mirrors _ _ noted

theorem blind_close (input : String) : Blind f (·.close input) (·.close input) := by
  intro desk
  have edited := blind_edit mirrors input desk
  simp only [close, edited]
  rcases desk.edit input with ⟨_ | _, after⟩
  · rfl
  · have told := blind_send mirrors .closePost after
    simp only [mapWay_composer]
    split
    · rfl
    · simp only [abandon_mapWay]
    all_goals
      simp only [told]
      rcases after.send .closePost with ⟨_ | _, last⟩
      · rfl
      · simp only [abandon_mapWay]

theorem blind_hideImage : Blind f hideImage hideImage := by
  intro desk
  have told := blind_send mirrors .spoiler desk
  refine ite_mapWay (fun _ => ?_) fun _ => rfl
  dsimp only at told ⊢
  rw [told]
  rcases desk.send .spoiler with ⟨_ | _, after⟩ <;> rfl

theorem blind_offer (file : UploadedFile) : Blind f (·.offer file) (·.offer file) := by
  intro desk
  have asked := blind_requestAllocation mirrors desk.composer.liveInput (some file) desk
  have told := blind_send mirrors (.insertImage file) desk
  refine ite_mapWay (fun _ => rfl) fun _ => ?_
  simp only [mapWay_composer]
  cases desk.composer.phase with
  | draft =>
    simp only [asked]
    rcases desk.requestAllocation desk.composer.liveInput (some file) with ⟨_ | _, after⟩ <;> rfl
  | allocated =>
    simp only [told]
    rcases desk.send (.insertImage file) with ⟨_ | _, after⟩ <;> rfl
  | allocating | halted => rfl

theorem blind_upload (result : Option UploadedFile) :
    Blind f (·.upload result) (·.upload result) := by
  intro desk
  cases result with
  | none => rfl
  | some file => exact blind_offer mirrors file desk

/-- No action of a composition sees the difference. -/
theorem blind_perform (action : Action) : Blind f (·.perform action) (·.perform action) := by
  intro desk
  cases action with
  | edit input => simp only [perform, blind_edit mirrors input desk]
  | close input => simp only [perform, blind_close mirrors input desk]
  | abandon => simp only [perform, abandon_mapWay]
  | halt => rfl
  | hideImage => simp only [perform, blind_hideImage mirrors desk]
  | upload result => simp only [perform, blind_upload mirrors result desk]
  | retryUpload result =>
    simp only [perform, retryUpload, setAttaching_mapWay,
      blind_upload mirrors result (desk.setAttaching false)]
  | offer file => simp only [perform, blind_offer mirrors file desk]
  | receiveId now id =>
    simp only [perform, receiveId, mapWay_composer]
    split <;> rfl
  | mergeEcho data =>
    have heard : Blind f (·.mergeEcho data) (·.mergeEcho data) :=
      fun desk => ite_mapWay (fun _ => rfl) fun _ => rfl
    simp only [perform, heard desk]

end Desk

/-! ## Pages -/

namespace Page

/-- The page with another way out. -/
def mapWay (f : τ → υ) (page : Page τ) : Page υ :=
  { page with transport := f page.transport }

/-- The page with a list, empty so far, of what is accepted. -/
def listing {τ : Type} (page : Page τ) : Page (Logged τ) :=
  { page with transport := { way := page.transport } }

end Page

/-- The reply with another way out. -/
def Reply.mapWay (f : τ → υ) (reply : Reply τ) : Reply υ :=
  { result := reply.result, page := reply.page.mapWay f, events := reply.events }

namespace Page

open Desk (Blind)

section Operations

omit [Transport τ] [Transport υ]

variable {α : Type} {here : Desk τ → α × Desk τ} {there : Desk υ → α × Desk υ}

theorem atComposer_mapWay (blind : Blind f here there) (page : Page τ) (number : Nat) :
    (page.mapWay f).atComposer number there
      = ((page.atComposer number here).1, (page.atComposer number here).2.mapWay f) := by
  simp only [atComposer, desk?, mapWay]
  cases page.composers[number]? with
  | none => rfl
  | some c =>
    have same := blind { composer := c, registry := page.registry, transport := page.transport }
    simp only [Option.map_some]
    rw [show ({ composer := c, registry := page.registry, transport := f page.transport } : Desk υ)
      = Desk.mapWay f { composer := c, registry := page.registry, transport := page.transport }
      from rfl, same]
    rfl

theorem atAttached_mapWay (blind : Blind f here there) (page : Page τ) :
    (page.mapWay f).atAttached there
      = ((page.atAttached here).1, (page.atAttached here).2.mapWay f) := by
  simp only [atAttached, show (page.mapWay f).attached = page.attached from rfl]
  cases page.attached with
  | none => rfl
  | some number => exact atComposer_mapWay blind page number

theorem changePost_mapWay (page : Page τ) (id : UInt64) (kind : MessageKind)
    (change : Post → Except PostError Post) :
    (page.mapWay f).changePost id kind change = (page.changePost id kind change).mapWay f := by
  simp only [changePost, show (page.mapWay f).registry = page.registry from rfl]
  cases page.registry.get? id with
  | none => rfl
  | some post => cases outcome : change post <;> simp only [outcome] <;> rfl

theorem setClock_mapWay (page : Page τ) (now time : Int64) :
    (page.mapWay f).setClock now time = (page.setClock now time).mapWay f := by
  unfold setClock
  split <;> rfl

theorem receiveId_mapWay (page : Page τ) (now : Int64) (id : UInt64) :
    (page.mapWay f).receiveId now id = (page.receiveId now id).mapWay f := by
  have blind : Blind f (·.receiveId now id) (·.receiveId now id) := by
    intro desk
    simp only [Desk.receiveId, Desk.mapWay_composer]
    split <;> rfl
  simp only [receiveId, atAttached_mapWay blind]
  rcases page.atAttached (·.receiveId now id) with ⟨_ | _ | _, after⟩ <;> rfl

theorem insertPost_mapWay (page : Page τ) (data : Post) :
    (page.mapWay f).insertPost data = (page.insertPost data).mapWay f := by
  have blind : Blind f (·.mergeEcho data) (·.mergeEcho data) :=
    fun desk => Desk.ite_mapWay (fun _ => rfl) fun _ => rfl
  simp only [insertPost, atAttached_mapWay blind]
  rcases page.atAttached (·.mergeEcho data) with ⟨_ | _ | _, after⟩
  case some.true => rfl
  all_goals
    by_cases registered : after.registry.contains data.id = true
    · simp only [show (after.mapWay f).registry = after.registry from rfl, registered, if_true]
      rfl
    · simp only [show (after.mapWay f).registry = after.registry from rfl, registered,
        Bool.false_eq_true, if_false]
      rfl

end Operations

theorem failWith_mapWay (mirrors : Mirrors f) (page : Page τ) (reason : String) :
    (page.mapWay f).failWith reason = (page.failWith reason).mapWay f := by
  have blind : Blind f (fun desk : Desk τ => ((), desk.halt)) fun desk => ((), desk.halt) :=
    fun _ => rfl
  simp only [failWith, Reply.mapWay]
  rw [show ({ page.mapWay f with transport := Transport.fail (page.mapWay f).transport reason } :
      Page υ) = mapWay f { page with transport := Transport.fail page.transport reason } from
    congrArg (fun way => { page with transport := way }) (mirrors.fail page.transport reason),
    atAttached_mapWay blind]

/-- No message is taken differently. -/
theorem receive_mapWay (mirrors : Mirrors f) (page : Page τ) (now : Int64) (m : ServerMessage) :
    (page.mapWay f).receive Handlers.standard now m
      = (page.receive Handlers.standard now m).mapWay f := by
  cases m with
  | invalid reason => exact failWith_mapWay mirrors page reason
  | postId id => exact receiveId_mapWay page now id
  | serverTime time => exact setClock_mapWay page now time
  | insertPost data => exact insertPost_mapWay page data
  | append | backspace | splice | closePost | insertImage | spoiler | moderatePost =>
    simp only [receive, Handlers.standard, handle, changePost_mapWay]
  | synchronise | concat | noop | syncCount | redirect | notification | captcha | configs => rfl

mutual

theorem deliver_mapWay (mirrors : Mirrors f) (page : Page τ) (now : Int64) : (delivery : Delivery) →
    (page.mapWay f).deliver Handlers.standard now delivery
      = (page.deliver Handlers.standard now delivery).mapWay f
  | .rejected _ => rfl
  | .single m => receive_mapWay mirrors page now m
  | .batch parts => deliverAll_mapWay mirrors page now parts

theorem deliverAll_mapWay (mirrors : Mirrors f) (page : Page τ) (now : Int64) :
    (parts : List Delivery) →
    (page.mapWay f).deliverAll Handlers.standard now parts
      = (page.deliverAll Handlers.standard now parts).mapWay f
  | [] => rfl
  | part :: parts => by
    have first := deliver_mapWay mirrors page now part
    have rest :=
      deliverAll_mapWay mirrors (page.deliver Handlers.standard now part).page now parts
    simp only [deliverAll, first]
    rw [show (Reply.mapWay f (page.deliver Handlers.standard now part)).result
      = (page.deliver Handlers.standard now part).result from rfl]
    split
    · rfl
    · simp only [Reply.mapWay] at rest ⊢
      rw [rest]

end

/-- No action of a page sees the difference. -/
theorem act_mapWay (mirrors : Mirrors f) (page : Page τ) (now : Int64) (action : PageAction) :
    let turn := page.act Handlers.standard now action
    (page.mapWay f).act Handlers.standard now action
      = { answer := turn.answer, page := turn.page.mapWay f, events := turn.events } := by
  intro turn
  cases action with
  | receive frame =>
    have taken := deliver_mapWay mirrors page now (Delivery.ofFrame frame)
    simp only [act, deliverFrame, taken, turn]
    rfl
  | compose number action =>
    have done := atComposer_mapWay (Desk.blind_perform mirrors action) page number
    simp only [act, done, turn]
    rcases page.atComposer number (·.perform action) with ⟨_ | answer, after⟩ <;> rfl
  | attach number =>
    by_cases there : number < page.composers.length
    · simp only [act, turn, show (page.mapWay f).composers = page.composers from rfl, there, if_true]
      rfl
    · simp only [act, turn, show (page.mapWay f).composers = page.composers from rfl, there, if_false]
  | fail reason =>
    have told := mirrors.fail page.transport reason
    simp only [act, turn, mapWay, told]
  | newComposer | addComposer | detach | register | drop => rfl

end Page

end LiveThread
