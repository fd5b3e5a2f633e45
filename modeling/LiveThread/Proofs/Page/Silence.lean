import LiveThread.Proofs.Composition.Silence
import LiveThread.Proofs.Page.Moves

/-!
# The silence of an ended page

Whatever happens on a page comes down to a few deeds: an author acts, a composition
is begun, a message is handed to the way out, the way out fails, or something is done
that concerns neither.  None of them leads a composition out of its end, and none of
them mends a way out that has failed.

Main results:

- Definition `Page.Deed`: the deeds.
- Definition `Handlers.Restrained`: handlers that do nothing else and never give up.
- Theorem `Page.deliver_deeds`: what a delivery does, and what it did last if it is fatal.
- Theorem `Page.proceed_deeds`: what a history does.
- Theorem `Page.silent_after_end`: after the end nothing leaves.
-/

namespace LiveThread

open Relation

namespace Page

variable {τ : Type} [Transport τ]

/-! ## Deeds -/

/-- What can be done on a page in one go. -/
inductive Deed : Page τ → Page τ → Prop
  /-- A composition performs an action. -/
  | perform (page : Page τ) (number : Nat) (action : Action) :
      Deed page (page.perform number action)
  | begin (page : Page τ) (config : ComposerConfig) (now : Int64) :
      Deed page (page.addComposer config now)
  /-- A message is handed over on behalf of no composition. -/
  | send (page : Page τ) (m : ClientMessage) :
      Deed page { page with transport := (Transport.send page.transport m).2 }
  | fail (page : Page τ) (reason : String) :
      Deed page { page with transport := Transport.fail page.transport reason }
  /-- The compositions and the way out are left alone. -/
  | aside {page after : Page τ} (composers : after.composers = page.composers)
      (transport : after.transport = page.transport) : Deed page after

/-- Any number of deeds. -/
abbrev Deeds : Page τ → Page τ → Prop :=
  ReflTransGen Deed

/-- A move is a deed. -/
theorem deed_of_move {now : Int64} {step : PageStep} {page after : Page τ}
    (move : PageMove now step page after) : Deed page after := by
  cases move with
  | hear attached heard => exact .perform page _ _
  | begin config => exact .begin page config now
  | fail reason => exact .fail page reason
  | posts | attach | clock => exact .aside rfl rfl

theorem deeds_of_moves {now : Int64} {step : PageStep} {page after : Page τ}
    (moves : ReflTransGen (PageMove now step) page after) : Deeds page after :=
  ReflTransGen.mono (fun _ _ => deed_of_move) _ _ moves

/-! ## What no deed undoes -/

/-- A composition has ended. -/
def HasEnded (page : Page τ) (number : Nat) : Prop :=
  ∃ c, page.composers[number]? = some c ∧ c.phase = .halted

/-- An action of a composition that has ended leaves the way out alone. -/
theorem HasEnded.perform_transport {page : Page τ} {number : Nat} (ended : page.HasEnded number)
    (action : Action) : (page.perform number action).transport = page.transport := by
  obtain ⟨c, found, halted⟩ := ended
  have desk : (page.deskOf c).composer.phase = .halted := halted
  rw [perform_of_some found]
  exact (Desk.perform_of_halted desk action).2

/-- No deed leads a composition out of its end. -/
theorem HasEnded.deed {page after : Page τ} {number : Nat} (ended : page.HasEnded number)
    (deed : Deed page after) : after.HasEnded number := by
  obtain ⟨c, found, halted⟩ := ended
  cases deed with
  | perform other action =>
    by_cases own : number = other
    · subst own
      have desk : (page.deskOf c).composer.phase = .halted := halted
      exact ⟨_, perform_composers_self found action, (Desk.perform_of_halted desk action).1⟩
    · exact ⟨c, (perform_composers_of_ne page action own).trans found, halted⟩
  | begin config now =>
    have inside := (List.getElem?_eq_some_iff.1 found).1
    exact ⟨c, (List.getElem?_append_left inside).trans found, halted⟩
  | send m => exact ⟨c, found, halted⟩
  | fail reason => exact ⟨c, found, halted⟩
  | aside composers transport => exact ⟨c, by rw [composers, found], halted⟩

/-- Nor do any number of deeds. -/
theorem HasEnded.deeds {page after : Page τ} {number : Nat} (ended : page.HasEnded number)
    (deeds : Deeds page after) : after.HasEnded number := by
  induction deeds with
  | refl => exact ended
  | tail _ deed ih => exact ih.deed deed

/-- A composition does nothing with the way out of its page but hand messages to it. -/
theorem perform_handed (page : Page τ) (number : Nat) (action : Action) :
    Handed page.transport (page.perform number action).transport := by
  cases found : page.composers[number]? with
  | none =>
    rw [perform_of_none found]
    exact .refl
  | some c =>
    rw [perform_of_some found]
    exact Desk.perform_handed (page.deskOf c) action

/-- What holds of a way out whatever is handed to it, and after a failure, holds of it after any
number of deeds. -/
theorem deeds_induct {P : τ → Prop} (sends : ∀ way m, P way → P (Transport.send way m).2)
    (fails : ∀ way reason, P way → P (Transport.fail way reason)) {page after : Page τ}
    (deeds : Deeds page after) (start : P page.transport) : P after.transport := by
  induction deeds with
  | refl => exact start
  | @tail before after _ deed ih =>
    cases deed with
    | perform number action => exact (perform_handed before number action).keeps sends ih
    | send m => exact sends before.transport m ih
    | fail reason => exact fails before.transport reason ih
    | begin config now => exact ih
    | aside composers transport => exact transport ▸ ih

/-- No deed mends a way out that has failed, and nothing leaves by it. -/
theorem failed_deeds {page after : Page Memory} (failed : page.transport.Failed)
    (deeds : Deeds page after) :
    after.transport.Failed ∧ after.transport.sent = page.transport.sent := by
  refine deeds_induct (P := fun log => log.Failed ∧ log.sent = page.transport.sent)
    (fun log m kept => ?_) (fun log reason kept => ?_) deeds ⟨failed, rfl⟩
  · obtain ⟨still, silent⟩ := kept.1.send m
    exact ⟨still, silent.trans kept.2⟩
  · exact ⟨Memory.failed_fail log reason, kept.2⟩

/-! ## Giving up -/

/-- To give up is to tell the way out, whoever is attached. -/
theorem failWith_transport (page : Page τ) (reason : String) :
    (page.failWith reason).page.transport = Transport.fail page.transport reason := by
  simp only [failWith, atAttached]
  split
  · rfl
  · simp only [atComposer]
    split
    · rfl
    · next desk found =>
      obtain ⟨c, -, rfl⟩ := Option.map_eq_some_iff.1 found
      rfl

/-- To give up ends the attached composition. -/
theorem failWith_halted {page : Page τ} {reason : String} {number : Nat} {c : Composer}
    (attached : (page.failWith reason).page.attached = some number)
    (found : (page.failWith reason).page.composers[number]? = some c) : c.phase = .halted := by
  simp only [failWith, atAttached] at attached found
  split at attached
  · next nobody => cases nobody.symm.trans attached
  · next other here =>
    simp only [here, atComposer, desk?] at attached found
    cases there : page.composers[other]? with
    | none =>
      simp only [there, Option.map_none] at attached found
      obtain rfl : other = number := Option.some.inj attached
      cases there.symm.trans found
    | some old =>
      obtain ⟨inside, -⟩ := List.getElem?_eq_some_iff.1 there
      simp only [there, Option.map_some, putDesk] at attached found
      obtain rfl : other = number := Option.some.inj attached
      rw [List.getElem?_set_self inside] at found
      obtain rfl := Option.some.inj found
      simp [Desk.halt]

end Page

/-! ## Restrained handlers -/

/-- Handlers that do nothing but deeds, and that leave it to the page to give up. -/
structure Handlers.Restrained {τ : Type} [Transport τ] (handlers : Handlers τ) : Prop where
  deeds : ∀ kind page m, Page.Deeds page (handlers kind page m).page
  lenient : ∀ kind page m reason, (handlers kind page m).result ≠ .error (.fatal reason)

namespace Page

variable {τ : Type} [Transport τ]

/-- The standard handler does nothing, or it does what the page does with the message. -/
theorem handle_cases (page : Page τ) (m : ServerMessage) :
    page.handle m = page.ignore ∨
      m.kind ≠ .invalid ∧ page.handle m = page.receive Handlers.standard 0 m := by
  cases m with
  | invalid | postId | serverTime | concat | noop => exact .inl rfl
  | _ => exact .inr ⟨by rintro ⟨⟩, rfl⟩

/-- The page takes a message itself, or it leaves it to the handler. -/
theorem receive_cases (handlers : Handlers τ) (now : Int64) (page : Page τ) (m : ServerMessage) :
    page.receive handlers now m = page.receive Handlers.standard now m ∨
      page.receive handlers now m = handlers m.kind page m := by
  cases m with
  | invalid | postId | serverTime | concat | noop => exact .inl rfl
  | _ => exact .inr rfl

end Page

namespace Handlers

variable {τ : Type} [Transport τ]

/-- The standard handlers are restrained. -/
theorem standard_restrained : (standard : Handlers τ).Restrained where
  deeds kind page m := by
    rcases page.handle_cases m with ignored | ⟨-, taken⟩
    · rw [standard, ignored]
      exact .refl
    · rw [standard, taken]
      exact Page.deeds_of_moves (Page.receive_moves 0 page m)
  lenient kind page m reason := by
    rcases page.handle_cases m with ignored | ⟨other, taken⟩
    · rw [standard, ignored]
      rintro ⟨⟩
    · rw [standard, taken]
      intro fatal
      exact other ((Page.fatal_receive_iff page 0 m).1 ⟨reason, fatal⟩)

/-- So is a table in which a handler was replaced by a restrained one. -/
theorem Restrained.register {handlers : Handlers τ} (restrained : handlers.Restrained)
    (kind : MessageKind) {handler : Handler τ}
    (deeds : ∀ page m, Page.Deeds page (handler page m).page)
    (lenient : ∀ page m reason, (handler page m).result ≠ .error (.fatal reason)) :
    (handlers.register kind handler).Restrained where
  deeds other page m := by
    unfold Handlers.register
    split
    · exact deeds page m
    · exact restrained.deeds other page m
  lenient other page m := by
    unfold Handlers.register
    split
    · exact lenient page m
    · exact restrained.lenient other page m

end Handlers

/-! ## Deliveries -/

namespace Page

variable {τ : Type} [Transport τ] {handlers : Handlers τ}

/-- A message does deeds only; if it is fatal, the page has given up. -/
theorem receive_deeds (restrained : handlers.Restrained) (now : Int64) (page : Page τ)
    (m : ServerMessage) :
    Deeds page (page.receive handlers now m).page ∧
    ∀ reason, (page.receive handlers now m).result = .error (.fatal reason) →
      (page.receive handlers now m).page = (page.failWith reason).page := by
  rcases receive_cases handlers now page m with own | handled
  · rw [own]
    refine ⟨deeds_of_moves (receive_moves now page m), fun reason fatal => ?_⟩
    have invalid := (fatal_receive_iff page now m).1 ⟨reason, fatal⟩
    cases m with
    | invalid other =>
      cases fatal
      rfl
    | _ => cases invalid
  · rw [handled]
    exact ⟨restrained.deeds m.kind page m, fun reason fatal =>
      absurd fatal (restrained.lenient m.kind page m reason)⟩

mutual

/-- A delivery does deeds only; if it is fatal, the last of them was that the page gave up. -/
theorem deliver_deeds (restrained : handlers.Restrained) (now : Int64) (page : Page τ) :
    (delivery : Delivery) →
    let reply := page.deliver handlers now delivery
    Deeds page reply.page ∧
    ∀ reason, reply.result = .error (.fatal reason) →
      ∃ before, Deeds page before ∧ reply.page = (before.failWith reason).page
  | .rejected e => ⟨.refl, by rintro reason ⟨⟩⟩
  | .single m => by
    obtain ⟨deeds, last⟩ := receive_deeds restrained now page m
    exact ⟨deeds, fun reason fatal => ⟨page, .refl, last reason fatal⟩⟩
  | .batch parts => deliverAll_deeds restrained now page parts

theorem deliverAll_deeds (restrained : handlers.Restrained) (now : Int64) (page : Page τ) :
    (parts : List Delivery) →
    let reply := page.deliverAll handlers now parts
    Deeds page reply.page ∧
    ∀ reason, reply.result = .error (.fatal reason) →
      ∃ before, Deeds page before ∧ reply.page = (before.failWith reason).page
  | [] => ⟨.refl, by rintro reason ⟨⟩⟩
  | part :: parts => by
    obtain ⟨first, last⟩ := deliver_deeds restrained now page part
    simp only [deliverAll]
    split
    · exact ⟨first, last⟩
    · obtain ⟨rest, lastOfRest⟩ :=
        deliverAll_deeds restrained now (page.deliver handlers now part).page parts
      refine ⟨first.trans rest, fun reason fatal => ?_⟩
      obtain ⟨before, deeds, given⟩ := lastOfRest reason fatal
      exact ⟨before, first.trans deeds, given⟩

end

/-! ## Histories -/

/-- Whatever happens on a page is done by deeds. -/
theorem act_deeds (restrained : handlers.Restrained) (now : Int64) (page : Page τ)
    (action : PageAction) : Deeds page (page.act handlers now action).page := by
  cases action with
  | receive frame => exact (deliver_deeds restrained now page (Delivery.ofFrame frame)).1
  | compose number action =>
    have same : (page.act handlers now (.compose number action)).page
        = page.perform number action := step_compose now page number action
    rw [same]
    exact .single (.perform page number action)
  | newComposer config => exact .tail (.single (.begin page config now)) (.aside rfl rfl)
  | addComposer config => exact .single (.begin page config now)
  | attach number =>
    simp only [act]
    split
    · exact .single (.aside rfl rfl)
    · exact .refl
  | detach | register | drop => exact .single (.aside rfl rfl)
  | fail reason => exact .single (.fail page reason)

/-- The page after some timed actions. -/
def proceed (handlers : Handlers τ) (page : Page τ) (history : List (Int64 × PageAction)) :
    Page τ :=
  (page.elapse handlers history).1

/-- So is a whole history. -/
theorem proceed_deeds (restrained : handlers.Restrained) (page : Page τ)
    (history : List (Int64 × PageAction)) : Deeds page (page.proceed handlers history) := by
  induction history generalizing page with
  | nil => exact .refl
  | cons entry history ih =>
    obtain ⟨now, action⟩ := entry
    exact (act_deeds restrained now page action).trans (ih _)

/-- Take the standard handlers, or any others that are restrained.  Once a composition has ended it
stays ended, whatever happens on its page, and no action of it touches the way out any more.  When a
frame was fatal, at whatever depth, the attached composition has ended; and if messages are kept in
memory, none leaves ever after, whoever it is from. -/
theorem silent_after_end :
    (∀ {τ : Type} [Transport τ], (Handlers.standard : Handlers τ).Restrained) ∧
    (∀ {τ : Type} [Transport τ] (handlers : Handlers τ) (page : Page τ), handlers.Restrained →
      (∀ number, page.HasEnded number → ∀ history,
        let later := page.proceed handlers history
        later.HasEnded number ∧
          ∀ action, (later.perform number action).transport = later.transport) ∧
      ∀ now frame reason,
        let reply := page.deliverFrame handlers now frame
        reply.result = .error (.fatal reason) →
        ∀ number c, reply.page.attached = some number → reply.page.composers[number]? = some c →
          c.phase = .halted) ∧
    ∀ (handlers : Handlers Memory) (page : Page Memory), handlers.Restrained →
      ∀ now frame reason,
        let reply := page.deliverFrame handlers now frame
        reply.result = .error (.fatal reason) →
        ∀ history, (reply.page.proceed handlers history).transport.sent
          = reply.page.transport.sent := by
  refine ⟨Handlers.standard_restrained, ?_, ?_⟩
  · intro τ _ handlers page restrained
    constructor
    · intro number ended history later
      have still : later.HasEnded number := ended.deeds (proceed_deeds restrained page history)
      exact ⟨still, still.perform_transport⟩
    · intro now frame reason reply fatal number c attached found
      obtain ⟨before, -, last⟩ :=
        (deliver_deeds restrained now page (Delivery.ofFrame frame)).2 reason fatal
      have given : reply.page = (before.failWith reason).page := last
      rw [given] at attached found
      exact failWith_halted attached found
  · intro handlers page restrained now frame reason reply fatal history
    obtain ⟨before, -, last⟩ :=
      (deliver_deeds restrained now page (Delivery.ofFrame frame)).2 reason fatal
    have given : reply.page = (before.failWith reason).page := last
    -- The way out failed last, and no deed of the history mends it.
    have failed : reply.page.transport.Failed := by
      rw [given, failWith_transport]
      exact Memory.failed_fail before.transport reason
    exact (failed_deeds failed (proceed_deeds restrained reply.page history)).2

/-- The server refuses to go on in a batch of a batch; what is begun then is not heard. -/
theorem silent_after_end_in_batches :
    ((((Page.inMemory "a" 1).newComposer {} 0).deliverFrame
        (Handlers.standard.register .append Handlers.rejecting) 0
        (ServerMessage.concat
          [(ServerMessage.concat [(ServerMessage.invalid "banned").frame]).frame]).frame
      ).page.proceed (Handlers.standard.register .append Handlers.rejecting)
        [(1, .newComposer {}), (1, .compose 1 (.edit "a")), (2, .compose 0 (.close "b"))]
      ).transport.sent = [] := by
  have restrained : ((Handlers.standard : Handlers Memory).register .append
      Handlers.rejecting).Restrained :=
    Handlers.standard_restrained.register .append (fun _ _ => .refl) (by rintro page m reason ⟨⟩)
  have alone : Delivery.ofFrame (ServerMessage.invalid "banned").frame
      = .single (.invalid "banned") :=
    Delivery.ofFrame_frame (by rintro ⟨⟩) rfl rfl
  have brings : Delivery.ofFrame (ServerMessage.concat
      [(ServerMessage.concat [(ServerMessage.invalid "banned").frame]).frame]).frame
      = .batch [.batch [.single (.invalid "banned")]] := by
    simp [Delivery.ofFrame_concat, alone]
  have silent := silent_after_end.2.2 _ ((Page.inMemory "a" 1).newComposer {} 0) restrained 0
    (ServerMessage.concat
      [(ServerMessage.concat [(ServerMessage.invalid "banned").frame]).frame]).frame "banned"
    (by rw [deliverFrame, brings]; rfl)
    [(1, .newComposer {}), (1, .compose 1 (.edit "a")), (2, .compose 0 (.close "b"))]
  rw [silent, deliverFrame, brings]
  rfl

end Page

end LiveThread
