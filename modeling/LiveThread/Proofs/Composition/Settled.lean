import LiveThread.Proofs.Composition.Replay
import LiveThread.Wire.ServerMessage

/-!
# Compositions with an id

A composition waits for an id only while an id is awaited or after its end.
Once it has an id, it keeps it, and every action sends at most one edit, which
leads from the body that was sent before to the one that is sent then.

Main results:

- Definition `Composer.Sound`: what holds of every composition.
- Definition `Composer.Settled`: what holds of a composition that has an id.
- Theorem `Move.keeps_sound` and `Move.keeps_settled`: no move breaks either.
- Theorem `Desk.perform_silent_or_edited`: an action of a settled composition sends at most one
  edit.
- Theorem `Move.body_eq`: a move changes no body but under the id that an answer names.
-/

namespace LiveThread

open Relation

/-! ## Sound and settled compositions -/

/-- Texts are within the limits, and an id is awaited only once it was asked for. -/
structure Composer.Sound (c : Composer) : Prop where
  live : c.config.Fits c.liveInput
  sent : c.config.Fits c.sentBody
  waiting : c.ticket.isSome → c.phase = .allocating ∨ c.phase = .halted

/-- The composition has this id and will never ask for another one. -/
structure Composer.Settled (c : Composer) (id : UInt64) : Prop where
  id_eq : c.id = id
  served : c.ticket = none
  asked : c.phase = .allocated ∨ c.phase = .halted
  live : c.config.Fits c.liveInput
  sent : c.config.Fits c.sentBody

/-- A new composition is sound. -/
theorem Composer.new_sound (config : ComposerConfig) (board : String) (thread : UInt64)
    (now : Int64) : (Composer.new config board thread now).Sound where
  live := config.fits_empty
  sent := config.fits_empty
  waiting := by simp [Composer.new]

/-- A sound composition that waits for an id is settled when it gets one. -/
theorem Composer.Sound.settled_allocated {a : Account} {ticket : Ticket} (h : a.composer.Sound)
    (waiting : a.composer.ticket = some ticket) (now : Int64) (id : UInt64) :
    (a.allocated ticket now id).composer.Settled id where
  id_eq := rfl
  served := rfl
  asked := by
    have asked := h.waiting (by rw [waiting]; rfl)
    rcases asked with phase | phase <;> simp [Account.allocated, phase, Phase.after, Phase.next?]
  live := h.live
  sent := h.sent

theorem Move.keeps_sound {action : Action} {a b : Account} (move : Move action a b)
    (h : a.composer.Sound) : b.composer.Sound := by
  cases move with
  | note input => exact ⟨a.composer.config.fits_trim input, h.sent, h.waiting⟩
  | request image given draft free =>
    refine ⟨h.live, ?_, fun _ => .inl rfl⟩
    by_cases empty : a.composer.liveInput = ""
    · simpa [Account.requested, Account.attaching, empty] using h.sent
    · simpa [Account.requested, Account.attaching, empty] using h.live
  | change typed allocated between => exact ⟨h.live, h.live, h.waiting⟩
  | close asked => exact ⟨h.live, h.sent, fun _ => .inr rfl⟩
  | abandon unfinished => exact ⟨h.live, h.sent, fun _ => .inr rfl⟩
  | halt => exact ⟨h.live, h.sent, fun _ => .inr rfl⟩
  | hideImage allocated holds => exact h
  | insertImage file allocated free => exact ⟨h.live, h.sent, h.waiting⟩
  | forget => exact ⟨h.live, h.sent, h.waiting⟩
  | receiveId answer waiting => exact ⟨h.live, h.sent, by rintro ⟨⟩⟩
  | mergeEcho answer known own => exact ⟨h.live, h.sent, h.waiting⟩

theorem Move.keeps_settled {action : Action} {a b : Account} {id : UInt64}
    (move : Move action a b) (h : a.composer.Settled id) : b.composer.Settled id := by
  cases move with
  | note input => exact ⟨h.id_eq, h.served, h.asked, a.composer.config.fits_trim input, h.sent⟩
  | request image given draft free =>
    rcases h.asked with phase | phase <;> simp [draft] at phase
  | change typed allocated between => exact ⟨h.id_eq, h.served, h.asked, h.live, h.live⟩
  | close asked => exact ⟨h.id_eq, h.served, .inr rfl, h.live, h.sent⟩
  | abandon unfinished => exact ⟨h.id_eq, h.served, .inr rfl, h.live, h.sent⟩
  | halt => exact ⟨h.id_eq, h.served, .inr rfl, h.live, h.sent⟩
  | hideImage allocated holds => exact h
  | insertImage file allocated free => exact ⟨h.id_eq, h.served, h.asked, h.live, h.sent⟩
  | forget => exact ⟨h.id_eq, h.served, h.asked, h.live, h.sent⟩
  | receiveId answer waiting => simp [h.served] at waiting
  | mergeEcho answer known own => exact ⟨h.id_eq, h.served, h.asked, h.live, h.sent⟩

/-! ## Edits that leave -/

/-- What the server makes of an edit of the post with an id. -/
def ClientMessage.echo? (id : UInt64) : ClientMessage → Option ServerMessage
  | append code => some (.append id code)
  | backspace => some (.backspace id)
  | splice s => some (.splice id s)
  | _ => none

namespace Account

/-- Between two accounts messages have left, but no edit of the post with the id; the sent body is
the same. -/
def Silent (id : UInt64) (a b : Account) : Prop :=
  b.composer.sentBody = a.composer.sentBody ∧
  ∃ left, b.sent = a.sent ++ left ∧ left.filterMap (ClientMessage.echo? id) = []

/-- Between two accounts one edit has left, and it leads from the one sent body to the other. -/
def Edited (id : UInt64) (a b : Account) (edit : Edit) : Prop :=
  Edit.between? a.composer.sentBody b.composer.sentBody = some edit ∧
  ∃ left echo, b.sent = a.sent ++ left ∧ edit.message.echo? id = some echo ∧
    left.filterMap (ClientMessage.echo? id) = [echo]

variable {id : UInt64} {a b c : Account} {edit : Edit}

theorem Silent.refl (a : Account) : Silent id a a :=
  ⟨rfl, [], by simp, rfl⟩

theorem Silent.trans (first : Silent id a b) (second : Silent id b c) : Silent id a c := by
  obtain ⟨body, left, sent, silent⟩ := first
  obtain ⟨body', left', sent', silent'⟩ := second
  exact ⟨body'.trans body, left ++ left', by rw [sent', sent, List.append_assoc],
    by rw [List.filterMap_append, silent, silent', List.append_nil]⟩

theorem Edited.trans_silent (first : Edited id a b edit) (second : Silent id b c) :
    Edited id a c edit := by
  obtain ⟨between, left, echo, sent, heard, one⟩ := first
  obtain ⟨body, left', sent', silent⟩ := second
  exact ⟨by rw [body]; exact between, left ++ left', echo, by rw [sent', sent, List.append_assoc],
    heard, by rw [List.filterMap_append, one, silent, List.append_nil]⟩

theorem Silent.noted (a : Account) (input : String) : Silent id a (a.noted input) :=
  ⟨rfl, [], by simp [Account.noted], rfl⟩

theorem Silent.abandoned (a : Account) : Silent id a a.abandoned :=
  ⟨rfl, [], by simp [Account.abandoned], rfl⟩

theorem Silent.left (a : Account) {m : ClientMessage} (h : m.echo? id = none) :
    Silent id a (a.left m) :=
  ⟨rfl, [m], rfl, by simp [h]⟩

/-- Every edit has an echo. -/
theorem exists_echo (id : UInt64) (edit : Edit) : ∃ echo, edit.message.echo? id = some echo := by
  cases edit <;> exact ⟨_, rfl⟩

/-- Sending the change to an input is an edit. -/
theorem Edited.changed (a : Account) (input : String)
    (between : Edit.between? a.composer.sentBody (a.composer.config.trim input).text = some edit) :
    Edited id a ((a.noted input).changed edit) edit := by
  obtain ⟨echo, heard⟩ := exists_echo id edit
  exact ⟨between, [edit.message], echo, rfl, heard, by simp [heard]⟩

end Account

/-- Unless an input is taken, no move of a composition that has asked for its id sends an edit. -/
theorem Move.silent {action : Action} {a b : Account} {id : UInt64} (move : Move action a b)
    (untyped : action.input? = none) (settled : a.composer.Settled id) : Account.Silent id a b := by
  cases move with
  | note input => exact .noted a input
  | request image given draft free =>
    rcases settled.asked with phase | phase <;> simp [draft] at phase
  | change typed allocated between => simp [untyped] at typed
  | close asked => exact (Account.Silent.left a rfl).trans (.abandoned _)
  | abandon unfinished => exact .abandoned a
  | hideImage allocated holds => exact .left a rfl
  | insertImage file allocated free => exact ⟨rfl, [.insertImage file], rfl, rfl⟩
  | halt | forget | receiveId answer waiting | mergeEcho answer known own =>
    exact ⟨rfl, [], by simp [Account.attaching, Account.allocated, Account.merged], rfl⟩

/-! ## The actions of a settled composition -/

namespace Desk

variable {τ : Type} [Transport τ] {desk : Desk (Logged τ)} {id : UInt64}

/-- Taking an input sends at most one edit. -/
theorem edit_silent_or_edited (settled : desk.composer.Settled id) (input : String) :
    Account.Silent id desk.account (desk.edit input).2.account ∨
    ∃ edit, Account.Edited id desk.account (desk.edit input).2.account edit := by
  rcases edit_cases desk input with ⟨after, outcome, same, -⟩ | ⟨after, outcome, asked, draft, -⟩
    | ⟨edit, after, outcome, sent, -, between⟩ | ⟨after, outcome, same, -⟩
  · rw [outcome, same]
    exact .inl (.noted _ input)
  · rcases settled.asked with phase | phase <;> simp [draft] at phase
  · rw [outcome, sent]
    exact .inr ⟨edit, .changed _ input between⟩
  · rw [outcome, same]
    exact .inl (.noted _ input)

/-- After the final input was taken nothing more is sent than that the post is closed. -/
theorem close_silent (desk : Desk (Logged τ)) (input : String) :
    Account.Silent id (desk.edit input).2.account (desk.close input).2.account := by
  rcases close_cases desk input with ⟨e, after, taken, closed⟩ | ⟨outcome, after, taken, rest⟩
  · rw [taken, closed]
    exact .refl _
  · rw [taken]
    rcases rest with ⟨-, closed⟩ | ⟨-, closed⟩ | ⟨-, ⟨last, closed, ended⟩ | ⟨last, closed, same⟩⟩
    · rw [closed]
      exact .refl _
    · rw [closed]
      simp only [abandon_account]
      split
      · exact .refl _
      · exact .abandoned _
    · rw [closed, ended]
      exact (Account.Silent.left _ rfl).trans (.abandoned _)
    · rw [closed, same]
      exact .refl _

/-- Every action of a settled composition leaves it settled. -/
theorem settled_perform (settled : desk.composer.Settled id) (action : Action) :
    (desk.perform action).2.composer.Settled id :=
  Account.induct (P := fun a => a.composer.Settled id) (perform_moves desk action) settled
    Move.keeps_settled

/-- Unless it takes an input, an action of a settled composition sends no edit. -/
theorem perform_silent (settled : desk.composer.Settled id) {action : Action}
    (untyped : action.input? = none) :
    Account.Silent id desk.account (desk.perform action).2.account := by
  have both := Account.induct
    (P := fun a => a.composer.Settled id ∧ Account.Silent id desk.account a)
    (perform_moves desk action) ⟨settled, .refl _⟩ fun move before =>
      ⟨move.keeps_settled before.1, before.2.trans (move.silent untyped before.1)⟩
  exact both.2

/-- An action of a settled composition sends at most one edit. -/
theorem perform_silent_or_edited (settled : desk.composer.Settled id) (action : Action) :
    Account.Silent id desk.account (desk.perform action).2.account ∨
    ∃ edit, Account.Edited id desk.account (desk.perform action).2.account edit := by
  cases typed : action.input? with
  | none => exact .inl (perform_silent settled typed)
  | some input =>
    cases action with
    | edit input => exact edit_silent_or_edited settled input
    | close input =>
      rcases edit_silent_or_edited settled input with silent | ⟨edit, edited⟩
      · exact .inl (silent.trans (close_silent desk input))
      · exact .inr ⟨edit, edited.trans_silent (close_silent desk input)⟩
    | _ => cases typed

end Desk

/-! ## Bodies of registered posts -/

/-- The body of the post under an id. -/
def Registry.body? (r : Registry) (id : UInt64) : Option String :=
  (r.get? id).map Post.body

/-- A post may change in every way but its body. -/
theorem Registry.body?_modify {r : Registry} {id other : UInt64} {change : Post → Post}
    (h : other = id → ∀ post, (change post).body = post.body) :
    (r.modify other change).body? id = r.body? id := by
  unfold Registry.body?
  rw [Registry.get?_modify]
  by_cases same : id = other
  · subst same
    rw [if_pos rfl]
    cases r.get? id with
    | none => rfl
    | some post => exact congrArg some (h rfl post)
  · rw [if_neg same]

theorem Registry.body?_insert_of_ne {r : Registry} {id : UInt64} {post : Post} (h : post.id ≠ id) :
    (r.insert post).body? id = r.body? id := by
  unfold Registry.body?
  rw [Registry.get?_insert, if_neg (Ne.symm h)]

theorem Registry.body?_erase_of_ne {r : Registry} {id other : UInt64} (h : other ≠ id) :
    (r.erase other).body? id = r.body? id := by
  unfold Registry.body?
  rw [Registry.get?_erase, if_neg (Ne.symm h)]

/-- A move changes no body but under the id that an answer names. -/
theorem Move.body_eq {action : Action} {a b : Account} (move : Move action a b) {id : UInt64}
    (spared : action.named? ≠ some id) : b.registry.body? id = a.registry.body? id := by
  have abandoned : ∀ a : Account, a.abandoned.registry.body? id = a.registry.body? id := by
    intro a
    simp only [Account.abandoned]
    split
    · rfl
    · exact Registry.body?_modify fun _ _ => rfl
  cases move with
  | close asked => exact abandoned _
  | abandon unfinished => exact abandoned _
  | receiveId answer waiting =>
    subst answer
    exact Registry.body?_insert_of_ne fun same => spared (congrArg some same)
  | mergeEcho answer known own =>
    subst answer
    exact Registry.body?_modify fun same => absurd (congrArg some same) spared
  | _ => rfl

end LiveThread
