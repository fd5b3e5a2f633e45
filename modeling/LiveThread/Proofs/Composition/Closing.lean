import LiveThread.Proofs.Composition.Course

/-!
# Closing a post

A post is closed with a final input.  As long as the author's inputs are sent,
the server is told the final one before it hears that the post is closed.  While
an id is awaited the final input is held back like any other, and no later edit
makes up for it: the server is left with the text of the request.

Main results:

- Theorem `Desk.edit_tells_input`: an input that is not held back is what the server has been told.
- Theorem `Desk.close_of_ok`: what a close that succeeds adds to its final input.
- Theorem `Desk.close_tells_input`: after every history a close that succeeds has told the server
  the final input, unless an id was awaited.
-/

namespace LiveThread

namespace Desk

variable {τ : Type} [Transport τ] {desk : Desk (Logged τ)}

/-! ## The final input -/

/-- What holds of an account and is kept by every move holds after an input. -/
theorem edit_induct {P : Account → Prop} (input : String) (first : P desk.account)
    (keep : ∀ {action : Action} {a b : Account}, Move action a b → P a → P b) :
    P (desk.edit input).2.account := by
  have moves : Relation.ReflTransGen (Move (.edit input)) desk.account
      (desk.edit input).2.account := edit_moves desk input rfl
  exact Account.induct moves first keep

/-- No input ends a composition. -/
theorem edit_phase_ne_halted (talking : desk.composer.phase ≠ .halted) (input : String) :
    (desk.edit input).2.composer.phase ≠ .halted := by
  have noted : ∀ {after : Desk (Logged τ)}, after.account = desk.account.noted input →
      after.composer.phase ≠ .halted := by
    intro after same
    have phase : after.composer.phase = desk.composer.phase := congrArg (·.composer.phase) same
    rwa [phase]
  rcases edit_cases desk input with ⟨after, outcome, same, -⟩ | ⟨after, outcome, asked, -⟩ |
    ⟨edit, after, outcome, sent, -⟩ | ⟨after, outcome, same, -⟩
  · rw [outcome]
    exact noted same
  · have phase : after.composer.phase = .allocating := congrArg (·.composer.phase) asked
    rw [outcome, phase]
    rintro ⟨⟩
  · have phase : after.composer.phase = desk.composer.phase := congrArg (·.composer.phase) sent
    rwa [outcome, phase]
  · rw [outcome]
    exact noted same

/-- An input is remembered, whatever becomes of it. -/
theorem edit_liveInput (desk : Desk (Logged τ)) (input : String) :
    (desk.edit input).2.composer.liveInput = (desk.composer.config.trim input).text := by
  rcases edit_cases desk input with ⟨after, outcome, same, -⟩ | ⟨after, outcome, same, -⟩ |
    ⟨edit, after, outcome, same, -⟩ | ⟨after, outcome, same, -⟩
  all_goals
    rw [outcome]
    exact congrArg (·.composer.liveInput) same

/-- An input that is held back is only remembered. -/
theorem edit_of_held {desk : Desk τ} (held : desk.composer.phase.acceptsEdits = false)
    (input : String) :
    desk.edit input = (.ok ⟨none, (desk.composer.config.trim input).excess⟩,
      desk.note (desk.composer.config.trim input).text) :=
  if_pos (.inl held)

/-- An input that is taken and not held back is what the server has been told; of a post that is
still a draft after it the server has not heard, and the input was empty. -/
theorem edit_tells_input (faithful : desk.account.Faithful) (orderly : desk.account.Orderly)
    {input : String} {outcome : EditOutcome} {after : Desk (Logged τ)}
    (taken : desk.edit input = (.ok outcome, after))
    (accepts : desk.composer.phase = .draft ∨ desk.composer.phase = .allocated) :
    (replay after.transport.sent).map Post.body = .ok (desk.composer.config.trim input).text ∧
      (after.composer.phase = .draft →
        after.transport.sent = [] ∧ (desk.composer.config.trim input).text = "") := by
  have kept := edit_induct input faithful Move.keeps_faithful
  have ordered := edit_induct input orderly Move.keeps_orderly
  rw [taken] at kept ordered
  obtain ⟨-, -, -, -, -, caught⟩ := edit_reports desk input faithful
  have body : after.composer.sentBody = (desk.composer.config.trim input).text := by
    have := caught accepts outcome (by rw [taken])
    rwa [taken] at this
  constructor
  · have told : replay after.transport.sent = .ok { body := after.composer.sentBody } := kept.told
    rw [told, ← body]
    rfl
  · intro draft
    exact ⟨ordered.draft draft, body.symm.trans (kept.unsent draft)⟩

/-! ## The end -/

/-- A close that succeeds has taken the final input and ends the composition; unless the post is a
draft, one more message leaves, that the post is closed. -/
theorem close_of_ok (talking : desk.composer.phase ≠ .halted) {input : String}
    (closed : (desk.close input).1 = .ok ()) :
    ∃ outcome after, desk.edit input = (.ok outcome, after) ∧
      (desk.close input).2.composer.phase = .halted ∧
      (desk.close input).2.composer.liveInput = (desk.composer.config.trim input).text ∧
      (after.composer.phase = .draft ∧
        (desk.close input).2.transport.sent = after.transport.sent ∨
      (after.composer.phase = .allocating ∨ after.composer.phase = .allocated) ∧
        (desk.close input).2.transport.sent = after.transport.sent ++ [.closePost]) := by
  have remembered := edit_liveInput desk input
  rcases close_cases desk input with ⟨e, after, -, failed⟩ | ⟨outcome, after, taken, rest⟩
  · rw [failed] at closed
    cases closed
  · rw [taken] at remembered
    refine ⟨outcome, after, taken, ?_⟩
    rcases rest with ⟨halted, -⟩ | ⟨draft, ended⟩ | ⟨asked, ⟨last, ended, told⟩ | ⟨last, failed, -⟩⟩
    · have still := edit_phase_ne_halted talking input
      rw [taken] at still
      exact absurd halted still
    · have quiet : after.abandon.account = after.account.abandoned := by
        rw [abandon_account, if_neg (by rw [draft]; rintro ⟨⟩)]
      rw [ended]
      refine ⟨congrArg (·.composer.phase) quiet, ?_, .inl ⟨draft, congrArg Account.sent quiet⟩⟩
      exact (congrArg (·.composer.liveInput) quiet).trans remembered
    · rw [ended]
      refine ⟨congrArg (·.composer.phase) told, ?_, .inr ⟨asked, congrArg Account.sent told⟩⟩
      exact (congrArg (·.composer.liveInput) told).trans remembered
    · rw [failed] at closed
      cases closed

/-- A close that succeeds in a phase in which inputs are sent has told the server the final input
before it told it that the post is closed; or the server never heard of the post, and the final
input is empty. -/
theorem close_of_accepts (faithful : desk.account.Faithful) (orderly : desk.account.Orderly)
    {input : String} (closed : (desk.close input).1 = .ok ())
    (accepts : desk.composer.phase = .draft ∨ desk.composer.phase = .allocated) :
    (desk.close input).2.transport.sent = [] ∧ (desk.composer.config.trim input).text = "" ∨
    ∃ told, (desk.close input).2.transport.sent = told ++ [.closePost] ∧ Opened told ∧
      (replay told).map Post.body = .ok (desk.composer.config.trim input).text := by
  have talking : desk.composer.phase ≠ .halted := by
    rcases accepts with phase | phase <;> simp [phase]
  obtain ⟨outcome, after, taken, -, -, ending⟩ := close_of_ok talking closed
  obtain ⟨told, silent⟩ := edit_tells_input faithful orderly taken accepts
  rcases ending with ⟨draft, same⟩ | ⟨asked, sent⟩
  · rw [same]
    exact .inl (silent draft)
  · have ordered := edit_induct input orderly Move.keeps_orderly
    rw [taken] at ordered
    exact .inr ⟨after.transport.sent, sent, ordered.opened_of_asked asked, told⟩

/-- A close that succeeds while an id is awaited leaves the server with the text of the request. -/
theorem close_of_allocating (faithful : desk.account.Faithful) (orderly : desk.account.Orderly)
    {input : String} (closed : (desk.close input).1 = .ok ())
    (allocating : desk.composer.phase = .allocating) :
    ∃ request, desk.transport.sent = [.insertPost request] ∧
      (desk.close input).2.transport.sent = [.insertPost request, .closePost] ∧
      (replay [.insertPost request]).map Post.body = .ok desk.composer.sentBody := by
  have talking : desk.composer.phase ≠ .halted := by simp [allocating]
  obtain ⟨request, asked⟩ := orderly.asked allocating
  have before : desk.transport.sent = [.insertPost request] := asked
  obtain ⟨outcome, after, taken, -, -, ending⟩ := close_of_ok talking closed
  -- The final input is only remembered, so nothing but the end of the post is added to the request.
  rw [edit_of_held (by rw [allocating]; rfl)] at taken
  obtain ⟨-, rfl⟩ := Prod.mk.inj taken
  have sent : (desk.close input).2.transport.sent = desk.transport.sent ++ [.closePost] := by
    rcases ending with ⟨draft, -⟩ | ⟨-, sent⟩
    · rw [note_phase, allocating] at draft
      cases draft
    · exact sent
  have told : replay desk.transport.sent = .ok { body := desk.composer.sentBody } := faithful.told
  refine ⟨request, before, ?_, ?_⟩
  · rw [sent, before]
    rfl
  · rw [← before, told]
    rfl

/-! ## Histories -/

/-- After every history of a composition that has not ended, a close that succeeds ends it, and the
final input is remembered.  Unless an id was awaited, the server has been told exactly the final
input before it was told that the post is closed, or else it never heard of the post and the final
input is empty.  While an id was awaited, it has been told the text of the request and nothing of
what was fed since. -/
theorem close_tells_input (config : ComposerConfig) (board : String) (thread : UInt64)
    (now : Int64) (registry : Registry) (way : τ) (actions : List Action) (input : String) :
    let desk := (begin config board thread now registry way).run actions
    desk.composer.phase ≠ .halted → (desk.close input).1 = .ok () →
    (desk.close input).2.composer.phase = .halted ∧
    (desk.close input).2.composer.liveInput = (config.trim input).text ∧
    (desk.composer.phase ≠ .allocating →
      (desk.close input).2.transport.sent = [] ∧ (config.trim input).text = "" ∨
      ∃ told, (desk.close input).2.transport.sent = told ++ [.closePost] ∧ Opened told ∧
        (replay told).map Post.body = .ok (config.trim input).text) ∧
    (desk.composer.phase = .allocating →
      ∃ request, desk.transport.sent = [.insertPost request] ∧
        (desk.close input).2.transport.sent = [.insertPost request, .closePost] ∧
        (replay [.insertPost request]).map Post.body = .ok desk.composer.sentBody) := by
  intro desk talking closed
  have faithful : desk.account.Faithful :=
    run_induct actions (begin_faithful config board thread now registry way) Move.keeps_faithful
  have orderly : desk.account.Orderly := orderly_run config board thread now registry way actions
  have setUp : desk.composer.config = config :=
    run_induct (P := fun a => a.composer.config = config) actions rfl
      fun move same => move.config_eq.trans same
  obtain ⟨-, -, -, ended, remembered, -⟩ := close_of_ok talking closed
  rw [setUp] at remembered
  refine ⟨ended, remembered, ?_, close_of_allocating faithful orderly closed⟩
  intro unawaited
  have accepts : desk.composer.phase = .draft ∨ desk.composer.phase = .allocated := by
    cases phase : desk.composer.phase with
    | draft => exact .inl rfl
    | allocated => exact .inr rfl
    | allocating => exact absurd phase unawaited
    | halted => exact absurd phase talking
  rw [← setUp]
  exact close_of_accepts faithful orderly closed accepts

/-- A post with the text "x" that is closed with "xy" is told as "xy" if it has its id by then, and
as "x" if it still waits for it. -/
theorem close_tells_input_once_allocated :
    (∃ told, (((begin {} "a" 1 0 Registry.empty ({} : Acceptance)).run
        [.edit "x", .receiveId 0 7]).close "xy").2.transport.sent = told ++ [.closePost] ∧
      (replay told).map Post.body = .ok "xy") ∧
    ∃ request, (((begin {} "a" 1 0 Registry.empty ({} : Acceptance)).run
        [.edit "x"]).close "xy").2.transport.sent = [.insertPost request, .closePost] ∧
      (replay [.insertPost request]).map Post.body = .ok "x" := by
  constructor
  · obtain ⟨-, -, tells, -⟩ := close_tells_input {} "a" 1 0 Registry.empty ({} : Acceptance)
      [.edit "x", .receiveId 0 7] "xy" (by decide) (by rfl)
    rcases tells (by decide) with ⟨silent, -⟩ | ⟨told, sent, -, body⟩
    · cases silent
    · exact ⟨told, sent, body⟩
  · obtain ⟨-, -, -, leaves⟩ := close_tells_input {} "a" 1 0 Registry.empty ({} : Acceptance)
      [.edit "x"] "xy" (by decide) (by rfl)
    obtain ⟨request, -, sent, body⟩ := leaves (by rfl)
    exact ⟨request, sent, body⟩

/-- A post that waits for its id with the text "x" and is closed with "xy" is told as "x" only. -/
theorem close_misses_held_input :
    let desk := (begin {} "a" 1 0 Registry.empty ({} : Acceptance)).run [.edit "x"]
    desk.composer.phase ≠ .halted ∧ (desk.close "xy").1 = .ok () ∧
      (desk.close "xy").2.transport.sent ≠ [] ∧
      ∀ told, (desk.close "xy").2.transport.sent = told ++ [.closePost] →
        (replay told).map Post.body = .ok "x" ∧
        (replay told).map Post.body ≠ .ok (ComposerConfig.trim {} "xy").text := by
  intro desk
  refine ⟨by decide, rfl, by rintro ⟨⟩, ?_⟩
  intro told sent
  have known : (desk.close "xy").2.transport.sent
      = [.insertPost { body := some "x", image := none, name := none }] ++ [.closePost] := rfl
  have request := (List.append_left_inj _).1 (known.symm.trans sent)
  rw [← request]
  have heard : (replay [.insertPost { body := some "x", image := none, name := none }]).map
      Post.body = .ok "x" := rfl
  refine ⟨heard, ?_⟩
  intro same
  have texts := Except.ok.inj (heard.symm.trans same)
  exact absurd texts (by decide)

end Desk

end LiveThread
