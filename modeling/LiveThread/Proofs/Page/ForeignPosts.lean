import LiveThread.Proofs.Page.Events

/-!
# Posts of others

What a page knows of a post that is not that of an attached composition comes
from the updates that the server sends.  They never take back what was said of
the post: where and by whom it was written stays, it is closed for good, and its
moderation log only grows.  A second announcement of the post changes nothing.

Main results:

- Definition `PageStep.Leaves`: a step that neither gives the id to a composition nor replaces the
  post otherwise.
- Definition `Page.Foreign`: the post is never that of the attached composition.
- Definition `PageStep.Permits`: which part of a post changes by which message.
- Theorem `Page.permits_step`: no step changes more than that.
- Theorem `Page.updated_follow`: any number of steps update the post.
- Theorem `Page.foreign_post_is_monotone`: so it is at any two moments of a history.
-/

namespace LiveThread

/-- A post that was deleted stays deleted. -/
theorem Post.Updated.isDeleted {before after : Post} (updated : before.Updated after)
    (deleted : before.isDeleted = true) : after.isDeleted = true := by
  obtain ⟨entry, mem, deletes⟩ := List.any_eq_true.1 deleted
  exact List.any_eq_true.2 ⟨entry, updated.moderation.subset mem, deletes⟩

/-! ## Steps that change a post of others -/

namespace PageStep

/-- A step neither gives an id to a composition nor replaces the post under it otherwise: it is
a message of any other kind, or it does not name the id. -/
def Leaves (id : UInt64) : PageStep → Prop
  | message m => m ≠ .postId id
  | action what => (action what).Spares id

/-- A step edits the body of a post. -/
def Edits (id : UInt64) (step : PageStep) : Prop :=
  (∃ code, step = message (.append id code)) ∨ step = message (.backspace id) ∨
    ∃ s, step = message (.splice id s)

/-- What a step may change of the post under an id: it updates the post, and every part of it is
changed by messages of certain kinds only. -/
structure Permits (step : PageStep) (id : UInt64) (before after : Post) : Prop where
  updated : before.Updated after
  body : after.body ≠ before.body → step.Edits id
  links : after.links ≠ before.links →
    ∃ links commands, step = message (.closePost id links commands)
  commands : after.commands ≠ before.commands →
    ∃ links commands, step = message (.closePost id links commands)
  removed : before.image.isSome → after.image = none →
    ∃ entry, step = message (.moderatePost id entry) ∧
      (entry.action = .deleteImage ∨ entry.action = .purgePost)
  shown : ∀ hidden visible, before.image = some hidden → hidden.spoiler = true →
    after.image = some visible → visible.spoiler = false →
    ∃ image, step = message (.insertImage id image)

variable {step : PageStep} {id : UInt64}

/-- Every step may leave the parts of a post as they were, hide its image, and close it. -/
theorem permits_of_image {before after : Post} (updated : before.Updated after)
    (body : after.body = before.body) (links : after.links = before.links)
    (commands : after.commands = before.commands)
    (image : after.image = before.image ∨ after.image = before.spoilerImage.image) :
    step.Permits id before after where
  updated := updated
  body changed := absurd body changed
  links changed := absurd links changed
  commands changed := absurd commands changed
  removed there gone := by
    obtain ⟨old, found⟩ := Option.isSome_iff_exists.1 there
    rcases image with same | hidden
    · simp [same, found] at gone
    · simp [hidden, Post.spoilerImage, found] at gone
  shown hidden visible there covered here bare := by
    have still : visible.spoiler = true := by
      rcases image with same | spoiled
      · rw [same, there] at here
        exact Option.some.inj here ▸ covered
      · rw [spoiled, Post.spoilerImage, there] at here
        exact Option.some.inj here ▸ rfl
    rw [bare] at still
    cases still

theorem Permits.refl (post : Post) : step.Permits id post post :=
  permits_of_image (.refl post) rfl rfl rfl (.inl rfl)

end PageStep

/-- Moderation removes the image, or it is kept or hidden. -/
theorem Post.obey_image (post : Post) (action : ModerationAction) :
    (action = .deleteImage ∨ action = .purgePost) ∧ (post.obey action).image = none ∨
      (post.obey action).image = post.image ∨
      (post.obey action).image = post.spoilerImage.image := by
  cases action with
  | deleteImage => exact .inl ⟨.inl rfl, rfl⟩
  | purgePost => exact .inl ⟨.inr rfl, rfl⟩
  | spoilerImage => exact .inr (.inr rfl)
  | _ => exact .inr (.inl rfl)

/-- It changes none of the other parts that updates are about. -/
theorem Post.obey_rest (post : Post) (action : ModerationAction) :
    (post.obey action).body = post.body ∧ (post.obey action).links = post.links ∧
      (post.obey action).commands = post.commands := by
  cases action <;> exact ⟨rfl, rfl, rfl⟩

/-- Moderation updates a post, and only two actions remove its image. -/
theorem PageStep.permits_moderate {id : UInt64} (post : Post) (entry : ModerationEntry)
    (updated : post.Updated (post.moderate entry)) :
    (message (.moderatePost id entry)).Permits id post (post.moderate entry) := by
  obtain ⟨body, links, commands⟩ := post.obey_rest entry.action
  rcases post.obey_image entry.action with ⟨removes, gone⟩ | image
  · exact {
      updated
      body := fun changed => absurd body changed
      links := fun changed => absurd links changed
      commands := fun changed => absurd commands changed
      removed := fun _ _ => ⟨entry, rfl, removes⟩
      shown := fun _ _ _ _ here _ => absurd (here.symm.trans gone) (by rintro ⟨⟩) }
  · exact permits_of_image updated body links commands image

/-- A message about a post of others changes no more than that. -/
theorem Setting.permits_changed {setting : Setting} {m : ServerMessage} {id : UInt64}
    (foreign : ¬ (setting.own ≠ 0 ∧ setting.own = id)) (about : m.target? = some id)
    (post : Post) : (PageStep.message m).Permits id post (setting.changed post m) := by
  have same : (PageStep.message m).Permits id post post := .refl post
  have updated : post.Updated (setting.changed post m) := by
    rcases setting.changed_cases post m with ⟨data, rfl, own, -⟩ | updated
    · cases about
      exact absurd own foreign
    · exact updated
  cases m with
  | insertPost data =>
    cases about
    rw [changed, if_neg foreign]
    exact same
  | append other code =>
    cases about
    cases taken : post.append? code with
    | error e =>
      simp only [changed, taken]
      exact same
    | ok after =>
      obtain ⟨c, -, rfl⟩ := Post.append?_eq_ok_iff.1 taken
      simp only [changed, taken] at updated ⊢
      exact { same with updated, body := fun _ => .inl ⟨code, rfl⟩ }
  | backspace other =>
    cases about
    exact { same with updated, body := fun _ => .inr (.inl rfl) }
  | splice other s =>
    cases about
    cases taken : post.splice? s.start s.count s.text with
    | error e =>
      simp only [changed, taken]
      exact same
    | ok after =>
      obtain ⟨-, rfl⟩ := Post.splice?_eq_ok_iff.1 taken
      simp only [changed, taken] at updated ⊢
      exact { same with updated, body := fun _ => .inr (.inr ⟨s, rfl⟩) }
  | closePost other links commands =>
    cases about
    exact { same with
      updated
      links := fun _ => ⟨links, commands, rfl⟩
      commands := fun _ => ⟨links, commands, rfl⟩ }
  | insertImage other image =>
    cases about
    exact { same with
      updated
      removed := by rintro - ⟨⟩
      shown := fun _ _ _ _ _ _ => ⟨image, rfl⟩ }
  | spoiler other =>
    cases about
    exact PageStep.permits_of_image updated rfl rfl rfl (.inr rfl)
  | moderatePost other entry =>
    cases about
    exact PageStep.permits_moderate post entry updated
  | _ => cases about

/-! ## Steps -/

/-- An action of a composition leaves a post that it does not name as it was, or closes it. -/
theorem Move.keeps_or_closes {action : Action} {a b : Account} {id : UInt64} {first : Post}
    (move : Move action a b) (spared : action.named? ≠ some id)
    (before : ∃ editing, a.registry.get? id = some { first with editing := editing } ∧
      (editing = true → first.editing = true)) :
    ∃ editing, b.registry.get? id = some { first with editing := editing } ∧
      (editing = true → first.editing = true) := by
  have abandoned : ∀ a : Account,
      (∃ editing, a.registry.get? id = some { first with editing := editing } ∧
        (editing = true → first.editing = true)) →
      ∃ editing, a.abandoned.registry.get? id = some { first with editing := editing } ∧
        (editing = true → first.editing = true) := by
    rintro a ⟨editing, found, closes⟩
    simp only [Account.abandoned]
    split
    · exact ⟨editing, found, closes⟩
    · rw [Registry.get?_modify]
      split
      · next own =>
        rw [← own, found]
        exact ⟨false, rfl, by rintro ⟨⟩⟩
      · exact ⟨editing, found, closes⟩
  cases move with
  | close => exact abandoned _ before
  | abandon => exact abandoned _ before
  | @receiveId ticket now given answer waiting =>
    obtain ⟨editing, found, closes⟩ := before
    rw [answer] at spared
    have other : id ≠ given := fun same => spared (congrArg some same.symm)
    exact ⟨editing, by simpa [Account.allocated, Desk.registeredPost, other] using found, closes⟩
  | @mergeEcho data answer known own =>
    obtain ⟨editing, found, closes⟩ := before
    rw [answer] at spared
    have other : id ≠ data.id := fun same => spared (congrArg some same.symm)
    exact ⟨editing, by simpa [Account.merged, other] using found, closes⟩
  | note | request | change | halt | hideImage | insertImage | forget => exact before

namespace Page

variable {τ : Type} [Transport τ] {page : Page (Logged τ)} {id : UInt64} {before : Post}

/-- So does an action of an author. -/
theorem permits_perform {step : PageStep} (number : Nat) {action : Action}
    (spared : action.named? ≠ some id) (registered : page.registry.get? id = some before) :
    ∃ after, (page.perform number action).registry.get? id = some after ∧
      step.Permits id before after := by
  obtain ⟨editing, kept, closes⟩ := registry_perform_induct
    (P := fun posts => ∃ editing, posts.get? id = some { before with editing := editing } ∧
      (editing = true → before.editing = true))
    (fun move kept => move.keeps_or_closes spared kept)
    ⟨before.editing, registered, fun h => h⟩ number
  refine ⟨_, kept, PageStep.permits_of_image ?_ rfl rfl rfl (.inl rfl)⟩
  exact ⟨rfl, rfl, rfl, rfl, rfl, rfl, rfl, rfl, closes, List.prefix_refl _⟩

/-- No step that leaves it the id changes more of a post of others than it may. -/
theorem permits_step (now : Int64) {step : PageStep} (leaves : step.Leaves id)
    (foreign : ¬ (page.own ≠ 0 ∧ page.own = id))
    (registered : page.registry.get? id = some before) :
    ∃ after, (page.step now step).1.registry.get? id = some after ∧
      step.Permits id before after := by
  cases step with
  | message m =>
    simp only [Page.step]
    by_cases answers : ∃ other, m = .postId other
    · obtain ⟨other, rfl⟩ := answers
      simp only [receive, receiveId_eq_perform]
      cases page.attached with
      | none => exact ⟨before, registered, .refl before⟩
      | some number =>
        refine permits_perform number (fun same => ?_) registered
        cases same
        exact leaves rfl
    · rw [(receive_own now page (not_exists.1 answers)).2 id]
      by_cases about : m.target? = some id
      · rw [if_pos about, registered]
        exact ⟨_, rfl, Setting.permits_changed foreign about before⟩
      · rw [if_neg about]
        exact ⟨before, registered, .refl before⟩
  | action what =>
    cases what with
    | receive frame => cases leaves
    | compose number action =>
      rw [step_compose]
      exact permits_perform number leaves registered
    | attach number =>
      simp only [Page.step, act]
      split <;> exact ⟨before, registered, .refl before⟩
    | register post =>
      refine ⟨before, ?_, .refl before⟩
      simp only [Page.step, act, Registry.getThenInsert, Registry.get?_insert]
      rwa [if_neg fun same => leaves same.symm]
    | drop other =>
      refine ⟨before, ?_, .refl before⟩
      simp only [Page.step, act, Registry.getThenErase, Registry.get?_erase]
      rwa [if_neg fun same => leaves same.symm]
    | newComposer | addComposer | detach | fail => exact ⟨before, registered, .refl before⟩

/-! ## Histories -/

/-- At no moment of a history of steps is the post that of the attached composition. -/
def Foreign (id : UInt64) (page : Page (Logged τ)) (steps : List (Int64 × PageStep)) : Prop :=
  ∀ past rest, steps = past ++ rest →
    ¬ ((page.follow past).1.own ≠ 0 ∧ (page.follow past).1.own = id)

/-- It is not at any moment of the first steps, nor of those after them. -/
theorem Foreign.split {first second : List (Int64 × PageStep)}
    (foreign : page.Foreign id (first ++ second)) :
    page.Foreign id first ∧ (page.follow first).1.Foreign id second := by
  constructor
  · intro past rest parts
    exact foreign past (rest ++ second) (by rw [parts, List.append_assoc])
  · intro past rest parts
    have later := foreign (first ++ past) rest (by rw [parts, List.append_assoc])
    rwa [follow_append] at later

theorem foreign_nil (foreign : ¬ (page.own ≠ 0 ∧ page.own = id)) : page.Foreign id [] := by
  rintro past rest parts
  obtain ⟨rfl, -⟩ := List.append_eq_nil_iff.1 parts.symm
  exact foreign

/-- It is not at first, nor at any moment after the first step. -/
theorem foreign_cons_iff {now : Int64} {step : PageStep} {steps : List (Int64 × PageStep)} :
    page.Foreign id ((now, step) :: steps) ↔
      ¬ (page.own ≠ 0 ∧ page.own = id) ∧ (page.step now step).1.Foreign id steps := by
  constructor
  · intro foreign
    have parts : page.Foreign id ([(now, step)] ++ steps) := foreign
    exact ⟨foreign [] _ rfl, parts.split.2⟩
  · rintro ⟨first, later⟩ past rest parts
    cases past with
    | nil => exact first
    | cons entry past =>
      obtain ⟨rfl, rfl⟩ := List.cons.inj parts
      exact later past rest rfl

/-- Any number of steps update a post of others. -/
theorem updated_follow {steps : List (Int64 × PageStep)}
    (leaves : ∀ entry ∈ steps, entry.2.Leaves id) (foreign : page.Foreign id steps)
    (registered : page.registry.get? id = some before) :
    ∃ after, (page.follow steps).1.registry.get? id = some after ∧ before.Updated after := by
  induction steps generalizing page before with
  | nil => exact ⟨before, registered, .refl before⟩
  | cons entry steps ih =>
    obtain ⟨now, step⟩ := entry
    obtain ⟨own, later⟩ := foreign_cons_iff.1 foreign
    obtain ⟨between, there, permitted⟩ := permits_step now
      (leaves (now, step) List.mem_cons_self) own registered
    obtain ⟨after, found, updated⟩ := ih
      (fun entry mem => leaves entry (List.mem_cons_of_mem _ mem)) later there
    exact ⟨after, found, permitted.updated.trans updated⟩

/-- A second announcement of a post of others changes nothing. -/
theorem insertPost_again (now : Int64) {data : Post}
    (foreign : ¬ (page.own ≠ 0 ∧ page.own = data.id))
    (registered : page.registry.get? data.id = some before) :
    page.step now (.message (.insertPost data)) = (page, []) := by
  have same := (receive_response now page (.insertPost data)).eq_ignore rfl
    (by simp [registered]) fun post _ own => foreign own
  simp only [Page.step, same, ignore]

/-- Take a registered post, and a history of frames and other actions on a page with the standard
handlers that neither gives its id to a composition nor replaces the post otherwise, and in which no
composition with that id is ever attached.

- Between any two moments the post is updated: its id, its thread and board, its time, its author
  and that it was shown stay; it is not opened again, and its moderation log is continued, so that
  it stays deleted.
- In each step the body changes only by an edit of it, links and commands change only when the
  post is closed, the image is removed only by moderation, and a hidden image is shown again only
  when another one is attached.
- A second announcement of the post changes nothing, and nothing is told of it. -/
theorem foreign_post_is_monotone (page : Page (Logged τ)) (history : List (Int64 × PageAction))
    {first : Post} (registered : page.registry.get? id = some first)
    (leaves : ∀ entry ∈ stepsOf history, entry.2.Leaves id)
    (foreign : page.Foreign id (stepsOf history)) :
    (∀ past between rest, stepsOf history = past ++ between ++ rest →
      ∃ before after, (page.follow past).1.registry.get? id = some before ∧
        (page.follow (past ++ between)).1.registry.get? id = some after ∧
        before.Updated after ∧ (before.isDeleted = true → after.isDeleted = true)) ∧
    (∀ past now step rest, stepsOf history = past ++ (now, step) :: rest →
      ∃ before after, (page.follow past).1.registry.get? id = some before ∧
        (page.follow (past ++ [(now, step)])).1.registry.get? id = some after ∧
        step.Permits id before after) ∧
    ∀ past now data rest, stepsOf history = past ++ (now, .message (.insertPost data)) :: rest →
      data.id = id →
      (page.follow past).1.step now (.message (.insertPost data)) = ((page.follow past).1, []) := by
  generalize stepsOf history = steps at leaves foreign
  have reached : ∀ past rest, steps = past ++ rest →
      ∃ before, (page.follow past).1.registry.get? id = some before := by
    rintro past rest rfl
    obtain ⟨before, found, -⟩ := updated_follow
      (fun entry mem => leaves entry (List.mem_append_left _ mem)) foreign.split.1 registered
    exact ⟨before, found⟩
  refine ⟨?_, ?_, ?_⟩
  · intro past between rest parts
    obtain ⟨before, found⟩ := reached past (between ++ rest) (by rw [parts, List.append_assoc])
    subst parts
    obtain ⟨after, there, updated⟩ := updated_follow
      (fun entry mem => leaves entry (by simp [mem])) foreign.split.1.split.2 found
    refine ⟨before, after, found, ?_, updated, updated.isDeleted⟩
    rw [follow_append]
    exact there
  · intro past now step rest parts
    obtain ⟨before, found⟩ := reached past _ parts
    obtain ⟨after, there, permitted⟩ := permits_step now
      (leaves (now, step) (by simp [parts])) (foreign past _ parts) found
    refine ⟨before, after, found, ?_, permitted⟩
    rw [follow_concat]
    exact there
  · rintro past now data rest parts rfl
    obtain ⟨before, found⟩ := reached past _ parts
    exact insertPost_again now (foreign past _ parts) found

/-- While a composition gets an id, a post of others is closed and deleted in a batch.  It is
neither opened nor restored by a second announcement. -/
theorem foreign_post_is_monotone_in_batches :
    let page : Page Memory := { Page.inMemory "a" 1 with
      registry := Registry.empty.insert { id := 5, editing := true } }
    let history : List (Int64 × PageAction) := [(0, .newComposer {}), (0, .compose 0 (.edit "x")),
      (1, .receive (ServerMessage.concat [(ServerMessage.closePost 5 none none).frame,
        (ServerMessage.postId 7).frame,
        (ServerMessage.moderatePost 5 { action := .deletePost }).frame]).frame),
      (2, .receive (ServerMessage.insertPost { id := 5, editing := true }).frame)]
    ∃ post, (page.happen history).1.registry.get? 5 = some post ∧
      post.editing = false ∧ post.isDeleted = true := by
  intro page history
  have close : Delivery.ofFrame (ServerMessage.closePost 5 none none).frame
      = .single (.closePost 5 none none) := Delivery.ofFrame_frame (by rintro ⟨⟩) rfl rfl
  have give : Delivery.ofFrame (ServerMessage.postId 7).frame = .single (.postId 7) :=
    Delivery.ofFrame_frame (by rintro ⟨⟩) rfl rfl
  have delete : Delivery.ofFrame (ServerMessage.moderatePost 5 { action := .deletePost }).frame
      = .single (.moderatePost 5 { action := .deletePost }) :=
    Delivery.ofFrame_frame (by rintro ⟨⟩) rfl rfl
  have again : Delivery.ofFrame (ServerMessage.insertPost { id := 5, editing := true }).frame
      = .single (.insertPost { id := 5, editing := true }) :=
    Delivery.ofFrame_frame (by rintro ⟨⟩) rfl rfl
  let past : List (Int64 × PageStep) := [(0, .action (.newComposer {})),
    (0, .action (.compose 0 (.edit "x"))), (1, .message (.closePost 5 none none)),
    (1, .message (.postId 7)), (1, .message (.moderatePost 5 { action := .deletePost }))]
  have steps : stepsOf history
      = past ++ [(2, .message (.insertPost { id := 5, editing := true }))] ++ [] := by
    simp [history, past, stepsOf, PageAction.steps, close, give, delete, again,
      Delivery.ofFrame_concat, Delivery.messages, partMessages, ServerMessage.kind]
  have leaves : ∀ entry ∈ stepsOf history, entry.2.Leaves 5 := by
    simp [steps, past, PageStep.Leaves, PageStep.Spares, Action.named?]
  have foreign : page.Foreign 5 (stepsOf history) := by
    rw [steps]
    simp only [past, List.append_nil, List.cons_append, List.nil_append, foreign_cons_iff]
    exact ⟨by decide +kernel, by decide +kernel, by decide +kernel, by decide +kernel,
      by decide +kernel, by decide +kernel, foreign_nil (by decide +kernel)⟩
  obtain ⟨between, -⟩ := foreign_post_is_monotone page history rfl leaves foreign
  obtain ⟨before, after, found, there, updated, deleted⟩ := between past _ _ steps
  have ended : ((page.follow past).1.registry.get? 5).map
      (fun post => (post.editing, post.isDeleted)) = some (false, true) := by decide +kernel
  rw [found, Option.map_some, Option.some.injEq, Prod.mk.injEq] at ended
  rw [happen_eq_follow, steps, List.append_nil]
  refine ⟨after, there, ?_, deleted ended.2⟩
  by_contra opened
  have still := updated.editing (by simpa using opened)
  rw [ended.1] at still
  cases still

end Page

end LiveThread
