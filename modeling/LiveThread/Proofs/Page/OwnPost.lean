import LiveThread.Proofs.Page.Targets

/-!
# The own post of a page

The post of the attached composition is registered when the composition gets its id.
It is then changed by messages about it, and by the composition itself, which ends it and
merges what the server says of it.  No post is ever stored under another id than its own.

Main results:

- Theorem `Page.receiveId_eq_perform`: an id is heard by the attached composition.
- Theorem `Page.own_perform`: the own id after an action of the attached composition.
- Theorem `Page.receive_own`: every other message changes the post that it is about and no other.
- Theorem `Setting.changed_cases`: what no message about a post changes.
- Definition `Registry.Indexed`: every post is registered under its own id.
- Theorem `Page.indexed_happen`: that is so after every history.
-/

namespace LiveThread

/-! ## What the attached composition hears -/

namespace Page

variable {τ : Type}

/-- An operation leaves open which composition is attached. -/
theorem attached_atAttached {α : Type} (page : Page τ) (operation : Desk τ → α × Desk τ) :
    (page.atAttached operation).2.attached = page.attached := by
  unfold atAttached atComposer
  split
  · rfl
  · split <;> rfl

variable [Transport τ]

theorem attached_perform (page : Page τ) (number : Nat) (action : Action) :
    (page.perform number action).attached = page.attached := by
  cases found : page.composers[number]? with
  | none => rw [perform_of_none found]
  | some c =>
    rw [perform_of_some found]
    rfl

/-- What the server says to the attached composition is performed by it, if there is one. -/
theorem atAttached_snd {α : Type} {operation : Desk τ → α × Desk τ} {action : Action}
    (page : Page τ) (same : ∀ desk, (operation desk).2 = (desk.perform action).2) :
    (page.atAttached operation).2
      = (page.attached.map fun number => page.perform number action).getD page := by
  unfold atAttached
  split
  · next nobody =>
    rw [nobody]
    rfl
  · next number attached =>
    rw [atComposer_snd page number same, attached]
    rfl

/-- An id is heard by the attached composition. -/
theorem receiveId_eq_perform (page : Page τ) (now : Int64) (id : UInt64) :
    (page.receiveId now id).page
      = (page.attached.map fun number => page.perform number (.receiveId now id)).getD page :=
  (receiveId_page now page id).trans (atAttached_snd page fun _ => rfl)

omit [Transport τ] in
/-- The change of a post changes the posts of the page only. -/
theorem changePost_page (page : Page τ) (id : UInt64) (kind : MessageKind)
    (change : Post → Except PostError Post) :
    ∃ registry, (page.changePost id kind change).page = { page with registry := registry } := by
  unfold changePost
  split
  · exact ⟨page.registry, rfl⟩
  · split
    · exact ⟨page.registry, rfl⟩
    · exact ⟨_, rfl⟩

/-- No message attaches another composition. -/
theorem attached_receive (now : Int64) (page : Page τ) (m : ServerMessage) :
    (page.receive Handlers.standard now m).page.attached = page.attached := by
  have changes : ∀ id kind change, (page.changePost id kind change).page.attached
      = page.attached := by
    intro id kind change
    obtain ⟨registry, same⟩ := page.changePost_page id kind change
    rw [same]
  cases m with
  | invalid reason => exact attached_atAttached _ _
  | postId id =>
    exact (congrArg Page.attached (receiveId_page now page id)).trans (attached_atAttached _ _)
  | serverTime time =>
    simp only [receive, setClock]
    split <;> rfl
  | insertPost data =>
    have heard := attached_atAttached page (·.mergeEcho data)
    simp only [receive, Handlers.standard, handle, insertPost]
    split
    · next after merged =>
      rw [merged] at heard
      exact heard
    · next found after _ other =>
      rw [other] at heard
      split <;> exact heard
  | append | backspace | splice | closePost | insertImage | spoiler | moderatePost =>
    exact changes _ _ _
  | synchronise | concat | noop | syncCount | redirect | notification | captcha | configs => rfl

/-! ## The own id -/

omit [Transport τ] in
/-- The own id is that of the attached composition. -/
theorem own_of_attached {page : Page τ} {number : Nat} {c : Composer}
    (attached : page.attached = some number) (found : page.composers[number]? = some c) :
    page.own = c.id := by
  simp [own, attached, found]

/-- The own id after an action of the attached composition. -/
theorem own_perform {page : Page τ} {number : Nat} {c : Composer}
    (attached : page.attached = some number) (found : page.composers[number]? = some c)
    (action : Action) :
    (page.perform number action).own = ((page.deskOf c).perform action).2.composer.id :=
  own_of_attached ((attached_perform page number action).trans attached)
    (perform_composers_self found action)

/-- To halt the attached composition changes neither the own id nor the posts. -/
theorem halt_own (page : Page τ) :
    (page.atAttached fun desk => ((), desk.halt)).2.own = page.own ∧
      (page.atAttached fun desk => ((), desk.halt)).2.registry = page.registry := by
  have halted : (page.atAttached fun desk => ((), desk.halt)).2
      = (page.attached.map fun number => page.perform number .halt).getD page :=
    atAttached_snd page fun _ => rfl
  rw [halted]
  cases attached : page.attached with
  | none => exact ⟨rfl, rfl⟩
  | some number =>
    simp only [Option.map_some, Option.getD_some]
    cases found : page.composers[number]? with
    | none => simp [perform_of_none found]
    | some c =>
      rw [own_perform attached found, registry_perform found, own_of_attached attached found]
      exact ⟨rfl, rfl⟩

/-- Nor does giving up. -/
theorem failWith_own (page : Page τ) (reason : String) :
    (page.failWith reason).page.own = page.own ∧
      (page.failWith reason).page.registry = page.registry :=
  halt_own { page with transport := Transport.fail page.transport reason }

/-- Every message but an id leaves the own id alone, and changes the post that it is about and no
other. -/
theorem receive_own (now : Int64) (page : Page τ) {m : ServerMessage}
    (other : ∀ id, m ≠ .postId id) :
    (page.receive Handlers.standard now m).page.own = page.own ∧
      ∀ id, (page.receive Handlers.standard now m).page.registry.get? id
        = if m.target? = some id then page.setting.entry m (page.registry.get? id)
          else page.registry.get? id := by
  have plain (ordinary : m.kind ≠ .postId ∧ m.kind ≠ .invalid) := receive_entry now page ordinary
  cases m with
  | postId id => exact absurd rfl (other id)
  | invalid reason =>
    obtain ⟨own, registry⟩ := failWith_own page reason
    exact ⟨own, fun id => congrArg (·.get? id) registry⟩
  | _ =>
    obtain ⟨same, entries⟩ := plain ⟨by rintro ⟨⟩, by rintro ⟨⟩⟩
    exact ⟨congrArg Setting.own same, entries⟩

/-! ## Copies of the own post -/

/-- A copy of the own post that is given to the attached composition is merged into it. -/
theorem perform_mergeEcho {page : Page τ} {number : Nat} {copy : Post}
    (attached : page.attached = some number) (known : page.own ≠ 0) (mine : page.own = copy.id) :
    (page.perform number (.mergeEcho copy)).own = page.own ∧
      (page.perform number (.mergeEcho copy)).registry
        = page.registry.modify copy.id (·.mergeEcho copy) := by
  obtain ⟨same, -, entries⟩ := mergeEcho_entry page copy
  have heard : (page.atAttached (·.mergeEcho copy)).2
      = (page.attached.map fun number => page.perform number (.mergeEcho copy)).getD page :=
    atAttached_snd page fun _ => rfl
  simp only [heard, attached, Option.map_some, Option.getD_some] at same entries
  refine ⟨congrArg Setting.own same, Registry.ext_get? fun id => (entries id).trans ?_⟩
  rw [Registry.get?_modify]
  by_cases own : id = copy.id
  · rw [if_pos ⟨own, known, mine⟩, if_pos own, own]
  · rw [if_neg fun both => own both.1, if_neg own]

/-- So is one that is announced, if the own post is registered. -/
theorem receive_insertPost {page : Page τ} {copy : Post} (now : Int64) (known : page.own ≠ 0)
    (mine : page.own = copy.id) (listed : (page.registry.get? copy.id).isSome) :
    (page.receive Handlers.standard now (.insertPost copy)).page.own = page.own ∧
      (page.receive Handlers.standard now (.insertPost copy)).page.registry
        = page.registry.modify copy.id (·.mergeEcho copy) := by
  obtain ⟨same, entries⟩ := insertPost_entry page copy
  refine ⟨congrArg Setting.own same, Registry.ext_get? fun id => (entries id).trans ?_⟩
  have merging : page.setting.own ≠ 0 ∧ page.setting.own = copy.id := ⟨known, mine⟩
  obtain ⟨before, found⟩ := Option.isSome_iff_exists.1 listed
  rw [Registry.get?_modify]
  by_cases own : id = copy.id
  · rw [if_pos own, if_pos own, own, found, Setting.entry, Setting.changed, if_pos merging,
      Option.map_some]
  · rw [if_neg own, if_neg own]

end Page

/-! ## Updates of a post -/

/-- What no update of a post changes: where and by whom it was written; and none opens it or takes
anything from its moderation log. -/
structure Post.Updated (before after : Post) : Prop where
  id : after.id = before.id
  op : after.op = before.op
  board : after.board = before.board
  time : after.time = before.time
  sage : after.sage = before.sage
  name : after.name = before.name
  trip : after.trip = before.trip
  seenOnce : after.seenOnce = before.seenOnce
  editing : after.editing = true → before.editing = true
  moderation : before.moderation <+: after.moderation

theorem Post.Updated.refl (post : Post) : post.Updated post :=
  ⟨rfl, rfl, rfl, rfl, rfl, rfl, rfl, rfl, fun h => h, List.prefix_refl _⟩

theorem Post.Updated.trans {a b c : Post} (first : a.Updated b) (second : b.Updated c) :
    a.Updated c where
  id := second.id.trans first.id
  op := second.op.trans first.op
  board := second.board.trans first.board
  time := second.time.trans first.time
  sage := second.sage.trans first.sage
  name := second.name.trans first.name
  trip := second.trip.trans first.trip
  seenOnce := second.seenOnce.trans first.seenOnce
  editing := fun opened => first.editing (second.editing opened)
  moderation := first.moderation.trans second.moderation

/-- A message about a registered post updates it, or it is a copy of the own post. -/
theorem Setting.changed_cases (setting : Setting) (post : Post) (m : ServerMessage) :
    (∃ data, m = .insertPost data ∧ (setting.own ≠ 0 ∧ setting.own = data.id) ∧
      setting.changed post m = post.mergeEcho data) ∨
    post.Updated (setting.changed post m) := by
  have same := Post.Updated.refl post
  cases m with
  | insertPost data =>
    by_cases own : setting.own ≠ 0 ∧ setting.own = data.id
    · exact .inl ⟨data, rfl, own, if_pos own⟩
    · simp only [changed, if_neg own]
      exact .inr same
  | append id code =>
    cases taken : post.append? code with
    | error e =>
      simp only [changed, taken]
      exact .inr same
    | ok after =>
      obtain ⟨c, -, rfl⟩ := Post.append?_eq_ok_iff.1 taken
      simp only [changed, taken]
      exact .inr ⟨rfl, rfl, rfl, rfl, rfl, rfl, rfl, rfl, fun h => h, List.prefix_refl _⟩
  | splice id s =>
    cases taken : post.splice? s.start s.count s.text with
    | error e =>
      simp only [changed, taken]
      exact .inr same
    | ok after =>
      obtain ⟨-, rfl⟩ := Post.splice?_eq_ok_iff.1 taken
      simp only [changed, taken]
      exact .inr ⟨rfl, rfl, rfl, rfl, rfl, rfl, rfl, rfl, fun h => h, List.prefix_refl _⟩
  | closePost id links commands =>
    exact .inr ⟨rfl, rfl, rfl, rfl, rfl, rfl, rfl, rfl, by rintro ⟨⟩, List.prefix_refl _⟩
  | moderatePost id entry =>
    refine .inr ?_
    simp only [changed, Post.moderate, Post.obey]
    split <;> exact ⟨rfl, rfl, rfl, rfl, rfl, rfl, rfl, rfl, fun h => h, List.prefix_append _ _⟩
  | backspace | insertImage | spoiler =>
    exact .inr ⟨rfl, rfl, rfl, rfl, rfl, rfl, rfl, rfl, fun h => h, List.prefix_refl _⟩
  | _ => exact .inr same

/-! ## Posts under their ids -/

/-- Every post is registered under its own id. -/
def Registry.Indexed (r : Registry) : Prop :=
  ∀ id post, r.get? id = some post → post.id = id

namespace Registry

variable {r : Registry}

theorem indexed_empty : empty.Indexed := by
  rintro id post ⟨⟩

theorem Indexed.insert (h : r.Indexed) (post : Post) : (r.insert post).Indexed := by
  intro id other found
  rw [get?_insert] at found
  split at found
  · next own =>
    cases found
    exact own.symm
  · exact h id other found

theorem Indexed.erase (h : r.Indexed) (id : UInt64) : (r.erase id).Indexed := by
  intro other post found
  rw [get?_erase] at found
  split at found
  · cases found
  · exact h other post found

theorem Indexed.modify (h : r.Indexed) {id : UInt64} {change : Post → Post}
    (keeps : ∀ post, post.id = id → (change post).id = id) : (r.modify id change).Indexed := by
  intro other post found
  rw [get?_modify] at found
  split at found
  · next own =>
    obtain ⟨before, there, rfl⟩ := Option.map_eq_some_iff.1 found
    rw [own]
    exact keeps before (h id before there)
  · exact h other post found

end Registry

/-- No move stores a post under another id. -/
theorem Move.keeps_indexed {action : Action} {a b : Account} (move : Move action a b)
    (h : a.registry.Indexed) : b.registry.Indexed := by
  have abandoned : ∀ a : Account, a.registry.Indexed → a.abandoned.registry.Indexed := by
    intro a h
    unfold Account.abandoned
    dsimp only
    split
    · exact h
    · exact h.modify fun _ own => own
  cases move with
  | close => exact abandoned _ h
  | abandon => exact abandoned _ h
  | receiveId => exact h.insert _
  | mergeEcho => exact h.modify fun _ _ => rfl
  | note | request | change | halt | hideImage | insertImage | forget => exact h

/-- A message leaves its post under the id. -/
theorem Setting.id_entry {setting : Setting} {m : ServerMessage} {id : UInt64}
    {before : Option Post} {after : Post} (about : m.target? = some id)
    (own : ∀ post, before = some post → post.id = id)
    (changed : setting.entry m before = some after) : after.id = id := by
  cases before with
  | none =>
    obtain ⟨data, rfl⟩ := announced_of_entry (by rw [changed]; rfl)
    cases changed
    exact Option.some.inj about
  | some post =>
    cases changed
    rcases setting.changed_cases post m with ⟨data, rfl, -, same⟩ | updated
    · rw [same]
      exact Option.some.inj about
    · exact updated.id.trans (own post rfl)

namespace Page

variable {τ : Type} [Transport τ] {page : Page (Logged τ)}

/-- No action of a composition stores a post under another id. -/
theorem indexed_perform (h : page.registry.Indexed) (number : Nat) (action : Action) :
    (page.perform number action).registry.Indexed :=
  registry_perform_induct (P := Registry.Indexed) Move.keeps_indexed h number

/-- Nor does a message. -/
theorem indexed_receive (h : page.registry.Indexed) (now : Int64) (m : ServerMessage) :
    (page.receive Handlers.standard now m).page.registry.Indexed := by
  by_cases answers : ∃ id, m = .postId id
  · obtain ⟨id, rfl⟩ := answers
    simp only [receive, receiveId_eq_perform]
    cases page.attached with
    | none => exact h
    | some number => exact indexed_perform h number _
  · intro id post found
    rw [(receive_own now page (not_exists.1 answers)).2] at found
    split at found
    · next about => exact Setting.id_entry about (h id) found
    · exact h id post found

/-- Nor does any step. -/
theorem indexed_step (h : page.registry.Indexed) (now : Int64) {step : PageStep}
    (single : ∀ frame, step ≠ .action (.receive frame)) :
    (page.step now step).1.registry.Indexed := by
  cases step with
  | message m => exact indexed_receive h now m
  | action what =>
    cases what with
    | receive frame => exact absurd rfl (single frame)
    | compose number action =>
      rw [step_compose]
      exact indexed_perform h number action
    | attach number =>
      simp only [step, act]
      split <;> exact h
    | register post => exact h.insert post
    | drop id => exact h.erase id
    | newComposer | addComposer | detach | fail => exact h

/-- After every history every post is registered under its own id. -/
theorem indexed_happen (h : page.registry.Indexed) (history : List (Int64 × PageAction)) :
    (page.happen history).1.registry.Indexed :=
  happen_induct (P := fun page => page.registry.Indexed)
    (fun _ now _ single h => indexed_step h now single) h history

end Page

end LiveThread
