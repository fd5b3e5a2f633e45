import LiveThread.Proofs.Composition.Uploads
import LiveThread.Proofs.Page.EchoOrder
import LiveThread.Proofs.Page.ReservedId

/-!
# Snapshots

A renderer sees a composition through a snapshot: the post from whoever has it,
with the input and the phase of the composition.  The post is with the
composition until it is answered, and with the registry from then on.  A post
that the registry has lost cannot be shown, and an empty one without an id is
shown in its place, so the composition looks like a draft again.

Main results:

- Definition `fedIn`: the compositions of a history with the inputs fed to them last.
- Theorem `Page.inputs_happen`: a composition remembers the input fed to it last.
- Theorem `Page.listed_follow`: a post is only lost by being dropped.
- Theorem `Page.snapshot_agrees_iff`: a snapshot agrees with its composition unless the post is lost
  or has zero as its id.
- Theorem `Page.lost_post_looks_like_draft`: a history in which it is lost.
-/

namespace LiveThread

/-! ## Inputs -/

/-- The compositions begun so far, with the inputs fed to them last, after an action. -/
def feed (fed : List (ComposerConfig × Option String)) :
    PageAction → List (ComposerConfig × Option String)
  | .compose number action =>
    fed.modify number fun (config, latest) => (config, action.input?.or latest)
  | .newComposer config | .addComposer config => fed ++ [(config, none)]
  | _ => fed

/-- The compositions begun in a history, with the inputs fed to them last. -/
def fedIn (history : List (Int64 × PageAction)) : List (ComposerConfig × Option String) :=
  history.foldl (fun fed entry => feed fed entry.2) []

/-- What a composition remembers of the input fed to it last: nothing before there is one. -/
def remembered : ComposerConfig × Option String → ComposerConfig × String
  | (config, latest) => (config, (latest.map fun input => (config.trim input).text).getD "")

/-- What is remembered after one more input, or after none. -/
def noted (input : Option String) : ComposerConfig × String → ComposerConfig × String
  | (config, live) => (config, (input.map fun input => (config.trim input).text).getD live)

/-- To remember the last input is to remember each of them in turn. -/
theorem map_remembered_modify (fed : List (ComposerConfig × Option String)) (number : Nat)
    (input : Option String) :
    (fed.modify number fun (config, latest) => (config, input.or latest)).map remembered
      = (fed.map remembered).modify number (noted input) := by
  refine List.ext_getElem? fun other => ?_
  simp only [List.getElem?_map, List.getElem?_modify]
  cases fed[other]? with
  | none => rfl
  | some entry =>
    by_cases own : number = other
    · cases input <;> simp [own, remembered, noted]
    · simp [own]

/-- Without an input nothing is remembered. -/
theorem modify_noted_none (inputs : List (ComposerConfig × String)) (number : Nat) :
    inputs.modify number (noted none) = inputs :=
  List.modify_id number inputs

namespace Page

variable {τ : Type} [Transport τ] {page : Page (Logged τ)}

omit [Transport τ] in
/-- What the compositions of a page remember of their inputs. -/
def inputs (page : Page τ) : List (ComposerConfig × String) :=
  page.composers.map fun c => (c.config, c.liveInput)

/-- An action of a composition concerns its own input only. -/
theorem inputs_perform (page : Page (Logged τ)) (number : Nat) (action : Action) :
    (page.perform number action).inputs = page.inputs.modify number (noted action.input?) := by
  refine List.ext_getElem? fun other => ?_
  rw [List.getElem?_modify]
  simp only [inputs, List.getElem?_map]
  by_cases own : number = other
  · subst own
    cases found : page.composers[number]? with
    | none => rw [perform_of_none found, found]; rfl
    | some c =>
      have config : ((page.deskOf c).perform action).2.composer.config = c.config :=
        Account.induct (P := fun a => a.composer.config = c.config)
          (Desk.perform_moves (page.deskOf c) action) rfl fun move same =>
            move.config_eq.trans same
      have live := (page.deskOf c).perform_liveInput action
      simp only [perform_composers_self found, Option.map_some, if_pos, config, live]
      rfl
  · rw [perform_composers_of_ne page action (Ne.symm own)]
    simp [own]

/-- What the server says to the attached composition is no input. -/
theorem inputs_atAttached {α : Type} {operation : Desk (Logged τ) → α × Desk (Logged τ)}
    (page : Page (Logged τ)) (action : Action) (silent : action.input? = none)
    (same : ∀ desk, (operation desk).2 = (desk.perform action).2) :
    (page.atAttached operation).2.inputs = page.inputs := by
  rw [atAttached_snd page same]
  cases page.attached with
  | none => rfl
  | some number =>
    simp only [Option.map_some, Option.getD_some, inputs_perform, silent, modify_noted_none]

/-- No message feeds a composition. -/
theorem inputs_receive (now : Int64) (page : Page (Logged τ)) (m : ServerMessage) :
    (page.receive Handlers.standard now m).page.inputs = page.inputs := by
  have changes : ∀ id kind change, (page.changePost id kind change).page.inputs
      = page.inputs := by
    intro id kind change
    obtain ⟨registry, same⟩ := page.changePost_page id kind change
    rw [same]
    rfl
  cases m with
  | invalid reason =>
    exact inputs_atAttached { page with transport := Transport.fail page.transport reason } .halt
      rfl fun _ => rfl
  | postId id =>
    exact (congrArg inputs (receiveId_page now page id)).trans
      (inputs_atAttached page (.receiveId now id) rfl fun _ => rfl)
  | serverTime time =>
    simp only [receive, setClock]
    split <;> rfl
  | insertPost data =>
    have heard : (page.atAttached (·.mergeEcho data)).2.inputs = page.inputs :=
      inputs_atAttached page (.mergeEcho data) rfl fun _ => rfl
    simp only [receive, Handlers.standard, handle, insertPost]
    split
    · next after merged =>
      rw [merged] at heard
      exact heard
    · next found after _ other =>
      rw [other] at heard
      split <;> exact heard
  | append | backspace | splice | closePost | insertImage | spoiler | moderatePost =>
    exact changes _ _ _
  | synchronise | concat | noop | syncCount | redirect | notification | captcha | configs => rfl

/-- After an action the compositions remember what they have been fed. -/
theorem inputs_act {fed : List (ComposerConfig × Option String)}
    (before : page.inputs = fed.map remembered) (now : Int64) (action : PageAction) :
    (page.act Handlers.standard now action).page.inputs = (feed fed action).map remembered := by
  cases action with
  | receive frame =>
    have taken := congrArg Prod.fst (act_eq_follow now page (.receive frame))
    simp only at taken
    have keeps : ∀ (between : Page (Logged τ)) (later : Int64) (step : PageStep),
        (∃ m, step = .message m) → between.inputs = page.inputs →
        (between.step later step).1.inputs = page.inputs := by
      rintro between later step ⟨m, rfl⟩ same
      exact (inputs_receive later between m).trans same
    rw [taken]
    refine (follow_induct keeps rfl ?_).trans before
    rintro entry mem
    obtain ⟨step, inside, rfl⟩ := List.mem_map.1 mem
    obtain ⟨m, -, same⟩ := List.mem_map.1 inside
    exact ⟨m, same.symm⟩
  | compose number action =>
    have stepped : (page.act Handlers.standard now (.compose number action)).page
        = page.perform number action := step_compose now page number action
    rw [stepped, inputs_perform, before, feed, map_remembered_modify]
  | newComposer config | addComposer config =>
    rw [feed, List.map_append, ← before]
    simp [act, newComposer, addComposer, attach, inputs, Composer.new, remembered]
  | attach number =>
    simp only [act]
    split <;> exact before
  | detach | register | drop | fail => exact before

/-- After every history the compositions are those that were begun in it, and each of them remembers
the input fed to it last. -/
theorem inputs_happen (fresh : page.composers = []) (history : List (Int64 × PageAction)) :
    (page.happen history).1.inputs = (fedIn history).map remembered := by
  have general : ∀ (page : Page (Logged τ)) (fed : List (ComposerConfig × Option String)),
      page.inputs = fed.map remembered → (page.happen history).1.inputs
        = (history.foldl (fun fed entry => feed fed entry.2) fed).map remembered := by
    induction history with
    | nil => exact fun _ _ before => before
    | cons entry history ih =>
      intro page fed before
      exact ih _ _ (inputs_act before entry.1 entry.2)
  exact general page [] (by simp [inputs, fresh])

end Page

/-! ## Drafts -/

/-- A post that is still with its composition has the sent body, and there is no id yet. -/
def Composer.Undelivered (c : Composer) : Prop :=
  ∀ post, c.draft = some post → post.body = c.sentBody ∧ c.id = 0

/-- No move makes a difference between a post and what was sent of it. -/
theorem Move.keeps_undelivered {action : Action} {a b : Account} (move : Move action a b)
    (coherent : a.composer.Coherent) (h : a.composer.Undelivered) : b.composer.Undelivered := by
  cases move with
  | request image given draft free =>
    intro post owned
    simp only [Account.attaching, Account.requested] at owned ⊢
    split at owned
    · next empty => simpa only [if_pos empty] using h post owned
    · next filled =>
      obtain ⟨before, there, rfl⟩ := Option.map_eq_some_iff.1 owned
      exact ⟨(if_neg filled).symm, (h before there).2⟩
  | change typed allocated between =>
    intro post owned
    have given : a.composer.draft = some post := owned
    rw [(coherent.allocated allocated).2] at given
    cases given
  | close | abandon | receiveId => rintro post ⟨⟩
  | note | halt | hideImage | insertImage | forget | mergeEcho => exact h

/-! ## Posts that are lost -/

/-- No move drops a post. -/
theorem Move.keeps_registered {action : Action} {a b : Account} {id : UInt64}
    (move : Move action a b) (listed : a.registry.contains id = true) :
    b.registry.contains id = true := by
  have modified : ∀ other change, (a.registry.modify other change).contains id = true := by
    intro other change
    rw [Registry.contains, Registry.get?_modify]
    split
    · next own => simpa [Registry.contains, ← own] using listed
    · exact listed
  have abandoned : ∀ left : Account, left.registry = a.registry →
      left.abandoned.registry.contains id = true := by
    intro left same
    simp only [Account.abandoned, same]
    split
    · exact listed
    · exact modified _ _
  cases move with
  | close => exact abandoned _ rfl
  | abandon => exact abandoned _ rfl
  | receiveId =>
    simp only [Account.allocated, Registry.contains, Registry.get?_insert]
    split
    · rfl
    · exact listed
  | mergeEcho => exact modified _ _
  | note | request | change | halt | hideImage | insertImage | forget => exact listed

namespace Page

variable {τ : Type} [Transport τ] {page : Page (Logged τ)}

/-- A registered post stays registered unless it is dropped. -/
theorem listed_step (now : Int64) {step : PageStep} {id : UInt64}
    (single : ∀ frame, step ≠ .action (.receive frame)) (kept : step ≠ .action (.drop id))
    (listed : page.registry.contains id = true) :
    (page.step now step).1.registry.contains id = true := by
  have performed : ∀ number action, (page.perform number action).registry.contains id = true :=
    fun number action => registry_perform_induct (P := fun posts => posts.contains id = true)
      Move.keeps_registered listed number
  cases step with
  | message m =>
    by_cases answers : ∃ given, m = .postId given
    · obtain ⟨given, rfl⟩ := answers
      simp only [Page.step, receive, receiveId_eq_perform]
      cases page.attached with
      | none => exact listed
      | some number => exact performed number _
    · rw [Page.step, Registry.contains, (receive_own now page (not_exists.1 answers)).2 id]
      split
      · exact Setting.isSome_entry _ m listed
      · exact listed
  | action what =>
    cases what with
    | receive frame => exact absurd rfl (single frame)
    | compose number action =>
      rw [step_compose]
      exact performed number action
    | attach number =>
      simp only [Page.step, act]
      split <;> exact listed
    | register post =>
      simp only [Page.step, act, Registry.getThenInsert, Registry.contains, Registry.get?_insert]
      split
      · rfl
      · exact listed
    | drop other =>
      have different : ¬ id = other := by
        rintro rfl
        exact kept rfl
      simpa [Page.step, act, Registry.getThenErase, Registry.contains, different] using listed
    | newComposer | addComposer | detach | fail => exact listed

/-- A composition that takes an id hands its post over to the registry. -/
theorem listed_of_taken (now : Int64) {step : PageStep} {number : Nat} {id : UInt64}
    (taken : page.taken? step = some (number, id)) :
    (page.step now step).1.registry.contains id = true := by
  rcases page.step_offer now (offer?_of_taken? taken) with
    ⟨other, given, c, ticket, -, found, waiting, stepped⟩ | ⟨idle, -⟩
  · rw [stepped, registry_perform found]
    simp [Desk.perform, Desk.receiveId, deskOf, waiting, Desk.registeredPost, Registry.contains]
  · rw [idle] at taken
    cases taken

/-- A post that was handed over is registered from then on unless it was dropped. -/
theorem listed_follow {steps : List (Int64 × PageStep)}
    (single : ∀ entry ∈ steps, ∀ frame, entry.2 ≠ .action (.receive frame)) {number : Nat}
    {id : UInt64} (taken : (number, id) ∈ page.taken steps) :
    (page.follow steps).1.registry.contains id = true ∨
      ∃ now, (now, .action (.drop id)) ∈ steps := by
  induction steps using List.reverseRecOn with
  | nil => cases taken
  | append_singleton past entry ih =>
    obtain ⟨now, step⟩ := entry
    have last := single (now, step) (by simp)
    rw [follow_concat]
    rw [taken_concat] at taken
    rcases List.mem_append.1 taken with earlier | new
    · rcases ih (fun entry mem => single entry (List.mem_append_left _ mem)) earlier with
        listed | ⟨before, dropped⟩
      · by_cases drops : step = .action (.drop id)
        · exact .inr ⟨now, by simp [drops]⟩
        · exact .inl (listed_step now last drops listed)
      · exact .inr ⟨before, List.mem_append_left _ dropped⟩
    · exact .inl (listed_of_taken now (Option.mem_toList.1 new))

omit [Transport τ] in
/-- A post is dropped in a step of a history only by an action of it. -/
theorem drop_mem_of_mem_stepsOf {history : List (Int64 × PageAction)} {now : Int64} {id : UInt64}
    (mem : (now, .action (.drop id)) ∈ stepsOf history) : (now, .drop id) ∈ history := by
  obtain ⟨⟨time, action⟩, inside, among⟩ := List.mem_flatMap.1 mem
  obtain ⟨step, taken, same⟩ := List.mem_map.1 among
  cases same
  cases action with
  | receive frame => simp [PageAction.steps] at taken
  | drop other =>
    cases List.mem_singleton.1 taken
    exact inside
  | _ => cases List.mem_singleton.1 taken

/-! ## What is shown -/

omit [Transport τ] in
/-- What is shown of a composition has the id of the composition, unless the post is lost. -/
theorem snapshot_id {c : Composer} (indexed : page.registry.Indexed)
    (blank : ∀ post, c.draft = some post → post.id = 0 ∧ c.id = 0) :
    (page.deskOf c).snapshot.view.id
      = if page.registry.contains c.id = true then c.id else 0 := by
  cases owned : c.draft with
  | some post =>
    obtain ⟨nameless, unknown⟩ := blank post owned
    simp [DraftView.view, Post.view, Desk.snapshot, deskOf, owned, nameless, unknown]
  | none =>
    cases found : page.registry.get? c.id with
    | none => simp [DraftView.view, Post.view, Desk.snapshot, deskOf, owned, Registry.contains, found]
    | some post =>
      simpa [DraftView.view, Post.view, Desk.snapshot, deskOf, owned, Registry.contains, found]
        using indexed c.id post found

section Histories

variable (fresh : page.composers = []) (history : List (Int64 × PageAction)) {number : Nat}
  {c : Composer} (found : (page.happen history).1.composers[number]? = some c)

include fresh found

/-- After a history a composition has the id that it took last, and zero before it took one. -/
theorem id_of_happen : c.id = (idsOf number (page.taken (stepsOf history))).getLast?.getD 0 := by
  have single : ∀ entry ∈ stepsOf history, ∀ frame, entry.2 ≠ .action (.receive frame) :=
    fun entry mem => single_of_mem_stepsOf mem
  refine (numbered_follow fresh single).id number c ?_
  rw [← happen_eq_follow]
  exact found

/-- A post that is still with its composition has the sent body, and the composition no id. -/
theorem undelivered_happen : c.Undelivered := by
  have start : page.Peopled (fun c => c.Coherent ∧ c.Undelivered) page.board page.thread :=
    ⟨rfl, rfl, by simp [fresh]⟩
  have all := start.happen
    (fun move h => ⟨move.keeps_coherent h.1, move.keeps_undelivered h.1 h.2⟩)
    (fun config now => ⟨Composer.new_coherent config _ _ now, by rintro post ⟨⟩; exact ⟨rfl, rfl⟩⟩)
    history
  exact (all.all c (List.mem_of_getElem? found)).2

/-- The input that was fed to a composition last is remembered within the limits. -/
theorem remembered_happen : ∃ latest, (fedIn history)[number]? = some (c.config, latest) ∧
    c.liveInput = (latest.map fun input => (c.config.trim input).text).getD "" := by
  have inputs := congrArg (·[number]?) (inputs_happen fresh history)
  simp only [Page.inputs, List.getElem?_map, found, Option.map_some] at inputs
  obtain ⟨⟨config, latest⟩, fed, same⟩ := Option.map_eq_some_iff.1 inputs.symm
  obtain ⟨own, live⟩ := Prod.mk.inj same
  cases own
  exact ⟨latest, fed, live.symm⟩

/-- A post that was handed over is missing only if it was dropped. -/
theorem dropped_of_lost (known : c.id ≠ 0)
    (missing : (page.happen history).1.registry.contains c.id = false) :
    ∃ now, (now, .drop c.id) ∈ history := by
  have numbered := id_of_happen fresh history found
  cases last : (idsOf number (page.taken (stepsOf history))).getLast? with
  | none => simp [numbered, last] at known
  | some id =>
    have taken : (number, c.id) ∈ page.taken (stepsOf history) := by
      rw [numbered, last]
      exact mem_idsOf_iff.1 (List.mem_of_getLast? last)
    rcases listed_follow (fun entry mem => single_of_mem_stepsOf mem) taken with
      listed | ⟨now, dropped⟩
    · rw [← happen_eq_follow, missing] at listed
      cases listed
    · exact ⟨now, drop_mem_of_mem_stepsOf dropped⟩

/-- What is shown of a composition has no id if its post is lost, and the composition's otherwise. -/
theorem snapshot_id_happen (indexed : page.registry.Indexed) :
    let here := (page.happen history).1
    (here.deskOf c).snapshot.view.id
      = if c.id ≠ 0 ∧ here.registry.contains c.id = false then 0 else c.id := by
  intro here
  have unanswered := (unanswered_happen fresh history).all c (List.mem_of_getElem? found)
  have shown : (here.deskOf c).snapshot.view.id
      = if here.registry.contains c.id = true then c.id else 0 := by
    refine snapshot_id (indexed_happen indexed history) fun post owned => ?_
    obtain ⟨begun, blank⟩ := unanswered.1.blank post owned
    exact ⟨by rw [blank]; rfl, (undelivered_happen fresh history found post owned).2⟩
  rw [shown]
  by_cases zero : c.id = 0
  · simp [zero]
  · cases here.registry.contains c.id <;> simp [zero]

end Histories

/-- Take a page without compositions, with every post under its own id, and a history of frames and
actions on it with the standard handlers.  What is shown of a composition after it has the id of the
composition exactly unless its post is lost, for which it must have been dropped.  It looks like a
draft exactly as long as the composition has taken no id, unless the post is lost or the id is zero.
It has the input fed to the composition last, within the limits; it looks open until the composition
has ended; and a post that is still with the composition is shown with the sent body. -/
theorem snapshot_agrees_iff (page : Page (Logged τ)) (fresh : page.composers = [])
    (indexed : page.registry.Indexed) (history : List (Int64 × PageAction)) {number : Nat}
    {c : Composer} (found : (page.happen history).1.composers[number]? = some c) :
    let here := (page.happen history).1
    let ids := idsOf number (page.taken (stepsOf history))
    let snapshot := (here.deskOf c).snapshot
    let lost := c.id ≠ 0 ∧ here.registry.contains c.id = false
    (snapshot.view.id = c.id ↔ ¬ lost) ∧
    (lost → ∃ now, (now, .drop c.id) ∈ history) ∧
    ((snapshot.view.isDraft = true ↔ ids = []) ↔ ¬ lost ∧ ids.getLast? ≠ some 0) ∧
    (∃ latest, (fedIn history)[number]? = some (c.config, latest) ∧
      snapshot.view.body = (latest.map fun input => (c.config.trim input).text).getD "") ∧
    (snapshot.view.editing = false ↔ c.phase = .halted) ∧
    ∀ draft, c.draft = some draft → snapshot.post.body = c.sentBody := by
  intro here ids snapshot lost
  have numbered : c.id = ids.getLast?.getD 0 := id_of_happen fresh history found
  have shown : snapshot.view.id = if lost then 0 else c.id :=
    snapshot_id_happen fresh history found indexed
  have draft : snapshot.view.isDraft = true ↔ snapshot.view.id = 0 := by
    simp [PostView.isDraft]
  refine ⟨?_, fun gone => dropped_of_lost fresh history found gone.1 gone.2, ?_,
    remembered_happen fresh history found, ?_, ?_⟩
  · rw [shown]
    by_cases gone : lost
    · simpa [gone] using gone.1.symm
    · simp [gone]
  · by_cases gone : lost
    · have taken : ids ≠ [] := by
        intro none
        exact gone.1 (by rw [numbered, none]; rfl)
      simp [draft, shown, taken, gone]
    · rw [draft, shown, if_neg gone, numbered]
      cases last : ids.getLast? with
      | none => simp [List.getLast?_eq_none_iff.1 last, gone]
      | some id =>
        have taken : ids ≠ [] := by
          intro none
          simp [none] at last
        simp [taken, gone]
  · simp [snapshot, DraftView.view, Desk.snapshot, deskOf]
  · intro draft owned
    simpa [snapshot, Desk.snapshot, deskOf, owned] using
      (undelivered_happen fresh history found draft owned).1

/-- A composition has its id, and its post is registered. -/
theorem snapshot_agrees_for_registered_post :
    let page := Page.inMemory "a" 1
    let history : List (Int64 × PageAction) := [(0, .newComposer {}), (0, .compose 0 (.edit "a")),
      (1, .receive (ServerMessage.postId 10).frame)]
    page.composers = [] ∧ page.registry.Indexed ∧
    ∃ c, (page.happen history).1.composers[0]? = some c ∧
      ((page.happen history).1.deskOf c).snapshot.view.id = c.id ∧ c.id = 10 ∧
      (((page.happen history).1.deskOf c).snapshot.view.editing = false ↔ c.phase = .halted) := by
  intro page history
  have given : (page.happen history).1 = ((page.happen [(0, .newComposer {}),
      (0, .compose 0 (.edit "a"))]).1.receive Handlers.standard 1 (.postId 10)).page :=
    happen_frame (page.happen [(0, .newComposer {}), (0, .compose 0 (.edit "a"))]).1 1
      (by rintro ⟨⟩) rfl rfl []
  have known : ((page.happen history).1.composers[0]?).map Composer.id = some 10 := by
    rw [given]
    rfl
  have listed : (page.happen history).1.registry.contains 10 = true := by
    rw [given]
    rfl
  obtain ⟨c, found, id⟩ := Option.map_eq_some_iff.1 known
  obtain ⟨same, -, -, -, stillOpen, -⟩ :=
    snapshot_agrees_iff page rfl Registry.indexed_empty history found
  refine ⟨rfl, Registry.indexed_empty, c, found, same.2 ?_, id, stillOpen⟩
  rintro ⟨-, missing⟩
  rw [id, listed] at missing
  cases missing

/-- The post is dropped from the registry while it is composed: it looks like a draft without an id,
though the composition has its id and is open. -/
theorem lost_post_looks_like_draft :
    let here := ((Page.inMemory "a" 1).happen
      [(0, .newComposer {}), (0, .compose 0 (.edit "a")),
        (1, .receive (ServerMessage.postId 10).frame), (2, .drop 10)]).1
    here.composers.map (fun c =>
        (c.phase, c.id, (here.deskOf c).snapshot.view.id, (here.deskOf c).snapshot.view.isDraft))
      = [(.allocated, 10, 0, true)] := by
  intro here
  have given : here = (((((Page.inMemory "a" 1).happen
      [(0, .newComposer {}), (0, .compose 0 (.edit "a"))]).1.receive Handlers.standard 1
        (.postId 10)).page).happen [(2, .drop 10)]).1 :=
    happen_frame ((Page.inMemory "a" 1).happen
      [(0, .newComposer {}), (0, .compose 0 (.edit "a"))]).1 1 (by rintro ⟨⟩) rfl rfl
      [(2, .drop 10)]
  rw [given]
  rfl

end Page

end LiveThread
