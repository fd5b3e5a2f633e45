import LiveThread.Proofs.Composition.Closing
import LiveThread.Proofs.Page.OwnPost
import LiveThread.Proofs.Page.Silence

/-!
# Closed posts

A composition that is closed leaves a closed post behind, and one that gets its id after
that registers a closed post.  From then on no update opens the post, in whatever order
it comes, but a copy of the post does that the server made while the post was open.

Main results:

- Definition `Page.OwnClosed`: the own post counts as closed.
- Definition `Page.Reopens`: a step brings a copy of the own post that counts as open.
- Theorem `Desk.closing_abandons`: what a closed composition leaves behind.
- Theorem `Page.ownClosed_step`: a step without such a copy leaves the own post closed.
- Theorem `Page.stays_closed_iff`: the own post stays closed as long as no such copy comes.
-/

namespace LiveThread

/-! ## Compositions that were closed -/

/-- The actions by which an author closes a post. -/
def Action.Closes : Action → Prop
  | abandon | close _ => True
  | _ => False

/-- An action that closes a composition does so last. -/
theorem Desk.closing_abandons {τ : Type} [Transport τ] {desk : Desk (Logged τ)} {action : Action}
    (closes : action.Closes) (unfinished : desk.composer.phase ≠ .halted)
    (ended : (desk.perform action).2.composer.phase = .halted) :
    ∃ before : Account, (desk.perform action).2.account = before.abandoned := by
  cases action with
  | abandon => exact ⟨desk.account, (abandon_account desk).trans (if_neg unfinished)⟩
  | close input =>
    have still := edit_phase_ne_halted unfinished input
    simp only [perform] at ended ⊢
    rcases close_cases desk input with ⟨e, after, taken, closed⟩ | ⟨outcome, after, taken, rest⟩
    · rw [taken] at still
      rw [closed] at ended
      exact absurd ended still
    · rw [taken] at still
      rcases rest with ⟨halted, -⟩ | ⟨-, closed⟩ | ⟨-, ⟨last, closed, told⟩ | ⟨last, closed, same⟩⟩
      · exact absurd halted still
      · rw [closed]
        exact ⟨after.account, (abandon_account after).trans (if_neg still)⟩
      · rw [closed]
        exact ⟨_, told⟩
      · rw [closed] at ended
        have phase : last.composer.phase = after.composer.phase := congrArg (·.composer.phase) same
        exact absurd (phase.symm.trans ended) still
  | _ => cases closes

namespace Account

/-- The own post is registered, if the composition has an id. -/
def Listed (a : Account) : Prop :=
  a.composer.id ≠ 0 → (a.registry.get? a.composer.id).isSome

/-- The composition has ended, and the own post counts as closed. -/
def Closed (a : Account) : Prop :=
  a.composer.phase = .halted ∧
    (a.composer.id ≠ 0 → ∀ post, a.registry.get? a.composer.id = some post → post.editing = false)

/-- What was closed is closed. -/
theorem closed_abandoned (a : Account) : a.abandoned.Closed := by
  refine ⟨rfl, fun known post found => ?_⟩
  have known : a.composer.id ≠ 0 := known
  have found : (a.registry.modify a.composer.id fun post => { post with editing := false }).get?
      a.composer.id = some post := by
    simpa only [abandoned, if_neg known] using found
  rw [Registry.get?_modify, if_pos rfl] at found
  obtain ⟨before, -, rfl⟩ := Option.map_eq_some_iff.1 found
  rfl

end Account

section Moves

variable {action : Action} {a b : Account}

/-- Once the own post is registered it stays so. -/
theorem Move.keeps_listed (move : Move action a b) (listed : a.Listed) : b.Listed := by
  have abandoned : ∀ a : Account, a.Listed → a.abandoned.Listed := by
    intro a listed known
    have known : a.composer.id ≠ 0 := known
    simpa [Account.abandoned, known] using listed known
  cases move with
  | close => exact abandoned _ listed
  | abandon => exact abandoned _ listed
  | receiveId answer waiting =>
    intro known
    simp [Account.allocated, Desk.registeredPost]
  | mergeEcho answer known own =>
    intro _
    simpa [Account.merged, own] using own ▸ listed known
  | note | request | change | halt | hideImage | insertImage | forget => exact listed

/-- A closed post stays closed, unless a copy of it is merged that counts as open. -/
theorem Move.keeps_closed (move : Move action a b) (closed : a.Closed)
    (calm : ∀ data, action = .mergeEcho data → a.composer.id = data.id → data.editing = false) :
    b.Closed := by
  obtain ⟨halted, closed⟩ := closed
  cases move with
  | request _ _ draft => exact absurd (halted.symm.trans draft) (by rintro ⟨⟩)
  | change _ allocated => exact absurd (halted.symm.trans allocated) (by rintro ⟨⟩)
  | close asked => simp [halted] at asked
  | abandon unfinished => exact absurd halted unfinished
  | insertImage _ allocated => exact absurd (halted.symm.trans allocated) (by rintro ⟨⟩)
  | @receiveId ticket now id answer waiting =>
    refine ⟨by simp [Account.allocated, halted], fun known post found => ?_⟩
    have own : (Desk.registeredPost a.composer id now).id = id := rfl
    simp only [Account.allocated, Registry.get?_insert, own, if_true, Option.some.injEq] at found
    rw [← found]
    simp [Desk.registeredPost, halted, Phase.next?]
  | @mergeEcho data answer known own =>
    refine ⟨halted, fun _ post found => ?_⟩
    simp only [Account.merged, Registry.get?_modify, own, if_true] at found
    obtain ⟨before, -, rfl⟩ := Option.map_eq_some_iff.1 found
    exact calm data answer own
  | halt => exact ⟨rfl, closed⟩
  | note | hideImage | forget => exact ⟨halted, closed⟩

end Moves

/-! ## What reopens a post -/

/-- The copy of a post that a step brings, if it brings one. -/
def PageStep.copy? : PageStep → Option Post
  | .message (.insertPost data) | .action (.compose _ (.mergeEcho data)) => some data
  | _ => none

/-- What happens on a page that only its attached composition uses: frames arrive, the composition
acts, and the connection fails. -/
def PageAction.Serves (number : Nat) : PageAction → Prop
  | receive _ | fail _ => True
  | compose other _ => other = number
  | _ => False

/-- The same for steps. -/
def PageStep.Serves (number : Nat) : PageStep → Prop
  | .message _ | .action (.fail _) => True
  | .action (.compose other _) => other = number
  | _ => False

/-- The steps of such a history are such steps. -/
theorem serves_of_mem_stepsOf {number : Nat} {history : List (Int64 × PageAction)}
    (served : ∀ entry ∈ history, entry.2.Serves number) {entry : Int64 × PageStep}
    (mem : entry ∈ stepsOf history) : entry.2.Serves number := by
  obtain ⟨⟨now, action⟩, there, inside⟩ := List.mem_flatMap.1 mem
  obtain ⟨step, taken, rfl⟩ := List.mem_map.1 inside
  have serves : action.Serves number := served _ there
  cases action with
  | receive frame =>
    obtain ⟨m, -, rfl⟩ := List.mem_map.1 taken
    trivial
  | compose | fail =>
    obtain rfl := List.mem_singleton.1 taken
    exact serves
  | newComposer | addComposer | attach | detach | register | drop => cases serves

namespace Page

variable {τ : Type}

/-- The own post is registered, if there is one. -/
def OwnListed (page : Page τ) : Prop :=
  page.own ≠ 0 → (page.registry.get? page.own).isSome

/-- The own post counts as closed. -/
def OwnClosed (page : Page τ) : Prop :=
  page.own ≠ 0 → ∀ post, page.registry.get? page.own = some post → post.editing = false

/-- A step brings a copy of the own post that counts as open. -/
def Reopens (page : Page τ) (step : PageStep) : Prop :=
  page.own ≠ 0 ∧ ∃ data, step.copy? = some data ∧ data.id = page.own ∧ data.editing = true

variable [Transport τ] {page : Page (Logged τ)} {number : Nat}

/-! ## Actions of the composition -/

/-- The own post stays registered when the attached composition acts. -/
theorem ownListed_perform (attached : page.attached = some number) (listed : page.OwnListed)
    (action : Action) : (page.perform number action).OwnListed := by
  cases found : page.composers[number]? with
  | none => rwa [perform_of_none found]
  | some c =>
    have first : (page.deskOf c).account.Listed := by
      rwa [OwnListed, own_of_attached attached found] at listed
    rw [OwnListed, own_perform attached found, registry_perform found]
    exact Account.induct (P := Account.Listed) (Desk.perform_moves (page.deskOf c) action) first
      Move.keeps_listed

/-- The own post is closed when the attached composition is. -/
theorem ownClosed_of_closing (attached : page.attached = some number) {action : Action}
    (closes : action.Closes) (unfinished : ¬ page.HasEnded number)
    (ended : (page.perform number action).HasEnded number) :
    (page.perform number action).OwnClosed := by
  cases found : page.composers[number]? with
  | none =>
    rw [perform_of_none found] at ended
    exact absurd ended unfinished
  | some c =>
    obtain ⟨last, there, halted⟩ := ended
    rw [perform_composers_self found] at there
    obtain rfl := Option.some.inj there
    have talking : (page.deskOf c).composer.phase ≠ .halted := fun halted =>
      unfinished ⟨c, found, halted⟩
    obtain ⟨before, same⟩ := Desk.closing_abandons closes talking halted
    have closed : ((page.deskOf c).perform action).2.account.Closed := by
      rw [same]
      exact before.closed_abandoned
    rw [OwnClosed, own_perform attached found, registry_perform found]
    exact closed.2

/-- It stays so when the composition acts again, unless it merges a copy that counts as open. -/
theorem ownClosed_perform (attached : page.attached = some number) (ended : page.HasEnded number)
    (closed : page.OwnClosed) {action : Action}
    (calm : ¬ page.Reopens (.action (.compose number action))) :
    (page.perform number action).OwnClosed := by
  obtain ⟨c, found, halted⟩ := ended
  have own := own_of_attached attached found
  have first : (page.deskOf c).account.Closed := by
    rw [OwnClosed, own] at closed
    exact ⟨halted, closed⟩
  rw [OwnClosed, own_perform attached found, registry_perform found]
  by_cases merges : ∃ data, action = .mergeEcho data
  · obtain ⟨data, rfl⟩ := merges
    rcases Desk.mergeEcho_cases (page.deskOf c) data with
      ⟨known, mine, after, merged, same⟩ | ignored
    · have move : Move (.mergeEcho data) (page.deskOf c).account after.account := by
        rw [same]
        exact .mergeEcho rfl known mine
      have still := move.keeps_closed first fun other answer mine => by
        obtain rfl := Action.mergeEcho.inj answer
        rw [Bool.eq_false_iff]
        intro opened
        exact calm ⟨own ▸ known, data, rfl, own ▸ mine.symm, opened⟩
      simp only [Desk.perform, merged]
      exact still.2
    · simp only [Desk.perform, ignored]
      exact first.2
  · exact (Account.induct (P := Account.Closed) (Desk.perform_moves (page.deskOf c) action) first
      fun move closed => move.keeps_closed closed fun data same => absurd ⟨data, same⟩ merges).2

/-! ## Steps -/

/-- No step of such a history attaches another composition. -/
theorem attached_step {step : PageStep} (serves : step.Serves number) (now : Int64) :
    (page.step now step).1.attached = page.attached := by
  cases step with
  | message m => exact attached_receive now page m
  | action what =>
    cases what with
    | compose other action =>
      rw [step_compose]
      exact attached_perform page other action
    | fail reason => rfl
    | _ => cases serves

/-- The own post stays registered. -/
theorem ownListed_step (attached : page.attached = some number) {step : PageStep}
    (serves : step.Serves number) (listed : page.OwnListed) (now : Int64) :
    (page.step now step).1.OwnListed := by
  cases step with
  | message m =>
    simp only [step]
    by_cases answers : ∃ id, m = .postId id
    · obtain ⟨id, rfl⟩ := answers
      simp only [receive, receiveId_eq_perform, attached, Option.map_some, Option.getD_some]
      exact ownListed_perform attached listed _
    · obtain ⟨own, entries⟩ := receive_own now page (not_exists.1 answers)
      rw [OwnListed, own, entries]
      intro known
      split
      · exact Setting.isSome_entry _ _ (listed known)
      · exact listed known
  | action what =>
    cases what with
    | compose other action =>
      obtain rfl : other = number := serves
      rw [step_compose]
      exact ownListed_perform attached listed action
    | fail reason => exact listed
    | _ => cases serves

/-- A step without a copy that counts as open leaves the own post closed. -/
theorem ownClosed_step (attached : page.attached = some number) (ended : page.HasEnded number)
    (listed : page.OwnListed) {step : PageStep} (serves : step.Serves number)
    (closed : page.OwnClosed) (now : Int64) (calm : ¬ page.Reopens step) :
    (page.step now step).1.OwnClosed := by
  cases step with
  | message m =>
    simp only [step]
    by_cases answers : ∃ id, m = .postId id
    · obtain ⟨id, rfl⟩ := answers
      simp only [receive, receiveId_eq_perform, attached, Option.map_some, Option.getD_some]
      refine ownClosed_perform attached ended closed ?_
      rintro ⟨-, data, ⟨⟩, -⟩
    · obtain ⟨own, entries⟩ := receive_own now page (not_exists.1 answers)
      rw [OwnClosed, own, entries]
      intro known post found
      obtain ⟨before, there⟩ := Option.isSome_iff_exists.1 (listed known)
      have shut : before.editing = false := closed known before there
      rw [there] at found
      split at found
      · next about =>
        obtain rfl : page.setting.changed before m = post := Option.some.inj found
        rcases page.setting.changed_cases before m with ⟨data, rfl, -, merged⟩ | updated
        · rw [merged, Bool.eq_false_iff]
          intro opened
          exact calm ⟨known, data, rfl, Option.some.inj about, opened⟩
        · rw [Bool.eq_false_iff]
          intro opened
          rw [updated.editing opened] at shut
          cases shut
      · obtain rfl := Option.some.inj found
        exact shut
  | action what =>
    cases what with
    | compose other action =>
      obtain rfl : other = number := serves
      rw [step_compose]
      exact ownClosed_perform attached ended closed calm
    | fail reason => exact closed
    | _ => cases serves

/-- A copy that counts as open opens the own post. -/
theorem not_ownClosed_of_reopens (attached : page.attached = some number)
    (listed : page.OwnListed) {step : PageStep} (serves : step.Serves number) (now : Int64)
    (reopens : page.Reopens step) : ¬ (page.step now step).1.OwnClosed := by
  obtain ⟨known, data, brings, mine, opened⟩ := reopens
  obtain ⟨before, found⟩ := Option.isSome_iff_exists.1 (listed known)
  -- Both ways merge the copy into the registered post.
  have merged : (page.step now step).1.own = page.own ∧
      (page.step now step).1.registry = page.registry.modify data.id (·.mergeEcho data) := by
    unfold PageStep.copy? at brings
    split at brings <;> cases brings
    · exact receive_insertPost now known mine.symm (by rw [mine, found]; rfl)
    · obtain rfl := serves
      rw [step_compose]
      exact perform_mergeEcho attached known mine.symm
  intro closed
  rw [OwnClosed, merged.1, merged.2] at closed
  have there : (page.registry.modify data.id (·.mergeEcho data)).get? page.own
      = some (before.mergeEcho data) := by
    rw [Registry.get?_modify, if_pos mine.symm, mine, found, Option.map_some]
  have shut : (before.mergeEcho data).editing = false := closed known _ there
  exact absurd (opened.symm.trans shut) (by rintro ⟨⟩)

/-! ## Histories -/

/-- A step leads no composition out of its end. -/
theorem HasEnded.step (ended : page.HasEnded number) (now : Int64) (step : PageStep) :
    (page.step now step).1.HasEnded number := by
  cases step with
  | message m => exact ended.deeds (receive_deeds Handlers.standard_restrained now page m).1
  | action action => exact ended.deeds (act_deeds Handlers.standard_restrained now page action)

/-- A composition is attached, and its post is registered if it has an id. -/
structure Serving (page : Page τ) (number : Nat) : Prop where
  attached : page.attached = some number
  listed : page.OwnListed

/-- A step serves the composition on. -/
theorem Serving.step (serving : page.Serving number) {step : PageStep}
    (serves : step.Serves number) (now : Int64) : (page.step now step).1.Serving number where
  attached := (attached_step serves now).trans serving.attached
  listed := ownListed_step serving.attached serves serving.listed now

/-- So do the steps of a history. -/
theorem Serving.follow (serving : page.Serving number) {steps : List (Int64 × PageStep)}
    (served : ∀ entry ∈ steps, entry.2.Serves number) : (page.follow steps).1.Serving number :=
  follow_induct (P := (Serving · number)) (fun _ now _ serves serving => serving.step serves now)
    serving served

/-- The own post of a composition that was closed stays closed through steps without a copy that
counts as open. -/
theorem ownClosed_follow (serving : page.Serving number) (ended : page.HasEnded number)
    (closed : page.OwnClosed) {steps : List (Int64 × PageStep)}
    (served : ∀ entry ∈ steps, entry.2.Serves number)
    (calm : ∀ past now step rest, steps = past ++ (now, step) :: rest →
      ¬ (page.follow past).1.Reopens step) :
    (page.follow steps).1.OwnClosed := by
  induction steps generalizing page with
  | nil => exact closed
  | cons entry steps ih =>
    obtain ⟨now, step⟩ := entry
    have serves : step.Serves number := served (now, step) List.mem_cons_self
    have still : (page.step now step).1.OwnClosed :=
      ownClosed_step serving.attached ended serving.listed serves closed now
        (calm [] now step steps rfl)
    refine ih (serving.step serves now) (ended.step now step) still
      (fun entry mem => served entry (List.mem_cons_of_mem _ mem))
      fun past later what rest parts => ?_
    exact calm ((now, step) :: past) later what rest (by rw [parts]; rfl)

/-- Take a composition that is begun on any page, and any history in which only that composition
acts and frames arrive.  Once the composition was closed by its author, its post is closed at every
moment, before and after the id arrives, exactly as long as no copy of the post arrives that counts
as open. -/
theorem stays_closed_iff (page : Page (Logged τ)) (config : ComposerConfig) (begun : Int64)
    (before after : List (Int64 × PageAction)) (closing : Action)
    (served : ∀ entry ∈ before ++ after, entry.2.Serves page.composers.length)
    (closes : closing.Closes)
    (unfinished :
      ¬ ((page.newComposer config begun).happen before).1.HasEnded page.composers.length)
    (ended : (((page.newComposer config begun).happen before).1.perform page.composers.length
      closing).HasEnded page.composers.length) :
    let closed := ((page.newComposer config begun).happen before).1.perform page.composers.length
      closing
    (closed.happen after).1 = (closed.follow (stepsOf after)).1 ∧
    ((∀ past rest, stepsOf after = past ++ rest → (closed.follow past).1.OwnClosed) ↔
      ∀ past now step rest, stepsOf after = past ++ (now, step) :: rest →
        ¬ (closed.follow past).1.Reopens step) := by
  intro closed
  have first : (page.newComposer config begun).Serving page.composers.length := by
    refine ⟨rfl, fun known => absurd ?_ known⟩
    simp [own, newComposer, attach, addComposer, Composer.new]
  have opened :
      ((page.newComposer config begun).happen before).1.Serving page.composers.length := by
    rw [happen_eq_follow]
    exact first.follow fun entry mem =>
      serves_of_mem_stepsOf (fun a mem => served a (List.mem_append_left _ mem)) mem
  have serving : closed.Serving page.composers.length :=
    ⟨(attached_perform _ _ _).trans opened.attached,
      ownListed_perform opened.attached opened.listed closing⟩
  have later : ∀ entry ∈ stepsOf after, entry.2.Serves page.composers.length := fun entry mem =>
    serves_of_mem_stepsOf (fun a mem => served a (List.mem_append_right _ mem)) mem
  refine ⟨congrArg Prod.fst (happen_eq_follow closed after),
    fun shut past now step rest parts => ?_, fun calm past rest parts => ?_⟩
  · intro reopens
    have mem : ∀ entry ∈ past ++ [(now, step)], entry ∈ stepsOf after := by
      intro entry mem
      rw [parts, List.append_cons]
      exact List.mem_append_left _ mem
    have here : (closed.follow past).1.Serving page.composers.length :=
      serving.follow fun entry inside => later entry (mem entry (List.mem_append_left _ inside))
    have next := shut (past ++ [(now, step)]) rest (by rw [parts, List.append_cons])
    rw [follow_concat] at next
    exact not_ownClosed_of_reopens here.attached here.listed
      (later _ (mem (now, step) (by simp))) now reopens next
  · have shut := ownClosed_of_closing opened.attached closes unfinished ended
    refine ownClosed_follow serving ended shut (fun entry mem => later entry ?_) ?_
    · rw [parts]
      exact List.mem_append_left _ mem
    · rintro past now step others rfl
      exact calm past now step (others ++ rest) (by rw [parts, List.append_assoc]; rfl)

/-- A post is closed before its id arrives, and then grows. -/
theorem stays_closed_with_late_id :
    let closed := (((Page.inMemory "a" 1).newComposer {} 0).happen
      [(0, .compose 0 (.edit "x"))]).1.perform 0 (.close "x")
    ∃ post, (closed.happen [(1, .receive (ServerMessage.postId 10).frame),
        (2, .receive (ServerMessage.append 10 99).frame)]).1.registry.get? 10 = some post ∧
      post.body = "xc" ∧ post.editing = false := by
  intro closed
  have brings : stepsOf [(1, .receive (ServerMessage.postId 10).frame),
      (2, .receive (ServerMessage.append 10 99).frame)]
      = [(1, .message (.postId 10)), (2, .message (.append 10 99))] := by
    simp only [stepsOf, List.flatMap_cons, List.flatMap_nil]
    rw [PageAction.steps_frame (by rintro ⟨⟩) rfl rfl,
      PageAction.steps_frame (by rintro ⟨⟩) rfl rfl]
    rfl
  obtain ⟨follows, stays⟩ := stays_closed_iff (Page.inMemory "a" 1) {} 0
    [(0, .compose 0 (.edit "x"))]
    [(1, .receive (ServerMessage.postId 10).frame),
      (2, .receive (ServerMessage.append 10 99).frame)]
    (.close "x") (by simp [PageAction.Serves, Page.inMemory]) trivial
    (by rintro ⟨c, found, halted⟩; cases found; cases halted) ⟨_, rfl, rfl⟩
  have shut := stays.2 (by
    rw [brings]
    rintro past now step rest parts ⟨-, data, copy, -⟩
    have mem : (now, step) ∈ [((1 : Int64), PageStep.message (.postId 10)),
        (2, .message (.append 10 99))] := by
      rw [parts]
      simp
    simp only [List.mem_cons, Prod.mk.injEq, List.not_mem_nil, or_false] at mem
    rcases mem with ⟨-, rfl⟩ | ⟨-, rfl⟩ <;> cases copy) _ [] (List.append_nil _).symm
  rw [brings] at follows shut
  have follows : (closed.happen _).1 = (closed.follow _).1 := follows
  rw [follows]
  have grown : ∃ post, (closed.follow
      [(1, .message (.postId 10)), (2, .message (.append 10 99))]).1.registry.get? 10 = some post ∧
      post.body = "xc" := ⟨_, rfl, rfl⟩
  obtain ⟨post, found, body⟩ := grown
  have known : (10 : UInt64) ≠ 0 := by decide
  exact ⟨post, found, body, shut known post found⟩

/-- A copy of a closed post that the server made while it was open opens it again. -/
theorem copy_reopens_closed_post :
    let closed := (((Page.inMemory "a" 1).newComposer {} 0).happen
      [(0, .compose 0 (.edit "x"))]).1.perform 0 (.close "x")
    let before := (closed.happen [(1, .receive (ServerMessage.postId 10).frame)]).1
    let after := (before.happen
      [(2, .receive (ServerMessage.insertPost { id := 10, editing := true }).frame)]).1
    closed.HasEnded 0 ∧ after.HasEnded 0 ∧
      (before.registry.get? 10).map Post.editing = some false ∧
      (after.registry.get? 10).map Post.editing = some true := by
  intro closed before after
  have given : before = (closed.receive Handlers.standard 1 (.postId 10)).page :=
    happen_frame closed 1 (by rintro ⟨⟩) rfl rfl []
  have opened : after = (before.receive Handlers.standard 2
      (.insertPost { id := 10, editing := true })).page :=
    happen_frame before 2 (by rintro ⟨⟩) rfl rfl []
  rw [opened, given]
  exact ⟨⟨_, rfl, rfl⟩, ⟨_, rfl, rfl⟩, rfl, rfl⟩

end Page

end LiveThread
