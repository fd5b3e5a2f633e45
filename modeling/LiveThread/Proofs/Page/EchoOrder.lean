import LiveThread.Proofs.Composition.Requests
import LiveThread.Proofs.Page.OwnPost

/-!
# The answer and the announcement

A request for an id is answered twice: by the id, and by the announcement of the post.  If
the id comes first, the announcement is merged into the post that the composition handed
over.  If it comes second, the announced post is replaced by that of the composition, and
what only the announcement said is lost, the image above all.

Main results:

- Definition `Composer.Unanswered`: what a composition knows before it is answered.
- Theorem `Page.receiveId_then_insertPost`: the page when the id comes first.
- Theorem `Page.insertPost_then_receiveId`: the page when the announcement comes first.
- Theorem `Page.answers_commute_iff`: the order matters unless the announcement adds nothing.
-/

namespace LiveThread

/-! ## Before the answer -/

/-- Until it is answered a composition knows what its author did and nothing else: its post is a
draft of its thread, and it knows of no image. -/
structure Composer.Unanswered (c : Composer) : Prop where
  coherent : c.Coherent
  blank : ∀ post, c.draft = some post →
    ∃ begun, post = { Post.draft c.thread c.board begun with body := post.body }
  imageless : c.phase = .draft ∨ c.phase = .allocating → c.hasImage = false

/-- A new composition knows nothing. -/
theorem Composer.new_unanswered (config : ComposerConfig) (board : String) (thread : UInt64)
    (now : Int64) : (Composer.new config board thread now).Unanswered where
  coherent := Composer.new_coherent config board thread now
  blank := by
    rintro post ⟨⟩
    exact ⟨now, rfl⟩
  imageless := fun _ => rfl

/-- No move tells a composition more before it is answered. -/
theorem Move.keeps_unanswered {action : Action} {a b : Account} (move : Move action a b)
    (h : a.composer.Unanswered) : b.composer.Unanswered := by
  refine ⟨move.keeps_coherent h.coherent, ?_, ?_⟩
  · cases move with
    | request image given draft free =>
      intro post owned
      simp only [Account.attaching, Account.requested] at owned ⊢
      split at owned
      · exact h.blank post owned
      · obtain ⟨before, there, rfl⟩ := Option.map_eq_some_iff.1 owned
        obtain ⟨begun, blank⟩ := h.blank before there
        exact ⟨begun, by rw [blank]⟩
    | close | abandon | receiveId => rintro post ⟨⟩
    | note | change | halt | hideImage | insertImage | forget | mergeEcho => exact h.blank
  · cases move with
    | request image given draft free => exact fun _ => h.imageless (.inl draft)
    | close | abandon | halt => rintro (phase | phase) <;> cases phase
    | @receiveId ticket now id answer waiting =>
      rcases h.coherent.waiting (by rw [waiting]; rfl) with phase | phase <;>
        simp [Account.allocated, phase, Phase.after, Phase.next?]
    | mergeEcho answer known own =>
      rintro (phase | phase)
      · exact absurd (h.coherent.draft phase).1 known
      · exact absurd (h.coherent.allocating phase).2 known
    | note | change | hideImage | insertImage | forget => exact h.imageless

/-- The post that the registry gets from a composition that waits. -/
theorem Composer.Unanswered.registeredPost_eq {c : Composer} (h : c.Unanswered)
    (waits : c.phase = .allocating) (id : UInt64) :
    ∃ draft, c.draft = some draft ∧ ∀ now, Desk.registeredPost c id now
      = { Post.draft c.thread c.board draft.time with
          id := id, body := c.sentBody, seenOnce := true } := by
  obtain ⟨draft, owned, -⟩ := h.coherent.owned (.inr waits)
  obtain ⟨begun, blank⟩ := h.blank draft owned
  refine ⟨draft, owned, fun now => ?_⟩
  simp only [Desk.registeredPost, owned, Option.getD_some, waits, Phase.next?, Option.isSome_some,
    Bool.true_and]
  rw [blank]
  rfl

/-- A composition that was answered by an id. -/
def Composer.answered (c : Composer) (id : UInt64) (image : Bool) : Composer :=
  { c with phase := .allocated, draft := none, id := id, hasImage := image, ticket := none }

namespace Page

variable {τ : Type} {page : Page τ} {number : Nat} {c : Composer} {copy : Post}

/-- On a page that started without compositions all of them are compositions of its thread, and know
nothing until they are answered. -/
theorem unanswered_happen [Transport τ] {page : Page (Logged τ)} (fresh : page.composers = [])
    (history : List (Int64 × PageAction)) :
    (page.happen history).1.Peopled
      (fun c => c.Unanswered ∧ c.board = page.board ∧ c.thread = page.thread)
      page.board page.thread := by
  have start : page.Peopled
      (fun c => c.Unanswered ∧ c.board = page.board ∧ c.thread = page.thread)
      page.board page.thread := ⟨rfl, rfl, by simp [fresh]⟩
  refine start.happen (fun move h => ?_) (fun config now => ?_) history
  · obtain ⟨board, thread⟩ := move.place_eq
    exact ⟨move.keeps_unanswered h.1, board.trans h.2.1, thread.trans h.2.2⟩
  · exact ⟨Composer.new_unanswered config page.board page.thread now, rfl, rfl⟩

/-! ## Single answers -/

/-- An announcement of the own post, when it is registered. -/
theorem insertPost_of_own (attached : page.attached = some number)
    (found : page.composers[number]? = some c) (known : c.id ≠ 0) (mine : c.id = copy.id)
    (listed : page.registry.contains copy.id = true) :
    (page.insertPost copy).page
      = { page with
          registry := page.registry.modify copy.id (·.mergeEcho copy)
          composers := page.composers.set number
            { c with hasImage := c.hasImage || copy.image.isSome } } := by
  have merged : page.atAttached (·.mergeEcho copy)
      = (some true, { page with
          registry := page.registry.modify copy.id (·.mergeEcho copy)
          composers := page.composers.set number
            { c with hasImage := c.hasImage || copy.image.isSome } }) := by
    have own : ¬ (c.id = 0 ∨ c.id ≠ copy.id) := by
      rintro (unknown | other)
      · exact known unknown
      · exact other mine
    simp [atAttached, attached, atComposer, desk?, found, Desk.mergeEcho, own, listed, putDesk]
  simp only [insertPost, merged, tell]

/-- No composition merges the copy of another post. -/
theorem mergeEcho_of_foreign (foreign : ¬ (page.own ≠ 0 ∧ page.own = copy.id)) :
    ∃ heard, heard ≠ some true ∧ page.atAttached (·.mergeEcho copy) = (heard, page) := by
  cases attached : page.attached with
  | none => exact ⟨none, by rintro ⟨⟩, by simp [atAttached, attached]⟩
  | some number =>
    cases found : page.composers[number]? with
    | none => exact ⟨none, by rintro ⟨⟩, by simp [atAttached, attached, atComposer, desk?, found]⟩
    | some c =>
      rw [own_of_attached attached found] at foreign
      have other : c.id = 0 ∨ c.id ≠ copy.id := by tauto
      have same := putDesk_deskOf found
      simp only [deskOf] at same
      refine ⟨some false, by rintro ⟨⟩, ?_⟩
      simp [atAttached, attached, atComposer, desk?, found, Desk.mergeEcho, other, same]

/-- An announcement of a post that is neither registered nor known to be the own one. -/
theorem insertPost_of_new (foreign : ¬ (page.own ≠ 0 ∧ page.own = copy.id))
    (new : page.registry.get? copy.id = none) :
    (page.insertPost copy).page
      = { page with registry := page.registry.insert (page.announcedPost copy) } := by
  obtain ⟨heard, passed, same⟩ := mergeEcho_of_foreign foreign
  have unlisted : page.registry.contains copy.id = false := by simp [Registry.contains, new]
  unfold insertPost
  rw [same]
  split
  · next merged => exact absurd (congrArg Prod.fst merged) passed
  · next other =>
    cases other
    simp only [unlisted, Bool.false_eq_true, if_false]

/-- The answer to a request of the attached composition. -/
theorem receiveId_of_allocating {ticket : Ticket} {post : Post}
    (attached : page.attached = some number) (found : page.composers[number]? = some c)
    (waits : c.phase = .allocating) (waiting : c.ticket = some ticket)
    (imageless : c.hasImage = false) {now : Int64} {id : UInt64}
    (given : Desk.registeredPost c id now = post) :
    (page.receiveId now id).page
      = { page with
          registry := page.registry.insert post
          composers := page.composers.set number (c.answered id ticket.carriesImage) } := by
  rw [receiveId_of_waiting attached found waiting]
  simp [putDesk, deskOf, Desk.receiveId, waiting, given, waits, Phase.after, Phase.next?, imageless,
    Composer.answered]

/-! ## Both answers -/

section BothOrders

variable [Transport τ] {ticket : Ticket} {post : Post} {id : UInt64} {first second : Int64}

/-- When the id comes first, the announcement is merged into the post that was handed over. -/
theorem receiveId_then_insertPost (attached : page.attached = some number)
    (found : page.composers[number]? = some c) (waits : c.phase = .allocating)
    (waiting : c.ticket = some ticket) (imageless : c.hasImage = false) (known : id ≠ 0)
    (same : copy.id = id) (own : post.id = id)
    (given : Desk.registeredPost c id first = post) :
    ((page.receive Handlers.standard first (.postId id)).page.receive Handlers.standard second
        (.insertPost copy)).page
      = { page with
          registry := page.registry.insert (post.mergeEcho copy)
          composers := page.composers.set number
            (c.answered id (ticket.carriesImage || copy.image.isSome)) } := by
  obtain ⟨between, answered⟩ : ∃ between,
      (page.receive Handlers.standard first (.postId id)).page = between := ⟨_, rfl⟩
  have state : between = { page with
      registry := page.registry.insert post
      composers := page.composers.set number (c.answered id ticket.carriesImage) } :=
    answered.symm.trans
      (receiveId_of_allocating attached found waits waiting imageless given)
  obtain ⟨inside, -⟩ := List.getElem?_eq_some_iff.1 found
  have still : between.attached = some number := by rw [state, attached]
  have there : between.composers[number]? = some (c.answered id ticket.carriesImage) := by
    simp [state, inside]
  have listed : between.registry.contains copy.id = true := by
    simp [state, Registry.contains, same, own]
  have merged : (page.registry.insert post).modify copy.id (·.mergeEcho copy)
      = page.registry.insert (post.mergeEcho copy) := by
    refine Registry.ext_get? fun other => ?_
    have target : (post.mergeEcho copy).id = copy.id := rfl
    rw [Registry.get?_modify, Registry.get?_insert, Registry.get?_insert, Registry.get?_insert,
      target, own, same, if_pos rfl, Option.map_some]
    split <;> rfl
  rw [answered]
  calc (between.receive Handlers.standard second (.insertPost copy)).page
      = (between.insertPost copy).page := rfl
    _ = { between with
          registry := between.registry.modify copy.id (·.mergeEcho copy)
          composers := between.composers.set number
            (c.answered id (ticket.carriesImage || copy.image.isSome)) } :=
        insertPost_of_own still there known same.symm listed
    _ = _ := by simp only [state, merged, List.set_set]

/-- When the announcement comes first, the announced post is replaced by the one that is handed
over. -/
theorem insertPost_then_receiveId (attached : page.attached = some number)
    (found : page.composers[number]? = some c) (waits : c.phase = .allocating)
    (waiting : c.ticket = some ticket) (imageless : c.hasImage = false) (nameless : c.id = 0)
    (same : copy.id = id) (own : post.id = id) (new : page.registry.get? id = none)
    (given : Desk.registeredPost c id second = post) :
    ((page.receive Handlers.standard first (.insertPost copy)).page.receive Handlers.standard second
        (.postId id)).page
      = { page with
          registry := page.registry.insert post
          composers := page.composers.set number (c.answered id ticket.carriesImage) } := by
  have foreign : ¬ (page.own ≠ 0 ∧ page.own = copy.id) := by
    rw [own_of_attached attached found]
    exact fun both => both.1 nameless
  obtain ⟨between, announced⟩ : ∃ between,
      (page.receive Handlers.standard first (.insertPost copy)).page = between := ⟨_, rfl⟩
  have state : between
      = { page with registry := page.registry.insert (page.announcedPost copy) } :=
    announced.symm.trans (insertPost_of_new foreign (by rw [same, new]))
  have still : between.attached = some number := by rw [state, attached]
  have there : between.composers[number]? = some c := by rw [state, found]
  have replaced : (page.registry.insert (page.announcedPost copy)).insert post
      = page.registry.insert post := by
    refine Registry.ext_get? fun other => ?_
    have target : (page.announcedPost copy).id = id := same
    simp only [Registry.get?_insert, target, own]
    split <;> rfl
  rw [announced]
  calc (between.receive Handlers.standard second (.postId id)).page
      = (between.receiveId second id).page := rfl
    _ = { between with
          registry := between.registry.insert post
          composers := between.composers.set number (c.answered id ticket.carriesImage) } :=
        receiveId_of_allocating still there waits waiting imageless given
    _ = _ := by simp only [state, replaced]

end BothOrders

/-! ## Whether the order matters -/

/-- Take the attached composition of a page that any history has led to, while it waits for its id,
and an id and an announcement of the same post, which is new.  Whichever comes first, the
composition gets the id, and nothing else changes but its post.  The announcement is merged into the
post if it comes second, and it is lost with its image if it comes first; so the order does not
matter exactly if the announcement adds nothing to the post. -/
theorem answers_commute_iff [Transport τ] (page : Page (Logged τ)) (fresh : page.composers = [])
    (history : List (Int64 × PageAction)) (first second third fourth : Int64) {copy : Post}
    (attached : (page.happen history).1.attached = some number)
    (found : (page.happen history).1.composers[number]? = some c)
    (waits : c.phase = .allocating) (known : copy.id ≠ 0)
    (new : (page.happen history).1.registry.get? copy.id = none) :
    let here := (page.happen history).1
    let idFirst := ((here.receive Handlers.standard first (.postId copy.id)).page.receive
      Handlers.standard second (.insertPost copy)).page
    let copyFirst := ((here.receive Handlers.standard third (.insertPost copy)).page.receive
      Handlers.standard fourth (.postId copy.id)).page
    ∃ ticket draft, c.ticket = some ticket ∧ c.draft = some draft ∧
      let post : Post := { Post.draft page.thread page.board draft.time with
        id := copy.id, body := c.sentBody, seenOnce := true }
      idFirst = { here with
        registry := here.registry.insert (post.mergeEcho copy)
        composers := here.composers.set number
          (c.answered copy.id (ticket.carriesImage || copy.image.isSome)) } ∧
      copyFirst = { here with
        registry := here.registry.insert post
        composers := here.composers.set number (c.answered copy.id ticket.carriesImage) } ∧
      (idFirst.registry.get? copy.id).bind Post.image = copy.image ∧
      (copyFirst.registry.get? copy.id).bind Post.image = none ∧
      (idFirst = copyFirst ↔ post.mergeEcho copy = post) := by
  intro here idFirst copyFirst
  obtain ⟨unanswered, board, thread⟩ :=
    (unanswered_happen fresh history).all c (List.mem_of_getElem? found)
  obtain ⟨waiting, nameless⟩ := unanswered.coherent.allocating waits
  obtain ⟨ticket, waiting⟩ := Option.isSome_iff_exists.1 waiting
  obtain ⟨draft, owned, given⟩ := unanswered.registeredPost_eq waits copy.id
  rw [board, thread] at given
  refine ⟨ticket, draft, waiting, owned, ?_⟩
  intro post
  have given : ∀ now, Desk.registeredPost c copy.id now = post := given
  have own : post.id = copy.id := rfl
  have imageless := unanswered.imageless (.inr waits)
  have one : idFirst = _ := receiveId_then_insertPost attached found waits waiting imageless known
    rfl own (given first)
  have other : copyFirst = _ := insertPost_then_receiveId attached found waits waiting imageless
    nameless rfl own new (given fourth)
  have merged : idFirst.registry.get? copy.id = some (post.mergeEcho copy) := by
    have target : (post.mergeEcho copy).id = copy.id := rfl
    rw [one, Registry.get?_insert, target, if_pos rfl]
  have handed : copyFirst.registry.get? copy.id = some post := by
    rw [other, Registry.get?_insert, own, if_pos rfl]
  refine ⟨one, other, ?_, ?_, fun same => ?_, fun same => ?_⟩
  · rw [merged]
    rfl
  · rw [handed]
    rfl
  · rw [same, handed] at merged
    exact (Option.some.inj merged).symm
  · -- A post without an image gets none by a copy that adds nothing.
    have image : copy.image = none := congrArg Post.image same
    rw [one, other, same, image]
    simp

/-- The announcement of a post that says what was asked for may come before the id or after it. -/
theorem answers_commute_for_plain_text :
    let here := ((Page.inMemory "a" 1).happen
      [(5, .newComposer {}), (5, .compose 0 (.edit "hi"))]).1
    let copy : Post := { id := 10, time := 5, editing := true, body := "hi" }
    ((here.receive Handlers.standard 6 (.postId copy.id)).page.receive Handlers.standard 7
        (.insertPost copy)).page
      = ((here.receive Handlers.standard 6 (.insertPost copy)).page.receive Handlers.standard 7
        (.postId copy.id)).page := by
  intro here copy
  have found : ∃ c : Composer, here.composers[0]? = some c ∧ c.phase = .allocating ∧
      c.sentBody = "hi" ∧ c.draft = some { Post.draft 1 "a" 5 with body := "hi" } :=
    ⟨_, rfl, rfl, rfl, rfl⟩
  obtain ⟨c, found, waits, body, draft⟩ := found
  have new : here.registry.get? copy.id = none := rfl
  have known : copy.id ≠ 0 := by decide
  have attached : here.attached = some 0 := rfl
  obtain ⟨ticket, post, -, owned, -, -, -, -, same⟩ := answers_commute_iff (Page.inMemory "a" 1) rfl
    _ 6 7 6 7 attached found waits known new
  obtain rfl : { Post.draft 1 "a" 5 with body := "hi" } = post :=
    Option.some.inj (draft.symm.trans owned)
  refine same.2 ?_
  rw [body]
  rfl

/-- The announcement of a post with an image comes before its id.  The image is lost, and the
composition still counts on it. -/
theorem early_announcement_loses_image :
    let here := ((Page.inMemory "a" 1).happen
      [(0, .newComposer {}), (0, .compose 0 (.upload (some ⟨"t", "cat.png", false⟩)))]).1
    let copy : Post := { id := 10, editing := true, image := some { name := "cat.png" } }
    let idFirst := (here.happen [(1, .receive (ServerMessage.postId 10).frame),
      (2, .receive (ServerMessage.insertPost copy).frame)]).1
    let copyFirst := (here.happen [(1, .receive (ServerMessage.insertPost copy).frame),
      (2, .receive (ServerMessage.postId 10).frame)]).1
    (idFirst.registry.get? 10).bind Post.image = some { name := "cat.png" } ∧
      (copyFirst.registry.get? 10).map Post.image = some none ∧
      copyFirst.composers.map Composer.hasImage = [true] := by
  intro here copy idFirst copyFirst
  have first : idFirst = ((here.receive Handlers.standard 1 (.postId 10)).page.receive
      Handlers.standard 2 (.insertPost copy)).page :=
    (happen_frame _ 1 (by rintro ⟨⟩) rfl rfl _).trans (happen_frame _ 2 (by rintro ⟨⟩) rfl rfl [])
  have second : copyFirst = ((here.receive Handlers.standard 1 (.insertPost copy)).page.receive
      Handlers.standard 2 (.postId 10)).page :=
    (happen_frame _ 1 (by rintro ⟨⟩) rfl rfl _).trans (happen_frame _ 2 (by rintro ⟨⟩) rfl rfl [])
  rw [first, second]
  exact ⟨rfl, rfl, rfl⟩

end Page

end LiveThread
