import LiveThread.Proofs.Page.OwnPost

/-!
# Late copies of the own post

The server announces a post with a copy of it, and the copy of the own post is merged into
the registered one.  It may come late, when the registered post has gone on.  Then the
thread, the board, the body and the id survive a copy that says nothing about them, but
whatever else the copy does not know is lost.

Main results:

- Definition `Post.Keeps`: nothing is lost that a copy does not know.
- Definition `Post.UpToDate`: a copy knows everything that it would take away.
- Theorem `Post.keeps_mergeEcho_iff`: nothing is lost exactly if the copy is up to date.
- Theorem `Page.late_copy_keeps_iff`: that is so for the own post after every history.
-/

namespace LiveThread

namespace Post

/-! ## What a copy may take away -/

/-- Of a post that is replaced on account of a copy nothing is lost: its body and its moderation log
are those of later updates, and the copy speaks only for what it mentions. -/
structure Keeps (post copy after : Post) : Prop where
  id : after.id = post.id
  seenOnce : after.seenOnce = post.seenOnce
  op : copy.op = 0 → after.op = post.op
  board : copy.board = "" → after.board = post.board
  body : post.body ≠ "" → after.body = post.body
  moderation : post.moderation.Sublist after.moderation
  image : copy.image = none → after.image = post.image
  links : copy.links = [] → after.links = post.links
  commands : copy.commands = [] → after.commands = post.commands

/-- A copy has the body, the whole moderation log, and something of every kind that the post has. -/
structure UpToDate (post copy : Post) : Prop where
  body : post.body ≠ "" → copy.body ≠ "" → copy.body = post.body
  moderation : post.moderation.Sublist copy.moderation
  image : copy.image = none → post.image = none
  links : copy.links = [] → post.links = []
  commands : copy.commands = [] → post.commands = []

variable {post copy after : Post}

/-- By merging a copy nothing is lost exactly if the copy is up to date. -/
theorem keeps_mergeEcho_iff (own : post.id = copy.id) :
    post.Keeps copy (post.mergeEcho copy) ↔ post.UpToDate copy := by
  constructor
  · intro keeps
    refine ⟨fun typed speaks => ?_, keeps.moderation, fun silent => ?_, fun silent => ?_,
      fun silent => ?_⟩
    · have body := keeps.body typed
      simpa [mergeEcho, speaks] using body
    · exact (keeps.image silent).symm.trans silent
    · exact (keeps.links silent).symm.trans silent
    · exact (keeps.commands silent).symm.trans silent
  · intro current
    refine ⟨own.symm, rfl, fun silent => if_pos silent, fun silent => if_pos silent,
      fun typed => ?_, current.moderation, fun silent => silent.trans (current.image silent).symm,
      fun silent => silent.trans (current.links silent).symm,
      fun silent => silent.trans (current.commands silent).symm⟩
    by_cases speaks : copy.body = ""
    · exact if_pos speaks
    · exact (if_neg speaks).trans (current.body typed speaks)

end Post

namespace Page

variable {τ : Type} [Transport τ]

/-! ## Copies that arrive -/

/-- After every history, on a page that started with posts under their own ids: a copy of the own
post, whether it is announced or given to the attached composition, changes that post only.  The id
survives, that the post was shown, and thread, board and body of which the copy says nothing; an
image that the copy brings arrives.
Nothing else that the copy does not know is lost exactly if the copy is up to date. -/
theorem late_copy_keeps_iff (page : Page (Logged τ)) (indexed : page.registry.Indexed)
    (history : List (Int64 × PageAction)) (now : Int64) {number : Nat} {copy post : Post}
    (attached : (page.happen history).1.attached = some number)
    (known : (page.happen history).1.own ≠ 0) (mine : (page.happen history).1.own = copy.id)
    (found : (page.happen history).1.registry.get? copy.id = some post) :
    let here := (page.happen history).1
    let announced := (here.receive Handlers.standard now (.insertPost copy)).page.registry
    announced = (here.perform number (.mergeEcho copy)).registry ∧
    (∀ id, id ≠ copy.id → announced.get? id = here.registry.get? id) ∧
    ∃ after, announced.get? copy.id = some after ∧
      after.id = post.id ∧ after.seenOnce = post.seenOnce ∧
      (copy.op = 0 → after.op = post.op) ∧ (copy.board = "" → after.board = post.board) ∧
      (copy.body = "" → after.body = post.body) ∧ (copy.image.isSome → after.image = copy.image) ∧
      (post.Keeps copy after ↔ post.UpToDate copy) := by
  intro here announced
  obtain ⟨-, given⟩ := perform_mergeEcho attached known mine
  obtain ⟨-, merged⟩ := receive_insertPost now known mine
    (Option.isSome_iff_exists.2 ⟨post, found⟩)
  have merged : announced = here.registry.modify copy.id (·.mergeEcho copy) := merged
  have own : post.id = copy.id := indexed_happen indexed history copy.id post found
  refine ⟨merged.trans given.symm, fun id other => ?_, post.mergeEcho copy, ?_, own.symm, rfl,
    fun silent => if_pos silent, fun silent => if_pos silent, fun silent => if_pos silent,
    fun _ => rfl, Post.keeps_mergeEcho_iff own⟩
  · rw [merged, Registry.get?_modify, if_neg other]
  · rw [merged, Registry.get?_modify, if_pos rfl, found, Option.map_some]

/-- A copy brings the image of a post that has grown meanwhile. -/
theorem late_copy_keeps_grown_body :
    let here := ((Page.inMemory "a" 1).happen
      [(0, .newComposer {}), (0, .compose 0 (.edit "a")), (1, .compose 0 (.receiveId 1 10)),
        (2, .receive (ServerMessage.append 10 98).frame)]).1
    let copy : Post := { id := 10, editing := true, image := some { name := "cat.png" } }
    ∃ post after, here.registry.get? 10 = some post ∧ post.body = "ab" ∧
      (here.receive Handlers.standard 3 (.insertPost copy)).page.registry.get? 10 = some after ∧
      post.Keeps copy after ∧ after.image = some { name := "cat.png" } := by
  intro here copy
  have taken : here = (((Page.inMemory "a" 1).happen
      [(0, .newComposer {}), (0, .compose 0 (.edit "a")),
        (1, .compose 0 (.receiveId 1 10))]).1.receive Handlers.standard 2 (.append 10 98)).page :=
    happen_frame _ 2 (by rintro ⟨⟩) rfl rfl []
  have listed : ∃ post, here.registry.get? 10 = some post ∧ post.body = "ab" ∧
      post.moderation = [] ∧ post.links = [] ∧ post.commands = [] := by
    rw [taken]
    exact ⟨_, rfl, rfl, rfl, rfl, rfl⟩
  obtain ⟨post, found, body, log, links, commands⟩ := listed
  have attached : here.attached = some 0 := by
    rw [taken]
    rfl
  have mine : here.own = copy.id := by
    rw [taken]
    rfl
  have known : here.own ≠ 0 := by
    rw [mine]
    decide
  obtain ⟨-, -, after, there, -, -, -, -, -, arrives, keeps⟩ := late_copy_keeps_iff
    (Page.inMemory "a" 1) Registry.indexed_empty _ 3 attached known mine found
  have current : post.UpToDate copy := by
    refine ⟨fun _ speaks => absurd rfl speaks, ?_, by rintro ⟨⟩, fun _ => links, fun _ => commands⟩
    rw [log]
  exact ⟨post, after, found, body, there, keeps.2 current, arrives rfl⟩

/-- A copy of a post as it was when it was announced takes back what was typed since, and that staff
deleted the post. -/
theorem copy_rolls_back_own_post :
    let here := ((Page.inMemory "a" 1).happen
      [(0, .newComposer {}), (0, .compose 0 (.edit "a")), (1, .compose 0 (.receiveId 1 10)),
        (2, .receive (ServerMessage.append 10 98).frame),
        (3, .receive (ServerMessage.moderatePost 10 { action := .deletePost }).frame)]).1
    let after := (here.happen
      [(4, .receive (ServerMessage.insertPost { id := 10, editing := true, body := "a" }).frame)]).1
    (here.registry.get? 10).map (fun post => (post.body, post.isDeleted)) = some ("ab", true) ∧
      (after.registry.get? 10).map (fun post => (post.body, post.isDeleted))
        = some ("a", false) := by
  intro here after
  have taken : here
      = ((((Page.inMemory "a" 1).happen [(0, .newComposer {}), (0, .compose 0 (.edit "a")),
          (1, .compose 0 (.receiveId 1 10))]).1.receive Handlers.standard 2
          (.append 10 98)).page.receive Handlers.standard 3
          (.moderatePost 10 { action := .deletePost })).page :=
    (happen_frame _ 2 (by rintro ⟨⟩) rfl rfl _).trans (happen_frame _ 3 (by rintro ⟨⟩) rfl rfl [])
  have merged : after = (here.receive Handlers.standard 4
      (.insertPost { id := 10, editing := true, body := "a" })).page :=
    happen_frame here 4 (by rintro ⟨⟩) rfl rfl []
  rw [merged, taken]
  exact ⟨rfl, rfl⟩

end Page

end LiveThread
