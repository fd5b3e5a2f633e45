import LiveThread.Proofs.Page.Moves

/-!
# Messages and their posts

With the standard handlers, what becomes of a post depends on the messages about it
and on nothing else that arrives: neither on messages about other posts nor on how
all of them are batched.

Main results:

- Theorem `Registry.ext_get?`: registries with the same posts under the same ids are the same.
- Definition `Setting`: what a page adds to a message about a post.
- Definition `Setting.entry`: what a message makes of the post that it is about.
- Theorem `Page.receive_entry`: a message changes the entry of its target, and nothing else.
- Theorem `Page.receiveEach_entry`: an entry after a history, from the messages about it.
- Theorem `Page.messages_touch_target`: messages touch only their target.
-/

namespace LiveThread

/-! ## Registries -/

namespace Registry

/-- A post is registered under an id exactly if it is listed there. -/
theorem mem_entries_iff {r : Registry} {id : UInt64} {post : Post} :
    (id, post) ∈ r.entries ↔ r.get? id = some post := by
  constructor
  · intro listed
    obtain ⟨before, after, parts⟩ := List.append_of_mem listed
    refine List.lookup_eq_some_iff.2 ⟨before, after, parts, fun other earlier => ?_⟩
    have ascending := r.ascending
    rw [AscendingIds, parts, List.map_append, List.map_cons, List.pairwise_append] at ascending
    have less : other.1 < id :=
      ascending.2.2 other.1 (List.mem_map_of_mem earlier) id List.mem_cons_self
    simpa using (UInt64.ne_of_lt less).symm
  · intro found
    obtain ⟨before, after, parts, -⟩ := List.lookup_eq_some_iff.1 found
    rw [parts]
    simp

/-- Registries with the same posts under the same ids are the same. -/
theorem ext_get? {r s : Registry} (same : ∀ id, r.get? id = s.get? id) : r = s := by
  have ordered : ∀ t : Registry, t.entries.Pairwise fun a b => a.1 < b.1 :=
    fun t => List.pairwise_map.1 t.ascending
  have distinct : ∀ t : Registry, t.entries.Nodup := fun t =>
    (ordered t).imp fun less => by
      rintro rfl
      exact UInt64.lt_irrefl _ less
  have listed : r.entries.Perm s.entries := by
    rw [List.perm_ext_iff_of_nodup (distinct r) (distinct s)]
    rintro ⟨id, post⟩
    rw [mem_entries_iff, mem_entries_iff, same]
  -- Two arrangements of the same entries by ascending id are the same.
  have entries : r.entries = s.entries := by
    refine listed.eq_of_pairwise (fun a b _ _ less more => ?_) (ordered r) (ordered s)
    exact absurd (UInt64.lt_trans less more) (UInt64.lt_irrefl _)
  cases r
  cases s
  cases entries
  rfl

end Registry

/-! ## What a message makes of its post -/

/-- What a page adds to a message about a post. -/
structure Setting where
  board : String
  thread : UInt64
  /-- The id of the attached composition; zero if there is none. -/
  own : UInt64

namespace Setting

/-- A registered post after a message about it. -/
def changed (setting : Setting) (post : Post) : ServerMessage → Post
  | .insertPost data =>
    if setting.own ≠ 0 ∧ setting.own = data.id then post.mergeEcho data else post
  | .append _ code => (post.append? code).toOption.getD post
  | .backspace _ => post.backspace
  | .splice _ s => (post.splice? s.start s.count s.text).toOption.getD post
  | .closePost _ links commands => post.close links commands
  | .insertImage _ image => post.insertImage image
  | .spoiler _ => post.spoilerImage
  | .moderatePost _ entry => post.moderate entry
  | _ => post

/-- The entry of an id after a message about it.  Only an announcement makes a new one. -/
def entry (setting : Setting) (m : ServerMessage) : Option Post → Option Post
  | some post => some (setting.changed post m)
  | none =>
    match m with
    | .insertPost data =>
      some { data with op := setting.thread, board := setting.board, seenOnce := true }
    | _ => none

/-- The entry of an id after some messages about it. -/
def entries (setting : Setting) (messages : List ServerMessage) (first : Option Post) :
    Option Post :=
  messages.foldl (fun entry m => setting.entry m entry) first

/-- No message removes a post. -/
theorem isSome_entry (setting : Setting) (m : ServerMessage) {first : Option Post}
    (registered : first.isSome) : (setting.entry m first).isSome := by
  obtain ⟨post, rfl⟩ := Option.isSome_iff_exists.1 registered
  rfl

/-- Only an announcement registers a post. -/
theorem announced_of_entry {setting : Setting} {m : ServerMessage}
    (new : (setting.entry m none).isSome) : ∃ data, m = .insertPost data := by
  cases m with
  | insertPost data => exact ⟨data, rfl⟩
  | _ => cases new

end Setting

/-- A message that changes no post has no target. -/
theorem ServerMessage.target?_eq_none {m : ServerMessage} (other : m.kind.isPostUpdate = false) :
    m.target? = none := by
  cases m <;> first | rfl | cases other

namespace Page

variable {τ : Type}

/-! ## One message -/

/-- The id of the attached composition; zero if there is none. -/
def own (page : Page τ) : UInt64 :=
  ((page.attached.bind fun number => page.composers[number]?).map Composer.id).getD 0

/-- What the page adds to a message about a post. -/
def setting (page : Page τ) : Setting :=
  { board := page.board, thread := page.thread, own := page.own }

/-- The change of a post changes its entry only. -/
theorem changePost_entry (page : Page τ) (id : UInt64) (kind : MessageKind)
    (change : Post → Except PostError Post) :
    (page.changePost id kind change).page.setting = page.setting ∧
    ∀ other, (page.changePost id kind change).page.registry.get? other
      = if other = id then
          (page.registry.get? id).map fun post => (change post).toOption.getD post
        else page.registry.get? other := by
  unfold changePost
  split
  · next missing =>
    refine ⟨rfl, fun other => ?_⟩
    by_cases same : other = id
    · simp [same, missing, ignore]
    · simp [same, ignore]
  · next post found =>
    split
    · next e refused =>
      refine ⟨rfl, fun other => ?_⟩
      by_cases same : other = id
      · simp [same, found, refused, ignore, Except.toOption]
      · simp [same, ignore]
    · next new accepted =>
      refine ⟨rfl, fun other => ?_⟩
      simp [found, accepted, Except.toOption]

/-- An announcement goes to the attached composition, which merges it if it is that of its post. -/
theorem mergeEcho_entry (page : Page τ) (data : Post) :
    let merged := page.atAttached (·.mergeEcho data)
    merged.2.setting = page.setting ∧
    (merged.1 = some true ↔
      (page.own ≠ 0 ∧ page.own = data.id) ∧ page.registry.contains data.id = true) ∧
    ∀ id, merged.2.registry.get? id
      = if id = data.id ∧ page.own ≠ 0 ∧ page.own = data.id then
          (page.registry.get? id).map (·.mergeEcho data)
        else page.registry.get? id := by
  intro merged
  cases holder : page.attached.bind fun number => page.composers[number]? with
  | none =>
    have nobody : page.own = 0 := by simp [own, holder]
    have untouched : merged = (none, page) := by
      cases attached : page.attached with
      | none => simp [merged, atAttached, attached]
      | some number =>
        rw [attached, Option.bind_some] at holder
        simp [merged, atAttached, attached, atComposer, desk?, holder]
    rw [untouched]
    simp [nobody]
  | some c =>
    have mine : page.own = c.id := by simp [own, holder]
    obtain ⟨number, attached, found⟩ := Option.bind_eq_some_iff.1 holder
    obtain ⟨inside, -⟩ := List.getElem?_eq_some_iff.1 found
    have heard : merged = (some ((page.deskOf c).mergeEcho data).1,
        page.putDesk number ((page.deskOf c).mergeEcho data).2) := by
      simp [merged, atAttached, attached, atComposer, desk?, found, deskOf]
    rw [heard, mine]
    by_cases other : c.id = 0 ∨ c.id ≠ data.id
    · have ignored : (page.deskOf c).mergeEcho data = (false, page.deskOf c) := if_pos other
      have foreign : ¬ (c.id ≠ 0 ∧ c.id = data.id) := by tauto
      rw [ignored, putDesk_deskOf found]
      simp [foreign]
    · obtain ⟨numbered, own⟩ : c.id ≠ 0 ∧ c.id = data.id := by tauto
      have taken : (page.deskOf c).mergeEcho data
          = (page.registry.contains data.id,
              { page.deskOf c with
                composer := { c with hasImage := c.hasImage || data.image.isSome }
                registry := page.registry.modify data.id (·.mergeEcho data) }) := if_neg other
      rw [taken]
      refine ⟨?_, ?_, fun id => ?_⟩
      · simp [setting, Page.own, putDesk, attached, inside, ← mine]
      · simp [numbered, own.symm]
      · by_cases same : id = data.id
        · simp [putDesk, same, numbered, ← own]
        · simp [putDesk, same]

/-- An announcement changes the entry of its post only. -/
theorem insertPost_entry (page : Page τ) (data : Post) :
    (page.insertPost data).page.setting = page.setting ∧
    ∀ id, (page.insertPost data).page.registry.get? id
      = if id = data.id then page.setting.entry (.insertPost data) (page.registry.get? id)
        else page.registry.get? id := by
  obtain ⟨same, merges, entries⟩ := mergeEcho_entry page data
  unfold insertPost
  split
  · next after merged =>
    rw [merged] at same merges entries
    obtain ⟨own, registered⟩ := merges.1 rfl
    obtain ⟨post, found⟩ := Option.isSome_iff_exists.1 registered
    refine ⟨same, fun id => ?_⟩
    by_cases target : id = data.id
    · have merging : page.setting.own ≠ 0 ∧ page.setting.own = data.id := own
      rw [tell, entries, if_pos ⟨target, own⟩, if_pos target, target, found, Setting.entry,
        Setting.changed, if_pos merging, Option.map_some]
    · simp [tell, entries, target]
  · next found after passed other =>
    rw [other] at same merges entries
    -- The own post is missing, if this is the announcement of it.
    have missing : page.own ≠ 0 ∧ page.own = data.id → page.registry.get? data.id = none := by
      intro own
      by_contra registered
      exact passed (merges.2 ⟨own, Option.isSome_iff_ne_none.2 registered⟩)
    have kept : ∀ id, after.registry.get? id = page.registry.get? id := by
      intro id
      rw [entries]
      split
      · next mine => rw [mine.1, missing mine.2, Option.map_none]
      · rfl
    split
    · next registered =>
      refine ⟨same, fun id => (kept id).trans ?_⟩
      split
      · next target =>
        rw [Registry.contains, kept] at registered
        obtain ⟨post, found⟩ := Option.isSome_iff_exists.1 registered
        have foreign : ¬ (page.setting.own ≠ 0 ∧ page.setting.own = data.id) := by
          intro own
          rw [missing own] at found
          cases found
        rw [target, found, Setting.entry, Setting.changed, if_neg foreign]
      · rfl
    · next new =>
      refine ⟨same, fun id => ?_⟩
      rw [Registry.contains, kept, Option.not_isSome_iff_eq_none] at new
      by_cases target : id = data.id
      · have place : after.thread = page.thread ∧ after.board = page.board :=
          ⟨congrArg Setting.thread same, congrArg Setting.board same⟩
        simp [target, new, announcedPost, Setting.entry, setting, place]
      · simp [target, kept, announcedPost]

variable [Transport τ]

/-- A message changes the entry of its target, and nothing else that matters for a post. -/
theorem receive_entry (now : Int64) (page : Page τ) {m : ServerMessage}
    (plain : m.kind ≠ .postId ∧ m.kind ≠ .invalid) :
    (page.receive Handlers.standard now m).page.setting = page.setting ∧
    ∀ id, (page.receive Handlers.standard now m).page.registry.get? id
      = if m.target? = some id then page.setting.entry m (page.registry.get? id)
        else page.registry.get? id := by
  have changes : ∀ (kind : MessageKind) (id : UInt64) (change : Post → Except PostError Post),
      page.receive Handlers.standard now m = page.changePost id kind change →
      m.target? = some id → page.setting.entry m none = none →
      (∀ post, page.setting.changed post m = (change post).toOption.getD post) →
      (page.receive Handlers.standard now m).page.setting = page.setting ∧
      ∀ id, (page.receive Handlers.standard now m).page.registry.get? id
        = if m.target? = some id then page.setting.entry m (page.registry.get? id)
          else page.registry.get? id := by
    intro kind id change taken target missing effect
    obtain ⟨same, entries⟩ := changePost_entry page id kind change
    rw [taken]
    refine ⟨same, fun other => ?_⟩
    rw [entries, target]
    by_cases own : other = id
    · rw [if_pos own, if_pos (congrArg some own.symm), own]
      cases page.registry.get? id with
      | none => exact missing.symm
      | some post => exact congrArg some (effect post).symm
    · rw [if_neg own, if_neg fun same => own (Option.some.inj same).symm]
  cases m with
  | postId => exact absurd rfl plain.1
  | invalid => exact absurd rfl plain.2
  | insertPost data =>
    obtain ⟨same, entries⟩ := insertPost_entry page data
    refine ⟨same, fun id => (entries id).trans ?_⟩
    simp only [ServerMessage.target?, Option.some.injEq, eq_comm]
  | append id code => exact changes .append id (·.append? code) rfl rfl rfl fun _ => rfl
  | backspace id => exact changes .backspace id (.ok ·.backspace) rfl rfl rfl fun _ => rfl
  | splice id s =>
    exact changes .splice id (·.splice? s.start s.count s.text) rfl rfl rfl fun _ => rfl
  | closePost id links commands =>
    exact changes .closePost id (.ok <| ·.close links commands) rfl rfl rfl fun _ => rfl
  | insertImage id image =>
    exact changes .insertImage id (.ok <| ·.insertImage image) rfl rfl rfl fun _ => rfl
  | spoiler id => exact changes .spoiler id (.ok ·.spoilerImage) rfl rfl rfl fun _ => rfl
  | moderatePost id entry =>
    exact changes .moderatePost id (.ok <| ·.moderate entry) rfl rfl rfl fun _ => rfl
  | serverTime time =>
    simp only [receive, setClock]
    split
    · exact ⟨rfl, fun _ => rfl⟩
    · exact ⟨rfl, fun _ => rfl⟩
  | synchronise | concat | noop | syncCount | redirect | notification | captcha | configs =>
    exact ⟨rfl, fun _ => rfl⟩

/-! ## Histories -/

/-- The messages of some deliveries, in order, however they are batched. -/
def messagesOf (deliveries : List (Int64 × Delivery)) : List (Int64 × ServerMessage) :=
  deliveries.flatMap fun (now, delivery) => delivery.messages.map fun m => (now, m)

/-- No message gives an id, and none is fatal. -/
def Plain (messages : List (Int64 × ServerMessage)) : Prop :=
  ∀ entry ∈ messages, entry.2.kind ≠ .postId ∧ entry.2.kind ≠ .invalid

/-- The messages about a post. -/
def about (id : UInt64) (messages : List (Int64 × ServerMessage)) : List (Int64 × ServerMessage) :=
  messages.filter fun entry => entry.2.target? = some id

/-- The page after some messages. -/
def receiveEach (page : Page τ) (messages : List (Int64 × ServerMessage)) : Page τ :=
  (page.follow (messages.map fun (now, m) => (now, .message m))).1

/-- The page after some deliveries. -/
def deliverEach (page : Page τ) : List (Int64 × Delivery) → Page τ
  | [] => page
  | (now, delivery) :: deliveries =>
    (page.deliver Handlers.standard now delivery).page.deliverEach deliveries

theorem receiveEach_append (page : Page τ) (before after : List (Int64 × ServerMessage)) :
    page.receiveEach (before ++ after) = (page.receiveEach before).receiveEach after := by
  simp only [receiveEach, List.map_append, follow_append]

/-- Deliveries are taken message by message. -/
theorem deliverEach_eq_receiveEach (page : Page τ) (deliveries : List (Int64 × Delivery)) :
    page.deliverEach deliveries = page.receiveEach (messagesOf deliveries) := by
  induction deliveries generalizing page with
  | nil => rfl
  | cons entry deliveries ih =>
    obtain ⟨now, delivery⟩ := entry
    have first := (deliver_eq_follow now page delivery).1
    rw [Prod.ext_iff] at first
    have parts : messagesOf ((now, delivery) :: deliveries)
        = (delivery.messages.map fun m => (now, m)) ++ messagesOf deliveries := rfl
    rw [deliverEach, ih, parts, receiveEach_append]
    congr 1
    simpa [receiveEach, arrivals, Function.comp_def] using first.1

/-- The entry of an id after some messages depends on those about it only. -/
theorem receiveEach_entry (page : Page τ) {messages : List (Int64 × ServerMessage)}
    (plain : Plain messages) (id : UInt64) :
    (page.receiveEach messages).registry.get? id
      = page.setting.entries ((about id messages).map Prod.snd) (page.registry.get? id) := by
  induction messages generalizing page with
  | nil => rfl
  | cons entry messages ih =>
    obtain ⟨now, m⟩ := entry
    obtain ⟨same, entries⟩ := receive_entry now page (plain (now, m) List.mem_cons_self)
    have first : page.receiveEach ((now, m) :: messages)
        = (page.receive Handlers.standard now m).page.receiveEach messages := rfl
    rw [first, ih _ fun entry mem => plain entry (List.mem_cons_of_mem _ mem), same, entries]
    by_cases target : m.target? = some id
    · simp [about, target, Setting.entries]
    · simp [about, target]

/-- Histories with the same messages about each post lead to the same posts. -/
theorem registry_eq_of_about (page : Page τ) {first second : List (Int64 × ServerMessage)}
    (plain : Plain first) (plainToo : Plain second)
    (same : ∀ id, (about id first).map Prod.snd = (about id second).map Prod.snd) :
    (page.receiveEach first).registry = (page.receiveEach second).registry := by
  apply Registry.ext_get?
  intro id
  rw [receiveEach_entry page plain, receiveEach_entry page plainToo, same]

/-- Two messages about different posts may change places. -/
theorem about_swap {a b : Int64 × ServerMessage} (different : a.2.target? ≠ b.2.target?)
    (past rest : List (Int64 × ServerMessage)) (id : UInt64) :
    about id (past ++ b :: a :: rest) = about id (past ++ a :: b :: rest) := by
  simp only [about, List.filter_append, List.filter_cons]
  by_cases first : a.2.target? = some id
  · have second : b.2.target? ≠ some id := fun same => different (first.trans same.symm)
    simp [first, second]
  · simp [first]

/-- With the standard handlers, on any page, whichever composition is attached, and for any messages
that neither give an id nor are fatal, batched in any way: what becomes of an id is what becomes of
it after the messages about it alone.  So messages about different posts may change places; and
a message that is no update of a post leaves all of them alone, no message removes a post, and only
the announcement of a post registers it. -/
theorem messages_touch_target (page : Page τ) (deliveries : List (Int64 × Delivery))
    (plain : Plain (messagesOf deliveries)) :
    let messages := messagesOf deliveries
    page.deliverEach deliveries = page.receiveEach messages ∧
    (∀ id, (page.deliverEach deliveries).registry.get? id
      = (page.receiveEach (about id messages)).registry.get? id) ∧
    (∀ past a b rest, messages = past ++ a :: b :: rest → a.2.target? ≠ b.2.target? →
      (page.receiveEach (past ++ b :: a :: rest)).registry
        = (page.deliverEach deliveries).registry) ∧
    ∀ past a rest, messages = past ++ a :: rest →
      let before := (page.receiveEach past).registry
      let after := (page.receiveEach (past ++ [a])).registry
      (a.2.kind.isPostUpdate = false → after = before) ∧
      ∀ id, ((before.get? id).isSome → (after.get? id).isSome) ∧
        (before.get? id = none → (after.get? id).isSome →
          ∃ data, a.2 = .insertPost data ∧ data.id = id) := by
  intro messages
  have taken := deliverEach_eq_receiveEach page deliveries
  refine ⟨taken, fun id => ?_, ?_, ?_⟩
  · have among : Plain (about id messages) :=
      fun entry mem => plain entry (List.mem_of_mem_filter mem)
    have again : about id (about id messages) = about id messages := by simp [about]
    rw [taken, receiveEach_entry page plain, receiveEach_entry page among, again]
  · intro past a b rest parts different
    have swapped : Plain (past ++ b :: a :: rest) := by
      intro entry mem
      apply plain entry
      show entry ∈ messages
      rw [parts]
      simp only [List.mem_append, List.mem_cons] at mem ⊢
      tauto
    rw [taken]
    apply registry_eq_of_about page swapped plain
    intro id
    rw [about_swap different]
    exact congrArg (fun all => (about id all).map Prod.snd) parts.symm
  · intro past a rest parts before after
    have here : a ∈ messages := by rw [parts]; simp
    obtain ⟨-, entries⟩ := receive_entry a.1 (page.receiveEach past) (plain a here)
    have step : ∀ id, after.get? id
        = if a.2.target? = some id then
            (page.receiveEach past).setting.entry a.2 (before.get? id)
          else before.get? id := by
      intro id
      rw [← entries]
      simp only [after, receiveEach_append]
      rfl
    refine ⟨fun other => Registry.ext_get? fun id => ?_, fun id => ⟨fun registered => ?_, ?_⟩⟩
    · rw [step, ServerMessage.target?_eq_none other]
      rfl
    · rw [step]
      split
      · exact Setting.isSome_entry _ _ registered
      · exact registered
    · intro missing new
      rw [step, missing] at new
      split at new
      · next target =>
        obtain ⟨data, announces⟩ := Setting.announced_of_entry new
        rw [announces] at target
        exact ⟨data, announces, Option.some.inj target⟩
      · cases new

/-- A post is announced and grows in a batch, among messages about another one. -/
theorem messages_touch_target_in_batches :
    ∃ post, ((Page.inMemory "a" 1).deliverEach
        [(0, .batch [.single (.insertPost { id := 5, body := "a" }),
          .batch [.single (.append 6 99), .single (.append 5 98)], .single .captcha]),
        (1, .single (.backspace 6))]).registry.get? 5 = some post ∧ post.body = "ab" := by
  obtain ⟨-, alone, -⟩ := messages_touch_target (Page.inMemory "a" 1)
    [(0, .batch [.single (.insertPost { id := 5, body := "a" }),
      .batch [.single (.append 6 99), .single (.append 5 98)], .single .captcha]),
    (1, .single (.backspace 6))]
    (by simp [Plain, messagesOf, Delivery.messages, partMessages, ServerMessage.kind])
  rw [alone]
  exact ⟨_, rfl, rfl⟩

end Page

end LiveThread
