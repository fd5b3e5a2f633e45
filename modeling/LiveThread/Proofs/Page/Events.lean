import LiveThread.Proofs.Page.EchoOrder

/-!
# What the listener is told

A listener that looks at a post again whenever it is told of it has seen every
change: no post changes in silence, and nothing is told of a post that is not
there.  An update that a post refuses, an update of a post that is not
registered and the announcement of a post that is registered already change
nothing, and nothing is told of them.

Main results:

- Definition `Event.post?`: the post that an event is about.
- Definition `Setting.Takes`: which messages a registered post takes.
- Definition `Page.Response`: what a page does with a message, as far as its listener is concerned.
- Theorem `Page.receive_response`: every message is responded to in one of these ways.
- Theorem `Page.changes_are_told`: every change of a post is told once, in the order of the
  messages, and nothing else is told of posts.
-/

namespace LiveThread

/-- The post that an event is about. -/
def Event.post? : Event → Option UInt64
  | postInserted id | postChanged id _ | allocated id => some id
  | _ => none

/-- A registered post takes a message about it: an announcement if it is the own post, a character
if there is one with the code, an edit if it lies in the body, and every other update. -/
def Setting.Takes (setting : Setting) (post : Post) : ServerMessage → Prop
  | .insertPost data => setting.own ≠ 0 ∧ setting.own = data.id
  | .append _ code => ∃ c : Char, c.val = code
  | .splice _ s => s.start.toNat + s.count.toNat ≤ post.bodyLength
  | _ => True

namespace Page

variable {τ : Type}

/-- The attached composition waits for an id. -/
def Awaits (page : Page τ) : Prop :=
  ∃ number c, page.attached = some number ∧ page.composers[number]? = some c ∧ c.ticket.isSome

/-! ## Responses -/

/-- What a page does with a message, as far as its listener is concerned. -/
inductive Response (page : Page τ) (m : ServerMessage) (reply : Reply τ) : Prop
  /-- A new post is announced. -/
  | inserted (data : Post) (announced : m = .insertPost data)
      (new : page.registry.get? data.id = none) (told : reply.events = [.postInserted data.id])
  /-- A registered post takes the message. -/
  | changed (id : UInt64) (post : Post) (about : m.target? = some id)
      (found : page.registry.get? id = some post) (takes : page.setting.Takes post m)
      (told : reply.events = [.postChanged id m.kind])
  /-- Nothing is done with a message about a post. -/
  | passed (id : UInt64) (about : m.target? = some id)
      (missing : page.registry.get? id = none → ∀ data, m ≠ .insertPost data)
      (refused : ∀ post, page.registry.get? id = some post → ¬ page.setting.Takes post m)
      (same : reply = page.ignore)
  /-- The attached composition takes the id that it waits for. -/
  | allocated (id : UInt64) (given : m = .postId id) (awaited : page.Awaits)
      (registered : ∃ post, post.id = id ∧ reply.page.registry = page.registry.insert post)
      (told : reply.events = [.allocated id])
  /-- Nobody waits for the id. -/
  | rejected (id : UInt64) (given : m = .postId id) (idle : ¬ page.Awaits)
      (same : reply = page.reject (.unexpectedAllocation ⟨id⟩))
  /-- The message is about no post. -/
  | elsewhere (about : m.target? = none) (other : ∀ id, m ≠ .postId id)
      (told : ∀ event ∈ reply.events, event.post? = none)

/-- An id for which nobody waits is rejected. -/
theorem receiveId_of_not_awaits {page : Page τ} (idle : ¬ page.Awaits) (now : Int64)
    (id : UInt64) : page.receiveId now id = page.reject (.unexpectedAllocation ⟨id⟩) := by
  refine receiveId_of_idle (fun number c attached found => ?_) now id
  by_contra waits
  exact idle ⟨number, c, attached, found, Option.isSome_iff_ne_none.2 waits⟩

/-- An id is taken if the attached composition waits for one. -/
theorem receiveId_response (page : Page τ) (now : Int64) (id : UInt64) :
    page.Response (.postId id) (page.receiveId now id) := by
  by_cases awaited : page.Awaits
  · obtain ⟨number, c, attached, found, waits⟩ := awaited
    obtain ⟨ticket, waiting⟩ := Option.isSome_iff_exists.1 waits
    rw [receiveId_of_waiting attached found waiting]
    refine .allocated id rfl ⟨number, c, attached, found, waits⟩
      ⟨Desk.registeredPost c id now, rfl, ?_⟩ rfl
    simp [putDesk, Desk.receiveId, deskOf, waiting]
  · exact .rejected id rfl awaited (receiveId_of_not_awaits awaited now id)

variable [Transport τ]

omit [Transport τ] in
/-- An announcement is merged into the own post, registers a new one, and is passed over if it is
that of another registered post. -/
theorem insertPost_response (page : Page τ) (data : Post) :
    page.Response (.insertPost data) (page.insertPost data) := by
  obtain ⟨-, merges, entries⟩ := mergeEcho_entry page data
  cases found : page.registry.get? data.id with
  | none =>
    refine .inserted data rfl found ?_
    unfold insertPost
    split
    · next after merged =>
      rw [merged] at merges
      have registered := (merges.1 rfl).2
      simp [Registry.contains, found] at registered
    · next heard after passed other =>
      rw [other] at entries
      have new : after.registry.contains data.id = false := by
        simp [Registry.contains, entries, found]
      simp only [new, Bool.false_eq_true, if_false]
  | some post =>
    have registered : page.registry.contains data.id = true := by simp [Registry.contains, found]
    by_cases own : page.own ≠ 0 ∧ page.own = data.id
    · refine .changed data.id post rfl found own ?_
      have merged := merges.2 ⟨own, registered⟩
      unfold insertPost
      split
      · rfl
      · next heard after passed other =>
        rw [other] at merged
        exact absurd merged passed
    · refine .passed data.id rfl (by simp [found]) (fun other _ => own) ?_
      obtain ⟨heard, passed, same⟩ := mergeEcho_of_foreign own
      unfold insertPost
      rw [same]
      split
      · next merged => exact absurd (congrArg Prod.fst merged) passed
      · next other =>
        cases other
        simp only [registered, if_true]

/-- Every other message about a post asks for a change that is made exactly if the post takes the
message. -/
theorem receive_eq_changePost (now : Int64) (page : Page τ) {m : ServerMessage} {id : UInt64}
    (about : m.target? = some id) (update : ∀ data, m ≠ .insertPost data) :
    ∃ change : Post → Except PostError Post,
      page.receive Handlers.standard now m = page.changePost id m.kind change ∧
      ∀ post, (∃ after, change post = .ok after) ↔ page.setting.Takes post m := by
  cases m with
  | insertPost data => exact absurd rfl (update data)
  | append other code =>
    cases about
    refine ⟨(·.append? code), rfl, fun post => ?_⟩
    simp only [Post.append?_eq_ok_iff, Setting.Takes]
    exact ⟨fun ⟨_, c, known, _⟩ => ⟨c, known⟩, fun ⟨c, known⟩ => ⟨_, c, known, rfl⟩⟩
  | splice other s =>
    cases about
    refine ⟨(·.splice? s.start s.count s.text), rfl, fun post => ?_⟩
    simp only [Post.splice?_eq_ok_iff, Setting.Takes]
    exact ⟨fun ⟨_, inside, _⟩ => inside, fun inside => ⟨_, inside, rfl⟩⟩
  | backspace other =>
    cases about
    exact ⟨(.ok ·.backspace), rfl, fun post => ⟨fun _ => trivial, fun _ => ⟨_, rfl⟩⟩⟩
  | closePost other links commands =>
    cases about
    exact ⟨(.ok <| ·.close links commands), rfl, fun post => ⟨fun _ => trivial, fun _ => ⟨_, rfl⟩⟩⟩
  | insertImage other image =>
    cases about
    exact ⟨(.ok <| ·.insertImage image), rfl, fun post => ⟨fun _ => trivial, fun _ => ⟨_, rfl⟩⟩⟩
  | spoiler other =>
    cases about
    exact ⟨(.ok ·.spoilerImage), rfl, fun post => ⟨fun _ => trivial, fun _ => ⟨_, rfl⟩⟩⟩
  | moderatePost other entry =>
    cases about
    exact ⟨(.ok <| ·.moderate entry), rfl, fun post => ⟨fun _ => trivial, fun _ => ⟨_, rfl⟩⟩⟩
  | _ => cases about

/-- Such a message is told of if the post is registered and takes it. -/
theorem update_response (now : Int64) (page : Page τ) {m : ServerMessage} {id : UInt64}
    (about : m.target? = some id) (update : ∀ data, m ≠ .insertPost data) :
    page.Response m (page.receive Handlers.standard now m) := by
  obtain ⟨change, taken, takes⟩ := receive_eq_changePost now page about update
  rw [taken]
  cases found : page.registry.get? id with
  | none => exact .passed id about (fun _ => update) (by simp [found]) (by simp [changePost, found])
  | some post =>
    cases outcome : change post with
    | ok after =>
      exact .changed id post about found ((takes post).1 ⟨after, outcome⟩)
        (by simp [changePost, found, outcome])
    | error e =>
      refine .passed id about (fun _ => update) (fun other there taking => ?_)
        (by simp [changePost, found, outcome])
      obtain ⟨after, accepted⟩ := (takes other).2 taking
      rw [found] at there
      cases there
      rw [outcome] at accepted
      cases accepted

/-- Every message is responded to. -/
theorem receive_response (now : Int64) (page : Page τ) (m : ServerMessage) :
    page.Response m (page.receive Handlers.standard now m) := by
  cases m with
  | postId id => exact receiveId_response page now id
  | insertPost data => exact insertPost_response page data
  | append | backspace | splice | closePost | insertImage | spoiler | moderatePost =>
    exact update_response now page rfl (by rintro data ⟨⟩)
  | serverTime time =>
    refine .elsewhere rfl (by rintro id ⟨⟩) ?_
    simp only [receive, setClock]
    split <;> simp [reject, Event.post?]
  | _ =>
    exact .elsewhere rfl (by rintro id ⟨⟩)
      (by simp [receive, failWith, Handlers.standard, handle, tell, ignore, Event.post?])

/-! ## What the events say -/

section Events

omit [Transport τ]

variable {page : Page τ} {m : ServerMessage} {reply : Reply τ}

/-- A post is told to be new if it is announced and was not registered. -/
theorem Response.postInserted_mem_iff (response : page.Response m reply) (id : UInt64) :
    .postInserted id ∈ reply.events ↔
      page.registry.get? id = none ∧ ∃ data, m = .insertPost data ∧ data.id = id := by
  cases response with
  | inserted data announced new told =>
    subst announced
    rw [told, List.mem_singleton, Event.postInserted.injEq]
    constructor
    · rintro rfl
      exact ⟨new, data, rfl, rfl⟩
    · rintro ⟨-, _, ⟨⟩, rfl⟩
      rfl
  | changed other post about found takes told =>
    rw [told]
    refine iff_of_false (by simp) ?_
    rintro ⟨new, data, rfl, rfl⟩
    cases about
    rw [new] at found
    cases found
  | passed other about missing refused same =>
    rw [same]
    refine iff_of_false (by simp [ignore]) ?_
    rintro ⟨new, data, rfl, rfl⟩
    cases about
    exact missing new data rfl
  | allocated other given awaited registered told =>
    rw [told]
    exact iff_of_false (by simp) (by simp [given])
  | rejected other given idle same =>
    rw [same]
    exact iff_of_false (by simp [reject]) (by simp [given])
  | elsewhere about other told =>
    refine iff_of_false (fun here => ?_) ?_
    · cases told _ here
    · rintro ⟨-, data, rfl, rfl⟩
      cases about

/-- A post is told to have changed if it was registered and takes a message about it. -/
theorem Response.postChanged_mem_iff (response : page.Response m reply) (id : UInt64)
    (kind : MessageKind) :
    .postChanged id kind ∈ reply.events ↔
      kind = m.kind ∧ m.target? = some id ∧
        ∃ post, page.registry.get? id = some post ∧ page.setting.Takes post m := by
  cases response with
  | inserted data announced new told =>
    subst announced
    rw [told]
    refine iff_of_false (by simp) ?_
    rintro ⟨-, ⟨⟩, post, found, -⟩
    rw [new] at found
    cases found
  | changed other post about found takes told =>
    rw [told, List.mem_singleton, Event.postChanged.injEq]
    constructor
    · rintro ⟨rfl, rfl⟩
      exact ⟨rfl, about, post, found, takes⟩
    · rintro ⟨rfl, target, -⟩
      exact ⟨Option.some.inj (target.symm.trans about), rfl⟩
  | passed other about missing refused same =>
    rw [same]
    refine iff_of_false (by simp [ignore]) ?_
    rintro ⟨-, target, post, found, takes⟩
    obtain rfl := Option.some.inj (target.symm.trans about)
    exact refused post found takes
  | allocated other given awaited registered told =>
    rw [told]
    exact iff_of_false (by simp) (by simp [given, ServerMessage.target?])
  | rejected other given idle same =>
    rw [same]
    exact iff_of_false (by simp [reject]) (by simp [given, ServerMessage.target?])
  | elsewhere about other told =>
    refine iff_of_false (fun here => ?_) (by simp [about])
    cases told _ here

/-- An id is told if the attached composition waits for it. -/
theorem Response.allocated_mem_iff (response : page.Response m reply) (id : UInt64) :
    .allocated id ∈ reply.events ↔ m = .postId id ∧ page.Awaits := by
  cases response with
  | inserted data announced new told =>
    rw [told]
    exact iff_of_false (by simp) (by simp [announced])
  | changed other post about found takes told =>
    rw [told]
    refine iff_of_false (by simp) ?_
    rintro ⟨rfl, -⟩
    cases about
  | passed other about missing refused same =>
    rw [same]
    refine iff_of_false (by simp [ignore]) ?_
    rintro ⟨rfl, -⟩
    cases about
  | allocated other given awaited registered told =>
    rw [told, given]
    simp [awaited, eq_comm]
  | rejected other given idle same =>
    rw [same]
    exact iff_of_false (by simp [reject]) (by simp [idle])
  | elsewhere about other told =>
    refine iff_of_false (fun here => ?_) ?_
    · cases told _ here
    · rintro ⟨rfl, -⟩
      exact other id rfl

/-- Nothing is done with a message about a post that is neither new nor takes it. -/
theorem Response.eq_ignore (response : page.Response m reply) {id : UInt64}
    (about : m.target? = some id)
    (missing : page.registry.get? id = none → ∀ data, m ≠ .insertPost data)
    (refused : ∀ post, page.registry.get? id = some post → ¬ page.setting.Takes post m) :
    reply = page.ignore := by
  cases response with
  | inserted data announced new told =>
    subst announced
    cases about
    exact absurd rfl (missing new data)
  | changed other post target found takes told =>
    obtain rfl := Option.some.inj (target.symm.trans about)
    exact absurd takes (refused post found)
  | passed other target missing refused same => exact same
  | allocated other given awaited registered told => simp [given, ServerMessage.target?] at about
  | rejected other given idle same => simp [given, ServerMessage.target?] at about
  | elsewhere target other told => simp [target] at about

end Events

/-! ## Changes and events -/

section Changes

variable (now : Int64) (page : Page τ) (m : ServerMessage)

/-- A message that changes an entry is told of once, and the event names the entry. -/
theorem told_of_changed {id : UInt64}
    (changed : (page.receive Handlers.standard now m).page.registry.get? id
      ≠ page.registry.get? id) :
    ∃ event, (page.receive Handlers.standard now m).events = [event] ∧ event.post? = some id := by
  have target : (∀ other, m ≠ .postId other) → m.target? = some id := by
    intro other
    by_contra elsewhere
    exact changed (((receive_own now page other).2 id).trans (if_neg elsewhere))
  cases receive_response now page m with
  | inserted data announced new told =>
    refine ⟨_, told, ?_⟩
    subst announced
    exact target (by rintro other ⟨⟩)
  | changed other post about found takes told =>
    refine ⟨_, told, about.symm.trans (target ?_)⟩
    rintro given rfl
    cases about
  | passed other about missing refused same =>
    rw [same] at changed
    exact absurd rfl changed
  | allocated other given awaited registered told =>
    refine ⟨_, told, ?_⟩
    obtain ⟨post, rfl, registry⟩ := registered
    by_contra different
    refine changed ?_
    rw [registry, Registry.get?_insert, if_neg fun same => different (congrArg some same.symm)]
  | rejected other given idle same =>
    rw [same] at changed
    exact absurd rfl changed
  | elsewhere about other told =>
    rw [target other] at about
    cases about

/-- A post that is told of is registered. -/
theorem registered_of_told {event : Event} {id : UInt64}
    (told : event ∈ (page.receive Handlers.standard now m).events)
    (named : event.post? = some id) :
    ((page.receive Handlers.standard now m).page.registry.get? id).isSome := by
  cases receive_response now page m with
  | inserted data announced new events =>
    rw [events, List.mem_singleton] at told
    subst announced told
    cases named
    rw [(receive_own now page (by rintro other ⟨⟩)).2, ServerMessage.target?, if_pos rfl, new]
    rfl
  | changed other post about found takes events =>
    rw [events, List.mem_singleton] at told
    subst told
    cases named
    have given : ∀ other, m ≠ .postId other := by
      rintro other rfl
      cases about
    rw [(receive_own now page given).2, if_pos about, found]
    rfl
  | passed other about missing refused same =>
    rw [same] at told
    cases told
  | allocated other given awaited registered events =>
    rw [events, List.mem_singleton] at told
    subst told
    cases named
    obtain ⟨post, rfl, registry⟩ := registered
    rw [registry, Registry.get?_insert, if_pos rfl]
    rfl
  | rejected other given idle same =>
    rw [same] at told
    cases told
  | elsewhere about other events =>
    rw [events event told] at named
    cases named

end Changes

/-- Whatever is registered and attached on a page with the standard handlers, and whatever message
arrives:

- If the entry of an id changes, one event is told, and it names that id.
- A post is told to be new exactly if it is announced and was not registered; it is told to have
  changed, with the kind of the message, exactly if it was registered and takes a message about it;
  an id is told exactly if the attached composition waits for it.
- A message about a post that is neither newly announced nor registered and willing to take it is
  accepted, and nothing comes of it.
- Every post that is told of is registered.

In every history, however its frames are batched, what is told of a message comes after what was
told before it and before what is told after it. -/
theorem changes_are_told (page : Page τ) :
    (∀ (now : Int64) (m : ServerMessage),
      let reply := page.receive Handlers.standard now m
      (∀ id, reply.page.registry.get? id ≠ page.registry.get? id →
        ∃ event, reply.events = [event] ∧ event.post? = some id) ∧
      (∀ id, .postInserted id ∈ reply.events ↔
        page.registry.get? id = none ∧ ∃ data, m = .insertPost data ∧ data.id = id) ∧
      (∀ id kind, .postChanged id kind ∈ reply.events ↔
        kind = m.kind ∧ m.target? = some id ∧
          ∃ post, page.registry.get? id = some post ∧ page.setting.Takes post m) ∧
      (∀ id, .allocated id ∈ reply.events ↔ m = .postId id ∧ page.Awaits) ∧
      (∀ id, m.target? = some id →
        (page.registry.get? id = none → ∀ data, m ≠ .insertPost data) →
        (∀ post, page.registry.get? id = some post → ¬ page.setting.Takes post m) →
        reply = page.ignore) ∧
      ∀ event ∈ reply.events, ∀ id, event.post? = some id →
        (reply.page.registry.get? id).isSome) ∧
    ∀ (history : List (Int64 × PageAction)) past now m rest,
      stepsOf history = past ++ (now, .message m) :: rest →
      (page.happen history).2
        = (page.follow past).2
          ++ ((page.follow past).1.receive Handlers.standard now m).events
          ++ ((page.follow (past ++ [(now, .message m)])).1.follow rest).2 := by
  constructor
  · intro now m reply
    have response := receive_response now page m
    exact ⟨fun id => told_of_changed now page m, response.postInserted_mem_iff,
      response.postChanged_mem_iff, response.allocated_mem_iff, fun id => response.eq_ignore,
      fun event told id => registered_of_told now page m told⟩
  · intro history past now m rest parts
    rw [happen_eq_follow, parts, follow_append, follow_concat, follow_cons, List.append_assoc]
    rfl

-- In a batch a post is announced, grows, takes no splice beyond its end, and is announced again;
-- another post, which is not registered, loses a character.
example :
    ((Page.inMemory "a" 1).deliver Handlers.standard 0
      (.batch [.single (.insertPost { id := 5, body := "a" }),
        .batch [.single (.append 5 98), .single (.splice 5 ⟨9, 9, "x"⟩)],
        .single (.insertPost { id := 5 }), .single (.backspace 6)])).events
      = [.postInserted 5, .postChanged 5 .append] := by
  rfl

end Page

end LiveThread
