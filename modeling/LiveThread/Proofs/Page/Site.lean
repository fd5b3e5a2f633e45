import LiveThread.Proofs.Page.Batches
import LiveThread.Proofs.Page.OwnPost
import LiveThread.Proofs.Page.Silence
import LiveThread.Proofs.Page.Translation
import LiveThread.Proofs.Registry.LastWrites

/-!
# Pages that share their posts

Several pages may show the same posts, each with its own handlers and its own way
out, and a composition that was begun on one of them may be attached to another.
Whatever happens on any of them, every post stays under its own id, as long as
the handlers that were registered leave it there.  The standard ones do.

Main results:

- Definition `Site`: pages that share their posts and their compositions.
- Definitions `SiteAction` and `Site.after`: what can happen, and a site after a history.
- Definition `Handlers.Tidy`: handlers that leave every post under its own id.
- Theorem `Handlers.standard_tidy`: the standard handlers do.
- Theorem `Site.Tidy.after`: so does every history of a site with such handlers.
- Theorem `Site.posts_form_a_map`: the posts are a finite map, from their own ids.
-/

namespace LiveThread

variable {τ : Type}

/-! ## Tidy handlers -/

/-- A handler that leaves every post under its own id. -/
def Handler.Tidy (handler : Handler τ) : Prop :=
  ∀ page m, page.registry.Indexed → (handler page m).page.registry.Indexed

/-- Handlers that leave every post under its own id. -/
def Handlers.Tidy (handlers : Handlers τ) : Prop :=
  ∀ kind, Handler.Tidy (handlers kind)

/-- A table stays tidy if a tidy handler is registered. -/
theorem Handlers.Tidy.register {handlers : Handlers τ} (tidy : handlers.Tidy) (kind : MessageKind)
    {handler : Handler τ} (replaced : handler.Tidy) : (handlers.register kind handler).Tidy := by
  intro other
  unfold Handlers.register
  split
  · exact replaced
  · exact tidy other

/-! ## Sites -/

/-- What a page has of its own where the posts and the compositions are shared. -/
structure Window (τ : Type) where
  board : String
  thread : UInt64
  transport : τ
  handlers : Handlers τ
  /-- The number of the attached composition. -/
  attached : Option Nat := none
  serverOffset : Int64 := 0

/-- Pages that share their posts and their compositions.  A composition may be used on any of them;
what it sends leaves by the page on which it is used. -/
structure Site (τ : Type) where
  registry : Registry := .empty
  composers : List Composer := []
  windows : List (Window τ) := []

/-- What can happen on a site. -/
inductive SiteAction (τ : Type) where
  /-- A further page is shown. -/
  | openWindow (window : Window τ)
  /-- A page gets another handler for a kind. -/
  | register (number : Nat) (kind : MessageKind) (handler : Handler τ)
  /-- Something happens on a page. -/
  | act (number : Nat) (now : Int64) (action : PageAction)
  /-- A page takes a message that has been read before. -/
  | dispatch (number : Nat) (now : Int64) (m : ServerMessage)

/-- The handlers that come with an action are tidy. -/
def SiteAction.Tidy : SiteAction τ → Prop
  | .openWindow window => window.handlers.Tidy
  | .register _ _ handler => handler.Tidy
  | .act .. | .dispatch .. => True

namespace Site

/-- A page of the site. -/
def page (site : Site τ) (window : Window τ) : Page τ where
  board := window.board
  thread := window.thread
  registry := site.registry
  transport := window.transport
  composers := site.composers
  attached := window.attached
  serverOffset := window.serverOffset

/-- The site after one of its pages has become another. -/
def putPage (site : Site τ) (number : Nat) (window : Window τ) (page : Page τ) : Site τ where
  registry := page.registry
  composers := page.composers
  windows := site.windows.set number
    { window with
      transport := page.transport
      attached := page.attached
      serverOffset := page.serverOffset }

/-- Does something on a page, if there is such a page. -/
def onPage (site : Site τ) (number : Nat) (operation : Handlers τ → Page τ → Page τ) : Site τ :=
  match site.windows[number]? with
  | none => site
  | some window => site.putPage number window (operation window.handlers (site.page window))

variable [Transport τ]

/-- The site after something happened on it. -/
def act (site : Site τ) : SiteAction τ → Site τ
  | .openWindow window => { site with windows := site.windows ++ [window] }
  | .register number kind handler =>
    { site with
      windows := site.windows.modify number fun window =>
        { window with handlers := window.handlers.register kind handler } }
  | .act number now action =>
    site.onPage number fun handlers page => (page.act handlers now action).page
  | .dispatch number now m =>
    site.onPage number fun handlers page => (page.dispatch handlers now m).page

/-- The site after a history. -/
def after (site : Site τ) (history : List (SiteAction τ)) : Site τ :=
  history.foldl act site

end Site

/-! ## What happens on a page -/

namespace Page

variable [Transport τ] {handlers : Handlers τ} {page : Page τ} {now : Int64}

mutual

/-- What no message breaks, no delivery breaks. -/
theorem deliver_induct {P : Page τ → Prop}
    (keeps : ∀ page m, P page → P (page.receive handlers now m).page) {page : Page τ}
    (start : P page) : (delivery : Delivery) → P (page.deliver handlers now delivery).page
  | .rejected _ => start
  | .single m => keeps page m start
  | .batch parts => deliverAll_induct keeps start parts

theorem deliverAll_induct {P : Page τ → Prop}
    (keeps : ∀ page m, P page → P (page.receive handlers now m).page) {page : Page τ}
    (start : P page) : (parts : List Delivery) → P (page.deliverAll handlers now parts).page
  | [] => start
  | part :: parts => by
    have first : P (page.deliver handlers now part).page := deliver_induct keeps start part
    simp only [deliverAll]
    split
    · exact first
    · exact deliverAll_induct keeps first parts

end

/-- With the standard handlers no message stores a post under another id. -/
theorem indexed_receive_standard (h : page.registry.Indexed) (now : Int64) (m : ServerMessage) :
    (page.receive Handlers.standard now m).page.registry.Indexed := by
  have same : page.receive Handlers.standard now m
      = (page.listing.receive Handlers.standard now m).mapWay Logged.way :=
    receive_mapWay Logged.mirrors_way page.listing now m
  have listed : (page.listing.receive Handlers.standard now m).page.registry.Indexed :=
    indexed_receive h now m
  rw [same]
  exact listed

/-- Nor does any action. -/
theorem indexed_act_standard (h : page.registry.Indexed) (now : Int64) (action : PageAction) :
    (page.act Handlers.standard now action).page.registry.Indexed := by
  have same : (page.act Handlers.standard now action).page
      = (page.listing.act Handlers.standard now action).page.mapWay Logged.way :=
    congrArg Turn.page (act_mapWay Logged.mirrors_way page.listing now action)
  have listed : (page.listing.happen [(now, action)]).1.registry.Indexed := indexed_happen h _
  rw [same]
  exact listed

end Page

/-- The standard handlers are tidy. -/
theorem Handlers.standard_tidy [Transport τ] : (standard : Handlers τ).Tidy := by
  intro kind page m h
  rcases page.handle_cases m with ignored | ⟨-, taken⟩
  · rw [standard, ignored]
    exact h
  · rw [standard, taken]
    exact Page.indexed_receive_standard h 0 m

namespace Handlers.Tidy

variable [Transport τ] {handlers : Handlers τ} (tidy : handlers.Tidy) {page : Page τ}
  (h : page.registry.Indexed) (now : Int64)

include tidy h

/-- With tidy handlers no message stores a post under another id. -/
theorem receive (m : ServerMessage) : (page.receive handlers now m).page.registry.Indexed := by
  rcases Page.receive_cases handlers now page m with own | handled
  · rw [own]
    exact Page.indexed_receive_standard h now m
  · rw [handled]
    exact tidy m.kind page m h

/-- Nor does one that may be a batch. -/
theorem dispatch (m : ServerMessage) : (page.dispatch handlers now m).page.registry.Indexed := by
  cases m with
  | concat frames =>
    exact Page.deliverAll_induct (P := fun page => page.registry.Indexed)
      (fun _ m h => tidy.receive h now m) h (frames.map Delivery.ofFrame)
  | _ => exact tidy.receive h now _

/-- Nor does any action. -/
theorem act (action : PageAction) : (page.act handlers now action).page.registry.Indexed := by
  -- Only what arrives is handled: for everything else the handlers might be the standard ones.
  have unhandled (same : page.act handlers now action = page.act Handlers.standard now action) :
      (page.act handlers now action).page.registry.Indexed := by
    rw [same]
    exact Page.indexed_act_standard h now action
  cases action with
  | receive frame =>
    exact Page.deliver_induct (P := fun page => page.registry.Indexed)
      (fun _ m h => tidy.receive h now m) h (Delivery.ofFrame frame)
  | compose | newComposer | addComposer | attach | detach | register | drop | fail =>
    exact unhandled rfl

end Handlers.Tidy

/-! ## What happens on a site -/

namespace Site

/-- Every post is under its own id, and the handlers of all pages leave it there. -/
structure Tidy (site : Site τ) : Prop where
  indexed : site.registry.Indexed
  handlers : ∀ window ∈ site.windows, window.handlers.Tidy

/-- A site stays tidy if the page on which something is done leaves the posts under their ids. -/
theorem Tidy.onPage {site : Site τ} (h : site.Tidy) (number : Nat)
    {operation : Handlers τ → Page τ → Page τ}
    (keeps : ∀ handlers page, handlers.Tidy → page.registry.Indexed →
      (operation handlers page).registry.Indexed) : (site.onPage number operation).Tidy := by
  unfold Site.onPage
  split
  · exact h
  · next window found =>
    have tidy : window.handlers.Tidy := h.handlers window (List.mem_of_getElem? found)
    refine ⟨keeps _ (site.page window) tidy h.indexed, fun other mem => ?_⟩
    rcases List.mem_or_eq_of_mem_set mem with mem | rfl
    · exact h.handlers other mem
    · exact tidy

variable [Transport τ]

/-- What happens on a site leaves it tidy. -/
theorem Tidy.act {site : Site τ} (h : site.Tidy) {action : SiteAction τ} (tidy : action.Tidy) :
    (site.act action).Tidy := by
  cases action with
  | openWindow window =>
    refine ⟨h.indexed, fun other mem => ?_⟩
    rcases List.mem_append.1 mem with mem | mem
    · exact h.handlers other mem
    · rw [List.mem_singleton.1 mem]
      exact tidy
  | register number kind handler =>
    refine ⟨h.indexed, fun other mem => ?_⟩
    obtain ⟨place, found⟩ := List.mem_iff_getElem?.1 mem
    simp only [Site.act, List.getElem?_modify] at found
    obtain ⟨before, there, rfl⟩ := Option.map_eq_some_iff.1 found
    have kept : before.handlers.Tidy := h.handlers before (List.mem_of_getElem? there)
    split
    · exact kept.register kind tidy
    · exact kept
  | act number now action =>
    exact h.onPage number fun handlers page tidy indexed => tidy.act indexed now action
  | dispatch number now m =>
    exact h.onPage number fun handlers page tidy indexed => tidy.dispatch indexed now m

/-- So does every history. -/
theorem Tidy.after {site : Site τ} (h : site.Tidy) {history : List (SiteAction τ)}
    (tidy : ∀ action ∈ history, action.Tidy) : (site.after history).Tidy := by
  induction history generalizing site with
  | nil => exact h
  | cons action history ih =>
    exact ih (h.act (tidy action List.mem_cons_self)) fun later mem =>
      tidy later (List.mem_cons_of_mem _ mem)

/-- After any calls a registry agrees with the map in which the last write under an id counts, and
every further call is answered as the map says: an insertion and an erasure with the post that was
there, an update by running its step on the post, and no other one changes; without a post nothing
is run and nothing changes.  The standard handlers leave every post under its own id.  If the posts
of a site are under their own ids at first, and all handlers leave them there, then they are so
after every history, whichever pages and compositions take part in it: no id of a registered post
ever changes. -/
theorem posts_form_a_map :
    (∀ {α : Type} (start : Registry) (calls : List (RegistryCall α)),
      let here := start.after calls
      let map := fun id => lastWrite start.get? id calls.reverse
      here.Refines map ∧
      (∀ next : RegistryCall α, (here.call next).1 = next.answer map) ∧
      ∀ id (step : Post → α × Post),
        ((here.update id step).1.isSome = here.contains id) ∧
        (map id = none → here.update id step = (none, here)) ∧
        ∀ other, other ≠ id → (here.update id step).2.get? other = map other) ∧
    (Handlers.standard : Handlers τ).Tidy ∧
    ∀ (site : Site τ) (history : List (SiteAction τ)), site.Tidy →
      (∀ action ∈ history, action.Tidy) → (site.after history).registry.Indexed := by
  refine ⟨?_, Handlers.standard_tidy, fun site history h tidy => (h.after tidy).indexed⟩
  intro α start calls here map
  have refines : here.Refines map := Registry.refines_lastWrite start calls
  refine ⟨refines, fun next => ?_, fun id step => ⟨?_, fun missing => ?_, ?_⟩⟩
  · rw [Registry.call_fst, funext refines.get]
  · rw [Registry.update_fst, Option.isSome_map]
    rfl
  · refine Registry.update_of_absent ?_ step
    rw [Registry.contains, refines.get, missing]
    rfl
  · intro other different
    rw [Registry.get?_update, if_neg different, refines.get]

/-- Five calls leave two posts.  Two pages show the same posts, and a composition of the one is
attached to the other: it gets its id on the first page, its copy is announced on the second, and
the second page ignores what is appended to the post of somebody else. -/
theorem posts_form_a_map_on_two_pages :
    let calls : List (RegistryCall Unit) := [.insert { id := 9 }, .insert { id := 2 },
      .insert { id := 5 }, .erase 5, .update 2 fun post => ((), post.backspace)]
    let window (board : String) : Window Memory :=
      { board := board, thread := 1, transport := .empty, handlers := Handlers.standard }
    let site : Site Memory :=
      { registry := Registry.empty.insert { id := 7, body := "b" }, windows := [window "a"] }
    let history : List (SiteAction Memory) := [.openWindow (window "c"),
      .register 1 .append Handlers.ignoring, .act 0 0 (.newComposer {}),
      .act 0 0 (.compose 0 (.edit "a")), .dispatch 0 1 (.postId 10), .act 1 2 (.attach 0),
      .dispatch 1 3 (.insertPost { id := 10, image := some {} }), .dispatch 1 4 (.append 7 98),
      .dispatch 0 4 (.append 7 99)]
    let posts := Registry.empty.after calls
    (posts.Refines fun id => lastWrite Registry.empty.get? id calls.reverse) ∧
    posts.ids = [2, 9] ∧
    site.Tidy ∧ (∀ action ∈ history, action.Tidy) ∧ (site.after history).registry.Indexed ∧
    (site.after history).registry.entries.map
        (fun (id, post) => (id, post.id, post.body, post.image.isSome))
      = [(7, 7, "bc", false), (10, 10, "a", true)] := by
  intro calls window site history posts
  have tidy : site.Tidy :=
    ⟨Registry.indexed_empty.insert _, by simpa [site, window] using Handlers.standard_tidy⟩
  have brought : ∀ action ∈ history, action.Tidy := by
    simp only [history, List.forall_mem_cons]
    exact ⟨Handlers.standard_tidy, fun _ _ h => h, trivial, trivial, trivial, trivial, trivial,
      trivial, trivial, by simp⟩
  obtain ⟨maps, -, stay⟩ := @posts_form_a_map Memory _
  exact ⟨(maps Registry.empty calls).1, rfl, tidy, brought, stay site history tidy brought,
    by decide +kernel⟩

end Site

end LiveThread
