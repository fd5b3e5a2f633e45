import LiveThread.Proofs.Page.Nesting

/-!
# Filters

A table with a handler that does nothing for some kinds takes a history as the
table without it takes the history with the messages of these kinds left out.
The page itself handles five kinds; what is registered for them is never asked.

Main results:

- Definition `MessageKind.isCentral`: the kinds that the page handles itself.
- Definition `Handlers.registerAll`: a table with another handler for several kinds.
- Definition `without`: a frame with the messages of some kinds left out, at any depth.
- Definition `Handler.Quiet`: a handler that changes nothing, tells nothing and is never fatal.
- Theorem `Page.filters_of_quiet`: a quiet handler leaves out the messages of its kinds.
- Theorem `Page.ignoring_is_filtering`: so it is over every history.
-/

namespace LiveThread

variable {τ : Type}

/-! ## Kinds and tables -/

/-- Whether the page handles messages of this kind itself. -/
def MessageKind.isCentral : MessageKind → Bool
  | invalid | postId | concat | serverTime | noop => true
  | _ => false

/-- A table with another handler for several kinds, registered in order. -/
def Handlers.registerAll (handlers : Handlers τ) (kinds : List MessageKind)
    (handler : Handler τ) : Handlers τ :=
  kinds.foldl (fun table kind => table.register kind handler) handlers

/-- The handler is registered for these kinds and no others. -/
theorem Handlers.registerAll_apply (handlers : Handlers τ) (kinds : List MessageKind)
    (handler : Handler τ) (kind : MessageKind) :
    handlers.registerAll kinds handler kind
      = if kind ∈ kinds then handler else handlers kind := by
  induction kinds generalizing handlers with
  | nil => simp [registerAll]
  | cons first kinds ih =>
    have rest := ih (handlers.register first handler)
    by_cases later : kind ∈ kinds
    · simpa [registerAll, later] using rest
    · by_cases same : kind = first
      · simpa [registerAll, later, same, register] using rest
      · simpa [registerAll, later, same, register] using rest

/-! ## Quiet handlers -/

/-- A reply that leaves the page alone, tells nothing and is not fatal. -/
def Reply.Quiet (page : Page τ) (reply : Reply τ) : Prop :=
  reply.page = page ∧ reply.events = [] ∧ ¬ ∃ reason, reply.result = .error (.fatal reason)

/-- A quiet reply makes no difference to what comes next. -/
theorem Reply.Quiet.andThen {page : Page τ} {reply : Reply τ} (quiet : reply.Quiet page)
    (next : Page τ → Reply τ) : reply.andThen next = next page := by
  obtain ⟨same, untold, mild⟩ := quiet
  rw [Reply.andThen_of_passes mild, same, untold]
  rfl

/-- A handler whose replies are quiet. -/
def Handler.Quiet (handler : Handler τ) : Prop :=
  ∀ page m, (handler page m).Quiet page

/-- A handler that does nothing is quiet. -/
theorem Handlers.quiet_ignoring : Handler.Quiet (Handlers.ignoring : Handler τ) := by
  intro page m
  exact ⟨rfl, rfl, by rintro ⟨reason, ⟨⟩⟩⟩

/-- A handler that rejects every message is quiet. -/
theorem Handlers.quiet_rejecting : Handler.Quiet (Handlers.rejecting : Handler τ) := by
  intro page m
  exact ⟨rfl, rfl, by rintro ⟨reason, ⟨⟩⟩⟩

/-! ## Leaving messages out -/

/-- Whether messages of a kind are left out. -/
def leavesOut (kinds : List MessageKind) (kind : MessageKind) : Bool :=
  kind ∈ kinds && !kind.isCentral

/-- A frame with the messages of some kinds left out, unless it brings nothing else.  Messages
that the page handles itself stay, and so does what cannot be read. -/
def without (kinds : List MessageKind) (frame : String) : Option String :=
  match _h : ServerMessage.ofFrame frame with
  | .error _ => some frame
  | .ok (.concat frames) =>
    some (ServerMessage.concat (frames.attach.filterMap fun ⟨part, _⟩ => without kinds part)).frame
  | .ok m => if leavesOut kinds m.kind then none else some frame
termination_by frame.length
decreasing_by
  have := ServerMessage.length_lt_of_mem ‹_› ‹_›
  omega

section Without

variable {kinds : List MessageKind} {frame : String}

/-- What cannot be read stays. -/
theorem without_of_error {e : FrameError} (read : ServerMessage.ofFrame frame = .error e) :
    without kinds frame = some frame := by
  rw [without]
  split <;> simp_all

/-- A batch stays, with what stays of its frames. -/
theorem without_of_concat {frames : List String}
    (read : ServerMessage.ofFrame frame = .ok (.concat frames)) :
    without kinds frame
      = some (ServerMessage.concat (frames.filterMap (without kinds))).frame := by
  rw [without]
  split
  · next e other => simp [read] at other
  · next parts other =>
    rw [read] at other
    cases other
    simp
  · next m other same =>
    rw [read] at same
    cases same
    exact absurd rfl (other _)

/-- Any other message stays or is left out as a whole. -/
theorem without_of_single {m : ServerMessage} (read : ServerMessage.ofFrame frame = .ok m)
    (single : m.kind ≠ .concat) :
    without kinds frame = if leavesOut kinds m.kind then none else some frame := by
  rw [without]
  split
  · next e other => simp [read] at other
  · next parts other =>
    rw [read] at other
    cases other
    exact absurd rfl single
  · next m other same =>
    rw [read] at same
    cases same
    rfl

end Without

/-- A history with the messages of some kinds left out. -/
def historyWithout (kinds : List MessageKind) (history : List (Int64 × PageAction)) :
    List (Int64 × PageAction) :=
  history.filterMap fun entry => match entry with
    | (now, .receive frame) => (without kinds frame).map fun rest => (now, .receive rest)
    | entry => some entry

namespace Page

variable [Transport τ] {handlers others : Handlers τ}

/-! ## Tables that agree -/

/-- A message goes to no handler, or to the one of its kind. -/
theorem receive_congr {m : ServerMessage}
    (agree : m.kind.isCentral ∨ handlers m.kind = others m.kind) (now : Int64) (page : Page τ) :
    page.receive handlers now m = page.receive others now m := by
  cases m with
  | invalid | postId | concat | serverTime | noop => rfl
  | _ =>
    rcases agree with central | same
    · cases central
    · simp only [receive, same]

mutual

/-- Tables that agree on the kinds that the page does not handle itself take a delivery alike. -/
theorem deliver_congr (agree : ∀ kind : MessageKind, ¬ kind.isCentral → handlers kind = others kind)
    (now : Int64) (page : Page τ) : (delivery : Delivery) →
    page.deliver handlers now delivery = page.deliver others now delivery
  | .rejected _ => rfl
  | .single m => by
    have central : m.kind.isCentral ∨ handlers m.kind = others m.kind := by
      by_cases central : m.kind.isCentral
      · exact .inl central
      · exact .inr (agree m.kind central)
    exact receive_congr central now page
  | .batch parts => deliverAll_congr agree now page parts

/-- So they do with the parts of a batch. -/
theorem deliverAll_congr
    (agree : ∀ kind : MessageKind, ¬ kind.isCentral → handlers kind = others kind)
    (now : Int64) (page : Page τ) : (parts : List Delivery) →
    page.deliverAll handlers now parts = page.deliverAll others now parts
  | [] => rfl
  | part :: parts => by
    rw [deliverAll_cons, deliverAll_cons, deliver_congr agree now page part]
    congr
    funext after
    exact deliverAll_congr agree now after parts

end

/-! ## Filtering -/

variable {handler : Handler τ} {kinds : List MessageKind}

/-- A message that is left out goes to the handler registered for its kind. -/
theorem receive_of_leavesOut {m : ServerMessage} (out : leavesOut kinds m.kind)
    (now : Int64) (page : Page τ) :
    page.receive (handlers.registerAll kinds handler) now m = handler page m := by
  simp only [leavesOut, Bool.and_eq_true, decide_eq_true_eq, Bool.not_eq_true'] at out
  obtain ⟨listed, direct⟩ := out
  have asked : page.receive (handlers.registerAll kinds handler) now m
      = handlers.registerAll kinds handler m.kind page m := by
    cases m with
    | invalid | postId | concat | serverTime | noop => cases direct
    | _ => rfl
  rw [asked, Handlers.registerAll_apply, if_pos listed]

/-- Any other message is taken as without the handler. -/
theorem receive_of_stays {m : ServerMessage} (stays : ¬ leavesOut kinds m.kind)
    (now : Int64) (page : Page τ) :
    page.receive (handlers.registerAll kinds handler) now m = page.receive handlers now m := by
  apply receive_congr
  simp only [leavesOut, Bool.and_eq_true, decide_eq_true_eq, Bool.not_eq_true'] at stays
  by_cases central : m.kind.isCentral
  · exact .inl central
  · right
    have unlisted : m.kind ∉ kinds := fun listed => stays ⟨listed, by simpa using central⟩
    rw [Handlers.registerAll_apply, if_neg unlisted]

/-- What a table with a quiet handler does with a frame: what the other table does with the rest of
it, and nothing if there is no rest. -/
def Filters (handlers others : Handlers τ) (kinds : List MessageKind) (now : Int64)
    (frame : String) : Prop :=
  ∀ page : Page τ, match without kinds frame with
    | some rest => page.deliverFrame handlers now frame = page.deliverFrame others now rest
    | none => (page.deliverFrame handlers now frame).Quiet page

/-- Frames are filtered together if they are filtered one by one. -/
theorem deliverAll_filters {now : Int64} {frames : List String}
    (each : ∀ frame ∈ frames, Filters handlers others kinds now frame) (page : Page τ) :
    page.deliverAll handlers now (frames.map Delivery.ofFrame)
      = page.deliverAll others now
          ((frames.filterMap (without kinds)).map Delivery.ofFrame) := by
  induction frames generalizing page with
  | nil => rfl
  | cons frame frames ih =>
    have rest : ∀ page : Page τ, _ := ih fun part mem => each part (List.mem_cons_of_mem frame mem)
    have first := each frame List.mem_cons_self page
    rw [List.map_cons, deliverAll_cons]
    cases kept : without kinds frame with
    | none =>
      simp only [kept] at first
      rw [List.filterMap_cons_none kept]
      exact (first.andThen _).trans (rest page)
    | some text =>
      simp only [kept] at first
      rw [List.filterMap_cons_some kept, List.map_cons, deliverAll_cons]
      unfold deliverFrame at first
      rw [first]
      congr
      funext after
      exact rest after

/-- A quiet handler leaves out the messages of its kinds, at any depth. -/
theorem filters_of_quiet (handlers : Handlers τ) (kinds : List MessageKind)
    (quiet : handler.Quiet) (now : Int64) (frame : String) :
    Filters (handlers.registerAll kinds handler) handlers kinds now frame := by
  -- The frames of a batch are shorter than it.
  induction size : frame.length using Nat.strong_induction_on generalizing frame with
  | _ size ih =>
    subst size
    intro page
    cases read : ServerMessage.ofFrame frame with
    | error e =>
      simp only [without_of_error read]
      rw [deliverFrame_eq_dispatch, deliverFrame_eq_dispatch, read]
    | ok m =>
      by_cases several : m.kind = .concat
      · obtain ⟨frames, rfl⟩ : ∃ frames, m = .concat frames := by
          cases m <;> first | exact ⟨_, rfl⟩ | cases several
        have each : ∀ part ∈ frames, Filters (handlers.registerAll kinds handler) handlers kinds
            now part := fun part mem =>
          ih part.length (by have := ServerMessage.length_lt_of_mem read mem; omega) part rfl
        simp only [without_of_concat read]
        rw [deliverFrame_eq_dispatch, deliverFrame_eq_dispatch, read,
          ServerMessage.ofFrame_concat]
        exact deliverAll_filters each page
      · have alone : ∀ table : Handlers τ,
            page.deliverFrame table now frame = page.receive table now m := by
          intro table
          rw [deliverFrame, Delivery.ofFrame_of_single read several, deliver]
        rw [without_of_single read several, alone]
        by_cases out : leavesOut kinds m.kind
        · simp only [if_pos out, receive_of_leavesOut out]
          exact quiet page m
        · simp only [if_neg out, alone, receive_of_stays out]

/-! ## Histories -/

/-- A quiet handler leaves out the messages of its kinds over every history. -/
theorem elapse_quiet (quiet : handler.Quiet) (page : Page τ)
    (history : List (Int64 × PageAction)) :
    page.elapse (handlers.registerAll kinds handler) history
      = page.elapse handlers (historyWithout kinds history) := by
  induction history generalizing page with
  | nil => rfl
  | cons entry history ih =>
    obtain ⟨now, action⟩ := entry
    cases action with
    | receive frame =>
      have filtered := filters_of_quiet handlers kinds quiet now frame page
      cases kept : without kinds frame with
      | none =>
        simp only [kept] at filtered
        obtain ⟨same, untold, -⟩ := filtered
        simp only [elapse_cons, act, same, untold, List.nil_append, historyWithout,
          List.filterMap_cons, kept, Option.map_none]
        exact ih page
      | some rest =>
        simp only [kept] at filtered
        simp only [elapse_cons, act, filtered, historyWithout, List.filterMap_cons, kept,
          Option.map_some]
        rw [ih]
        rfl
    | _ =>
      simp only [elapse_cons, historyWithout, List.filterMap_cons, ih]
      rfl

/-- Tables that agree on the kinds that the page does not handle itself make no difference. -/
theorem elapse_congr (agree : ∀ kind : MessageKind, ¬ kind.isCentral → handlers kind = others kind)
    (page : Page τ) (history : List (Int64 × PageAction)) :
    page.elapse handlers history = page.elapse others history := by
  induction history generalizing page with
  | nil => rfl
  | cons entry history ih =>
    obtain ⟨now, action⟩ := entry
    have same : page.act handlers now action = page.act others now action := by
      cases action with
      | receive frame => simp only [act, deliverFrame, deliver_congr agree]
      | _ => rfl
    simp only [elapse_cons, same, ih]

/-- For every table of handlers: a handler that does nothing, registered for some kinds, takes every
history as the table alone takes it with the messages of these kinds left out, at any depth, except
those that the page handles itself.  So does one that rejects every message: on its own such a
message is rejected as unsupported, and in a batch it does not stop the ones after it.  What is
registered for the kinds that the page handles itself makes no difference. -/
theorem ignoring_is_filtering (handlers : Handlers τ) (kinds : List MessageKind) (page : Page τ) :
    let ignoring := handlers.registerAll kinds Handlers.ignoring
    let rejecting := handlers.registerAll kinds Handlers.rejecting
    (∀ history, page.elapse ignoring history = page.elapse handlers (historyWithout kinds history)) ∧
    (∀ history,
      page.elapse rejecting history = page.elapse handlers (historyWithout kinds history)) ∧
    (∀ now frames, page.dispatch rejecting now (.concat frames)
      = page.dispatch handlers now (.concat (frames.filterMap (without kinds)))) ∧
    (∀ now m, m.kind ∈ kinds → m.kind.isCentral = false →
      page.dispatch rejecting now m = page.reject (.frame (.unsupported m.kind))) ∧
    ∀ central : List MessageKind, (∀ kind ∈ central, kind.isCentral) → ∀ handler history,
      page.elapse (handlers.registerAll central handler) history = page.elapse handlers history := by
  intro ignoring rejecting
  refine ⟨elapse_quiet Handlers.quiet_ignoring page, elapse_quiet Handlers.quiet_rejecting page,
    ?_, ?_, ?_⟩
  · intro now frames
    exact deliverAll_filters
      (fun part _ => filters_of_quiet handlers kinds Handlers.quiet_rejecting now part) page
  · intro now m listed direct
    have out : leavesOut kinds m.kind := by simp [leavesOut, listed, direct]
    have single : page.dispatch rejecting now m = page.receive rejecting now m := by
      cases m with
      | concat => cases direct
      | _ => rfl
    exact single.trans (receive_of_leavesOut out now page)
  · intro central all handler history
    apply elapse_congr
    intro kind direct
    rw [Handlers.registerAll_apply, if_neg fun listed => direct (all kind listed)]

/-- A redirection is left out of a batch, and what comes after it stays. -/
theorem ignoring_is_filtering_in_batches :
    let page := Page.inMemory "a" 1
    let redirect := (ServerMessage.redirect "b").frame
    let news := (ServerMessage.notification "c").frame
    let batch := (ServerMessage.concat [redirect, news]).frame
    let rest := (ServerMessage.concat [news]).frame
    let ignoring := Handlers.standard.registerAll [.redirect] Handlers.ignoring
    let rejecting := Handlers.standard.registerAll [.redirect] Handlers.rejecting
    page.elapse ignoring [(0, .receive batch)]
      = page.elapse Handlers.standard [(0, .receive rest)] ∧
    page.elapse rejecting [(0, .receive batch)]
      = page.elapse Handlers.standard [(0, .receive rest)] ∧
    page.dispatch rejecting 0 (.redirect "b") = page.reject (.frame (.unsupported .redirect)) ∧
    page.elapse (Handlers.standard.registerAll [.noop] Handlers.rejecting) [(0, .receive batch)]
      = page.elapse Handlers.standard [(0, .receive batch)] := by
  intro page redirect news batch rest ignoring rejecting
  have out : without [.redirect] redirect = none :=
    without_of_single (ServerMessage.ofFrame_frame (.redirect "b")
      (by simp [ServerMessage.documents])) (by rintro ⟨⟩)
  have stays : without [.redirect] news = some news :=
    without_of_single (ServerMessage.ofFrame_frame (.notification "c")
      (by simp [ServerMessage.documents])) (by rintro ⟨⟩)
  have filtered : historyWithout [.redirect] [(0, .receive batch)] = [(0, .receive rest)] := by
    simp only [historyWithout, List.filterMap_cons, List.filterMap_nil, batch,
      without_of_concat (ServerMessage.ofFrame_concat _), out, stays, Option.map_some, rest]
  obtain ⟨ignored, rejected, -, alone, central⟩ :=
    ignoring_is_filtering Handlers.standard [.redirect] page
  refine ⟨?_, ?_, alone 0 (.redirect "b") (by simp [ServerMessage.kind]) rfl,
    central [.noop] (by simp [MessageKind.isCentral]) Handlers.rejecting _⟩
  · rw [← filtered]
    exact ignored _
  · rw [← filtered]
    exact rejected _

end Page

end LiveThread
