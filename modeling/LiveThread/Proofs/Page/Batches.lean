import LiveThread.Proofs.Page.Steps

/-!
# Batches

A batch has no effect of its own, so it does not matter how frames are batched.
The page takes the frames of a batch in order, up to the first fatal one, and a
batch among them is as good as its frames in its place.

Main results:

- Definition `Page.dispatch`: what a page does with a message, batches included.
- Definition `Reply.andThen`: going on after a reply that is not fatal.
- Definition `Bundle`: frames and batches of them, at any depth.
- Theorem `Page.deliverAll_append`: the parts of a batch are taken in two goes.
- Theorem `Page.deliverAll_bundles`: bundles are taken like the frames in them.
- Theorem `Page.batches_are_transparent`: it does not matter how frames are batched.
-/

namespace LiveThread

variable {τ : Type}

/-! ## Going on after a reply -/

namespace Reply

/-- The same reply, with what was told before it. -/
def preceded (reply : Reply τ) (events : List Event) : Reply τ :=
  { reply with events := events ++ reply.events }

/-- What comes next, unless the reply is fatal. -/
def andThen (first : Reply τ) (next : Page τ → Reply τ) : Reply τ :=
  match first.result with
  | .error (.fatal _) => first
  | _ => (next first.page).preceded first.events

/-- Nothing comes after a fatal reply. -/
theorem andThen_of_fatal {first : Reply τ} {reason : String}
    (fatal : first.result = .error (.fatal reason)) (next : Page τ → Reply τ) :
    first.andThen next = first := by
  simp only [andThen, fatal]

/-- Any other reply is followed by what comes next. -/
theorem andThen_of_passes {first : Reply τ}
    (passes : ¬ ∃ reason, first.result = .error (.fatal reason)) (next : Page τ → Reply τ) :
    first.andThen next = (next first.page).preceded first.events := by
  unfold andThen
  split
  · next reason fatal => exact absurd ⟨reason, fatal⟩ passes
  · rfl

/-- What was told before does not matter for what comes next. -/
theorem preceded_andThen (reply : Reply τ) (events : List Event) (next : Page τ → Reply τ) :
    (reply.preceded events).andThen next = (reply.andThen next).preceded events := by
  have same : (reply.preceded events).result = reply.result := rfl
  by_cases fatal : ∃ reason, reply.result = .error (.fatal reason)
  · obtain ⟨reason, stops⟩ := fatal
    rw [andThen_of_fatal stops, andThen_of_fatal (same.trans stops)]
  · rw [andThen_of_passes fatal, andThen_of_passes (by rwa [same])]
    simp only [preceded, List.append_assoc]

/-- It does not matter what one goes on with first. -/
theorem andThen_assoc (first : Reply τ) (second third : Page τ → Reply τ) :
    (first.andThen second).andThen third
      = first.andThen fun page => (second page).andThen third := by
  by_cases fatal : ∃ reason, first.result = .error (.fatal reason)
  · obtain ⟨reason, stops⟩ := fatal
    simp only [andThen_of_fatal stops]
  · rw [andThen_of_passes fatal, andThen_of_passes fatal, preceded_andThen]

/-- Nothing comes before what comes next. -/
theorem ignore_andThen (page : Page τ) (next : Page τ → Reply τ) :
    page.ignore.andThen next = next page :=
  rfl

end Reply

/-! ## Bundles -/

/-- Frames and batches of them, at any depth. -/
inductive Bundle where
  | frame (text : String)
  | batch (parts : List Bundle)

mutual

/-- The frame that a bundle is sent as. -/
def Bundle.text : Bundle → String
  | .frame text => text
  | .batch parts => (ServerMessage.concat (textsOf parts)).frame

/-- The frames that some bundles are sent as. -/
def textsOf : List Bundle → List String
  | [] => []
  | part :: parts => part.text :: textsOf parts

end

mutual

/-- The frames in a bundle, in order. -/
def Bundle.leaves : Bundle → List String
  | .frame text => [text]
  | .batch parts => leavesOf parts

/-- The frames in some bundles, in order. -/
def leavesOf : List Bundle → List String
  | [] => []
  | part :: parts => part.leaves ++ leavesOf parts

end

namespace Page

variable [Transport τ] (handlers : Handlers τ) (now : Int64)

/-! ## Parts of a batch -/

/-- Takes a message; a batch is taken part by part. -/
def dispatch (page : Page τ) (m : ServerMessage) : Reply τ :=
  match m with
  | .concat frames => page.deliverAll handlers now (frames.map Delivery.ofFrame)
  | m => page.receive handlers now m

/-- To take a frame is to read it and to take its message. -/
theorem deliverFrame_eq_dispatch (page : Page τ) (frame : String) :
    page.deliverFrame handlers now frame = match ServerMessage.ofFrame frame with
      | .error e => page.reject (.frame e)
      | .ok m => page.dispatch handlers now m := by
  cases read : ServerMessage.ofFrame frame with
  | error e => rw [deliverFrame, Delivery.ofFrame_of_error read, deliver]
  | ok m =>
    cases m with
    | concat frames =>
      rw [deliverFrame, Delivery.ofFrame_of_concat read, deliver]
      rfl
    | _ =>
      rw [deliverFrame, Delivery.ofFrame_of_single read (by rintro ⟨⟩), deliver]
      rfl

/-- The first part is taken before the others. -/
theorem deliverAll_cons (page : Page τ) (part : Delivery) (parts : List Delivery) :
    page.deliverAll handlers now (part :: parts)
      = (page.deliver handlers now part).andThen (·.deliverAll handlers now parts) :=
  rfl

/-- The parts of a batch are taken in two goes. -/
theorem deliverAll_append (page : Page τ) (first second : List Delivery) :
    page.deliverAll handlers now (first ++ second)
      = (page.deliverAll handlers now first).andThen (·.deliverAll handlers now second) := by
  induction first generalizing page with
  | nil => exact (Reply.ignore_andThen page (·.deliverAll handlers now second)).symm
  | cons part parts ih =>
    simp only [List.cons_append, deliverAll_cons, ih, Reply.andThen_assoc]

/-- A batch in a batch is as good as its parts in its place. -/
theorem deliverAll_batch (page : Page τ) (first inner last : List Delivery) :
    page.deliverAll handlers now (first ++ .batch inner :: last)
      = page.deliverAll handlers now (first ++ inner ++ last) := by
  rw [List.append_assoc, deliverAll_append, deliverAll_append handlers now page first]
  congr
  funext after
  rw [deliverAll_cons, deliverAll_append]
  rfl

-- A frame that is rejected is passed over in a batch but not on its own, so a bundle and its
-- frames give the same reply only together with what comes next.
mutual

/-- What comes after a bundle comes after the frames in it. -/
theorem deliver_bundle (page : Page τ) (next : Page τ → Reply τ) : (part : Bundle) →
    (page.deliver handlers now (Delivery.ofFrame part.text)).andThen next
      = (page.deliverAll handlers now (part.leaves.map Delivery.ofFrame)).andThen next
  | .frame text => by
    simp only [Bundle.text, Bundle.leaves, List.map_cons, List.map_nil, deliverAll_cons,
      Reply.andThen_assoc]
    rfl
  | .batch parts => by
    simp only [Bundle.text, Bundle.leaves, Delivery.ofFrame_concat, deliver]
    rw [deliverAll_bundles page parts]

/-- Bundles are taken like the frames in them. -/
theorem deliverAll_bundles (page : Page τ) : (parts : List Bundle) →
    page.deliverAll handlers now ((textsOf parts).map Delivery.ofFrame)
      = page.deliverAll handlers now ((leavesOf parts).map Delivery.ofFrame)
  | [] => rfl
  | part :: parts => by
    simp only [textsOf, leavesOf, List.map_cons, List.map_append, deliverAll_cons,
      deliverAll_append]
    rw [deliver_bundle page _ part]
    congr
    funext after
    exact deliverAll_bundles after parts

end

/-! ## Frames one by one -/

/-- The page after some frames, and what is told of them; rejections are passed over. -/
def takeEach (page : Page τ) : List String → Page τ × List Event
  | [] => (page, [])
  | frame :: frames =>
    let first := page.deliverFrame handlers now frame
    let rest := first.page.takeEach frames
    (rest.1, first.events ++ rest.2)

/-- None of some frames is fatal when they are taken in order. -/
def Tolerates (page : Page τ) : List String → Prop
  | [] => True
  | frame :: frames =>
    (∀ reason, (page.deliverFrame handlers now frame).result ≠ .error (.fatal reason)) ∧
      (page.deliverFrame handlers now frame).page.Tolerates frames

/-- A batch is accepted if none of its frames is fatal, and is then taken as a whole; otherwise it
is taken up to its first fatal frame and rejected for the reason of that one. -/
theorem dispatch_concat_cases (page : Page τ) (frames : List String) :
    (page.Tolerates handlers now frames ∧
      page.dispatch handlers now (.concat frames)
        = { result := .ok ()
            page := (page.takeEach handlers now frames).1
            events := (page.takeEach handlers now frames).2 }) ∨
    ∃ past frame rest reason, frames = past ++ frame :: rest ∧
      page.Tolerates handlers now past ∧
      ((page.takeEach handlers now past).1.deliverFrame handlers now frame).result
        = .error (.fatal reason) ∧
      page.dispatch handlers now (.concat frames)
        = { result := .error (.fatal reason)
            page := (page.takeEach handlers now (past ++ [frame])).1
            events := (page.takeEach handlers now (past ++ [frame])).2 } := by
  induction frames generalizing page with
  | nil => exact .inl ⟨trivial, rfl⟩
  | cons frame frames ih =>
    have taken : page.dispatch handlers now (.concat (frame :: frames))
        = (page.deliverFrame handlers now frame).andThen
            (·.dispatch handlers now (.concat frames)) := rfl
    by_cases fatal : ∃ reason,
        (page.deliverFrame handlers now frame).result = .error (.fatal reason)
    · obtain ⟨reason, stops⟩ := fatal
      refine .inr ⟨[], frame, frames, reason, rfl, trivial, stops, ?_⟩
      rw [taken, Reply.andThen_of_fatal stops]
      simp [takeEach, ← stops]
    · have passes : ∀ reason,
          (page.deliverFrame handlers now frame).result ≠ .error (.fatal reason) :=
        fun reason stops => fatal ⟨reason, stops⟩
      rw [taken, Reply.andThen_of_passes fatal]
      rcases ih (page.deliverFrame handlers now frame).page with ⟨tolerated, whole⟩ |
        ⟨past, last, rest, reason, rfl, tolerated, stops, upTo⟩
      · rw [whole]
        exact .inl ⟨⟨passes, tolerated⟩, rfl⟩
      · rw [upTo]
        exact .inr ⟨frame :: past, last, rest, reason, rfl, ⟨passes, tolerated⟩, stops, rfl⟩

/-- To take a frame is to read it and to take its message, and for every page and all handlers it
does not matter how frames are batched: a batch in a batch, once written, is as good as its frames
in its place, and so are batches at any depth.  A batch is taken frame by frame, up to the first one
that is fatal, for the reason of which it is rejected; other rejections are passed over. -/
theorem batches_are_transparent (page : Page τ) :
    (∀ frame, page.deliverFrame handlers now frame = match ServerMessage.ofFrame frame with
      | .error e => page.reject (.frame e)
      | .ok m => page.dispatch handlers now m) ∧
    (∀ xs ys zs : List String,
      page.dispatch handlers now (.concat (xs ++ [(ServerMessage.concat ys).frame] ++ zs))
        = page.dispatch handlers now (.concat (xs ++ ys ++ zs))) ∧
    (∀ parts : List Bundle,
      page.dispatch handlers now (.concat (textsOf parts))
        = page.dispatch handlers now (.concat (leavesOf parts))) ∧
    ∀ frames : List String,
      let reply := page.dispatch handlers now (.concat frames)
      let taken := page.takeEach handlers now
      (page.Tolerates handlers now frames ∧
        reply = { result := .ok (), page := (taken frames).1, events := (taken frames).2 }) ∨
      ∃ past frame rest reason, frames = past ++ frame :: rest ∧
        page.Tolerates handlers now past ∧
        ((taken past).1.deliverFrame handlers now frame).result = .error (.fatal reason) ∧
        reply = { result := .error (.fatal reason)
                  page := (taken (past ++ [frame])).1
                  events := (taken (past ++ [frame])).2 } := by
  refine ⟨deliverFrame_eq_dispatch handlers now page, ?_, deliverAll_bundles handlers now page,
    dispatch_concat_cases handlers now page⟩
  intro xs ys zs
  simp only [dispatch, List.map_append, List.map_cons, Delivery.ofFrame_concat,
    List.append_assoc, List.singleton_append]
  rw [deliverAll_batch, List.append_assoc]

end Page

end LiveThread
