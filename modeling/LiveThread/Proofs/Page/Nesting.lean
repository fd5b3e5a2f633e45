import LiveThread.Proofs.Page.Batches

/-!
# Nesting

A frame of a batch may be a batch again.  The texts of a batch are read anew,
so no limit on the levels of one text bounds how deep batches are nested.  What
bounds it is the length: the frames of a batch, with the marks around them, fit
into the batch.

Main results:

- Definition `Page.dispatchWithin`: taking a frame with a bound on the levels, and counting.
- Definition `nested`: batches in batches.
- Theorem `ServerMessage.sum_length_le`: what is in a batch is shorter than the batch.
- Theorem `Page.dispatchWithin_eq`: the length of a frame bounds its levels and its frames.
- Theorem `Page.dispatch_ends`: every frame is taken in its own length.
-/

namespace LiveThread

variable {τ : Type}

/-! ## The length of a batch -/

/-- The marked length is the length of the texts and three for each. -/
theorem ServerMessage.markedLength_eq (texts : List String) :
    markedLength texts = (texts.map String.length).sum + 3 * texts.length := by
  induction texts with
  | nil => rfl
  | cons text texts ih =>
    simp only [markedLength, ih, List.map_cons, List.sum_cons, List.length_cons]
    omega

/-- The frames of a batch that has any are together shorter than the batch. -/
theorem ServerMessage.sum_length_le {batch : String} {frames : List String}
    (read : ofFrame batch = .ok (concat frames)) (filled : frames ≠ []) :
    (frames.map String.length).sum + 6 ≤ batch.length := by
  have whole := markedLength_le read
  have counted := markedLength_eq frames
  have := List.length_pos_iff.2 filled
  omega

/-- A batch is read back. -/
theorem ServerMessage.ofFrame_concat (frames : List String) :
    ofFrame (concat frames).frame = .ok (concat frames) :=
  ofFrame_frame (.concat frames) (by simp [documents])

namespace Page

variable [Transport τ] (handlers : Handlers τ) (now : Int64)

/-! ## Taking a frame within some levels -/

/-- Takes frames in order, up to the first one that is fatal, and counts what is taken. -/
def takeAll (take : Page τ → String → Option (Reply τ × Nat)) (page : Page τ) :
    List String → Option (Reply τ × Nat)
  | [] => some (page.ignore, 0)
  | frame :: frames => do
    let (first, count) ← take page frame
    match first.result with
    | .error (.fatal _) => return (first, count)
    | _ =>
      let (rest, others) ← first.page.takeAll take frames
      return (rest.preceded first.events, count + others)

/-- Takes a frame as it comes, and then the frames in it one after the other.  Tells how many
frames were taken; fails if batches are nested deeper than this many levels. -/
def dispatchWithin : Nat → Page τ → String → Option (Reply τ × Nat)
  | 0, _, _ => none
  | levels + 1, page, frame =>
    match ServerMessage.ofFrame frame with
    | .error e => some (page.reject (.frame e), 1)
    | .ok (.concat frames) =>
      (page.takeAll (dispatchWithin levels) frames).map fun (reply, count) => (reply, count + 1)
    | .ok m => some (page.receive handlers now m, 1)

/-- Frames that can be taken one by one can be taken together. -/
theorem takeAll_eq {take : Page τ → String → Option (Reply τ × Nat)} {frames : List String}
    (each : ∀ page, ∀ frame ∈ frames, ∃ count, count ≤ frame.length + 1 ∧
      take page frame = some (page.deliverFrame handlers now frame, count)) (page : Page τ) :
    ∃ count, count ≤ ServerMessage.markedLength frames ∧
      page.takeAll take frames
        = some (page.deliverAll handlers now (frames.map Delivery.ofFrame), count) := by
  induction frames generalizing page with
  | nil => exact ⟨0, Nat.le_refl 0, rfl⟩
  | cons frame frames ih =>
    obtain ⟨count, few, taken⟩ := each page frame List.mem_cons_self
    have others := ih fun page part mem => each page part (List.mem_cons_of_mem frame mem)
    have parted : page.deliverAll handlers now ((frame :: frames).map Delivery.ofFrame)
        = (page.deliverFrame handlers now frame).andThen
            (·.deliverAll handlers now (frames.map Delivery.ofFrame)) := rfl
    rw [takeAll, taken, parted, ServerMessage.markedLength]
    by_cases fatal : ∃ reason,
        (page.deliverFrame handlers now frame).result = .error (.fatal reason)
    · obtain ⟨reason, stops⟩ := fatal
      refine ⟨count, by omega, ?_⟩
      rw [Reply.andThen_of_fatal stops]
      simp [stops]
    · obtain ⟨more, fewer, rest⟩ := others (page.deliverFrame handlers now frame).page
      refine ⟨count + more, by omega, ?_⟩
      rw [Reply.andThen_of_passes fatal]
      simp only [Option.pure_def, Option.bind_eq_bind, Option.bind_some, rest]
      split
      · next reason stops => exact absurd ⟨reason, stops⟩ fatal
      · rfl

/-- The length of a frame bounds how deep batches are nested in it, and how many frames there are:
the frame itself and at most one for each of its characters. -/
theorem dispatchWithin_eq {levels : Nat} {frame : String} (room : frame.length + 1 ≤ levels)
    (page : Page τ) :
    ∃ count, count ≤ frame.length + 1 ∧
      page.dispatchWithin handlers now levels frame
        = some (page.deliverFrame handlers now frame, count) := by
  induction levels generalizing frame page with
  | zero => omega
  | succ levels ih =>
    rw [deliverFrame_eq_dispatch, dispatchWithin]
    cases read : ServerMessage.ofFrame frame with
    | error e => exact ⟨1, by omega, rfl⟩
    | ok m =>
      cases m with
      | concat frames =>
        have each : ∀ page, ∀ part ∈ frames, ∃ count, count ≤ part.length + 1 ∧
            dispatchWithin handlers now levels page part
              = some (page.deliverFrame handlers now part, count) := by
          intro page part mem
          have shorter := ServerMessage.length_lt_of_mem read mem
          exact ih (by omega) page
        obtain ⟨count, few, taken⟩ := takeAll_eq handlers now each page
        have whole := ServerMessage.markedLength_le read
        refine ⟨count + 1, by omega, ?_⟩
        simp only [taken, dispatch, Option.map_some]
      | _ => exact ⟨1, by omega, rfl⟩

/-! ## Batches in batches -/

/-- An empty batch, within this many batches. -/
def nested : Nat → String
  | 0 => (ServerMessage.concat []).frame
  | levels + 1 => (ServerMessage.concat [nested levels]).frame

/-- Batches in batches are taken with one level more than there are batches around the last one,
and not with fewer. -/
theorem dispatchWithin_nested (levels : Nat) (page : Page τ) :
    page.dispatchWithin handlers now levels (nested levels) = none ∧
      page.dispatchWithin handlers now (levels + 1) (nested levels)
        = some (page.ignore, levels + 1) := by
  induction levels with
  | zero =>
    refine ⟨rfl, ?_⟩
    rw [dispatchWithin, nested, ServerMessage.ofFrame_concat]
    rfl
  | succ levels ih =>
    obtain ⟨tooFew, enough⟩ := ih
    have read : ServerMessage.ofFrame (nested (levels + 1)) = .ok (.concat [nested levels]) :=
      ServerMessage.ofFrame_concat _
    constructor
    · rw [dispatchWithin, read]
      simp [takeAll, tooFew]
    · rw [dispatchWithin, read]
      simp only [takeAll, enough]
      rfl

/-- Taking a frame ends, for every page and all handlers.  A frame of a batch has at least six
characters fewer than the batch, and so have the frames of a batch together.  No more levels of
batches are in a frame, and no more frames are taken with it, than it has characters, and one.
Batches may be nested to every depth, though one text may not. -/
theorem dispatch_ends (page : Page τ) :
    (∀ batch frames, ServerMessage.ofFrame batch = .ok (.concat frames) →
      (∀ frame ∈ frames, frame.length + 6 ≤ batch.length) ∧
        (frames ≠ [] → (frames.map String.length).sum + 6 ≤ batch.length)) ∧
    (∀ frame levels, frame.length + 1 ≤ levels → ∃ count, count ≤ frame.length + 1 ∧
      page.dispatchWithin handlers now levels frame
        = some (page.deliverFrame handlers now frame, count)) ∧
    ∀ levels, ∃ frame, page.dispatchWithin handlers now levels frame = none ∧
      page.dispatchWithin handlers now (levels + 1) frame = some (page.ignore, levels + 1) := by
  refine ⟨?_, ?_, fun levels => ⟨nested levels, dispatchWithin_nested handlers now levels page⟩⟩
  · intro batch frames read
    exact ⟨fun frame mem => ServerMessage.length_lt_of_mem read mem,
      ServerMessage.sum_length_le read⟩
  · intro frame levels room
    exact dispatchWithin_eq handlers now room page

/-- Two messages without an effect in a batch. -/
theorem dispatch_ends_for_pair :
    let page := Page.inMemory "a" 1
    let part := ServerMessage.noop.frame
    let batch := (ServerMessage.concat [part, part]).frame
    ServerMessage.ofFrame batch = .ok (.concat [part, part]) ∧
    part.length + 6 ≤ batch.length ∧
    part.length + part.length + 6 ≤ batch.length ∧
    ∃ count, count ≤ batch.length + 1 ∧
      page.dispatchWithin Handlers.standard 0 (batch.length + 1) batch
        = some (page.deliverFrame Handlers.standard 0 batch, count) := by
  intro page part batch
  have read : ServerMessage.ofFrame batch = .ok (.concat [part, part]) :=
    ServerMessage.ofFrame_concat [part, part]
  obtain ⟨sizes, ends, -⟩ := dispatch_ends Handlers.standard 0 page
  obtain ⟨each, together⟩ := sizes batch [part, part] read
  refine ⟨read, each part List.mem_cons_self, ?_, ends batch _ (Nat.le_refl _)⟩
  simpa using together (by simp)

end Page

end LiveThread
