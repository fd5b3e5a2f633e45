import LiveThread.Proofs.Page.Batches
import LiveThread.Proofs.Page.Events
import LiveThread.Proofs.Page.Listeners

/-!
# Rejected frames

A frame is rejected if it cannot be read, if it brings an id for which nobody
waits, or if the time that it brings is too far from the local clock.  Nothing
comes of it then: a batch is never rejected because of one of its frames, so no
part of it can have been taken before.  Whatever happens in a session later
happens as if the frame had not arrived.

Main results:

- Definition `Page.Faulty`: why a message that was read is rejected, other than for good.
- Theorem `Page.rejects_iff`: a frame is rejected if it cannot be read, or for its message.
- Theorem `Page.deliverFrame_rejected`: a rejected frame is only rejected.
- Theorem `Page.dispatch_concat_of_rejects`: so are the frames of a batch that has no others.
- Theorem `Session.live_of_rejects`: a session goes on as if a rejected frame had not arrived.
- Theorem `Session.rejected_frames_leave_no_trace`: all of it, for every state of a session.
-/

namespace LiveThread

namespace Page

variable {τ : Type} [Transport τ] {page : Page τ} {now : Int64} {e : DeliveryError}

/-! ## Rejected messages -/

/-- Two times have no difference if it has more than 64 bits. -/
theorem difference?_eq_none_iff {a b : Int64} :
    difference? a b = none ↔
      ¬ (-0x8000000000000000 ≤ a.toInt - b.toInt ∧ a.toInt - b.toInt < 0x8000000000000000) := by
  simp only [difference?]
  split <;> simp_all

/-- Why a message that was read is rejected, if it is not the end. -/
inductive Faulty (now : Int64) (page : Page τ) : ServerMessage → DeliveryError → Prop
  /-- Nobody waits for the id. -/
  | unexpected (id : UInt64) (idle : ¬ page.Awaits) :
      Faulty now page (.postId id) (.unexpectedAllocation ⟨id⟩)
  /-- The difference to the local clock has more than 64 bits. -/
  | far (time : Int64) (apart : difference? time now = none) :
      Faulty now page (.serverTime time) (.frame (.impossiblePayload .serverTime (.serverTime time)))

/-- A message that is rejected for such a reason is only rejected. -/
theorem Faulty.receive_eq {m : ServerMessage} (faulty : page.Faulty now m e) :
    page.receive Handlers.standard now m = page.reject e := by
  cases faulty with
  | unexpected id idle => exact receiveId_of_not_awaits idle now id
  | far time apart => simp only [receive, setClock, apart]

/-- A message is rejected for one of these reasons, or it is the end. -/
theorem receive_rejects_iff {m : ServerMessage} :
    ((page.receive Handlers.standard now m).result = .error e ∧ ∀ reason, e ≠ .fatal reason) ↔
      page.Faulty now m e := by
  constructor
  · rintro ⟨rejected, mild⟩
    cases m with
    | invalid reason =>
      cases rejected
      exact absurd rfl (mild reason)
    | postId id =>
      by_cases awaited : page.Awaits
      · obtain ⟨number, c, attached, found, waits⟩ := awaited
        obtain ⟨ticket, waiting⟩ := Option.isSome_iff_exists.1 waits
        simp [receive, receiveId_of_waiting attached found waiting] at rejected
      · simp only [receive, receiveId_of_not_awaits awaited] at rejected
        cases rejected
        exact .unexpected id awaited
    | serverTime time =>
      simp only [receive, setClock] at rejected
      split at rejected
      · cases rejected
      · next apart =>
        cases rejected
        exact .far time apart
    | noop | concat => cases rejected
    | _ => simp [receive, Handlers.standard] at rejected
  · intro faulty
    rw [faulty.receive_eq]
    exact ⟨rfl, by cases faulty <;> rintro reason ⟨⟩⟩

/-! ## Rejected frames -/

/-- A page with the standard handlers rejects a frame, but not for good. -/
def Rejects (now : Int64) (page : Page τ) (frame : String) (e : DeliveryError) : Prop :=
  (page.deliverFrame Handlers.standard now frame).result = .error e ∧ ∀ reason, e ≠ .fatal reason

/-- A batch is accepted, or one of its frames is fatal. -/
theorem deliverAll_rejected {parts : List Delivery}
    (rejected : (page.deliverAll Handlers.standard now parts).result = .error e) :
    ∃ reason, e = .fatal reason := by
  induction parts generalizing page with
  | nil => cases rejected
  | cons part parts ih =>
    simp only [deliverAll] at rejected
    split at rejected
    · next reason fatal =>
      rw [fatal] at rejected
      cases rejected
      exact ⟨reason, rfl⟩
    · exact ih rejected

/-- A message that is rejected for its fault is only rejected, wherever it comes from. -/
theorem Faulty.dispatch_eq {m : ServerMessage} (faulty : page.Faulty now m e) :
    page.dispatch Handlers.standard now m = page.reject e := by
  rw [← faulty.receive_eq]
  cases faulty <;> rfl

/-- A frame is rejected if it cannot be read, or for the fault of its message. -/
theorem rejects_iff {frame : String} :
    page.Rejects now frame e ↔
      (∃ fault, ServerMessage.ofFrame frame = .error fault ∧ e = .frame fault) ∨
      ∃ m, ServerMessage.ofFrame frame = .ok m ∧ page.Faulty now m e := by
  rw [Rejects, deliverFrame_eq_dispatch]
  cases read : ServerMessage.ofFrame frame with
  | error fault =>
    constructor
    · rintro ⟨rejected, -⟩
      cases rejected
      exact .inl ⟨fault, rfl, rfl⟩
    · rintro (⟨same, unread, rfl⟩ | ⟨m, other, -⟩)
      · cases unread
        exact ⟨rfl, by rintro reason ⟨⟩⟩
      · cases other
  | ok m =>
    constructor
    · rintro ⟨rejected, mild⟩
      refine .inr ⟨m, rfl, receive_rejects_iff.1 ⟨?_, mild⟩⟩
      cases m with
      | concat frames =>
        obtain ⟨reason, fatal⟩ := deliverAll_rejected rejected
        exact absurd fatal (mild reason)
      | _ => exact rejected
    · rintro (⟨fault, other, -⟩ | ⟨same, taken, faulty⟩)
      · cases other
      · cases taken
        simp only [faulty.dispatch_eq]
        exact ⟨rfl, (receive_rejects_iff.2 faulty).2⟩

/-- A frame that is rejected, but not fatal, is only rejected. -/
theorem deliverFrame_rejected {frame : String}
    (rejected : (page.deliverFrame Handlers.standard now frame).result = .error e)
    (mild : ∀ reason, e ≠ .fatal reason) :
    page.deliverFrame Handlers.standard now frame = page.reject e := by
  rw [deliverFrame_eq_dispatch]
  rcases rejects_iff.1 ⟨rejected, mild⟩ with ⟨fault, unread, rfl⟩ | ⟨m, read, faulty⟩
  · rw [unread]
  · rw [read]
    exact faulty.dispatch_eq

/-- A batch of which every frame is rejected is accepted, and nothing comes of it. -/
theorem dispatch_concat_of_rejects {frames : List String}
    (all : ∀ frame ∈ frames, ∃ e, page.Rejects now frame e) :
    page.dispatch Handlers.standard now (.concat frames) = page.ignore := by
  induction frames with
  | nil => rfl
  | cons frame frames ih =>
    obtain ⟨e, rejected, mild⟩ := all frame List.mem_cons_self
    have same : page.deliver Handlers.standard now (Delivery.ofFrame frame) = page.reject e :=
      deliverFrame_rejected rejected mild
    have passes : ¬ ∃ reason, (page.reject e).result = .error (.fatal reason) := by
      rintro ⟨reason, fatal⟩
      exact mild reason (Except.error.inj fatal)
    have rest := ih fun frame mem => all frame (List.mem_cons_of_mem _ mem)
    rw [dispatch] at rest ⊢
    rw [List.map_cons, deliverAll_cons, same, Reply.andThen_of_passes passes]
    exact congrArg (Reply.preceded · []) rest

end Page

/-! ## Sessions -/

namespace Session

variable {τ : Type} [Transport τ] {s : Session τ} {now : Int64} {frame : String}
  {e : DeliveryError}

/-- A session rejects a frame, but not for good. -/
def Rejects (s : Session τ) (now : Int64) (frame : String) (e : DeliveryError) : Prop :=
  (s.perform (.act now (.receive frame))).1 = .answered (.finished (.received (.error e))) ∧
    ∀ reason, e ≠ .fatal reason

/-- A session with the standard handlers rejects the frames that its page rejects. -/
theorem rejects_iff_page (standard : s.handlers = Handlers.standard) :
    s.Rejects now frame e ↔ s.page.Rejects now frame e := by
  simp [Rejects, Page.Rejects, perform, act, Page.act, standard]

/-- A frame that does nothing to the page does nothing to the session. -/
theorem perform_receive_of_same {result : Except DeliveryError Unit}
    (same : s.page.deliverFrame s.handlers now frame = { result := result, page := s.page }) :
    s.perform (.act now (.receive frame)) = (.answered (.finished (.received result)), s) ∧
      s.tells (.act now (.receive frame)) = [] := by
  simp [perform, tells, act, Page.act, same, turn, EventQueue.pushAll]

/-- A frame that is rejected, but not fatal, is only rejected, and nothing is told of it. -/
theorem perform_of_rejects (standard : s.handlers = Handlers.standard)
    (rejects : s.Rejects now frame e) :
    s.perform (.act now (.receive frame)) = (.answered (.finished (.received (.error e))), s) ∧
      s.tells (.act now (.receive frame)) = [] := by
  obtain ⟨rejected, mild⟩ := (rejects_iff_page standard).1 rejects
  have same := Page.deliverFrame_rejected rejected mild
  exact perform_receive_of_same (by rw [standard, same]; rfl)

/-- A batch of which every frame is rejected is accepted, and nothing comes of it. -/
theorem perform_batch_of_rejects (standard : s.handlers = Handlers.standard) {batch : String}
    {frames : List String} (read : ServerMessage.ofFrame batch = .ok (.concat frames))
    (all : ∀ frame ∈ frames, ∃ e, s.Rejects now frame e) :
    s.perform (.act now (.receive batch)) = (.answered (.finished (.received (.ok ()))), s) := by
  have ignored : s.page.dispatch Handlers.standard now (.concat frames) = s.page.ignore := by
    refine Page.dispatch_concat_of_rejects fun frame mem => ?_
    obtain ⟨e, rejects⟩ := all frame mem
    exact ⟨e, (rejects_iff_page standard).1 rejects⟩
  refine (perform_receive_of_same ?_).1
  rw [standard, Page.deliverFrame_eq_dispatch, read]
  exact ignored

/-! ## Histories -/

/-- Nothing is different after a rejected frame, so whatever is done then comes out the same. -/
theorem live_of_rejects (standard : s.handlers = Handlers.standard) {before : List AttendedDeed}
    (rejects : (s.live before).Rejects now frame e) (after : List AttendedDeed) :
    let entry : AttendedDeed := ⟨.act now (.receive frame), []⟩
    s.live (before ++ entry :: after) = s.live (before ++ after) ∧
    s.outcomes (before ++ entry :: after)
      = s.outcomes before ++ .answered (.finished (.received (.error e)))
          :: (s.live before).outcomes after ∧
    s.told (before ++ entry :: after) = s.told (before ++ after) := by
  intro entry
  have kept : (s.live before).handlers = Handlers.standard := (handlers_live s before).trans standard
  obtain ⟨performed, silent⟩ := perform_of_rejects kept rejects
  have same : (s.live before).attended entry = s.live before := by
    rw [attended_of_idle, performed]
  refine ⟨?_, ?_, ?_⟩
  · rw [live_append, live_append]
    exact congrArg (·.live after) same
  · rw [outcomes_append, outcomes, same, performed]
  · rw [told_append, told_append, told, same, silent, List.nil_append]

/-- For every state of a session with the standard handlers.

- A frame is rejected, other than for good, exactly if it cannot be read, or brings an id for which
  the attached composition does not wait, or a time whose difference to the local clock has more
  than 64 bits.
- The session is then as it was before, in every part.
- So it is after a batch of which every frame is rejected, and the batch is accepted.
- Wherever the frame arrives in a history, the session goes on as if it had not arrived: everything
  else has the same outcome, the same is told, and the end is the same. -/
theorem rejected_frames_leave_no_trace (s : Session τ) (standard : s.handlers = Handlers.standard) :
    (∀ now frame e, s.Rejects now frame e ↔
      (∃ fault, ServerMessage.ofFrame frame = .error fault ∧ e = .frame fault) ∨
      (∃ id, ServerMessage.ofFrame frame = .ok (.postId id) ∧ ¬ s.page.Awaits ∧
        e = .unexpectedAllocation ⟨id⟩) ∨
      ∃ time, ServerMessage.ofFrame frame = .ok (.serverTime time) ∧
        ¬ (-0x8000000000000000 ≤ time.toInt - now.toInt ∧
          time.toInt - now.toInt < 0x8000000000000000) ∧
        e = .frame (.impossiblePayload .serverTime (.serverTime time))) ∧
    (∀ now frame e, s.Rejects now frame e → (s.perform (.act now (.receive frame))).2 = s) ∧
    (∀ now batch frames, ServerMessage.ofFrame batch = .ok (.concat frames) →
      (∀ frame ∈ frames, ∃ e, s.Rejects now frame e) →
      s.perform (.act now (.receive batch)) = (.answered (.finished (.received (.ok ()))), s)) ∧
    ∀ before after now frame e, (s.live before).Rejects now frame e →
      let disturbed := before ++ ⟨.act now (.receive frame), []⟩ :: after
      let calm := before ++ after
      s.live disturbed = s.live calm ∧
      s.outcomes disturbed
        = s.outcomes before ++ .answered (.finished (.received (.error e)))
            :: (s.live before).outcomes after ∧
      s.outcomes calm = s.outcomes before ++ (s.live before).outcomes after ∧
      s.told disturbed = s.told calm := by
  refine ⟨?_, ?_, ?_, ?_⟩
  · intro now frame e
    rw [rejects_iff_page standard, Page.rejects_iff]
    constructor
    · rintro (unread | ⟨m, read, faulty⟩)
      · exact .inl unread
      · cases faulty with
        | unexpected id idle => exact .inr (.inl ⟨id, read, idle, rfl⟩)
        | far time apart =>
          exact .inr (.inr ⟨time, read, Page.difference?_eq_none_iff.1 apart, rfl⟩)
    · rintro (unread | ⟨id, read, idle, rfl⟩ | ⟨time, read, apart, rfl⟩)
      · exact .inl unread
      · exact .inr ⟨_, read, .unexpected id idle⟩
      · exact .inr ⟨_, read, .far time (Page.difference?_eq_none_iff.2 apart)⟩
  · intro now frame e rejects
    rw [(perform_of_rejects standard rejects).1]
  · intro now batch frames
    exact perform_batch_of_rejects standard
  · intro before after now frame e rejects disturbed calm
    obtain ⟨ends, outcomes, told⟩ := live_of_rejects standard rejects after
    exact ⟨ends, outcomes, outcomes_append s before after, told⟩

/-- A page without compositions rejects an id, on its own, in a batch and before one is begun. -/
theorem unasked_id_leaves_no_trace :
    let s : Session Memory := { handlers := Handlers.standard, page := Page.inMemory "a" 1 }
    let answer := ServerMessage.postId 7
    s.handlers = Handlers.standard ∧
    s.Rejects 0 answer.frame (.unexpectedAllocation ⟨7⟩) ∧
    (s.perform (.act 0 (.receive answer.frame))).2 = s ∧
    s.perform (.act 0 (.receive (ServerMessage.concat [answer.frame]).frame))
      = (.answered (.finished (.received (.ok ()))), s) ∧
    s.live [⟨.act 0 (.receive answer.frame), []⟩, ⟨.act 0 (.newComposer {}), []⟩]
      = s.live [⟨.act 0 (.newComposer {}), []⟩] := by
  intro s answer
  obtain ⟨exactly, same, batch, course⟩ := rejected_frames_leave_no_trace s rfl
  have idle : ¬ s.page.Awaits := by
    rintro ⟨number, c, attached, -⟩
    cases attached
  have read : ServerMessage.ofFrame answer.frame = .ok answer :=
    ServerMessage.ofFrame_frame answer (by simp [answer, ServerMessage.documents])
  have rejects : s.Rejects 0 answer.frame (.unexpectedAllocation ⟨7⟩) :=
    (exactly _ _ _).2 (.inr (.inl ⟨7, read, idle, rfl⟩))
  have readBatch : ServerMessage.ofFrame (ServerMessage.concat [answer.frame]).frame
      = .ok (.concat [answer.frame]) :=
    ServerMessage.ofFrame_frame (.concat [answer.frame]) (by simp [ServerMessage.documents])
  refine ⟨rfl, rejects, same _ _ _ rejects, batch _ _ _ readBatch ?_,
    (course [] _ 0 answer.frame _ rejects).1⟩
  intro frame mem
  rw [List.mem_singleton.1 mem]
  exact ⟨_, rejects⟩

end Session

end LiveThread
