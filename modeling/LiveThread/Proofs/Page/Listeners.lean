import LiveThread.Page.Session
import LiveThread.Proofs.Page.Steps

/-!
# Listeners

A session tells its listener what happens and asks nothing of it.  A listener may
come late or never, take its events one by one or all at once, in the middle of
what happens or long after it, and it may leave: the session goes the same way.
What the listener misses are the events that found the queue full.

Main results:

- Definitions `ListenerAct` and `EventQueue.follow`: what a listener does, and what it takes.
- Theorem `EventQueue.follow_conserves`: what had room is taken in order, or still waits.
- Definitions `Deed` and `Session.attended`: what is done in a session while its listener acts.
- Theorems `Session.live_append`, `Session.outcomes_append` and `Session.told_append`: a history goes
  on where its first part ended.
- Theorem `Session.attended_of_idle`: a listener that does nothing leaves the queue as it would be.
- Theorem `Session.listener_only_listens`: no listener makes a difference to a session, and one
  that stays misses exactly what found the queue full.
-/

namespace LiveThread

/-! ## What happens to a queue -/

/-- What a listener can do. -/
inductive ListenerAct where
  /-- It asks for the receiving end. -/
  | listen
  /-- It takes the event that has waited longest. -/
  | take
  /-- It takes every waiting event. -/
  | drain
  /-- It drops the receiving end. -/
  | leave

/-- What can happen to a queue. -/
inductive QueueStep where
  | tell (event : Event)
  | attend (act : ListenerAct)

/-- The event that is told. -/
def QueueStep.told? : QueueStep → Option Event
  | tell event => some event
  | attend _ => none

namespace EventQueue

/-- What the listener takes, and the queue afterwards. -/
def step (q : EventQueue) : QueueStep → List Event × EventQueue
  | .tell event => ([], q.push event)
  | .attend .listen => ([], q.listen.2)
  | .attend .take => (q.take.1.toList, q.take.2)
  | .attend .drain => q.drain
  | .attend .leave => ([], q.leave)

/-- The same for several steps. -/
def follow (q : EventQueue) : List QueueStep → List Event × EventQueue
  | [] => ([], q)
  | step :: steps =>
    let first := q.step step
    let rest := first.2.follow steps
    (first.1 ++ rest.1, rest.2)

/-- The event that is told and finds room. -/
def admitted (q : EventQueue) : QueueStep → List Event
  | .tell event => if q.pending.length < capacity then [event] else []
  | .attend _ => []

/-- The events that find room, with their numbers among those that are told. -/
def kept (q : EventQueue) (number : Nat) : List QueueStep → List (Event × Nat)
  | [] => []
  | step :: steps =>
    (q.admitted step).map (·, number)
      ++ (q.step step).2.kept (number + step.told?.toList.length) steps

variable {q : EventQueue}

theorem follow_append (q : EventQueue) (before after : List QueueStep) :
    q.follow (before ++ after)
      = ((q.follow before).1 ++ ((q.follow before).2.follow after).1,
          ((q.follow before).2.follow after).2) := by
  induction before generalizing q with
  | nil => rfl
  | cons step before ih => simp only [List.cons_append, follow, ih, List.append_assoc]

/-- A listener that has left does not come back. -/
theorem step_of_gone (gone : q.listener = .gone) (step : QueueStep) :
    (q.step step).2.listener = .gone := by
  cases step with
  | tell event => simp [EventQueue.step, push, gone]
  | attend act => cases act <;> simp [EventQueue.step, listen, take, drain, leave, gone]

theorem follow_of_gone (gone : q.listener = .gone) (steps : List QueueStep) :
    (q.follow steps).2.listener = .gone := by
  induction steps generalizing q with
  | nil => exact gone
  | cons step steps ih => exact ih (step_of_gone gone step)

/-- No step makes the queue outgrow its capacity. -/
theorem length_step_le (bounded : q.pending.length ≤ capacity) (step : QueueStep) :
    (q.step step).2.pending.length ≤ capacity := by
  cases step with
  | tell event => exact length_push_le event bounded
  | attend act =>
    cases act with
    | listen =>
      simp only [EventQueue.step, listen]
      split <;> exact bounded
    | take =>
      simp only [EventQueue.step, take]
      split
      · rw [List.length_tail]
        omega
      · exact bounded
    | drain =>
      simp only [EventQueue.step, drain]
      split
      · exact Nat.zero_le _
      · exact bounded
    | leave =>
      simp only [EventQueue.step, leave]
      split
      · exact Nat.zero_le _
      · exact bounded

theorem length_follow_le (bounded : q.pending.length ≤ capacity) (steps : List QueueStep) :
    (q.follow steps).2.pending.length ≤ capacity := by
  induction steps generalizing q with
  | nil => exact bounded
  | cons step steps ih => exact ih (length_step_le bounded step)

/-- What waits and what is admitted is taken in order, or waits afterwards. -/
theorem step_conserves {step : QueueStep} (stays : (q.step step).2.listener ≠ .gone) :
    q.pending ++ q.admitted step = (q.step step).1 ++ (q.step step).2.pending := by
  cases step with
  | tell event =>
    have there : q.listener ≠ .gone := fun gone => stays (step_of_gone gone _)
    by_cases room : q.pending.length < capacity
    · have accepts : ¬ (q.listener = .gone ∨ capacity ≤ q.pending.length) := by
        rintro (gone | full)
        · exact there gone
        · omega
      simp [EventQueue.step, push, admitted, room, accepts]
    · have full : capacity ≤ q.pending.length := by omega
      simp [EventQueue.step, push, admitted, room, full]
  | attend act =>
    cases act with
    | listen =>
      simp only [EventQueue.step, listen, admitted]
      split <;> simp
    | take =>
      simp only [EventQueue.step, take, admitted, List.append_nil]
      split
      · cases q.pending <;> rfl
      · rfl
    | drain =>
      simp only [EventQueue.step, drain, admitted]
      split <;> simp
    | leave =>
      simp only [EventQueue.step, leave, admitted, List.append_nil] at stays ⊢
      split at stays
      · exact absurd rfl stays
      · next free => rw [if_neg free, List.nil_append]

/-- What had room is taken in order, or still waits. -/
theorem follow_conserves {steps : List QueueStep}
    (stays : (q.follow steps).2.listener ≠ .gone) (number : Nat) :
    q.pending ++ (q.kept number steps).map Prod.fst
      = (q.follow steps).1 ++ (q.follow steps).2.pending := by
  induction steps generalizing q number with
  | nil => simp [follow, kept]
  | cons step steps ih =>
    have first : (q.step step).2.listener ≠ .gone := fun gone => stays (follow_of_gone gone steps)
    have later := ih stays (number + step.told?.toList.length)
    calc q.pending ++ (q.kept number (step :: steps)).map Prod.fst
        = (q.pending ++ q.admitted step)
            ++ ((q.step step).2.kept (number + step.told?.toList.length) steps).map Prod.fst := by
          simp [kept, Function.comp_def]
      _ = (q.step step).1 ++ ((q.step step).2.pending
            ++ ((q.step step).2.kept (number + step.told?.toList.length) steps).map Prod.fst) := by
          rw [step_conserves first, List.append_assoc]
      _ = (q.follow (step :: steps)).1 ++ (q.follow (step :: steps)).2.pending := by
          rw [later, ← List.append_assoc]
          rfl

/-- The events that find room are some of those that are told, each at most once and in order. -/
theorem kept_sublist (q : EventQueue) (number : Nat) (steps : List QueueStep) :
    (q.kept number steps).Sublist ((steps.filterMap QueueStep.told?).zipIdx number) := by
  induction steps generalizing q number with
  | nil => exact List.Sublist.refl _
  | cons step steps ih =>
    have later := ih (q.step step).2 (number + step.told?.toList.length)
    cases step with
    | tell event =>
      simp only [kept, admitted, List.filterMap_cons, QueueStep.told?, List.zipIdx_cons]
      split
      · exact later.cons_cons _
      · exact later.cons _
    | attend act => simpa [kept, admitted, List.filterMap_cons, QueueStep.told?] using later

/-- An event that is told is among them exactly if there was room. -/
theorem mem_kept_iff {steps before after : List QueueStep} {event : Event} (number : Nat)
    (split : steps = before ++ .tell event :: after) :
    (event, number + (before.filterMap QueueStep.told?).length) ∈ q.kept number steps ↔
      (q.follow before).2.pending.length < capacity := by
  subst split
  induction before generalizing q number with
  | nil =>
    have later : (event, number) ∉ (q.step (.tell event)).2.kept (number + 1) after := by
      intro mem
      have after_le := List.le_snd_of_mem_zipIdx ((kept_sublist _ _ _).subset mem)
      exact Nat.not_succ_le_self number after_le
    by_cases room : q.pending.length < capacity
    · simp [kept, admitted, follow, room]
    · simpa [kept, admitted, follow, room, QueueStep.told?] using later
  | cons step before ih =>
    have later := ih (q := (q.step step).2) (number + step.told?.toList.length)
    have first : (event, number + ((step :: before).filterMap QueueStep.told?).length)
        ∉ (q.admitted step).map (·, number) := by
      intro mem
      obtain ⟨other, admits, same⟩ := List.mem_map.1 mem
      cases step with
      | tell told =>
        have numbers := congrArg Prod.snd same
        simp [QueueStep.told?] at numbers
      | attend act => simp [admitted] at admits
    have numbers : number + ((step :: before).filterMap QueueStep.told?).length
        = number + step.told?.toList.length + (before.filterMap QueueStep.told?).length := by
      cases step with
      | tell told =>
        simp only [List.filterMap_cons, QueueStep.told?, Option.toList_some, List.length_cons,
          List.length_nil]
        omega
      | attend act => simp [List.filterMap_cons, QueueStep.told?]
    rw [List.cons_append, kept, List.mem_append, or_iff_right first, numbers]
    exact later

-- The last of 257 events finds the queue full; when it was drained there is room again.
example :
    (kept {} 0 (List.replicate 257 (.tell .captchaRequired) ++
      [.attend .listen, .attend .drain, .tell .connected])).map Prod.snd
        = List.range 256 ++ [257] := by
  decide +kernel

end EventQueue

/-! ## What is done in a session -/

/-- What is done in a session. -/
inductive Deed where
  /-- Something happens on the page. -/
  | act (now : Int64) (action : PageAction)
  /-- The waiting uploads look again. -/
  | recheck

/-- What comes of it. -/
inductive DeedOutcome where
  | answered (answer : SessionAnswer)
  | rechecked (finished : List FinishedUpload)

/-- What is done in a session, and what the listener does meanwhile: before the first event that is
told of it, between any two of them, and after the last. -/
structure AttendedDeed where
  deed : Deed
  meanwhile : List (List ListenerAct)

/-- The events that are told, and what the listener does before each of them and after the last. -/
def interleave : List Event → List (List ListenerAct) → List QueueStep
  | [], meanwhile => meanwhile.flatten.map .attend
  | event :: events, [] => .tell event :: interleave events []
  | event :: events, acts :: meanwhile =>
    acts.map .attend ++ .tell event :: interleave events meanwhile

/-- Whatever the listener does, the events are told in order. -/
theorem told_interleave (events : List Event) (meanwhile : List (List ListenerAct)) :
    (interleave events meanwhile).filterMap QueueStep.told? = events := by
  have silent : ∀ acts : List ListenerAct,
      (acts.map QueueStep.attend).filterMap QueueStep.told? = [] := by
    intro acts
    simp [List.filterMap_map, QueueStep.told?]
  fun_induction interleave events meanwhile with
  | case1 meanwhile => exact silent _
  | case2 event events ih => simp [QueueStep.told?, ih]
  | case3 event events acts meanwhile ih =>
    rw [List.filterMap_append, silent]
    simp [QueueStep.told?, ih]

namespace Session

variable {τ : Type} [Transport τ]

/-- Does something. -/
def perform (s : Session τ) : Deed → DeedOutcome × Session τ
  | .act now action => let (answer, after) := s.act now action; (.answered answer, after)
  | .recheck => let (finished, after) := s.recheck; (.rechecked finished, after)

/-- What the listener is told of it. -/
def tells (s : Session τ) : Deed → List Event
  | .act now action => (s.page.act s.handlers now action).events
  | .recheck => []

/-- The session after something was done while its listener acted. -/
def attended (s : Session τ) (entry : AttendedDeed) : Session τ :=
  { (s.perform entry.deed).2 with
    queue := (s.queue.follow (interleave (s.tells entry.deed) entry.meanwhile)).2 }

/-- The session after all of it. -/
def live (s : Session τ) (entries : List AttendedDeed) : Session τ :=
  entries.foldl attended s

/-- What comes of it. -/
def outcomes (s : Session τ) : List AttendedDeed → List DeedOutcome
  | [] => []
  | entry :: entries => (s.perform entry.deed).1 :: (s.attended entry).outcomes entries

/-- What the listener is told. -/
def told (s : Session τ) : List AttendedDeed → List Event
  | [] => []
  | entry :: entries => s.tells entry.deed ++ (s.attended entry).told entries

/-- What happens to the queue. -/
def queueSteps (s : Session τ) : List AttendedDeed → List QueueStep
  | [] => []
  | entry :: entries =>
    interleave (s.tells entry.deed) entry.meanwhile ++ (s.attended entry).queueSteps entries

/-! ## Histories -/

/-- Looking again does not change the handlers. -/
theorem handlers_recheckAll (s : Session τ) (uploads : List WaitingUpload) :
    (s.recheckAll uploads).2.handlers = s.handlers := by
  induction uploads generalizing s with
  | nil => rfl
  | cons upload uploads ih =>
    have one : (s.recheckOne upload).2.handlers = s.handlers := by
      unfold recheckOne
      split <;> rfl
    exact (ih _).trans one

/-- A session keeps its handlers. -/
theorem handlers_attended (s : Session τ) (entry : AttendedDeed) :
    (s.attended entry).handlers = s.handlers := by
  show (s.perform entry.deed).2.handlers = s.handlers
  cases entry.deed with
  | act now action =>
    simp only [perform, act]
    split <;> rfl
  | recheck => exact handlers_recheckAll _ _

theorem handlers_live (s : Session τ) (entries : List AttendedDeed) :
    (s.live entries).handlers = s.handlers := by
  induction entries generalizing s with
  | nil => rfl
  | cons entry entries ih => exact (ih _).trans (handlers_attended s entry)

theorem live_append (s : Session τ) (before after : List AttendedDeed) :
    s.live (before ++ after) = (s.live before).live after :=
  List.foldl_append

theorem outcomes_append (s : Session τ) (before after : List AttendedDeed) :
    s.outcomes (before ++ after) = s.outcomes before ++ (s.live before).outcomes after := by
  induction before generalizing s with
  | nil => rfl
  | cons entry before ih => exact congrArg (_ :: ·) (ih (s.attended entry))

theorem told_append (s : Session τ) (before after : List AttendedDeed) :
    s.told (before ++ after) = s.told before ++ (s.live before).told after := by
  induction before generalizing s with
  | nil => rfl
  | cons entry before ih =>
    rw [List.cons_append, told, ih, ← List.append_assoc]
    rfl

/-! ## The listener has no say -/

/-- Waiting uploads do not look at the queue. -/
theorem recheckAll_queue (s : Session τ) (q : EventQueue) (uploads : List WaitingUpload) :
    ({ s with queue := q } : Session τ).recheckAll uploads
      = ((s.recheckAll uploads).1, { (s.recheckAll uploads).2 with queue := q }) := by
  induction uploads generalizing s with
  | nil => rfl
  | cons upload uploads ih =>
    have one : ({ s with queue := q } : Session τ).recheckOne upload
        = ((s.recheckOne upload).1, { (s.recheckOne upload).2 with queue := q }) := by
      unfold recheckOne
      dsimp only
      split <;> rfl
    simp only [recheckAll, one, ih]

/-- What is done does not depend on the queue, and does nothing with it but add what is told. -/
theorem perform_queue (s : Session τ) (q : EventQueue) (deed : Deed) :
    ({ s with queue := q } : Session τ).perform deed
      = ((s.perform deed).1, { (s.perform deed).2 with queue := q.pushAll (s.tells deed) }) := by
  cases deed with
  | act now action =>
    simp only [perform, act, tells]
    split <;> rfl
  | recheck =>
    simp only [perform, recheck, tells]
    exact congrArg (fun result : List FinishedUpload × Session τ =>
      (DeedOutcome.rechecked result.1, result.2)) (recheckAll_queue { s with waiting := [] } q _)

/-- A listener that does nothing leaves the queue as what is told leaves it. -/
theorem attended_of_idle (s : Session τ) (deed : Deed) :
    s.attended ⟨deed, []⟩ = (s.perform deed).2 := by
  have told : ∀ (q : EventQueue) (events : List Event),
      (q.follow (interleave events [])).2 = q.pushAll events := by
    intro q events
    induction events generalizing q with
    | nil => rfl
    | cons event events ih => exact ih (q.push event)
  have same := perform_queue s s.queue deed
  rw [attended, told]
  exact (congrArg Prod.snd same).symm

/-- What the listener does makes no difference to what is done, but for the queue. -/
theorem attended_queue (s : Session τ) (q : EventQueue) (deed : Deed)
    (first second : List (List ListenerAct)) :
    ({ s with queue := q } : Session τ).attended ⟨deed, second⟩
      = { s.attended ⟨deed, first⟩ with
          queue := (q.follow (interleave (s.tells deed) second)).2 } := by
  rw [attended, perform_queue]
  rfl

/-- What is done, with a listener that acts by a schedule: what it does during each deed. -/
def attend (deeds : List Deed) (schedule : Nat → List (List ListenerAct)) : List AttendedDeed :=
  deeds.mapIdx fun number deed => ⟨deed, schedule number⟩

theorem attend_cons (deed : Deed) (deeds : List Deed)
    (schedule : Nat → List (List ListenerAct)) :
    attend (deed :: deeds) schedule
      = ⟨deed, schedule 0⟩ :: attend deeds fun number => schedule (number + 1) := by
  rw [attend, List.mapIdx_cons]
  rfl

/-- Under two schedules the same is done with the same outcome, and the same is told. -/
theorem live_queue (s : Session τ) (q : EventQueue) (deeds : List Deed)
    (first second : Nat → List (List ListenerAct)) :
    (∃ r, ({ s with queue := q } : Session τ).live (attend deeds second)
      = { s.live (attend deeds first) with queue := r }) ∧
    ({ s with queue := q } : Session τ).outcomes (attend deeds second)
      = s.outcomes (attend deeds first) ∧
    ({ s with queue := q } : Session τ).told (attend deeds second)
      = s.told (attend deeds first) := by
  induction deeds generalizing s q first second with
  | nil => exact ⟨⟨q, rfl⟩, rfl, rfl⟩
  | cons deed deeds ih =>
    obtain ⟨page, outcomes, told⟩ := ih (s.attended ⟨deed, first 0⟩)
      (q.follow (interleave (s.tells deed) (second 0))).2
      (fun number => first (number + 1)) fun number => second (number + 1)
    rw [attend_cons, attend_cons]
    simp only [live, List.foldl_cons, Session.outcomes, Session.told]
    rw [attended_queue s q deed (first 0) (second 0), outcomes, told, perform_queue]
    exact ⟨page, rfl, rfl⟩

/-! ## The fate of the events -/

/-- What happens to the queue of a session leads to its queue. -/
theorem queue_live (s : Session τ) (entries : List AttendedDeed) :
    (s.live entries).queue = (s.queue.follow (s.queueSteps entries)).2 := by
  induction entries generalizing s with
  | nil => rfl
  | cons entry entries ih =>
    rw [queueSteps, EventQueue.follow_append]
    exact ih (s.attended entry)

/-- What is told in a session is told to its queue. -/
theorem told_queueSteps (s : Session τ) (entries : List AttendedDeed) :
    (s.queueSteps entries).filterMap QueueStep.told? = s.told entries := by
  induction entries generalizing s with
  | nil => rfl
  | cons entry entries ih =>
    rw [queueSteps, List.filterMap_append, told_interleave, ih]
    rfl

/-- Whatever is done in a session, and whatever its listener does meanwhile.

- Under any two schedules of the listener every deed has the same outcome, the page is the same in
  the end, with its posts, compositions, messages and clock, the same uploads wait, and the same is
  told.
- If the queue is new and the listener has not left, what it has taken and what still waits are some
  of the events that were told, each at most once and in their order; an event is missing exactly if
  256 events waited when it was told. -/
theorem listener_only_listens (s : Session τ) (deeds : List Deed)
    (first second : Nat → List (List ListenerAct)) :
    (let here := s.live (attend deeds first)
      let there := s.live (attend deeds second)
      s.outcomes (attend deeds first) = s.outcomes (attend deeds second) ∧
      here.page = there.page ∧ here.waiting = there.waiting ∧ here.uploads = there.uploads ∧
      s.told (attend deeds first) = s.told (attend deeds second)) ∧
    (s.queue = {} →
      let steps := s.queueSteps (attend deeds first)
      let here := s.live (attend deeds first)
      steps.filterMap QueueStep.told? = s.told (attend deeds first) ∧
      here.queue = (s.queue.follow steps).2 ∧
      (here.queue.listener ≠ .gone →
        ∃ kept : List (Event × Nat),
          kept.Sublist (s.told (attend deeds first)).zipIdx ∧
          (s.queue.follow steps).1 ++ here.queue.pending = kept.map Prod.fst ∧
          ∀ before event after, steps = before ++ .tell event :: after →
            ((event, (before.filterMap QueueStep.told?).length) ∉ kept ↔
              (s.queue.follow before).2.pending.length = 256))) := by
  constructor
  · obtain ⟨⟨r, same⟩, outcomes, told⟩ := live_queue s s.queue deeds first second
    intro here there
    have page : there = { here with queue := r } := same
    exact ⟨outcomes.symm, by rw [page], by rw [page], by rw [page], told.symm⟩
  · intro new steps here
    have last := queue_live s (attend deeds first)
    have told := told_queueSteps s (attend deeds first)
    refine ⟨told, last, fun stays => ⟨s.queue.kept 0 steps, ?_, ?_, ?_⟩⟩
    · rw [← told]
      exact s.queue.kept_sublist 0 steps
    · rw [last] at stays
      have conserved := EventQueue.follow_conserves stays 0
      rw [show s.queue.pending = [] by rw [new], List.nil_append] at conserved
      rw [conserved, last]
    · intro before event after split
      have room := EventQueue.mem_kept_iff (q := s.queue) 0 split
      have bounded : (s.queue.follow before).2.pending.length ≤ EventQueue.capacity :=
        EventQueue.length_follow_le (by rw [new]; exact Nat.zero_le _) before
      rw [Nat.zero_add] at room
      rw [room]
      simp only [EventQueue.capacity] at bounded ⊢
      omega

end Session

end LiveThread
