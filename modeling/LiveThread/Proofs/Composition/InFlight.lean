import LiveThread.Proofs.Composition.Uploads

/-!
# Histories with uploads in flight

However the uploads at one desk and everything else are interleaved, the images that
leave are those of the uploads that were answered so, one for each, and in between
two of them a further attempt was begun.

Main results:

- Definition `latestInput`: the input that was taken last.
- Theorem `BusyDesk.images_run`: the images of a history are those of its answers.
- Theorem `BusyDesk.retried_between`: two images have a further attempt between them.
- Theorem `BusyDesk.images_match_answers`: images and answers correspond.
-/

namespace LiveThread

/-! ## Inputs -/

/-- The input that a step takes. -/
def DeskStep.input? : DeskStep → Option String
  | act action _ => action.input?
  | submit _ | retry | resolve _ _ | look _ => none

/-- The input that was taken last in some steps, within the limits; empty if none was. -/
def latestInput (config : ComposerConfig) (steps : List DeskStep) : String :=
  ((steps.filterMap DeskStep.input?).getLast?.map fun input => (config.trim input).text).getD ""

theorem latestInput_concat (config : ComposerConfig) (past : List DeskStep) (step : DeskStep) :
    latestInput config (past ++ [step])
      = (step.input?.map fun input => (config.trim input).text).getD (latestInput config past) := by
  unfold latestInput
  rw [List.filterMap_append]
  cases taken : step.input? with
  | none => simp [taken]
  | some input => simp [taken]

namespace BusyDesk

variable {τ : Type} [Transport τ]

/-- The input that a step takes is remembered within the limits. -/
theorem liveInput_step (busy : BusyDesk (Logged τ)) (step : DeskStep) :
    (busy.step step).desk.composer.liveInput
      = (step.input?.map fun input => (busy.desk.composer.config.trim input).text).getD
          busy.desk.composer.liveInput := by
  cases step with
  | act action => exact Desk.perform_liveInput busy.desk action
  | submit result => rfl
  | retry => rfl
  | resolve call result =>
    rw [step_desk]
    rfl
  | look call =>
    rcases look_cases busy call with ⟨result, pending⟩ | ⟨same, -⟩
    · rw [(look_of_pending pending).1]
      exact Desk.upload_liveInput busy.desk result
    · rw [same]
      rfl

/-! ## Histories -/

section
variable (config : ComposerConfig) (board : String) (thread : UInt64) (now : Int64)
  (registry : Registry) (way : τ)

/-- A new composition at which no upload was begun. -/
def begin : BusyDesk (Logged τ) :=
  { desk := Desk.begin config board thread now registry way }

/-- A composition keeps what it was set up with. -/
theorem config_run (steps : List DeskStep) :
    ((begin config board thread now registry way).run steps).desk.composer.config = config :=
  run_induct (P := fun a => a.composer.config = config) steps rfl
    fun move same => move.config_eq.trans same

/-- The live input is the one that was taken last, within the limits. -/
theorem liveInput_run (steps : List DeskStep) :
    ((begin config board thread now registry way).run steps).desk.composer.liveInput
      = latestInput config steps := by
  induction steps using List.reverseRecOn with
  | nil => rfl
  | append_singleton past step ih =>
    rw [run_concat, liveInput_step, ih, latestInput_concat,
      config_run config board thread now registry way past]

/-- An answer is given by a look at its upload, and knows the input that was taken last before. -/
theorem look_of_mem_answers {steps : List DeskStep} {a : UploadAnswer}
    (given : a ∈ (begin config board thread now registry way).answers steps) :
    ∃ past rest, steps = past ++ .look a.call :: rest ∧ a.input = latestInput config past ∧
      ((begin config board thread now registry way).run past).answer? (.look a.call) = some a := by
  induction steps using List.reverseRecOn with
  | nil => cases given
  | append_singleton past step ih =>
    rw [answers_concat, List.mem_append, Option.mem_toList] at given
    rcases given with old | new
    · obtain ⟨earlier, rest, rfl, input⟩ := ih old
      exact ⟨earlier, rest ++ [step], by simp, input⟩
    · obtain ⟨rfl, pending⟩ := pending_of_answer? new
      refine ⟨past, [], rfl, ?_, new⟩
      rw [(look_of_pending pending).2.2, Option.map_eq_some_iff] at new
      obtain ⟨outcome, -, same⟩ := new
      rw [← same]
      exact liveInput_run config board thread now registry way past

/-- The images that leave in a history are those of the uploads that are answered in it, in
order. -/
theorem images_run (steps : List DeskStep) :
    images ((begin config board thread now registry way).run steps).desk.transport.sent
      = ((begin config board thread now registry way).answers steps).filterMap
          (UploadAnswer.message? config) := by
  induction steps using List.reverseRecOn with
  | nil => rfl
  | append_singleton past step ih =>
    rw [run_concat, images_step, ih, answers_concat, List.filterMap_append, image?,
      config_run config board thread now registry way past]
    cases ((begin config board thread now registry way).run past).answer? step with
    | none => rfl
    | some a => cases leaves : a.message? config <;> simp [leaves]

end

/-! ## Further attempts -/

/-- Unless it begins a further attempt, no step forgets that an image is on its way. -/
theorem attaching_step {busy : BusyDesk (Logged τ)} {step : DeskStep} (first : step ≠ .retry)
    (attaching : busy.desk.composer.attachingImage = true) :
    (busy.step step).desk.composer.attachingImage = true := by
  have kept : ∀ action, (∀ result, action ≠ .retryUpload result) →
      (busy.desk.perform action).2.composer.attachingImage = true := fun action other =>
    Account.induct (P := fun a => a.composer.attachingImage = true)
      (Desk.perform_moves busy.desk action) attaching fun move => move.keeps_attaching other
  cases step with
  | act action other =>
    apply kept action
    rintro result rfl
    cases other
  | retry => exact absurd rfl first
  | look call =>
    rcases look_cases busy call with ⟨result, pending⟩ | ⟨same, -⟩
    · rw [(look_of_pending pending).1]
      exact kept (.upload result) (by rintro _ ⟨⟩)
    · rwa [same]
  | submit result => exact attaching
  | resolve call result =>
    rw [step_desk]
    exact attaching

variable {start : BusyDesk (Logged τ)}

/-- An image left in a look at the upload whose image it is. -/
theorem exists_image_departure (fresh : start.desk.transport.sent = []) {steps : List DeskStep}
    {i : Nat} {m : ClientMessage} (left : (start.run steps).desk.transport.sent[i]? = some m)
    (carries : m.carriesImage = true) :
    ∃ past step rest, steps = past ++ step :: rest ∧
      (start.run past).desk.transport.sent.length = i ∧
      (start.run past).image? step = some m := by
  have before : ¬ start.desk.transport.sent[i]? = some m := by
    rw [fresh]
    rintro ⟨⟩
  obtain ⟨past, step, rest, rfl, no, yes⟩ :=
    foldl_turn (P := fun b : BusyDesk (Logged τ) => b.desk.transport.sent[i]? = some m) before left
  rcases image_departs yes carries with old | ⟨last, leaves⟩
  · exact absurd old no
  · exact ⟨past, step, rest, rfl, last.symm, leaves⟩

/-- After an image has left, one is on its way, or a further attempt was begun since. -/
theorem attaching_or_retried (steps : List DeskStep) {i : Nat} {m : ClientMessage}
    (fresh : start.desk.transport.sent = [])
    (left : (start.run steps).desk.transport.sent[i]? = some m) (carries : m.carriesImage = true) :
    (start.run steps).desk.composer.attachingImage = true ∨
    ∃ past rest, steps = past ++ .retry :: rest ∧
      i < (start.run past).desk.transport.sent.length := by
  induction steps using List.reverseRecOn with
  | nil =>
    have nothing : (start.run []).desk.transport.sent = [] := fresh
    rw [nothing] at left
    cases left
  | append_singleton past step ih =>
    rw [run_concat] at left ⊢
    rcases image_departs left carries with old | ⟨-, leaves⟩
    · rcases ih old with attaching | ⟨earlier, rest, rfl, after⟩
      · by_cases again : step = .retry
        · subst again
          exact .inr ⟨past, [], rfl, (List.getElem?_eq_some_iff.1 old).1⟩
        · exact .inl (attaching_step again attaching)
      · exact .inr ⟨earlier, rest ++ [step], by simp, after⟩
    · exact .inl (sendsImage_of_image? leaves).attaching

/-- Between two images a further attempt was begun. -/
theorem retried_between (fresh : start.desk.transport.sent = []) {steps : List DeskStep}
    {i j : Nat} {first second : ClientMessage} (before : i < j)
    (left : (start.run steps).desk.transport.sent[i]? = some first)
    (leftLater : (start.run steps).desk.transport.sent[j]? = some second)
    (carries : first.carriesImage = true) (carriesLater : second.carriesImage = true) :
    ∃ past rest, steps = past ++ .retry :: rest ∧
      i < (start.run past).desk.transport.sent.length ∧
      (start.run past).desk.transport.sent.length ≤ j := by
  obtain ⟨past, step, rest, rfl, last, leaves⟩ :=
    exists_image_departure fresh leftLater carriesLater
  have inside : i < (start.run past).desk.transport.sent.length := by omega
  have old : (start.run past).desk.transport.sent[i]? = some first := by
    obtain ⟨new, grown⟩ := isPrefix_sent_run (start.run past) (step :: rest)
    rwa [run_append, ← grown, List.getElem?_append_left inside] at left
  have free := (sendsImage_of_image? leaves).free
  rcases attaching_or_retried past fresh old carries with attaching | ⟨earlier, later, rfl, after⟩
  · -- The second image could not have left while the first was on its way.
    simp [Composer.holdsImage, attaching] at free
  · refine ⟨earlier, later ++ step :: rest, by simp, after, ?_⟩
    rw [← last, run_append]
    exact (isPrefix_sent_run _ _).length_le

/-! ## Images on their own -/

/-- A post comes to have its id by a step in which an id is taken. -/
theorem taken_of_turn {busy : BusyDesk (Logged τ)} {step : DeskStep}
    (before : busy.desk.composer.phase ≠ .allocated)
    (after : (busy.step step).desk.composer.phase = .allocated) :
    ∃ given id other, step = .act (.receiveId given id) other ∧
      (busy.desk.receiveId given id).1 = .ok () := by
  rw [step_desk] at after
  cases acts : busy.action? step with
  | none =>
    rw [acts] at after
    exact absurd after before
  | some action =>
    rw [acts] at after
    have taken : (busy.desk.perform action).1.takesId = true := Desk.takesId_of_turn before after
    have answer : ∃ given id, action = .receiveId given id := by
      by_contra own
      rw [Desk.takesId_eq_false busy.desk fun given id same => own ⟨given, id, same⟩] at taken
      cases taken
    obtain ⟨given, id, rfl⟩ := answer
    refine ⟨given, id, ?_⟩
    cases step with
    | act action other =>
      cases acts
      refine ⟨other, rfl, ?_⟩
      cases result : (busy.desk.receiveId given id).1 with
      | ok => rfl
      | error e => simp [Desk.perform, result, Answer.takesId] at taken
    | look call =>
      rcases look_cases busy call with ⟨result, pending⟩ | ⟨-, -, still⟩
      · simp [action?, pending] at acts
      · rw [still] at acts
        cases acts
    | submit | retry | resolve => cases acts

/-- An image leaves on its own only after an id was taken. -/
theorem taken_before_image (fresh : start.desk.transport.sent = [])
    (unallocated : start.desk.composer.phase ≠ .allocated) {steps : List DeskStep} {i : Nat}
    {file : UploadedFile}
    (left : (start.run steps).desk.transport.sent[i]? = some (.insertImage file)) :
    ∃ past given id other rest, steps = past ++ .act (.receiveId given id) other :: rest ∧
      ((start.run past).desk.receiveId given id).1 = .ok () ∧
      (start.run past).desk.transport.sent.length ≤ i := by
  obtain ⟨before, look, rest, rfl, last, leaves⟩ := exists_image_departure fresh left rfl
  have allocated := (sendsImage_of_image? leaves).allocated file rfl
  obtain ⟨past, turn, between, rfl, no, yes⟩ :=
    foldl_turn (P := fun b : BusyDesk (Logged τ) => b.desk.composer.phase = .allocated)
      unallocated allocated
  have earlier : (start.run past).desk.transport.sent.length ≤ i := by
    rw [← last, run_append]
    exact (isPrefix_sent_run _ _).length_le
  have unserved : (start.run past).desk.composer.phase ≠ .allocated := no
  obtain ⟨given, id, other, rfl, taken⟩ := taken_of_turn unserved yes
  exact ⟨past, given, id, other, between ++ look :: rest, by simp, taken, earlier⟩

/-! ## Images and answers -/

/-- In every history of a composition with any number of uploads in flight, the images that leave
are, in order, those of the uploads that were answered with an image, and an upload is answered at
most once: by a look at it that knew the input taken last before.  An image leaves on its own only
after an id was taken, and between two images a further attempt was begun.  Right after a look an
upload with a file still waits exactly if an id is awaited and no image is held; if it finds the
composition ended without an image, it is abandoned and nothing leaves, whatever follows. -/
theorem images_match_answers (config : ComposerConfig) (board : String) (thread : UInt64)
    (now : Int64) (registry : Registry) (way : τ) (steps : List DeskStep) :
    let start := begin config board thread now registry way
    let busy := start.run steps
    images busy.desk.transport.sent
        = (start.answers steps).filterMap (UploadAnswer.message? config) ∧
    ((start.answers steps).map UploadAnswer.call).Nodup ∧
    (∀ call result outcome, busy.calls[call]? = some (.answered result outcome) ↔
      ∃ input, ⟨call, result, input, outcome⟩ ∈ start.answers steps) ∧
    (∀ a ∈ start.answers steps, ∃ past rest, steps = past ++ .look a.call :: rest ∧
      a.input = latestInput config past ∧ (start.run past).answer? (.look a.call) = some a) ∧
    (∀ (i : Nat) (file : UploadedFile),
      busy.desk.transport.sent[i]? = some (.insertImage file) →
      ∃ past given id other rest, steps = past ++ .act (.receiveId given id) other :: rest ∧
        ((start.run past).desk.receiveId given id).1 = .ok () ∧
        (start.run past).desk.transport.sent.length ≤ i) ∧
    (∀ (i j : Nat) (first second : ClientMessage), i < j →
      busy.desk.transport.sent[i]? = some first → busy.desk.transport.sent[j]? = some second →
      first.carriesImage = true → second.carriesImage = true →
      ∃ past rest, steps = past ++ .retry :: rest ∧
        i < (start.run past).desk.transport.sent.length ∧
        (start.run past).desk.transport.sent.length ≤ j) ∧
    ∀ call file, busy.calls[call]? = some (.pending (some file)) →
      let looked := busy.step (.look call)
      (looked.calls[call]? = some (.pending (some file)) ↔
        busy.desk.composer.phase = .allocating ∧ busy.desk.composer.holdsImage = false) ∧
      (looked.calls[call]? = some (.pending (some file)) ↔
        looked.desk.composer.phase = .allocating ∧ looked.desk.composer.holdsImage = false) ∧
      (busy.desk.composer.phase = .halted → busy.desk.composer.holdsImage = false →
        ∀ later, (looked.run later).calls[call]? = some (.answered (some file) (.ok .abandoned)) ∧
          (looked.run later).desk.transport = busy.desk.transport) := by
  intro start busy
  have fresh : start.desk.transport.sent = [] := rfl
  have unallocated : start.desk.composer.phase ≠ .allocated := by rintro ⟨⟩
  have idle : start.calls = [] := rfl
  obtain ⟨once, answered⟩ := answers_run idle steps
  refine ⟨images_run config board thread now registry way steps, once, answered, ?_, ?_, ?_, ?_⟩
  · intro a given
    exact look_of_mem_answers config board thread now registry way given
  · intro i file left
    exact taken_before_image fresh unallocated left
  · intro i j first second before left leftLater carries carriesLater
    exact retried_between fresh before left leftLater carries carriesLater
  · intro call file pending looked
    obtain ⟨before, after⟩ := waits_iff pending
    exact ⟨before, after, fun halted free later => look_of_halted pending halted free later⟩

end BusyDesk

end LiveThread
