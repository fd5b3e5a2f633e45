import LiveThread.Proofs.Composition.History
import LiveThread.Transport.Memory

/-!
# The image of a composition

An image leaves along with the request for an id or on its own.  From then on
the composition holds an image, so no other one is sent, with one exception: a
further attempt at an upload forgets an image that was sent on its own and that
no copy of the post has shown yet.  That is the only way to send a second image.

Main results:

- Definition `images`: the messages that carry an image.
- Definition `Account.Pictured`: an image on its way has been sent.
- Definition `Account.OneImage`: at most one image has been sent, and it counts.
- Theorems `Move.keeps_pictured` and `Move.keeps_oneImage`: what the moves of an action keep.
- Theorem `Desk.oneImage_perform`: an action keeps to one image unless it forgets it.
- Theorem `Desk.one_image_iff_none_forgotten`: a history keeps to one image exactly if it forgets
  none.
- Theorem `Desk.retry_sends_second_image`: a history that forgets its image and sends another one.
-/

namespace LiveThread

open Relation

/-! ## Images among messages -/

/-- Whether a message carries an image. -/
def ClientMessage.carriesImage : ClientMessage → Bool
  | insertPost request => request.image.isSome
  | insertImage _ => true
  | synchronise _ | append _ | backspace | splice _ | closePost | spoiler | noop => false

/-- No edit carries an image. -/
@[simp]
theorem Edit.carriesImage_message (edit : Edit) : edit.message.carriesImage = false := by
  cases edit <;> rfl

/-- The messages among others that carry an image. -/
def images (messages : List ClientMessage) : List ClientMessage :=
  messages.filter ClientMessage.carriesImage

@[simp]
theorem images_append (first second : List ClientMessage) :
    images (first ++ second) = images first ++ images second :=
  List.filter_append ..

/-- A message without an image adds none. -/
theorem images_append_of_bare (messages : List ClientMessage) {m : ClientMessage}
    (bare : m.carriesImage = false) : images (messages ++ [m]) = images messages := by
  simp [images, bare]

/-- A message with an image adds one. -/
theorem images_append_of_carries (messages : List ClientMessage) {m : ClientMessage}
    (carries : m.carriesImage = true) : images (messages ++ [m]) = images messages ++ [m] := by
  simp [images, carries]

theorem images_ne_nil_of_carries (messages : List ClientMessage) {m : ClientMessage}
    (carries : m.carriesImage = true) : images (messages ++ [m]) ≠ [] := by
  rw [images_append_of_carries messages carries]
  exact List.append_ne_nil_of_right_ne_nil _ (List.cons_ne_nil _ _)

/-! ## An image on its way has been sent -/

/-- An image counts as on its way, or a ticket is for a request with an image, only after an image
has left. -/
structure Account.Pictured (a : Account) : Prop where
  attaching : a.composer.attachingImage = true → images a.sent ≠ []
  carried : ∀ ticket, a.composer.ticket = some ticket → ticket.carriesImage = true →
    images a.sent ≠ []

namespace Account.Pictured

variable {a b : Account}

/-- More messages do no harm. -/
theorem extend (h : a.Pictured) {m : ClientMessage} : (a.left m).Pictured where
  attaching := by
    intro attaching
    simp only [left, images_append]
    exact List.append_ne_nil_of_left_ne_nil (h.attaching attaching) _
  carried := by
    intro ticket waiting carries
    simp only [left, images_append]
    exact List.append_ne_nil_of_left_ne_nil (h.carried ticket waiting carries) _

end Account.Pictured

/-- No move counts an image that was not sent. -/
theorem Move.keeps_pictured {action : Action} {a b : Account} (move : Move action a b)
    (h : a.Pictured) : b.Pictured := by
  cases move with
  | request image given draft free =>
    have sent : image.isSome = true →
        images ((a.requested image).attaching (a.composer.attachingImage || image.isSome)).sent
          ≠ [] := by
      intro carries
      exact images_ne_nil_of_carries a.sent carries
    constructor
    · intro attaching
      rcases Bool.or_eq_true_iff.1 attaching with before | now
      · exact h.extend.attaching before
      · exact sent now
    · intro ticket waiting carries
      cases waiting
      exact sent carries
  | change typed allocated between => exact ⟨h.extend.attaching, h.extend.carried⟩
  | close asked => exact ⟨h.extend.attaching, h.extend.carried⟩
  | hideImage allocated holds => exact h.extend
  | insertImage file allocated free =>
    have sent : images ((a.left (.insertImage file)).attaching true).sent ≠ [] :=
      images_ne_nil_of_carries a.sent rfl
    constructor
    · intro _
      exact sent
    · intro _ _ _
      exact sent
  | forget again =>
    constructor
    · rintro ⟨⟩
    · exact h.carried
  | receiveId answer waiting =>
    constructor
    · exact h.attaching
    · rintro _ ⟨⟩
  | note | abandon | halt | mergeEcho => exact ⟨h.attaching, h.carried⟩

/-! ## One image -/

/-- The image was sent on its own and is only known to be on its way. -/
structure Composer.ImageUnseen (c : Composer) : Prop where
  allocated : c.phase = .allocated
  attaching : c.attachingImage = true
  unseen : c.hasImage = false

/-- At most one image has been sent, none before the request for an id, and once the post has its
id the composition holds the image. -/
structure Account.OneImage (a : Account) : Prop where
  once : (images a.sent).length ≤ 1
  unasked : a.composer.phase = .draft → images a.sent = []
  awaited : a.composer.phase = .allocating → images a.sent ≠ [] →
    ∃ ticket, a.composer.ticket = some ticket ∧ ticket.carriesImage = true
  held : a.composer.phase = .allocated → images a.sent ≠ [] → a.composer.holdsImage = true

namespace Account.OneImage

variable {a b : Account}

/-- The end of a composition sends no image. -/
theorem ended (h : a.OneImage) (same : images b.sent = images a.sent)
    (halted : b.composer.phase = .halted) : b.OneImage where
  once := by
    rw [same]
    exact h.once
  unasked := by simp [halted]
  awaited := by simp [halted]
  held := by simp [halted]

/-- Nor does anything that only touches the texts. -/
theorem congr (h : a.OneImage) (same : images b.sent = images a.sent)
    (phase : b.composer.phase = a.composer.phase) (ticket : b.composer.ticket = a.composer.ticket)
    (holds : a.composer.holdsImage = true → b.composer.holdsImage = true) : b.OneImage where
  once := by
    rw [same]
    exact h.once
  unasked := by
    rw [same, phase]
    exact h.unasked
  awaited := by
    rw [same, phase, ticket]
    exact h.awaited
  held := by
    rw [same, phase]
    intro allocated sent
    exact holds (h.held allocated sent)

/-- To forget an image on its way does no harm if the post is known to have it. -/
theorem forget (h : a.OneImage) (seen : ¬ a.composer.ImageUnseen) : (a.attaching false).OneImage :=
  { h with
    held := by
      intro allocated sent
      have holds : a.composer.hasImage || a.composer.attachingImage := h.held allocated sent
      cases known : a.composer.hasImage with
      | true => simp [Account.attaching, Composer.holdsImage, known]
      | false =>
        have attaching : a.composer.attachingImage = true := by simpa [known] using holds
        exact absurd ⟨allocated, attaching, known⟩ seen }

end Account.OneImage

/-- Unless it is one of a further attempt, a move keeps to one image. -/
theorem Move.keeps_oneImage {action : Action} {a b : Account} (move : Move action a b)
    (first : ∀ result, action ≠ .retryUpload result) (h : a.OneImage) : b.OneImage := by
  cases move with
  | note input => exact h.congr rfl rfl rfl id
  | request image given draft free =>
    have none_yet : images a.sent = [] := h.unasked draft
    have sent : images ((a.requested image).attaching (a.composer.attachingImage
        || image.isSome)).sent
        = if image.isSome then
            [.insertPost (Desk.allocationRequest a.composer.config a.composer.liveInput image)]
          else [] := by
      simp only [Account.attaching, Account.requested, images_append, none_yet, List.nil_append]
      cases image <;> rfl
    refine ⟨?_, by rintro ⟨⟩, ?_, by rintro ⟨⟩⟩
    · rw [sent]
      split <;> simp
    · intro _ some_image
      rw [sent] at some_image
      refine ⟨⟨image.isSome⟩, rfl, ?_⟩
      by_contra without
      exact some_image (if_neg without)
  | @change edit typed allocated between =>
    exact h.congr (images_append_of_bare a.sent edit.carriesImage_message) rfl rfl id
  | close asked => exact h.ended (images_append_of_bare a.sent rfl) rfl
  | abandon unfinished => exact h.ended rfl rfl
  | halt => exact h.ended rfl rfl
  | hideImage allocated holds => exact h.congr (images_append_of_bare a.sent rfl) rfl rfl id
  | insertImage file allocated free =>
    -- Since no image is held, none has been sent.
    have none_yet : images a.sent = [] := by
      by_contra some_image
      rw [h.held allocated some_image] at free
      cases free
    have sent : images ((a.left (.insertImage file)).attaching true).sent
        = [.insertImage file] := by
      simp only [Account.attaching, Account.left]
      rw [images_append_of_carries _ rfl, none_yet, List.nil_append]
    refine ⟨by rw [sent]; simp, ?_, ?_, ?_⟩
    · intro draft
      exact absurd (allocated.symm.trans draft) (by simp)
    · intro allocating
      exact absurd (allocated.symm.trans allocating) (by simp)
    · intro _ _
      simp [Account.attaching, Composer.holdsImage]
  | forget again =>
    obtain ⟨result, rfl⟩ := again
    exact absurd rfl (first result)
  | @receiveId ticket now id answer waiting =>
    refine ⟨h.once, ?_, ?_, ?_⟩
    · intro draft
      apply h.unasked
      cases phase : a.composer.phase <;>
        simp [Account.allocated, phase, Phase.after, Phase.next?] at draft ⊢
    · intro allocating
      cases phase : a.composer.phase <;>
        simp [Account.allocated, phase, Phase.after, Phase.next?] at allocating
    · intro _ some_image
      cases phase : a.composer.phase with
      | allocating =>
        -- The image left along with the request, so the ticket knows of it.
        obtain ⟨held, same, carries⟩ := h.awaited phase some_image
        obtain rfl : ticket = held := Option.some.inj (waiting.symm.trans same)
        simp [Account.allocated, Composer.holdsImage, carries]
      | allocated =>
        have holds := h.held phase some_image
        simp only [Composer.holdsImage, Bool.or_eq_true] at holds
        rcases holds with known | attaching
        · simp [Account.allocated, Composer.holdsImage, known]
        · simp [Account.allocated, Composer.holdsImage, attaching]
      | draft => exact absurd (h.unasked phase) some_image
      | halted => simp_all [Account.allocated, Phase.after, Phase.next?]
  | @mergeEcho data answer known own =>
    refine h.congr rfl rfl rfl ?_
    intro holds
    simp only [Composer.holdsImage, Bool.or_eq_true] at holds
    rcases holds with shown | attaching
    · simp [Account.merged, Composer.holdsImage, shown]
    · simp [Account.merged, Composer.holdsImage, attaching]

/-! ## Actions and histories -/

namespace Desk

variable {τ : Type} [Transport τ]

/-- A file is ignored exactly if the composition holds an image. -/
theorem upload_eq_ignored_iff (desk : Desk (Logged τ)) (file : UploadedFile) :
    (desk.upload (some file)).1 = some (.ok .ignored) ↔ desk.composer.holdsImage = true := by
  show (desk.offer file).1 = _ ↔ _
  rcases offer_cases desk file with ⟨held, ignored⟩ | ⟨free, ⟨-, after, asked, -⟩ |
    ⟨-, after, attached, -⟩ | ⟨-, after, refused, -⟩ | ⟨-, ended⟩ | ⟨-, waiting⟩⟩
  · simp [ignored, held]
  · simp [asked, free]
  · simp [attached, free]
  · simp [refused, free]
  · simp [ended, free]
  · simp [waiting, free]

/-- The image of a post with an id is hidden if the message is accepted. -/
theorem hideImage_of_holds {desk : Desk (Logged τ)} (allocated : desk.composer.phase = .allocated)
    (holds : desk.composer.holdsImage = true)
    (accepted : (Transport.send desk.transport .spoiler).1 = true) :
    desk.hideImage.1 = .ok true := by
  have talking : desk.composer.phase ≠ .halted := by simp [allocated]
  unfold hideImage
  rw [if_pos ⟨allocated, holds⟩, send_of_open talking, accepted]

/-- An action keeps to one image unless it forgets it. -/
theorem oneImage_perform {desk : Desk (Logged τ)} (h : desk.account.OneImage) {action : Action}
    (seen : ∀ result, action = .retryUpload result → ¬ desk.composer.ImageUnseen) :
    (desk.perform action).2.account.OneImage := by
  by_cases again : ∃ result, action = .retryUpload result
  · obtain ⟨result, rfl⟩ := again
    have start : (desk.setAttaching false).account.OneImage := h.forget (seen result rfl)
    -- What follows are the moves of a first attempt.
    have moves : ReflTransGen (Move (.upload result)) (desk.setAttaching false).account
        ((desk.setAttaching false).upload result).2.account :=
      upload_moves (desk.setAttaching false) result rfl
    exact Account.induct moves start fun move => move.keeps_oneImage (by rintro _ ⟨⟩)
  · have first : ∀ result, action ≠ .retryUpload result := fun result same => again ⟨result, same⟩
    exact Account.induct (perform_moves desk action) h fun move => move.keeps_oneImage first

/-- A further attempt that forgets an image either sends another one or leaves the composition as
if it had none. -/
theorem retryUpload_of_unseen {desk : Desk (Logged τ)} (sent : images desk.transport.sent ≠ [])
    (unseen : desk.composer.ImageUnseen) (result : Option UploadedFile) :
    let after := (desk.perform (.retryUpload result)).2
    1 < (images after.transport.sent).length ∨
    images after.transport.sent ≠ [] ∧ after.composer.phase = .allocated ∧
      after.composer.holdsImage = false := by
  have free : (desk.setAttaching false).composer.holdsImage = false := by
    simp [setAttaching, Composer.holdsImage, unseen.unseen]
  have phase : (desk.setAttaching false).composer.phase = .allocated := unseen.allocated
  intro after
  cases result with
  | none => exact .inr ⟨sent, phase, free⟩
  | some file =>
    have result : after = ((desk.setAttaching false).offer file).2 := rfl
    rcases offer_cases (desk.setAttaching false) file with ⟨held, -⟩ | ⟨-, ⟨draft, -⟩ |
      ⟨-, last, attached, left⟩ | ⟨-, last, refused, same⟩ | ⟨ended, -⟩ | ⟨allocating, -⟩⟩
    · exact absurd (free.symm.trans held) (by simp)
    · exact absurd (phase.symm.trans draft) (by simp)
    · have log : after.transport.sent = desk.transport.sent ++ [.insertImage file] := by
        rw [result, attached]
        exact congrArg Account.sent left
      have some_image := List.length_pos_iff.2 sent
      left
      rw [log, images_append_of_carries _ rfl, List.length_append]
      simpa using some_image
    · have unchanged : after.account = (desk.setAttaching false).account := by
        rw [result, refused]
        exact same
      have log : after.transport.sent = desk.transport.sent := congrArg Account.sent unchanged
      have composer : after.composer = (desk.setAttaching false).composer :=
        congrArg Account.composer unchanged
      right
      rw [log, composer]
      exact ⟨sent, phase, free⟩
    · exact absurd (phase.symm.trans ended) (by simp)
    · exact absurd (phase.symm.trans allocating) (by simp)

/-- An image on its way in a history has been sent. -/
theorem pictured_run (config : ComposerConfig) (board : String) (thread : UInt64) (now : Int64)
    (registry : Registry) (way : τ) (actions : List Action) :
    ((begin config board thread now registry way).run actions).account.Pictured := by
  refine run_induct actions ⟨?_, ?_⟩ Move.keeps_pictured
  · rintro ⟨⟩
  · rintro _ ⟨⟩

/-- An image that left stays in the log. -/
theorem images_run_ne_nil {desk : Desk (Logged τ)} (sent : images desk.transport.sent ≠ [])
    (actions : List Action) : images (desk.run actions).transport.sent ≠ [] := by
  obtain ⟨more, grown⟩ := isPrefix_sent_run desk actions
  rw [← grown, images_append]
  exact List.append_ne_nil_of_left_ne_nil sent _

/-- A history in which no image is forgotten keeps to one image. -/
theorem oneImage_run (config : ComposerConfig) (board : String) (thread : UInt64) (now : Int64)
    (registry : Registry) (way : τ) (actions : List Action)
    (seen : ∀ past result rest, actions = past ++ .retryUpload result :: rest →
      ¬ ((begin config board thread now registry way).run past).composer.ImageUnseen) :
    ((begin config board thread now registry way).run actions).account.OneImage := by
  induction actions using List.reverseRecOn with
  | nil => exact ⟨Nat.zero_le 1, fun _ => rfl, by rintro ⟨⟩, by rintro ⟨⟩⟩
  | append_singleton past action ih =>
    rw [run_concat]
    apply oneImage_perform
    · apply ih
      intro earlier result rest same
      exact seen earlier result (rest ++ [action]) (by simp [same])
    · rintro result rfl
      exact seen past result [] rfl

/-- A history keeps to one image, in the sense that at every moment at most one image has left and
that once it has, a composition with an id ignores every further file and can hide the image, exactly
if no further attempt at an upload is begun while an image that was sent on its own is unseen. -/
theorem one_image_iff_none_forgotten (config : ComposerConfig) (board : String) (thread : UInt64)
    (now : Int64) (registry : Registry) (way : τ) (actions : List Action) :
    let start := begin config board thread now registry way
    (∀ past, past <+: actions →
      (images (start.run past).transport.sent).length ≤ 1 ∧
      (images (start.run past).transport.sent ≠ [] →
        (start.run past).composer.phase = .allocated →
        (∀ file, ((start.run past).upload (some file)).1 = some (.ok .ignored)) ∧
        ((Transport.send (start.run past).transport .spoiler).1 = true →
          (start.run past).hideImage.1 = .ok true))) ↔
    ∀ past result rest, actions = past ++ .retryUpload result :: rest →
      ¬ (start.run past).composer.ImageUnseen := by
  intro start
  constructor
  · intro always past result rest same unseen
    have begun : past ++ [.retryUpload result] <+: actions := ⟨rest, by simp [same]⟩
    obtain ⟨once, held⟩ := always _ begun
    have sent : images (start.run past).transport.sent ≠ [] :=
      (pictured_run config board thread now registry way past).attaching unseen.attaching
    rw [run_concat] at once held
    rcases retryUpload_of_unseen sent unseen result with second | ⟨sent, allocated, free⟩
    · exact absurd once (Nat.not_le_of_lt second)
    · have ignored := (held sent allocated).1 { token := "", name := "" }
      rw [upload_eq_ignored_iff, free] at ignored
      cases ignored
  · rintro seen past ⟨rest, rfl⟩
    have one : (start.run past).account.OneImage := by
      apply oneImage_run
      intro earlier result later same
      exact seen earlier result (later ++ rest) (by simp [same])
    constructor
    · exact one.once
    · intro sent allocated
      have holds : (start.run past).composer.holdsImage = true := one.held allocated sent
      constructor
      · intro file
        exact (upload_eq_ignored_iff _ file).2 holds
      · exact hideImage_of_holds allocated holds

/-- Of two uploads the first one fails and the second one is sent.  When the first one is tried
again, its image is sent as well. -/
theorem retry_sends_second_image :
    images (((begin {} "a" 1 0 Registry.empty ({} : Acceptance)).run
      [.edit "a", .receiveId 0 10, .upload none, .upload (some ⟨"t1", "cat.png", false⟩),
        .retryUpload (some ⟨"t2", "dog.png", false⟩)]).transport.sent)
      = [.insertImage ⟨"t1", "cat.png", false⟩, .insertImage ⟨"t2", "dog.png", false⟩] := by
  rfl

end Desk

end LiveThread
