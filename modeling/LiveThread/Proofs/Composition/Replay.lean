import LiveThread.Proofs.Composition.Move

/-!
# What the server has been told

The messages of a composition are replayed by the changes of a post: a request
for an id sets the body, every edit changes it, all other messages leave it
alone.  The replay is never refused, and it ends with the sent body.

Main results:

- Definition `replay`: the post that messages amount to.
- Definition `Edit.reach`: how far into the body an edit reaches.
- Theorem `Edit.hear?_message_eq_ok_iff`: when the message of an edit is heard, and what it leaves.
- Theorem `Post.hear?_message`: the message of the edit between two bodies turns one into the
  other.
- Definition `Account.Faithful`: the sent body is what the messages amount to, within the limits.
- Theorem `Move.keeps_faithful`: no move breaks that.
- Theorem `Desk.replay_sent_eq_sentBody`: so it holds after every history, and an input sends the
  message that it reports.
-/

namespace LiveThread

/-! ## Replay -/

/-- The post after the server has heard a message of its author. -/
def Post.hear? (p : Post) : ClientMessage → Except PostError Post
  | .insertPost request => .ok { p with body := request.body.getD "" }
  | .append code => p.append? code
  | .backspace => .ok p.backspace
  | .splice s => p.splice? s.start s.count s.text
  | .synchronise _ | .closePost | .insertImage _ | .spoiler | .noop => .ok p

/-- The post that messages amount to, if none of them is refused. -/
def replay (messages : List ClientMessage) : Except PostError Post :=
  messages.foldlM Post.hear? {}

/-- The last message is heard after the others. -/
theorem replay_append_singleton (messages : List ClientMessage) (m : ClientMessage) :
    replay (messages ++ [m]) = (replay messages).bind (·.hear? m) := by
  unfold replay
  rw [List.foldlM_append]
  cases messages.foldlM Post.hear? {} with
  | error e => rfl
  | ok p => exact bind_pure (p.hear? m)

/-! ## The edit between two bodies -/

namespace Edit

/-- A replaced part lies in the old body. -/
theorem end_le_of_between? {old new text : String} {start count : Nat}
    (h : between? old new = some (splice start count text)) : start + count ≤ old.length := by
  unfold between? at h
  split at h
  · cases h
  · split at h
    · obtain ⟨c, -, eq⟩ := Option.map_eq_some_iff.1 h
      cases eq
    · split at h
      · cases h
      · simp only [spliceBetween, Option.some.injEq, splice.injEq] at h
        obtain ⟨rfl, rfl, -⟩ := h
        have inside := (commonLength_le old.toList new.toList).1
        rw [String.length_toList] at inside
        rw [List.length_drop, String.length_toList]
        omega

/-- How far into the body an edit reaches; at the end of the body there is always room. -/
def reach : Edit → Nat
  | splice start count _ => start + count
  | append _ | backspace => 0

/-- The edit between two bodies does not reach beyond the old one. -/
theorem reach_le_of_between? {old new : String} {edit : Edit} (h : between? old new = some edit) :
    edit.reach ≤ old.length := by
  cases edit with
  | append | backspace => exact Nat.zero_le _
  | splice start count text => exact end_le_of_between? h

/-- Positions fit into a message if their sum has 64 bits. -/
theorem toNat_toUInt64 {start count : Nat} (word : start + count < 0x10000000000000000) :
    start.toUInt64.toNat = start ∧ count.toUInt64.toNat = count :=
  ⟨UInt64.toNat_ofNat_of_lt' (Nat.lt_of_le_of_lt (Nat.le_add_right _ _) word),
    UInt64.toNat_ofNat_of_lt' (Nat.lt_of_le_of_lt (Nat.le_add_left _ _) word)⟩

end Edit

/-- The code point of a character denotes that character. -/
@[simp]
theorem charOfCode?_val (c : Char) : charOfCode? c.val = some c :=
  dif_pos c.valid

/-- The message of an edit is heard exactly if the edit does not reach beyond the body, and the body
is then the one after the edit. -/
theorem Edit.hear?_message_eq_ok_iff {p q : Post} {edit : Edit}
    (word : edit.reach < 0x10000000000000000) :
    p.hear? edit.message = .ok q ↔
      edit.reach ≤ p.body.length ∧ q = { p with body := edit.apply p.body } := by
  cases edit with
  | append c =>
    have pushed : (append c).apply p.body = p.body.push c := by
      rw [← String.toList_inj]
      simp [apply, applyChars]
    simp [reach, message, Post.hear?, Post.append?, pushed, eq_comm]
  | backspace =>
    simp [reach, message, Post.hear?, Post.backspace, apply, applyChars, eq_comm]
  | splice start count text =>
    obtain ⟨startKept, countKept⟩ := toNat_toUInt64 word
    simp only [message, Post.hear?, Post.splice?_eq_ok_iff, startKept, countKept]
    rfl

/-- The message of the edit between two bodies turns one into the other, in a post of any kind.
Positions fit into the message as long as the old body has fewer than 2^64 characters. -/
theorem Post.hear?_message {p : Post} {new : String} {edit : Edit}
    (between : Edit.between? p.body new = some edit) (short : p.body.length < 0x10000000000000000) :
    p.hear? edit.message = .ok { p with body := new } := by
  have inside := Edit.reach_le_of_between? between
  rw [Edit.hear?_message_eq_ok_iff (Nat.lt_of_le_of_lt inside short), Edit.apply_between? between]
  exact ⟨inside, rfl⟩

/-! ## Limits -/

/-- A text is within the limits of a body. -/
structure ComposerConfig.Fits (config : ComposerConfig) (text : String) : Prop where
  length_le : text.length ≤ config.maxLength.toNat
  lines_le : config.maxLines ≠ 0 → (Text.linesOf text.toList).length ≤ config.maxLines.toNat

namespace ComposerConfig

theorem fits_empty (config : ComposerConfig) : config.Fits "" where
  length_le := Nat.zero_le _
  lines_le limited := by
    have : config.maxLines.toNat ≠ 0 := fun h => limited (UInt64.toNat_inj.1 h)
    exact Nat.one_le_iff_ne_zero.2 this

/-- What is left of an input is within the limits. -/
theorem fits_trim (config : ComposerConfig) (input : String) :
    config.Fits (config.trim input).text where
  length_le := by
    simp only [trim, trimInput, String.length_ofList, withinLimits]
    split
    · exact List.length_take_le _ _
    · exact Nat.le_trans (Text.isPrefix_keepLines _ _).length_le (List.length_take_le _ _)
  lines_le limited := by
    have some_lines : config.maxLines.toNat ≠ 0 := fun h => limited (UInt64.toNat_inj.1 h)
    simp only [trim, trimInput, String.toList_ofList, withinLimits, if_neg some_lines,
      Text.length_linesOf]
    have kept := Text.count_keepLines_le (config.maxLines.toNat - 1)
      (input.toList.take config.maxLength.toNat)
    omega

end ComposerConfig

/-! ## Faithful accounts -/

/-- The sent body is what the messages amount to, now and at every moment before within the
limits; and so is the live input, from which every message is made. -/
structure Account.Faithful (a : Account) : Prop where
  live : a.composer.config.Fits a.composer.liveInput
  unsent : a.composer.phase = .draft → a.composer.sentBody = ""
  told : replay a.sent = .ok { body := a.composer.sentBody }
  always : ∀ messages, messages <+: a.sent →
    ∃ text, replay messages = .ok { body := text } ∧ a.composer.config.Fits text

namespace Account.Faithful

variable {a : Account}

/-- The sent body is within the limits. -/
theorem fits_sentBody (h : a.Faithful) : a.composer.config.Fits a.composer.sentBody := by
  obtain ⟨text, told, fits⟩ := h.always a.sent (List.prefix_refl _)
  have same : ({ body := text } : Post) = { body := a.composer.sentBody } :=
    Except.ok.inj (told.symm.trans h.told)
  have : text = a.composer.sentBody := congrArg Post.body same
  exact this ▸ fits

/-- One more message that leads to a body within the limits. -/
theorem extend (h : a.Faithful) {m : ClientMessage} {text : String}
    (heard : ({ body := a.composer.sentBody } : Post).hear? m = .ok { body := text })
    (fits : a.composer.config.Fits text) :
    replay (a.sent ++ [m]) = .ok { body := text } ∧
      ∀ messages, messages <+: a.sent ++ [m] →
        ∃ text, replay messages = .ok { body := text } ∧ a.composer.config.Fits text := by
  have told : replay (a.sent ++ [m]) = .ok { body := text } := by
    rw [replay_append_singleton, h.told]
    exact heard
  refine ⟨told, fun messages before => ?_⟩
  rcases List.prefix_concat_iff.1 before with rfl | before
  · exact ⟨text, told, fits⟩
  · exact h.always messages before

/-- One more message that has no say in the body. -/
theorem extend_silent (h : a.Faithful) {m : ClientMessage}
    (silent : ∀ p : Post, p.hear? m = .ok p) :
    replay (a.sent ++ [m]) = .ok { body := a.composer.sentBody } ∧
      ∀ messages, messages <+: a.sent ++ [m] →
        ∃ text, replay messages = .ok { body := text } ∧ a.composer.config.Fits text :=
  h.extend (silent _) h.fits_sentBody

end Account.Faithful

/-- A request with an empty input has no body, any other one has the input as its body. -/
theorem hear?_allocationRequest (p : Post) (config : ComposerConfig) (body : String)
    (image : Option UploadedFile) :
    p.hear? (.insertPost (Desk.allocationRequest config body image))
      = .ok { p with body := body } := by
  by_cases empty : body = ""
  · simp [Post.hear?, Desk.allocationRequest, empty]
  · simp [Post.hear?, Desk.allocationRequest, empty]

/-- No move breaks faith. -/
theorem Move.keeps_faithful {action : Action} {a b : Account} (move : Move action a b)
    (h : a.Faithful) : b.Faithful := by
  cases move with
  | note input =>
    exact ⟨a.composer.config.fits_trim input, h.unsent, h.told, h.always⟩
  | request image given draft free =>
    have empty : a.composer.sentBody = "" := h.unsent draft
    have body : (if a.composer.liveInput = "" then a.composer.sentBody else a.composer.liveInput)
        = a.composer.liveInput := by
      split
      · next e => rw [empty, e]
      · rfl
    obtain ⟨told, always⟩ := h.extend
      (hear?_allocationRequest _ a.composer.config a.composer.liveInput image) h.live
    refine ⟨h.live, by rintro ⟨⟩, ?_, always⟩
    simpa [Account.requested, Account.attaching, body] using told
  | change typed allocated between =>
    have short : a.composer.sentBody.length < 0x10000000000000000 :=
      Nat.lt_of_le_of_lt h.fits_sentBody.length_le a.composer.config.maxLength.toNat_lt
    obtain ⟨told, always⟩ := h.extend (Post.hear?_message between short) h.live
    exact ⟨h.live, fun draft => by simp [Account.changed, allocated] at draft, told, always⟩
  | close asked =>
    obtain ⟨told, always⟩ := h.extend_silent (m := .closePost) fun _ => rfl
    exact ⟨h.live, by rintro ⟨⟩, told, always⟩
  | abandon unfinished => exact ⟨h.live, by rintro ⟨⟩, h.told, h.always⟩
  | halt => exact ⟨h.live, by rintro ⟨⟩, h.told, h.always⟩
  | hideImage allocated holds =>
    obtain ⟨told, always⟩ := h.extend_silent (m := .spoiler) fun _ => rfl
    exact ⟨h.live, h.unsent, told, always⟩
  | insertImage file allocated free =>
    obtain ⟨told, always⟩ := h.extend_silent (m := .insertImage file) fun _ => rfl
    exact ⟨h.live, h.unsent, told, always⟩
  | forget => exact ⟨h.live, h.unsent, h.told, h.always⟩
  | receiveId answer waiting =>
    refine ⟨h.live, fun draft => h.unsent ?_, h.told, h.always⟩
    cases phase : a.composer.phase <;> simp_all [Account.allocated, Phase.after, Phase.next?]
  | mergeEcho answer known own => exact ⟨h.live, h.unsent, h.told, h.always⟩

/-- No move changes what a composition was set up with. -/
theorem Move.config_eq {action : Action} {a b : Account} (move : Move action a b) :
    b.composer.config = a.composer.config := by
  cases move <;> rfl

/-! ## Histories -/

namespace Desk

variable {τ : Type} [Transport τ]

/-- A new composition with a logged way out by which nothing has left. -/
def begin (config : ComposerConfig) (board : String) (thread : UInt64) (now : Int64)
    (registry : Registry) (way : τ) : Desk (Logged τ) :=
  { composer := .new config board thread now, registry := registry, transport := { way := way } }

omit [Transport τ] in
/-- Of a new composition the server has been told nothing. -/
theorem begin_faithful (config : ComposerConfig) (board : String) (thread : UInt64) (now : Int64)
    (registry : Registry) (way : τ) :
    (begin config board thread now registry way).account.Faithful where
  live := config.fits_empty
  unsent := fun _ => rfl
  told := rfl
  always := by
    intro messages before
    obtain rfl := List.prefix_nil.1 before
    exact ⟨"", rfl, config.fits_empty⟩

/-- What an input sends is what it reports, and unless it is held back or refused the sent body
catches up with it. -/
theorem edit_reports (desk : Desk (Logged τ)) (input : String) (h : desk.account.Faithful) :
    ∃ left, (desk.edit input).2.transport.sent = desk.transport.sent ++ left ∧
      left.length ≤ 1 ∧
      (∀ kind, (∃ trimmed, (desk.edit input).1 = .ok ⟨some kind, trimmed⟩) ↔
        left.map ClientMessage.kind = [kind]) ∧
      (desk.composer.phase = .allocating ∨ desk.composer.phase = .halted → left = []) ∧
      (desk.composer.phase = .draft ∨ desk.composer.phase = .allocated →
        ∀ outcome, (desk.edit input).1 = .ok outcome →
          (desk.edit input).2.composer.sentBody
            = (desk.composer.config.trim input).text) := by
  rcases edit_cases desk input with
    ⟨after, outcome, same, still⟩ | ⟨after, outcome, asked, draft, new⟩ |
    ⟨edit, after, outcome, changed, allocated, between⟩ | ⟨after, outcome, same, -⟩
  · rw [outcome]
    have log : after.transport.sent = desk.transport.sent := congrArg Account.sent same
    have body : after.composer.sentBody = desk.composer.sentBody :=
      congrArg (·.composer.sentBody) same
    refine ⟨[], by simpa using log, by simp, by simp, fun _ => rfl, fun accepts _ _ => ?_⟩
    rcases still with holds | still
    · rcases accepts with phase | phase <;> simp [phase, Phase.acceptsEdits] at holds
    · exact body.trans still.symm
  · rw [outcome]
    have log : after.transport.sent = desk.transport.sent ++
        [.insertPost (allocationRequest desk.composer.config
          (desk.composer.config.trim input).text none)] := congrArg Account.sent asked
    have body := congrArg (·.composer.sentBody) asked
    refine ⟨_, log, by simp, fun kind => ?_, fun held => by simp [draft] at held, fun _ _ _ => ?_⟩
    · simp [ClientMessage.kind]
    · have empty : desk.composer.sentBody = "" := h.unsent draft
      rw [empty] at new
      simpa [account, Account.requested, Account.noted, new] using body
  · rw [outcome]
    have log : after.transport.sent = desk.transport.sent ++ [edit.message] :=
      congrArg Account.sent changed
    have body : after.composer.sentBody = (desk.composer.config.trim input).text :=
      congrArg (·.composer.sentBody) changed
    refine ⟨_, log, by simp, fun kind => ?_, fun held => by simp [allocated] at held,
      fun _ _ _ => body⟩
    simp
  · rw [outcome]
    have log : after.transport.sent = desk.transport.sent := congrArg Account.sent same
    exact ⟨[], by simpa using log, by simp, by simp, fun _ => rfl, by rintro _ _ ⟨⟩⟩

/-- After every history of a composition, whatever the way out refuses, the messages that left
amount to the sent body, and the body that they amount to was always within the limits.  An input
then sends at most one message and reports its kind; it sends none while an id is awaited or after
the end; and otherwise, unless it is refused, the sent body is the input within the limits. -/
theorem replay_sent_eq_sentBody (config : ComposerConfig) (board : String) (thread : UInt64)
    (now : Int64) (registry : Registry) (way : τ) (actions : List Action) :
    let desk := (begin config board thread now registry way).run actions
    (replay desk.transport.sent).map Post.body = .ok desk.composer.sentBody ∧
    (∀ messages, messages <+: desk.transport.sent →
      ∃ text, (replay messages).map Post.body = .ok text ∧ config.Fits text) ∧
    ∀ input, ∃ left, (desk.edit input).2.transport.sent = desk.transport.sent ++ left ∧
      left.length ≤ 1 ∧
      (∀ kind, (∃ trimmed, (desk.edit input).1 = .ok ⟨some kind, trimmed⟩) ↔
        left.map ClientMessage.kind = [kind]) ∧
      (desk.composer.phase = .allocating ∨ desk.composer.phase = .halted → left = []) ∧
      (desk.composer.phase = .draft ∨ desk.composer.phase = .allocated →
        ∀ outcome, (desk.edit input).1 = .ok outcome →
          (desk.edit input).2.composer.sentBody = (config.trim input).text) := by
  intro desk
  have faithful : desk.account.Faithful :=
    run_induct actions (begin_faithful config board thread now registry way) Move.keeps_faithful
  have setUp : desk.composer.config = config :=
    run_induct (P := fun a => a.composer.config = config) actions rfl
      fun move same => move.config_eq.trans same
  refine ⟨?_, fun messages before => ?_, fun input => ?_⟩
  · have told : replay desk.transport.sent = .ok { body := desk.composer.sentBody } :=
      faithful.told
    rw [told]
    rfl
  · obtain ⟨text, told, fits⟩ := faithful.always messages before
    exact ⟨text, by rw [told]; rfl, setUp ▸ fits⟩
  · exact setUp ▸ edit_reports desk input faithful

end Desk

end LiveThread
