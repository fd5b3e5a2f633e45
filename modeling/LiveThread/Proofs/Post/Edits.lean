import LiveThread.Post.Change
import LiveThread.Proofs.Composition.Replay

/-!
# Edits and the changes that they ask for

An author applies an edit to the text; the server and every other page change
the post that they hold, in place, as the message of the edit says.  Both agree
on every edit, also on one that was not made from two bodies.  Only where a
replaced part is not in the body do they differ: the author cuts it off at the
end, the post refuses, and a post that refuses stays as it was.

Main results:

- Theorem `PostChange.ofMessage_run`: the message of an edit changes a post in place as it changes
  the post that it is replayed on.
- Theorem `exists_char_iff`: the code points that belong to characters.
- Theorem `edits_agree_with_changes`: when a change is refused, and what it leaves.
-/

namespace LiveThread

/-! ## Outcomes -/

namespace PostChange

variable {p q : Post} {result : Except PostError Post} {e : PostError}

theorem outcome_eq_ok_iff : outcome p result = .ok () q ↔ result = .ok q := by
  cases result <;> simp [outcome]

theorem outcome_eq_error_iff : outcome p result = .error e q ↔ result = .error e ∧ q = p := by
  cases result <;> simp [outcome, eq_comm]

end PostChange

/-! ## Edits as messages -/

namespace Edit

theorem lt_reach_iff {edit : Edit} {n : Nat} :
    n < edit.reach ↔ ∃ start count text, edit = splice start count text ∧ n < start + count := by
  cases edit <;> simp [reach]

end Edit

namespace PostChange

/-- The message of an edit changes a post in place as it changes the post that it is replayed on. -/
theorem ofMessage_run (p : Post) {edit : Edit} (word : edit.reach < 0x10000000000000000) :
    (ofMessage edit.message).run p = outcome p (p.hear? edit.message) := by
  cases edit with
  | append c => exact append_run p c.val
  | backspace => exact backspace_run p
  | splice start count text =>
    obtain ⟨startKept, countKept⟩ := Edit.toNat_toUInt64 word
    refine splice_run (.inl ?_) text
    rwa [startKept, countKept]

end PostChange

/-- A code point belongs to a character if it is at most 0x10ffff and no surrogate. -/
theorem exists_char_iff {code : UInt32} :
    (∃ c : Char, c.val = code) ↔
      code.toNat < 0xd800 ∨ 0xdfff < code.toNat ∧ code.toNat < 0x110000 := by
  constructor
  · rintro ⟨c, rfl⟩
    exact c.valid
  · intro valid
    exact ⟨⟨code, valid⟩, rfl⟩

/-- For every post, the changes of its body in place.

- The message of an edit whose end has 64 bits is refused exactly if the edit replaces characters
  and reaches beyond the body, and the post is then as it was.  Otherwise the body is afterwards
  the one that the edit makes of it, and everything else is as it was.
- For all positions of 64 bits, also if their sum has more, characters are replaced exactly if the
  sum is at most the length of the body, which is a number of 64 bits itself; if not, the post is as
  it was.
- A code point is appended exactly if it is at most 0x10ffff and no surrogate; if not, the post is as
  it was. -/
theorem edits_agree_with_changes (p : Post) :
    (∀ edit : Edit, edit.reach < 0x10000000000000000 →
      let outcome := (PostChange.ofMessage edit.message).run p
      ((∃ e q, outcome = .error e q) ↔
        ∃ start count text, edit = .splice start count text ∧ p.body.length < start + count) ∧
      (∀ e q, outcome = .error e q → q = p) ∧
      ∀ q, outcome = .ok () q → q = { p with body := edit.apply p.body }) ∧
    (p.body.length < 0x10000000000000000 →
      ∀ (start count : UInt64) (text : String),
        let outcome := (PostChange.splice start count text).run p
        ((∃ q, outcome = .ok () q) ↔ start.toNat + count.toNat ≤ p.body.length) ∧
        ∀ e q, outcome = .error e q → q = p) ∧
    ∀ code : UInt32,
      let outcome := (PostChange.append code).run p
      ((∃ q, outcome = .ok () q) ↔
        code.toNat < 0xd800 ∨ 0xdfff < code.toNat ∧ code.toNat < 0x110000) ∧
      ∀ e q, outcome = .error e q → q = p := by
  refine ⟨fun edit word => ?_, fun short start count text => ?_, fun code => ?_⟩
  · intro outcome
    have heard : outcome = PostChange.outcome p (p.hear? edit.message) :=
      PostChange.ofMessage_run p word
    have taken := fun q => Edit.hear?_message_eq_ok_iff (p := p) (q := q) word
    simp only [heard, PostChange.outcome_eq_error_iff, PostChange.outcome_eq_ok_iff, taken]
    refine ⟨?_, fun e q refused => refused.2, fun q accepted => accepted.2⟩
    rw [← Edit.lt_reach_iff]
    cases said : p.hear? edit.message with
    | ok q =>
      have inside := ((taken q).1 said).1
      simp [inside]
    | error e =>
      simp only [Except.error.injEq, exists_eq_right, exists_eq', true_iff]
      by_contra! inside
      rw [(taken _).2 ⟨inside, rfl⟩] at said
      cases said
  · intro outcome
    have ran : outcome = PostChange.outcome p (p.splice? start count text) :=
      PostChange.splice_run (.inr short) text
    simp only [ran, PostChange.outcome_eq_ok_iff, PostChange.outcome_eq_error_iff,
      Post.splice?_eq_ok_iff]
    exact ⟨⟨fun ⟨_, inside, _⟩ => inside, fun inside => ⟨_, inside, rfl⟩⟩,
      fun e q refused => refused.2⟩
  · intro outcome
    have ran : outcome = PostChange.outcome p (p.append? code) := PostChange.append_run p code
    simp only [ran, PostChange.outcome_eq_ok_iff, PostChange.outcome_eq_error_iff,
      Post.append?_eq_ok_iff, ← exists_char_iff]
    exact ⟨⟨fun ⟨_, c, known, _⟩ => ⟨c, known⟩, fun ⟨c, known⟩ => ⟨_, c, known, rfl⟩⟩,
      fun e q refused => refused.2⟩

end LiveThread
