import LiveThread.Input.Trim
import LiveThread.Proofs.Composition.Move

/-!
# The longest admissible beginning

An input is cut twice, first to a length and then to a number of lines.  It does
not matter where a line feed stands between the two cuts: what is left is the
longest beginning that keeps both limits.  A beginning of an admissible text is
admissible, so cutting again changes nothing, and a longer input never loses
what a shorter one keeps.

Main results:

- Definition `Admissible`: the texts that keep both limits.
- Theorem `isPrefix_withinLimits_iff`: the admissible beginnings of a text are the beginnings of
  what is left of it.
- Theorem `trimInput_is_longest`: what is left of an input is its longest admissible beginning, and
  the excess is what lies beyond it.
-/

namespace LiveThread

open Text

/-- A text has at most `maxLength` characters and at most `maxLines` lines; a limit of zero lines is
no limit. -/
structure Admissible (maxLength maxLines : Nat) (cs : List Char) : Prop where
  length_le : cs.length ≤ maxLength
  lines_le : maxLines ≠ 0 → (linesOf cs).length ≤ maxLines

section Limits

variable {maxLength maxLines : Nat} {p cs : List Char}

/-- A beginning of an admissible text is admissible. -/
theorem Admissible.of_isPrefix (h : Admissible maxLength maxLines cs) (first : p <+: cs) :
    Admissible maxLength maxLines p where
  length_le := first.length_le.trans h.length_le
  lines_le limited := by
    have whole := h.lines_le limited
    have fewer := first.sublist.count_le '\n'
    rw [length_linesOf] at whole ⊢
    omega

/-- The limits are kept. -/
theorem admissible_withinLimits (maxLength maxLines : Nat) (cs : List Char) :
    Admissible maxLength maxLines (withinLimits maxLength maxLines cs) where
  length_le := by
    have short := (withinLimits_isPrefix_take maxLength maxLines cs).length_le
    exact short.trans (List.length_take_le _ _)
  lines_le limited := by
    have few := count_keepLines_le (maxLines - 1) (cs.take maxLength)
    rw [withinLimits, if_neg limited, length_linesOf]
    omega

/-- An admissible beginning is never cut. -/
theorem Admissible.is_kept (h : Admissible maxLength maxLines p)
    (first : p <+: cs) : p <+: withinLimits maxLength maxLines cs := by
  have short : p <+: cs.take maxLength := List.prefix_take_iff.2 ⟨first, h.length_le⟩
  unfold withinLimits
  dsimp only
  split
  · exact short
  · next limited =>
    have few := h.lines_le limited
    rw [length_linesOf] at few
    exact isPrefix_keepLines_of_count_le short (by omega)

/-- The admissible beginnings of a text are the beginnings of what is left of it. -/
theorem isPrefix_withinLimits_iff :
    p <+: withinLimits maxLength maxLines cs ↔ p <+: cs ∧ Admissible maxLength maxLines p := by
  constructor
  · intro first
    exact ⟨first.trans (isPrefix_withinLimits _ _ _),
      (admissible_withinLimits _ _ cs).of_isPrefix first⟩
  · rintro ⟨first, admissible⟩
    exact admissible.is_kept first

/-- An admissible text is left as it is. -/
theorem Admissible.withinLimits_eq (h : Admissible maxLength maxLines cs) :
    withinLimits maxLength maxLines cs = cs := by
  have all := h.is_kept (List.prefix_refl cs)
  exact (isPrefix_withinLimits _ _ cs).eq_of_length_le all.length_le

/-- An admissible input has no excess. -/
theorem trimInput_of_admissible {text : String}
    (h : Admissible maxLength maxLines text.toList) :
    trimInput text maxLength maxLines = ⟨text, 0⟩ := by
  have kept : (trimInput text maxLength maxLines).text = text := by
    simp only [trimInput, h.withinLimits_eq, String.ofList_toList]
  have whole := trimInput_excess text maxLength maxLines
  rw [kept] at whole
  have none : (trimInput text maxLength maxLines).excess = 0 := by omega
  calc trimInput text maxLength maxLines
      = ⟨(trimInput text maxLength maxLines).text, (trimInput text maxLength maxLines).excess⟩ := rfl
    _ = ⟨text, 0⟩ := by rw [kept, none]

end Limits

/-- What is left of an input within a length and a number of lines.

- It is the longest beginning of the input with at most `maxLength` characters and, unless
  `maxLines` is zero, at most `maxLines` lines: every such beginning is a beginning of it.
- The excess is the number of characters of the input beyond it.
- Cutting it again with the same limits leaves it as it is, without excess.
- What is left of a beginning of a text is a beginning of what is left of the text. -/
theorem trimInput_is_longest (text : String) (maxLength maxLines : Nat) :
    let trimmed := trimInput text maxLength maxLines
    (trimmed.text.toList <+: text.toList ∧
      Admissible maxLength maxLines trimmed.text.toList ∧
      ∀ p, p <+: text.toList → Admissible maxLength maxLines p →
        p <+: trimmed.text.toList) ∧
    (∃ beyond, text.toList = trimmed.text.toList ++ beyond ∧ trimmed.excess = beyond.length) ∧
    trimInput trimmed.text maxLength maxLines = ⟨trimmed.text, 0⟩ ∧
    ∀ longer : String, text.toList <+: longer.toList →
      trimmed.text.toList <+: (trimInput longer maxLength maxLines).text.toList := by
  intro trimmed
  have left : ∀ input : String, (trimInput input maxLength maxLines).text.toList
      = withinLimits maxLength maxLines input.toList := fun input => String.toList_ofList
  have first : trimmed.text.toList <+: text.toList := isPrefix_trimInput text maxLength maxLines
  have admissible : Admissible maxLength maxLines trimmed.text.toList := by
    rw [left]
    exact admissible_withinLimits _ _ _
  refine ⟨⟨first, admissible, fun p begins fits => ?_⟩, ?_,
    trimInput_of_admissible admissible, fun longer begins => ?_⟩
  · rw [left]
    exact isPrefix_withinLimits_iff.2 ⟨begins, fits⟩
  · obtain ⟨beyond, whole⟩ := first
    refine ⟨beyond, whole.symm, ?_⟩
    have size : trimmed.text.length + trimmed.excess = text.length :=
      trimInput_excess text maxLength maxLines
    have parts := congrArg List.length whole
    rw [List.length_append, String.length_toList, String.length_toList] at parts
    omega
  · rw [left longer]
    exact isPrefix_withinLimits_iff.2 ⟨first.trans begins, admissible⟩

-- The length limit stands just before a line feed, then just after it: the second cut takes it off.
example : trimInput "ab\ncd" 2 1 = ⟨"ab", 3⟩ ∧ trimInput "ab\ncd" 3 1 = ⟨"ab", 3⟩ ∧
    trimInput "ab\ncd" 3 2 = ⟨"ab\n", 2⟩ := by
  decide

end LiveThread
