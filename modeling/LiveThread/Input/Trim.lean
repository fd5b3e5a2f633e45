import LiveThread.Text.Lines

/-!
# Limits of the input

The input of a post is cut down to a number of characters and a number of
lines.  What is cut off stands at the end.

Main results:

- Definition `trimInput`: the part within the limits, and how much was cut off.
- Theorem `isPrefix_trimInput`: the part within the limits is a beginning of the input.
- Theorem `trimInput_excess`: no character is counted twice or lost.
-/

namespace LiveThread

open Text

/-- The part of an input within the limits, and the number of characters beyond it. -/
structure TrimmedInput where
  text : String
  excess : Nat
  deriving DecidableEq

/-- The beginning within the limits; a limit of zero lines is no limit. -/
def withinLimits (maxLength maxLines : Nat) (cs : List Char) : List Char :=
  let short := cs.take maxLength
  if maxLines = 0 then short else keepLines (maxLines - 1) short

/-- Cuts an input down to `maxLength` characters and `maxLines` lines.  Lines are cut off what the
first cut leaves, and the characters of both cuts are counted. -/
def trimInput (text : String) (maxLength maxLines : Nat) : TrimmedInput :=
  let short := text.toList.take maxLength
  let kept := withinLimits maxLength maxLines text.toList
  { text := String.ofList kept
    excess := (text.length - maxLength) + (short.length - kept.length) }

/-- The lines are cut off what the first cut leaves. -/
theorem withinLimits_isPrefix_take (maxLength maxLines : Nat) (cs : List Char) :
    withinLimits maxLength maxLines cs <+: cs.take maxLength := by
  unfold withinLimits
  dsimp only
  split
  · exact List.prefix_refl _
  · exact isPrefix_keepLines _ _

theorem isPrefix_withinLimits (maxLength maxLines : Nat) (cs : List Char) :
    withinLimits maxLength maxLines cs <+: cs :=
  (withinLimits_isPrefix_take maxLength maxLines cs).trans (List.take_prefix maxLength cs)

/-- The part within the limits is a beginning of the input. -/
theorem isPrefix_trimInput (text : String) (maxLength maxLines : Nat) :
    (trimInput text maxLength maxLines).text.toList <+: text.toList := by
  simpa [trimInput] using isPrefix_withinLimits maxLength maxLines text.toList

/-- What is kept and what is cut off make up the input. -/
theorem trimInput_excess (text : String) (maxLength maxLines : Nat) :
    (trimInput text maxLength maxLines).text.length
      + (trimInput text maxLength maxLines).excess = text.length := by
  have second := (withinLimits_isPrefix_take maxLength maxLines text.toList).length_le
  rw [List.length_take, String.length_toList] at second
  simp only [trimInput, String.length_ofList, List.length_take, String.length_toList]
  omega

end LiveThread
