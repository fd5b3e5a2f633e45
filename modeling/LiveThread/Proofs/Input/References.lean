import LiveThread.Input.Reference
import LiveThread.Proofs.Composition.Move

/-!
# Links stand apart

A link that is put into a text stays a link: before it there is the beginning of
the text, a blank or a line break, and after it the end of the text, a blank or
a line break, whatever stood at the cursor and whatever is quoted.  A quotation
begins on a line of its own, quotes line by line, and what followed the cursor
begins on a line of its own again.

Main results:

- Definition `Apart`: what may stand next to a link.
- Theorems `apart_before` and `apart_after`: this is what stands there.
- Theorem `getLast?_quotation`: a quotation ends with a line break.
- Theorem `insertReference_stands_apart`: the text and the cursor after a link was inserted.
-/

namespace LiveThread

open Text

/-! ## Neighbours -/

/-- What may stand next to a link: an end of the text, a blank or a line break. -/
def Apart (neighbour : Option Char) : Prop :=
  neighbour = none ∨ neighbour = some ' ' ∨ neighbour = some '\n'

instance : DecidablePred Apart :=
  fun neighbour => inferInstanceAs (Decidable (neighbour = none ∨ _ ∨ _))

theorem isOpen_iff_apart {neighbour : Option Char} : isOpen neighbour = true ↔ Apart neighbour := by
  cases neighbour with
  | none => simp [isOpen, Apart]
  | some c => simp [isOpen, Apart]

variable {selection : List Char}

/-- There is at most one character between a link and the text before it. -/
theorem separatorBefore_mem (quoting : Bool) (left : Option Char) :
    separatorBefore quoting left ∈ [[], [' '], ['\n']] := by
  unfold separatorBefore
  split
  · simp
  · split <;> simp

/-- Nor is there more than one between a link and the text after it, or the quotation. -/
theorem separatorAfter_mem (quoting : Bool) (left right : Option Char) :
    separatorAfter quoting left right ∈ [[], [' '], ['\n']] := by
  unfold separatorAfter
  split
  · simp
  · split
    · split <;> simp
    · simp

/-- A link stands apart from the text before it. -/
theorem apart_before (quoting : Bool) (before : List Char) :
    Apart (before ++ separatorBefore quoting before.getLast?).getLast? := by
  unfold separatorBefore
  split
  · next free =>
    rw [List.append_nil]
    exact isOpen_iff_apart.1 free
  · split
    · simp [Apart]
    · simp [Apart]

/-- A link stands apart from the text after it. -/
theorem apart_after (quoting : Bool) (left : Option Char) (after : List Char) :
    Apart (separatorAfter quoting left after.head? ++ after).head? := by
  unfold separatorAfter
  split
  · simp [Apart]
  · split
    · next free =>
      split
      · simp [Apart]
      · exact isOpen_iff_apart.1 free
    · simp [Apart]

/-! ## Quotations -/

/-- Quoted lines end with a line break. -/
theorem getLast?_quotedLines (selection : List Char) :
    (quotedLines selection).getLast? = some '\n' := by
  have some_lines : linesOf selection ≠ [] := by
    intro none
    have size := length_linesOf selection
    rw [none] at size
    cases size
  rw [quotedLines, ← List.dropLast_append_getLast some_lines, List.flatMap_append,
    List.flatMap_singleton, ← List.append_assoc, List.getLast?_concat]

/-- A quotation ends with a line break. -/
theorem getLast?_quotation (quotes : selection ≠ []) (right : Option Char) :
    (quotation selection right).getLast? = some '\n' := by
  rw [quotation, if_neg quotes]
  split
  · rw [List.append_nil, getLast?_quotedLines]
  · simp

/-- Quoted are exactly the lines of the selection; before a word one more line break follows. -/
theorem quotation_eq (quotes : selection ≠ []) (right : Option Char) :
    quotation selection right
      = ((linesOf selection).flatMap fun line => '>' :: line ++ ['\n'])
          ++ if Apart right then [] else ['\n'] := by
  simp only [quotation, if_neg quotes, quotedLines, isOpen_iff_apart]

/-! ## The insertion -/

namespace InputField

variable (field : InputField) (id : UInt64) {selection : Option String}

/-- What follows the link in an insertion. -/
def tail (selection : Option String) : List Char :=
  let selected := (selection.getD "").toList
  separatorAfter (!selected.isEmpty) field.left? field.right? ++ quotation selected field.right?

/-- An insertion is a separator, the link and what follows it. -/
theorem added_eq (selection : Option String) :
    field.added id selection
      = separatorBefore (!(selection.getD "").toList.isEmpty) field.left? ++ referenceChars id
          ++ field.tail selection := by
  simp only [added, insertion, tail, List.append_assoc]

/-- The character at the place of an insertion is the first one after it. -/
theorem right?_eq_head? : field.right? = (field.text.toList.drop field.place).head? := by
  rw [right?, List.head?_drop]

/-- Without a selection at most one character follows the link. -/
theorem tail_of_unselected (unselected : selection.getD "" = "") :
    field.tail selection = separatorAfter false field.left? field.right? := by
  simp [tail, unselected, quotation]

/-- With a selection, a line break and the quotation follow the link. -/
theorem tail_of_selected (selected : selection.getD "" ≠ "") :
    field.tail selection = '\n' :: quotation (selection.getD "").toList field.right? := by
  simp [tail, selected, separatorAfter]

/-- What follows the link stands apart from the text after it. -/
theorem apart_tail (selection : Option String) :
    Apart (field.tail selection ++ field.text.toList.drop field.place).head? := by
  by_cases unselected : selection.getD "" = ""
  · rw [tail_of_unselected field unselected, right?_eq_head?]
    exact apart_after false field.left? _
  · rw [tail_of_selected field unselected]
    exact .inr (.inr rfl)

/-- Something follows the link before a word. -/
theorem tail_ne_nil (selection : Option String) (word : isOpen field.right? = false) :
    field.tail selection ≠ [] := by
  by_cases unselected : selection.getD "" = ""
  · rw [tail_of_unselected field unselected]
    simp [separatorAfter, word]
  · rw [tail_of_selected field unselected]
    exact List.cons_ne_nil _ _

/-- The cursor stands after the link, and at the end of the insertion unless a word follows. -/
theorem cursor_insertReference (selection : Option String) :
    (field.insertReference id selection).cursor + (if Apart field.right? then 0 else 1)
        = field.place + (field.added id selection).length ∧
      field.place + (field.added id selection).length
        ≤ (field.insertReference id selection).cursor + (field.tail selection).length := by
  simp only [insertReference, ← isOpen_iff_apart]
  cases word : isOpen field.right? with
  | true => simp
  | false =>
    have follows := List.length_pos_iff.2 (tail_ne_nil field selection word)
    have inside := congrArg List.length (added_eq field id selection)
    rw [List.length_append] at inside
    simp only [Bool.false_eq_true, if_false]
    omega

end InputField

/-- A link to a post is inserted at the cursor, or at the end if the cursor is beyond it, with the
selection quoted below it if there is one.

- The text before and after the place of the insertion stays as it is.
- Before the link there is the beginning of the text, a blank or a line break, and for that at most
  one character is inserted.  After it there is the end of the text, a blank or a line break, and
  without a selection at most one character is inserted for that.
- With a selection, the link is followed by a line break, and by the lines of the selection, each
  after a `>` and before a line break; an empty line follows before a word.  What stood after the
  cursor begins on a new line.
- The cursor stands at the end of the insertion, or before its last character if a word follows, but
  never before the end of the link or beyond the text.
- An empty selection is none. -/
theorem insertReference_stands_apart (field : InputField) (id : UInt64)
    (selection : Option String) :
    let place := min field.cursor field.text.length
    let before := field.text.toList.take place
    let after := field.text.toList.drop place
    let link := '>' :: '>' :: (toString id.toNat).toList
    let result := field.insertReference id selection
    (∃ lead tail : List Char,
      result.text.toList = before ++ (lead ++ link ++ tail) ++ after ∧
      (lead ∈ [[], [' '], ['\n']] ∧ Apart (before ++ lead).getLast?) ∧
      Apart (tail ++ after).head? ∧
      (selection.getD "" = "" → tail ∈ [[], [' '], ['\n']]) ∧
      (selection.getD "" ≠ "" → tail.getLast? = some '\n' ∧
        ∃ lines : List (List Char),
          ['\n'].intercalate lines = (selection.getD "").toList ∧
          (∀ line ∈ lines, '\n' ∉ line) ∧
          tail = '\n' :: (lines.flatMap fun line => '>' :: line ++ ['\n'])
            ++ if Apart field.text.toList[place]? then [] else ['\n']) ∧
      place + (lead ++ link).length ≤ result.cursor ∧
      result.cursor ≤ place + (lead ++ link ++ tail).length ∧
      result.cursor + (if Apart field.text.toList[place]? then 0 else 1)
        = place + (lead ++ link ++ tail).length) ∧
    result.cursor ≤ result.text.length ∧
    field.insertReference id (some "") = field.insertReference id none := by
  intro place before after link result
  have whole := InputField.insertReference_text field id selection
  have parts := InputField.added_eq field id selection
  obtain ⟨ends, follows⟩ := InputField.cursor_insertReference field id selection
  have cut := congrArg List.length parts
  rw [List.length_append] at cut
  refine ⟨⟨separatorBefore (!(selection.getD "").toList.isEmpty) field.left?,
    field.tail selection, ?_, ⟨separatorBefore_mem _ _, apart_before _ before⟩,
    field.apart_tail selection, fun unselected => ?_, fun selected => ?_, ?_, ?_, ?_⟩, ?_,
    field.insertReference_empty id⟩
  · rw [whole, parts]
    rfl
  · rw [InputField.tail_of_unselected field unselected]
    exact separatorAfter_mem _ _ _
  · have quotes : (selection.getD "").toList ≠ [] := by simpa using selected
    rw [InputField.tail_of_selected field selected]
    refine ⟨?_, linesOf (selection.getD "").toList, intercalate_linesOf _,
      fun line => notMem_of_mem_linesOf, ?_⟩
    · rw [← List.singleton_append, List.getLast?_append, getLast?_quotation quotes]
      rfl
    · rw [quotation_eq quotes]
      rfl
  · change field.place + (separatorBefore _ field.left? ++ referenceChars id).length
      ≤ (field.insertReference id selection).cursor
    omega
  · rw [parts] at ends
    exact Nat.le.intro ends
  · rw [parts] at ends
    exact ends
  · have size := congrArg List.length whole
    have inside : field.place ≤ field.text.toList.length := by
      rw [String.length_toList]
      exact Nat.min_le_right _ _
    rw [String.length_toList, List.length_append, List.length_append,
      List.length_take_of_le inside] at size
    change (field.insertReference id selection).cursor
      ≤ (field.insertReference id selection).text.length
    omega

-- A word on both sides and an empty line in the selection.
example : (InputField.mk "üb" 1).insertReference 4 (some "one\n")
    = ⟨"ü\n>>4\n>one\n>\n\nb", 13⟩ := by
  decide

end LiveThread
