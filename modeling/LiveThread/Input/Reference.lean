import LiveThread.Text.Lines

/-!
# Quoting other posts

Clicking on a post puts a link to it into the input, and the selected text
below it, each line quoted.  Around the link there is always a blank, a line
break or an end of the text, so that it never grows together with a word.

Main results:

- Definition `InputField`: a text and the place of the cursor in it.
- Definition `InputField.insertReference`: the field after the insertion.
- Theorem `InputField.insertReference_text`: nothing of the text is changed or lost.
-/

namespace LiveThread

open Text

/-- The input of a post: its text, and how many characters stand before the cursor. -/
structure InputField where
  text : String
  cursor : Nat
  deriving DecidableEq

/-! ## The inserted text -/

/-- The character before a place in a text. -/
def leftNeighbour? (cs : List Char) (place : Nat) : Option Char :=
  (cs.take place).getLast?

/-- The link to a post. -/
def referenceChars (id : UInt64) : List Char :=
  '>' :: '>' :: (toString id.toNat).toList

/-- Whether a link between these neighbours begins a line. -/
def beginsLine : Option Char → Bool
  | none => true
  | some c => c = '\n'

/-- Whether a link may stand directly before this neighbour. -/
def isOpen : Option Char → Bool
  | none => true
  | some c => c = ' ' || c = '\n'

/-- What separates the link from the text before it; a quotation begins on a line of its own. -/
def separatorBefore (quoting : Bool) (left : Option Char) : List Char :=
  if isOpen left then [] else if quoting then ['\n'] else [' ']

/-- What separates the link from the text after it. -/
def separatorAfter (quoting : Bool) (left right : Option Char) : List Char :=
  if quoting then ['\n']
  else if isOpen right then
    if beginsLine left then ['\n'] else []
  else [' ']

/-- The quoted lines of a selection. -/
def quotedLines (selection : List Char) : List Char :=
  (linesOf selection).flatMap fun line => '>' :: line ++ ['\n']

/-- The quoted selection; a word after it is pushed down by one more line. -/
def quotation (selection : List Char) (right : Option Char) : List Char :=
  if selection = [] then []
  else quotedLines selection ++ (if isOpen right then [] else ['\n'])

/-- What is inserted between two neighbours. -/
def insertion (id : UInt64) (selection : List Char) (left right : Option Char) : List Char :=
  let quoting := !selection.isEmpty
  separatorBefore quoting left ++ referenceChars id ++ separatorAfter quoting left right
    ++ quotation selection right

/-! ## The insertion -/

namespace InputField

/-- Where an insertion takes place: at the cursor, or at the end if the cursor is beyond it. -/
def place (field : InputField) : Nat :=
  min field.cursor field.text.length

/-- The character before the place of an insertion. -/
def left? (field : InputField) : Option Char :=
  leftNeighbour? field.text.toList field.place

/-- The character after the place of an insertion. -/
def right? (field : InputField) : Option Char :=
  field.text.toList[field.place]?

/-- What a link to a post and the selection, if there is one, add to the text. -/
def added (field : InputField) (id : UInt64) (selection : Option String) : List Char :=
  insertion id (selection.getD "").toList field.left? field.right?

/-- Inserts a link to a post and the selection, if there is one.  The cursor then stands after
what was inserted, but before its last character when a word follows. -/
def insertReference (field : InputField) (id : UInt64) (selection : Option String) : InputField :=
  let added := field.added id selection
  { text := String.ofList
      (field.text.toList.take field.place ++ added ++ field.text.toList.drop field.place)
    cursor := field.place + added.length - (if isOpen field.right? then 0 else 1) }

/-- Nothing of the text is changed or lost. -/
theorem insertReference_text (field : InputField) (id : UInt64) (selection : Option String) :
    (field.insertReference id selection).text.toList
      = field.text.toList.take field.place ++ field.added id selection
        ++ field.text.toList.drop field.place := by
  simp [insertReference]

/-- An empty selection is none. -/
theorem insertReference_empty (field : InputField) (id : UInt64) :
    field.insertReference id (some "") = field.insertReference id none :=
  rfl

end InputField

end LiveThread
