import LiveThread.Text.Printable

/-!
# Quoted text in diagnostics

Foreign text is shown between double quotes.  Five characters have a short
escape, the characters of the table in `LiveThread.Text.Printable` are written
as their number in braces, and every other character stands for itself.

Main results:

- Definition `quote`: the quoted text.
- Theorem `escape_of_printable`: a character with no reason to be escaped stands for itself.
-/

namespace LiveThread.Text

/-- The hexadecimal digits of a number, in lower case and without leading zeros. -/
def hexDigits (n : Nat) : List Char :=
  Nat.toDigits 16 n

/-- How one character is written inside the quotes. -/
def escape (c : Char) : List Char :=
  match c with
  | '\x00' => ['\\', '0']
  | '\t' => ['\\', 't']
  | '\r' => ['\\', 'r']
  | '\n' => ['\\', 'n']
  | '\\' => ['\\', '\\']
  | '"' => ['\\', '"']
  | c => if isNumbered c then ['\\', 'u', '\x7b'] ++ hexDigits c.toNat ++ ['\x7d'] else [c]

/-- The text between double quotes, with its characters escaped. -/
def quote (text : String) : String :=
  String.ofList ('"' :: text.toList.flatMap escape ++ ['"'])

/-- A character that is neither a quote, a backslash nor in the table stands for itself. -/
theorem escape_of_printable {c : Char} (quoteMark : c ≠ '"') (backslash : c ≠ '\\')
    (printable : isNumbered c = false) : escape c = [c] := by
  have control : ∀ d : Char, d.toNat < 0x20 → c ≠ d := fun d small same => by
    simp [same, isNumbered_of_lt_blank small] at printable
  unfold escape
  split
  · exact absurd rfl (control _ (by decide))
  · exact absurd rfl (control _ (by decide))
  · exact absurd rfl (control _ (by decide))
  · exact absurd rfl (control _ (by decide))
  · exact absurd rfl backslash
  · exact absurd rfl quoteMark
  · simp [printable]

end LiveThread.Text
