import LiveThread.Decimal.Digits

/-!
# Trees of JSON texts

A JSON text is first read as a tree that keeps its numerals and string
literals as they are spelled.  Whether a numeral is in range, an escape names
a character or a nesting is too deep is asked afterwards, and only of the parts
that a schema looks at.

Main results:

- Definition `Tree`: the syntax of a JSON text, blanks forgotten.
- Theorem `text?_unitsOf`: a string literal for a text denotes it.
-/

namespace LiveThread.Json

open Decimal

/-! ## Numerals -/

/-- A numeral as spelled.  There is a decimal point exactly when `fraction` is not empty; the
spelling of the exponent is kept up to its value. -/
structure Numeral where
  negative : Bool
  whole : Nat
  fraction : List Digit
  exponent : Option Int
  deriving DecidableEq

/-- The numeral of an integer. -/
def Numeral.ofInt (n : Int) : Numeral :=
  { negative := n < 0, whole := n.natAbs, fraction := [], exponent := none }

/-- The integer that a numeral without fraction and exponent denotes; minus zero is not one. -/
def Numeral.int? (n : Numeral) : Option Int :=
  if n.fraction = [] ∧ n.exponent = none then
    if n.negative then
      if n.whole = 0 then none else some (-(n.whole : Int))
    else some n.whole
  else none

@[simp]
theorem Numeral.int?_ofInt (n : Int) : (Numeral.ofInt n).int? = some n := by
  by_cases h : n < 0
  · have nonzero : n.natAbs ≠ 0 := by omega
    have same : -(n.natAbs : Int) = n := by omega
    simp only [int?, ofInt, h, decide_true, and_self, if_true, nonzero, if_false, same]
  · have same : (n.natAbs : Int) = n := by omega
    simp only [int?, ofInt, h, decide_false, and_self, if_true, Bool.false_eq_true, if_false, same]

/-! ## String literals -/

/-- One unit of a string literal: a character, or sixteen bits given by four hexadecimal digits. -/
inductive StringUnit where
  | plain (c : Char)
  | code (bits : UInt16)
  deriving DecidableEq

/-- The characters that have an escape of two characters. -/
def shortEscapes : List (Char × Char) :=
  [('"', '"'), ('\\', '\\'), ('\x08', 'b'), ('\x0c', 'f'), ('\n', 'n'), ('\r', 'r'), ('\t', 't')]

/-- The unit that stands for a character: control characters without a short escape go by number. -/
def StringUnit.ofChar (c : Char) : StringUnit :=
  if c.toNat < 0x20 ∧ (shortEscapes.lookup c).isNone then .code c.toNat.toUInt16 else .plain c

/-- Whether sixteen bits are the first half of a pair. -/
def isHighHalf (bits : UInt16) : Bool :=
  0xd800 ≤ bits.toNat && bits.toNat ≤ 0xdbff

/-- Whether sixteen bits are the second half of a pair. -/
def isLowHalf (bits : UInt16) : Bool :=
  0xdc00 ≤ bits.toNat && bits.toNat ≤ 0xdfff

/-- The character that two halves make together. -/
def pairedChar (high low : UInt16) : Char :=
  Char.ofNat (0x10000 + (high.toNat - 0xd800) * 0x400 + (low.toNat - 0xdc00))

/-- The characters of a string literal.  A half without its partner denotes nothing. -/
def chars? : List StringUnit → Option (List Char)
  | [] => some []
  | .plain c :: rest => (chars? rest).map (c :: ·)
  | .code high :: .code low :: rest =>
    if isHighHalf high then
      if isLowHalf low then (chars? rest).map (pairedChar high low :: ·) else none
    else if isLowHalf high then none
    else (chars? (.code low :: rest)).map (Char.ofNat high.toNat :: ·)
  | .code bits :: rest =>
    if isHighHalf bits || isLowHalf bits then none
    else (chars? rest).map (Char.ofNat bits.toNat :: ·)

/-- The text of a string literal. -/
def text? (units : List StringUnit) : Option String :=
  (chars? units).map String.ofList

/-- The string literal of a text. -/
def unitsOf (text : String) : List StringUnit :=
  text.toList.map StringUnit.ofChar

/-- Sixteen bits below the halves denote a character alone, whatever follows. -/
theorem chars?_code_cons {bits : UInt16} (h : bits.toNat < 0xd800) (rest : List StringUnit) :
    chars? (.code bits :: rest) = (chars? rest).map (Char.ofNat bits.toNat :: ·) := by
  have high : isHighHalf bits = false := by simp [isHighHalf]; omega
  have low : isLowHalf bits = false := by simp [isLowHalf]; omega
  cases rest with
  | nil => simp [chars?, high, low]
  | cons u rest => cases u <;> simp [chars?, high, low]

theorem chars?_ofChar_cons (c : Char) (rest : List StringUnit) :
    chars? (StringUnit.ofChar c :: rest) = (chars? rest).map (c :: ·) := by
  unfold StringUnit.ofChar
  split
  · next h =>
    have small : c.toNat.toUInt16.toNat = c.toNat := by
      have : c.toNat < 0x20 := h.1
      simp [Nat.toUInt16, UInt16.toNat_ofNat']
      omega
    rw [chars?_code_cons (by omega), small, Char.ofNat_toNat]
  · simp [chars?]

/-- The literal of a text denotes that text. -/
@[simp]
theorem text?_unitsOf (text : String) : text? (unitsOf text) = some text := by
  have key : ∀ cs : List Char, chars? (cs.map StringUnit.ofChar) = some cs := by
    intro cs
    induction cs with
    | nil => rfl
    | cons c cs ih => simp [chars?_ofChar_cons, ih]
  simp [text?, unitsOf, key]

/-! ## Trees -/

/-- The tree of a JSON text. -/
inductive Tree where
  | null
  | bool (b : Bool)
  | number (n : Numeral)
  | string (units : List StringUnit)
  | array (items : List Tree)
  | object (members : List (List StringUnit × Tree))

/-- The tree of a text. -/
def Tree.ofString (text : String) : Tree :=
  .string (unitsOf text)

/-- The tree of an integer. -/
def Tree.ofInt (n : Int) : Tree :=
  .number (Numeral.ofInt n)

/-- The tree of a record with the given members, in this order. -/
def Tree.record (members : List (String × Tree)) : Tree :=
  .object (members.map fun (name, tree) => (unitsOf name, tree))

end LiveThread.Json
