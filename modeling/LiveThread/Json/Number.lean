import LiveThread.Decimal.Shortest
import LiveThread.Json.Tree

/-!
# Numbers

A numeral denotes an integer of at least -2^63 and less than 2^64, or else a
finite double.  The digits of a double are first gathered in a significand of
64 bits: digits of the whole part that do not fit count only as powers of ten,
digits of the fraction from the first one on that does not fit are dropped.

A double is shown with the fewest digits that read back: positional, with at
least one digit after the point, when its leading digit stands between 10^-5
and 10^15, and with an exponent otherwise.

Main results:

- Definition `Number.ofNumeral?`: the number of a numeral, `none` when it is out of range.
- Definition `Number.numeral`: the numeral that shows a number.
-/

namespace LiveThread.Json

open Decimal

/-! ## Numbers -/

/-- Whether an integer is kept as one. -/
def IsWord (n : Int) : Prop :=
  -0x8000000000000000 ≤ n ∧ n < 0x10000000000000000

instance (n : Int) : Decidable (IsWord n) :=
  inferInstanceAs (Decidable (_ ∧ _))

/-- A number of a JSON value. -/
inductive Number where
  | integer (n : Int) (isWord : IsWord n)
  | double (x : Binary64)
  deriving DecidableEq

/-! ## The number of a numeral -/

/-- A significand of 64 bits and a power of ten. -/
structure Scaled where
  significand : Nat
  exponent : Int
  deriving DecidableEq

/-- The bound of significands. -/
def wordSize : Nat := 0x10000000000000000

/-- The longest run of leading digits of `whole` that fits, the digits left over counted in the
exponent. -/
def Scaled.ofWhole (whole : Nat) (exponent : Int) : Scaled :=
  if h : whole < wordSize then ⟨whole, exponent⟩
  else Scaled.ofWhole (whole / 10) (exponent + 1)
termination_by whole
decreasing_by simp only [wordSize] at h; omega

/-- Appends digits of the fraction until the first one that does not fit. -/
def Scaled.appendFraction (s : Scaled) : List Digit → Scaled
  | [] => s
  | d :: ds =>
    if 10 * s.significand + d.val < wordSize then
      Scaled.appendFraction ⟨10 * s.significand + d.val, s.exponent - 1⟩ ds
    else s

/-- The greatest exponent that can be written. -/
def exponentLimit : Nat := 0x7fffffff

/-- The double of a numeral.  With an exponent that cannot be kept the number is zero, unless the
exponent is positive and the significand is not zero: then the number is out of range. -/
def Numeral.double? (n : Numeral) : Option Binary64 :=
  let s := (Scaled.ofWhole n.whole 0).appendFraction n.fraction
  match n.exponent with
  | none => Binary64.scaled? n.negative s.significand.toUInt64 s.exponent
  | some e =>
    if e.natAbs ≤ exponentLimit then
      Binary64.scaled? n.negative s.significand.toUInt64 (s.exponent + e)
    else if s.significand ≠ 0 ∧ 0 < e then none
    else Binary64.scaled? n.negative 0 0

/-- The number of a numeral: an integer if it is spelled as one and in range, else a double. -/
def Number.ofNumeral? (n : Numeral) : Option Number :=
  match n.int? with
  | some i => if h : IsWord i then some (.integer i h) else n.double?.map .double
  | none => n.double?.map .double

/-! ## The numeral of a number -/

/-- The range of leading exponents that are shown positionally. -/
def isPositional (exponent : Int) : Bool :=
  -5 ≤ exponent && exponent ≤ 15

/-- The numeral of a decimal number given by its digits. -/
def scientificNumeral (negative : Bool) (s : Scientific) : Numeral :=
  if isPositional s.exponent then
    if 0 ≤ s.exponent then
      let count := s.exponent.toNat + 1
      let whole := s.digits.take count
      let zeros := List.replicate (count - whole.length) Digit.zero
      let fraction := s.digits.drop count
      ⟨negative, ofDigits (whole ++ zeros), if fraction = [] then [Digit.zero] else fraction,
        none⟩
    else ⟨negative, 0, List.replicate ((-s.exponent).toNat - 1) Digit.zero ++ s.digits, none⟩
  else ⟨negative, ofDigits (s.digits.take 1), s.digits.drop 1, some s.exponent⟩

/-- The numeral that shows a double. -/
def doubleNumeral (x : Binary64) : Numeral :=
  if x.magnitude.significand = 0 then ⟨x.isNegative, 0, [Digit.zero], none⟩
  else scientificNumeral x.isNegative (shortest x)

/-- The numeral that shows a number. -/
def Number.numeral : Number → Numeral
  | .integer n _ => Numeral.ofInt n
  | .double x => doubleNumeral x

end LiveThread.Json
