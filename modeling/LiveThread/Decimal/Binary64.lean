import LiveThread.Decimal.Digits

/-!
# Finite double-precision numbers

A finite double is kept as its bit pattern.  It is read as a significand times
a power of two, and built from a decimal significand and a power of ten.

Main results:

- Definition `Binary64.magnitude`: the significand and the power of two.
- Definition `Binary64.scaled?`: a significand scaled by a power of ten, in steps of at most 308,
  `none` when it leaves the finite range.
-/

namespace LiveThread.Decimal

/-! ## Bit patterns -/

/-- The eleven exponent bits of a bit pattern. -/
def exponentField (bits : UInt64) : Nat :=
  (bits.toNat / 0x10000000000000) % 2048

/-- A double that is neither infinite nor undefined. -/
structure Binary64 where
  bits : UInt64
  finite : exponentField bits < 2047
  deriving DecidableEq

/-- The double with these bits, if they are those of a finite one. -/
def Binary64.ofBits? (bits : UInt64) : Option Binary64 :=
  if h : exponentField bits < 2047 then some ⟨bits, h⟩ else none

/-- The sign bit. -/
def Binary64.isNegative (x : Binary64) : Bool :=
  x.bits.toNat / 0x8000000000000000 = 1

/-- The fraction bits. -/
def Binary64.fractionField (x : Binary64) : Nat :=
  x.bits.toNat % 0x10000000000000

/-- The magnitude of a double is `significand * 2 ^ exponent`. -/
structure Magnitude where
  significand : Nat
  exponent : Int
  deriving DecidableEq

/-- The significand and exponent of a double; subnormal numbers have no hidden bit. -/
def Binary64.magnitude (x : Binary64) : Magnitude :=
  if exponentField x.bits = 0 then ⟨x.fractionField, -1074⟩
  else ⟨0x10000000000000 + x.fractionField, (exponentField x.bits : Int) - 1075⟩

/-- Just above a power of two the doubles below lie half as far apart as those above. -/
def Binary64.isLeastOfBinade (x : Binary64) : Bool :=
  x.fractionField = 0 && 1 < exponentField x.bits

/-! ## Decimal scaling -/

/-- The power of ten with exponent at most 308, rounded to nearest. -/
def powerOfTen (exponent : Nat) : Float :=
  OfScientific.ofScientific 1 false exponent

/-- Multiplies by a power of ten of at most 308 either way, rounding once; `none` on overflow. -/
def scaleOnce (f : Float) (exponent : Int) : Option Float :=
  if 0 ≤ exponent then
    let g := f * powerOfTen exponent.toNat
    if g.isInf then none else some g
  else some (f / powerOfTen (-exponent).toNat)

/-- Multiplies by a power of ten.  A negative exponent is worked off in steps of 308 until it is
small or nothing of the number is left; a large positive one overflows unless the number is zero. -/
def scale (f : Float) (exponent : Int) : Option Float :=
  if exponent.natAbs ≤ 308 then scaleOnce f exponent
  else if f == 0 then some f
  else if h : 0 ≤ exponent then none
  else scale (f / powerOfTen 308) (exponent + 308)
termination_by (-exponent).toNat
decreasing_by omega

/-- The double for `significand * 10 ^ exponent` with the given sign: the significand is rounded
to a double first and scaled afterwards. -/
def Binary64.scaled? (negative : Bool) (significand : UInt64) (exponent : Int) : Option Binary64 :=
  match scale significand.toFloat exponent with
  | some f => Binary64.ofBits? (if negative then -f else f).toBits
  | none => none

end LiveThread.Decimal
