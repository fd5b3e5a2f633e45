import LiveThread.Decimal.Binary64

/-!
# The fewest digits that read back

A double is shown by the decimal number with the fewest digits among those
that round to it; of two such numbers the nearer one counts, and of two equally
near ones the one with the even last digit.  All comparisons are exact, on
natural numbers.

Main results:

- Definition `Interval.holds`: which decimals round to a double.
- Definition `shortest`: the digits and the exponent of the first one.
-/

namespace LiveThread.Decimal

/-! ## The interval of a double -/

/-- The number `numerator / denominator` and how far from it a decimal may lie to be rounded to
it, all in units of `1 / denominator`. -/
structure Interval where
  numerator : Nat
  denominator : Nat
  below : Nat
  above : Nat
  closed : Bool
  deriving DecidableEq

/-- The interval of a positive double, in quarters of its last place. -/
def Binary64.interval (x : Binary64) : Interval :=
  let m := x.magnitude
  let scale := Nat.pow 2 (m.exponent - 2).toNat
  { numerator := 4 * m.significand * scale
    denominator := Nat.pow 2 (2 - m.exponent).toNat
    below := (if x.isLeastOfBinade then 1 else 2) * scale
    above := 2 * scale
    closed := m.significand % 2 = 0 }

/-- Whether `top / bottom` lies in the interval. -/
def Interval.holds (i : Interval) (top bottom : Nat) : Bool :=
  let point := top * i.denominator
  let low := (i.numerator - i.below) * bottom
  let high := (i.numerator + i.above) * bottom
  if i.closed then low ≤ point && point ≤ high else low < point && point < high

/-- The exponent of the leading digit of `numerator / denominator`. -/
def leadingExponent (numerator denominator : Nat) : Int :=
  if denominator ≤ numerator then ((digitsOf (numerator / denominator)).length : Int) - 1
  else -((digitsOf ((denominator - 1) / numerator)).length : Int)

/-! ## Candidates -/

/-- A decimal number `coefficient * 10 ^ exponent`. -/
structure Candidate where
  coefficient : Nat
  exponent : Int
  deriving DecidableEq

/-- The numerator of a candidate over `10 ^ (-exponent)`. -/
def Candidate.top (c : Candidate) : Nat :=
  c.coefficient * Nat.pow 10 c.exponent.toNat

/-- The denominator of a candidate. -/
def Candidate.bottom (c : Candidate) : Nat :=
  Nat.pow 10 (-c.exponent).toNat

/-- The neighbours of the number on the grid of multiples of `10 ^ exponent` that round to it:
the nearer one, on a tie the even one, if both do. -/
def Interval.candidate? (i : Interval) (exponent : Int) : Option Candidate :=
  let unitTop := Nat.pow 10 exponent.toNat * i.denominator
  let unitBottom := Nat.pow 10 (-exponent).toNat
  let scaled := i.numerator * unitBottom
  let lower : Candidate := ⟨scaled / unitTop, exponent⟩
  let upper : Candidate := ⟨scaled / unitTop + 1, exponent⟩
  let twice := 2 * (scaled % unitTop)
  let preferUpper := unitTop < twice || (twice = unitTop && lower.coefficient % 2 = 1)
  let lowerHolds := i.holds lower.top lower.bottom
  let upperHolds := i.holds upper.top upper.bottom
  if lowerHolds && upperHolds then some (if preferUpper then upper else lower)
  else if lowerHolds then some lower
  else if upperHolds then some upper
  else none

/-- The first grid with a candidate, from coarse to fine. -/
def Interval.firstCandidate (i : Interval) (exponents : List Int) : Option Candidate :=
  exponents.findSome? i.candidate?

/-! ## Digits and exponent -/

/-- A decimal number by its digits and the exponent of the first of them. -/
structure Scientific where
  digits : List Digit
  exponent : Int
  deriving DecidableEq

/-- The digits of a candidate, without the zeros at the end. -/
def Candidate.scientific (c : Candidate) : Scientific :=
  let digits := digitsOf c.coefficient
  { digits := (digits.reverse.dropWhile (· = 0)).reverse
    exponent := c.exponent + ((digits.length : Int) - 1) }

/-- The fewest digits of a positive double; seventeen always suffice. -/
def shortest (x : Binary64) : Scientific :=
  let i := x.interval
  let leading := leadingExponent i.numerator i.denominator
  let grids := (List.range 17).map fun n : Nat => leading - (n : Int)
  match i.firstCandidate grids with
  | some c => c.scientific
  | none => ⟨[0], 0⟩

end LiveThread.Decimal
