import LiveThread.Json.Tree

/-!
# Printing trees

A tree is printed without blanks, its members in the order they have.  Quotes,
backslashes and five control characters have short escapes; sixteen-bit units
are written with four hexadecimal digits in lower case; every other character
is written as it is.  An exponent always carries its sign.

Main results:

- Definition `Tree.print`: the characters of a tree.
-/

namespace LiveThread.Json

open Decimal

/-! ## Leaves -/

/-- The character of a hexadecimal digit, in lower case. -/
def hexChar (n : Nat) : Char :=
  if n < 10 then Char.ofNat (48 + n) else Char.ofNat (87 + n)

/-- The four hexadecimal digits of sixteen bits. -/
def hexQuad (bits : UInt16) : List Char :=
  [hexChar (bits.toNat / 4096), hexChar (bits.toNat / 256 % 16), hexChar (bits.toNat / 16 % 16),
    hexChar (bits.toNat % 16)]

/-- One unit of a string literal. -/
def StringUnit.print : StringUnit → List Char
  | .plain c =>
    match shortEscapes.lookup c with
    | some letter => ['\\', letter]
    | none => [c]
  | .code bits => '\\' :: 'u' :: hexQuad bits

/-- A string literal with its quotes. -/
def printString (units : List StringUnit) : List Char :=
  '"' :: units.flatMap StringUnit.print ++ ['"']

/-- A natural number in decimal. -/
def printNat (n : Nat) : List Char :=
  digitChars (digitsOf n)

/-- The exponent of a numeral, with its sign. -/
def printExponent (e : Int) : List Char :=
  'e' :: (if e < 0 then '-' else '+') :: printNat e.natAbs

/-- A numeral. -/
def Numeral.print (n : Numeral) : List Char :=
  (if n.negative then ['-'] else []) ++ printNat n.whole
    ++ (if n.fraction = [] then [] else '.' :: digitChars n.fraction)
    ++ (match n.exponent with
        | some e => printExponent e
        | none => [])

/-! ## Trees -/

mutual

/-- The characters of a tree. -/
def Tree.print : Tree → List Char
  | .null => ['n', 'u', 'l', 'l']
  | .bool true => ['t', 'r', 'u', 'e']
  | .bool false => ['f', 'a', 'l', 's', 'e']
  | .number n => n.print
  | .string units => printString units
  | .array [] => ['[', ']']
  | .array (item :: items) => '[' :: (item.print ++ printItems items)
  | .object [] => ['\x7b', '\x7d']
  | .object ((key, tree) :: members) =>
    '\x7b' :: (printString key ++ ':' :: (tree.print ++ printMembers members))

/-- The further items of an array and its closing bracket. -/
def printItems : List Tree → List Char
  | [] => [']']
  | item :: items => ',' :: (item.print ++ printItems items)

/-- The further members of an object and its closing brace. -/
def printMembers : List (List StringUnit × Tree) → List Char
  | [] => ['\x7d']
  | (key, tree) :: members =>
    ',' :: (printString key ++ ':' :: (tree.print ++ printMembers members))

end

/-- The text of a tree. -/
def Tree.toText (tree : Tree) : String :=
  String.ofList tree.print

end LiveThread.Json
