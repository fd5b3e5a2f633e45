import LiveThread.Json.Tree

/-!
# Reading trees

A strict reader of JSON texts.  Blanks are the space, the tabulator, the line
feed and the carriage return; no comma may stand before a closing bracket; no
control character may stand in a string literal; nothing but blanks may follow
the value.

Every reader takes the characters that are left and returns what it read
together with the characters after it.

Main results:

- Definition `Tree.parse?`: the tree of a text.
- Definition `readTree`: the reader of one value, bounded by a number of steps that the length of
  the text provides.
-/

namespace LiveThread.Json

open Decimal

/-! ## Blanks -/

/-- The characters that may stand between tokens. -/
def isBlank (c : Char) : Bool :=
  c = ' ' || c = '\t' || c = '\n' || c = '\r'

/-- The text after its leading blanks. -/
def skipBlanks (cs : List Char) : List Char :=
  cs.dropWhile isBlank

/-! ## Numerals -/

/-- The whole part of a numeral: a single zero, or digits that do not begin with zero. -/
def readWhole : List Char → Option (Nat × List Char)
  | '0' :: rest => some (0, rest)
  | cs =>
    match takeDigits cs with
    | ([], _) => none
    | (ds, rest) => some (ofDigits ds, rest)

/-- The digits after a decimal point, if there is one; at least one digit must follow it. -/
def readFraction : List Char → Option (List Digit × List Char)
  | '.' :: cs =>
    match takeDigits cs with
    | ([], _) => none
    | (ds, rest) => some (ds, rest)
  | cs => some ([], cs)

/-- At least one digit. -/
def readNat (cs : List Char) : Option (Nat × List Char) :=
  match takeDigits cs with
  | ([], _) => none
  | (ds, rest) => some (ofDigits ds, rest)

/-- An exponent with an optional sign, after its mark. -/
def readSignedNat : List Char → Option (Int × List Char)
  | '+' :: cs => (readNat cs).map fun (n, rest) => ((n : Int), rest)
  | '-' :: cs => (readNat cs).map fun (n, rest) => (-(n : Int), rest)
  | cs => (readNat cs).map fun (n, rest) => ((n : Int), rest)

/-- The exponent of a numeral, if there is one. -/
def readExponent : List Char → Option (Option Int × List Char)
  | 'e' :: cs => (readSignedNat cs).map fun (e, rest) => (some e, rest)
  | 'E' :: cs => (readSignedNat cs).map fun (e, rest) => (some e, rest)
  | cs => some (none, cs)

/-- A numeral after its sign. -/
def readUnsigned (negative : Bool) (cs : List Char) : Option (Numeral × List Char) := do
  let (whole, cs) ← readWhole cs
  let (fraction, cs) ← readFraction cs
  let (exponent, cs) ← readExponent cs
  return (⟨negative, whole, fraction, exponent⟩, cs)

/-- A numeral. -/
def readNumeral : List Char → Option (Numeral × List Char)
  | '-' :: cs => readUnsigned true cs
  | cs => readUnsigned false cs

/-! ## String literals -/

/-- The value of a hexadecimal digit. -/
def hexValue? (c : Char) : Option Nat :=
  if '0' ≤ c ∧ c ≤ '9' then some (c.toNat - 48)
  else if 'a' ≤ c ∧ c ≤ 'f' then some (c.toNat - 87)
  else if 'A' ≤ c ∧ c ≤ 'F' then some (c.toNat - 55)
  else none

/-- The sixteen bits of four hexadecimal digits. -/
def hexQuad? (a b c d : Char) : Option UInt16 := do
  let a ← hexValue? a
  let b ← hexValue? b
  let c ← hexValue? c
  let d ← hexValue? d
  return (((a * 16 + b) * 16 + c) * 16 + d).toUInt16

/-- The character of an escape of two characters; a slash may be escaped but is never so printed. -/
def shortEscape? (letter : Char) : Option Char :=
  if letter = '/' then some '/'
  else (shortEscapes.find? fun entry => entry.2 = letter).map Prod.fst

/-- The units of a string literal after its opening quote, up to and without the closing one. -/
def readUnits : List Char → Option (List StringUnit × List Char)
  | [] => none
  | '"' :: rest => some ([], rest)
  | '\\' :: 'u' :: a :: b :: c :: d :: rest => do
    let bits ← hexQuad? a b c d
    let (units, rest) ← readUnits rest
    return (.code bits :: units, rest)
  | '\\' :: letter :: rest => do
    let c ← shortEscape? letter
    let (units, rest) ← readUnits rest
    return (.plain c :: units, rest)
  | c :: rest =>
    if c.toNat < 0x20 ∨ c = '\\' then none
    else do
      let (units, rest) ← readUnits rest
      return (.plain c :: units, rest)

/-! ## Trees -/

mutual

/-- One value, after blanks. -/
def readTree : Nat → List Char → Option (Tree × List Char)
  | 0, _ => none
  | steps + 1, cs =>
    match skipBlanks cs with
    | 'n' :: 'u' :: 'l' :: 'l' :: rest => some (.null, rest)
    | 't' :: 'r' :: 'u' :: 'e' :: rest => some (.bool true, rest)
    | 'f' :: 'a' :: 'l' :: 's' :: 'e' :: rest => some (.bool false, rest)
    | '"' :: rest => (readUnits rest).map fun (units, rest) => (.string units, rest)
    | '[' :: rest =>
      match skipBlanks rest with
      | ']' :: rest => some (.array [], rest)
      | rest => (readItems steps rest).map fun (items, rest) => (.array items, rest)
    | '\x7b' :: rest =>
      match skipBlanks rest with
      | '\x7d' :: rest => some (.object [], rest)
      | rest => (readMembers steps rest).map fun (members, rest) => (.object members, rest)
    | rest => (readNumeral rest).map fun (n, rest) => (.number n, rest)

/-- At least one item, up to and with the closing bracket. -/
def readItems : Nat → List Char → Option (List Tree × List Char)
  | 0, _ => none
  | steps + 1, cs => do
    let (item, cs) ← readTree steps cs
    match skipBlanks cs with
    | ']' :: rest => return ([item], rest)
    | ',' :: rest =>
      let (items, rest) ← readItems steps rest
      return (item :: items, rest)
    | _ => none

/-- At least one member, up to and with the closing brace. -/
def readMembers : Nat → List Char → Option (List (List StringUnit × Tree) × List Char)
  | 0, _ => none
  | steps + 1, cs =>
    match skipBlanks cs with
    | '"' :: cs => do
      let (key, cs) ← readUnits cs
      match skipBlanks cs with
      | ':' :: cs =>
        let (tree, cs) ← readTree steps cs
        match skipBlanks cs with
        | '\x7d' :: rest => return ([(key, tree)], rest)
        | ',' :: rest =>
          let (members, rest) ← readMembers steps rest
          return ((key, tree) :: members, rest)
        | _ => none
      | _ => none
    | _ => none

end

/-- The tree of a text, if it is one value between blanks.  Between two values begun one after
the other a character is read, so twice the length of the text is enough steps. -/
def Tree.parse? (cs : List Char) : Option Tree :=
  match readTree (2 * cs.length + 2) cs with
  | some (tree, rest) => if rest.all isBlank then some tree else none
  | none => none

end LiveThread.Json
