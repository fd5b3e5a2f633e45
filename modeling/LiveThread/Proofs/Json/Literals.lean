import Mathlib
import LiveThread.Json.Extent
import LiveThread.Json.Printer

/-!
# Spellings of literals

How numerals and string literals may be spelled, said without the reader.  A
numeral has no leading zero; its exponent may have a sign and any number of
digits.  In a string literal every character may be escaped, and control
characters have to be.  A literal is read exactly if it is spelled so, but a
numeral only where what follows does not go on with it.

Main results:

- Definitions `Numeral.Spelled` and `LiteralSpelled`: how the literals are spelled.
- Theorems `readNumeral_of_spelled` and `spelled_of_readNumeral`: numerals are read as they are
  spelled.
- Theorems `readUnits_of_spelled` and `spelled_of_readUnits`: so are string literals.
- Theorems `Numeral.spelled_print` and `literalSpelled_print`: printed literals are spelled well.
-/

namespace LiveThread.Json

open Decimal

/-! ## Digits -/

/-- A positive number has no leading zero. -/
theorem head?_digitsOf_ne {n : Nat} (h : n ≠ 0) : (digitsOf n).head? ≠ some 0 := by
  fun_induction digitsOf n with
  | case1 n small =>
    intro zero
    exact h (Fin.val_eq_of_eq (Option.some.inj zero))
  | case2 n large ih =>
    have nonzero := ih (by omega)
    cases digits : digitsOf (n / 10) with
    | nil => exact absurd digits (digitsOf_ne_nil _)
    | cons d ds => simpa [digits] using nonzero

/-- Digits without a leading zero denote a positive number. -/
theorem ofDigits_pos {ds : List Digit} (filled : ds ≠ []) (nonzero : ds.head? ≠ some 0) :
    0 < ofDigits ds := by
  induction ds using List.reverseRecOn with
  | nil => exact absurd rfl filled
  | append_singleton ds d ih =>
    rw [ofDigits_append_singleton]
    cases ds with
    | nil =>
      have positive : d.val ≠ 0 := fun zero => nonzero (congrArg some (Fin.ext zero))
      simp [ofDigits]
      omega
    | cons first ds =>
      have := ih (by simp) (by simpa using nonzero)
      omega

/-- Digits without a leading zero are those of the number that they denote. -/
theorem digitsOf_ofDigits {ds : List Digit} (filled : ds ≠ []) (nonzero : ds.head? ≠ some 0) :
    digitsOf (ofDigits ds) = ds := by
  induction ds using List.reverseRecOn with
  | nil => exact absurd rfl filled
  | append_singleton ds d ih =>
    rw [ofDigits_append_singleton, digitsOf]
    have last : d.val < 10 := d.isLt
    cases ds with
    | nil => simp [ofDigits]
    | cons first ds =>
      have front : (first :: ds).head? ≠ some 0 := by simpa using nonzero
      have positive := ofDigits_pos (List.cons_ne_nil first ds) front
      have large : ¬ 10 * ofDigits (first :: ds) + d.val < 10 := by omega
      have quotient : (10 * ofDigits (first :: ds) + d.val) / 10 = ofDigits (first :: ds) := by
        omega
      have remainder : (10 * ofDigits (first :: ds) + d.val) % 10 = d.val := by omega
      rw [dif_neg large, quotient, ih (by simp) front]
      simp [remainder]

/-- No digit but zero has the character of zero. -/
theorem Digit.toChar_ne {d : Digit} (h : d ≠ 0) : d.toChar ≠ '0' := by
  intro same
  have : Digit.ofChar? d.toChar = Digit.ofChar? '0' := congrArg Digit.ofChar? same
  rw [Digit.ofChar?_toChar] at this
  exact h (Option.some.inj this)

/-- The digit of a character has that character. -/
theorem Digit.toChar_of_ofChar? {c : Char} {d : Digit} (h : Digit.ofChar? c = some d) :
    d.toChar = c := by
  unfold Digit.ofChar? at h
  split at h
  · next range =>
    cases h
    have same : 48 + (c.toNat - 48) = c.toNat := by omega
    simp only [Digit.toChar, same, Char.ofNat_toNat]
  · cases h

/-- A text is the digits at its front and what follows them. -/
theorem eq_takeDigits (cs : List Char) : cs = digitChars (takeDigits cs).1 ++ (takeDigits cs).2 := by
  fun_induction takeDigits cs with
  | case1 => rfl
  | case2 c cs d digit ds rest taken ih =>
    simp only [taken] at ih
    simp only [digitChars, List.map_cons, List.cons_append, Digit.toChar_of_ofChar? digit]
    exact congrArg (c :: ·) ih
  | case3 c cs none => rfl

/-- A run of digits that was taken stood at the front. -/
theorem eq_of_takeDigits {cs rest : List Char} {ds : List Digit} (h : takeDigits cs = (ds, rest)) :
    cs = digitChars ds ++ rest := by
  have split := eq_takeDigits cs
  rwa [h] at split

/-! ## Parts of numerals -/

/-- A text that does not go on with a numeral. -/
def NumeralEnd (cs : List Char) : Prop :=
  ∀ c ∈ cs.head?, Digit.ofChar? c = none ∧ c ≠ '.' ∧ c ≠ 'e' ∧ c ≠ 'E'

theorem numeralEnd_nil : NumeralEnd [] := by
  simp [NumeralEnd]

/-- A mark that is no part of a numeral ends it. -/
theorem numeralEnd_cons {c : Char}
    (h : Digit.ofChar? c = none ∧ c ≠ '.' ∧ c ≠ 'e' ∧ c ≠ 'E') (cs : List Char) :
    NumeralEnd (c :: cs) := by
  intro first mem
  obtain rfl : first = c := (Option.some.inj mem).symm
  exact h

theorem NumeralEnd.noDigitFirst {cs : List Char} (h : NumeralEnd cs) : NoDigitFirst cs :=
  fun c first => (h c first).1

/-- At least one digit is read as the number that they denote. -/
theorem readNat_digitChars {ds : List Digit} (filled : ds ≠ []) {rest : List Char}
    (h : NoDigitFirst rest) : readNat (digitChars ds ++ rest) = some (ofDigits ds, rest) := by
  unfold readNat
  rw [takeDigits_append _ h]
  cases ds with
  | nil => exact absurd rfl filled
  | cons d ds => rfl

theorem eq_of_readNat {cs rest : List Char} {n : Nat} (h : readNat cs = some (n, rest)) :
    ∃ ds : List Digit, ds ≠ [] ∧ n = ofDigits ds ∧ cs = digitChars ds ++ rest := by
  unfold readNat at h
  split at h
  · cases h
  · next ds tail filled taken =>
    cases h
    exact ⟨ds, filled, rfl, eq_of_takeDigits taken⟩

theorem printNat_zero : printNat 0 = ['0'] := by
  simp [printNat, digitsOf, digitChars, Digit.toChar]

/-- A number is printed with a digit first. -/
theorem printNat_eq_cons (n : Nat) :
    ∃ (d : Digit) (cs : List Char), printNat n = d.toChar :: cs := by
  cases digits : digitsOf n with
  | nil => exact absurd digits (digitsOf_ne_nil n)
  | cons d ds => exact ⟨d, digitChars ds, by simp [printNat, digits, digitChars]⟩

/-- The whole part of a numeral is read as it is printed. -/
theorem readWhole_printNat (n : Nat) {rest : List Char} (h : NoDigitFirst rest) :
    readWhole (printNat n ++ rest) = some (n, rest) := by
  by_cases zero : n = 0
  · subst zero
    simp [printNat_zero, readWhole]
  · have whole := readNat_digitChars (digitsOf_ne_nil n) h
    rw [ofDigits_digitsOf] at whole
    cases digits : digitsOf n with
    | nil => exact absurd digits (digitsOf_ne_nil n)
    | cons d ds =>
      have nonzero : d.toChar ≠ '0' := by
        apply Digit.toChar_ne
        intro e
        exact head?_digitsOf_ne zero (by rw [digits, e]; rfl)
      have spelled : printNat n ++ rest = d.toChar :: (digitChars ds ++ rest) := by
        simp [printNat, digits, digitChars]
      rw [show digitChars (digitsOf n) ++ rest = printNat n ++ rest from rfl, spelled] at whole
      rw [spelled, ← whole, readNat, readWhole.eq_def]
      split
      · next eq => exact absurd (List.cons.inj eq).1 nonzero
      · rfl

theorem eq_of_readWhole {cs rest : List Char} {n : Nat} (h : readWhole cs = some (n, rest)) :
    cs = printNat n ++ rest := by
  unfold readWhole at h
  split at h
  · cases h
    rw [printNat_zero]
    rfl
  · next other =>
    split at h
    · cases h
    · next ds tail filled taken =>
      cases h
      have front := eq_of_takeDigits taken
      cases ds with
      | nil => exact absurd rfl filled
      | cons d ds =>
        have nonzero : (d :: ds).head? ≠ some 0 := by
          intro zero
          obtain rfl : d = 0 := Option.some.inj zero
          exact other _ front
        rw [printNat, digitsOf_ofDigits (List.cons_ne_nil d ds) nonzero]
        exact front

/-- The fraction of a numeral as it is printed. -/
def printFraction (fraction : List Digit) : List Char :=
  if fraction = [] then [] else '.' :: digitChars fraction

theorem readFraction_printFraction (fraction : List Digit) {rest : List Char}
    (digits : NoDigitFirst rest) (point : ∀ c ∈ rest.head?, c ≠ '.') :
    readFraction (printFraction fraction ++ rest) = some (fraction, rest) := by
  unfold printFraction
  split
  · next none =>
    subst none
    rw [List.nil_append, readFraction.eq_def]
    split
    · exact absurd rfl (point _ rfl)
    · rfl
  · next some =>
    rw [List.cons_append, readFraction, takeDigits_append _ digits]
    cases fraction with
    | nil => exact absurd rfl some
    | cons d ds => rfl

theorem eq_of_readFraction {cs rest : List Char} {fraction : List Digit}
    (h : readFraction cs = some (fraction, rest)) : cs = printFraction fraction ++ rest := by
  unfold readFraction at h
  split at h
  · split at h
    · cases h
    · next filled taken =>
      cases h
      have front := eq_of_takeDigits taken
      rw [printFraction, if_neg filled, List.cons_append, front]
  · cases h
    rfl

/-- How an exponent is spelled: after its mark and perhaps a sign, in any number of digits. -/
def ExponentSpelled : Option Int → List Char → Prop
  | none, cs => cs = []
  | some e, cs => ∃ (mark : Char) (ds : List Digit), (mark = 'e' ∨ mark = 'E') ∧ ds ≠ [] ∧
      (e = ofDigits ds ∧ (cs = mark :: digitChars ds ∨ cs = mark :: '+' :: digitChars ds) ∨
        e = -(ofDigits ds : Int) ∧ cs = mark :: '-' :: digitChars ds)

/-- The digits of an exponent without a sign are not taken for one. -/
theorem readSignedNat_digitChars {ds : List Digit} (filled : ds ≠ []) {rest : List Char}
    (h : NoDigitFirst rest) :
    readSignedNat (digitChars ds ++ rest) = some ((ofDigits ds : Int), rest) := by
  have digits := readNat_digitChars filled h
  cases ds with
  | nil => exact absurd rfl filled
  | cons d ds =>
    have all : ∀ d : Digit, d.toChar ≠ '+' ∧ d.toChar ≠ '-' := by decide
    obtain ⟨plus, minus⟩ := all d
    simp only [digitChars, List.map_cons, List.cons_append] at digits ⊢
    rw [readSignedNat, digits]
    · rfl
    · rintro _ same
      exact plus (List.cons.inj same).1
    · rintro _ same
      exact minus (List.cons.inj same).1

/-- An exponent is read as it is spelled. -/
theorem readExponent_of_spelled {exponent : Option Int} {cs rest : List Char}
    (spelled : ExponentSpelled exponent cs) (h : NumeralEnd rest) :
    readExponent (cs ++ rest) = some (exponent, rest) := by
  cases exponent with
  | none =>
    rw [ExponentSpelled] at spelled
    rw [spelled, List.nil_append, readExponent.eq_def]
    split
    · exact absurd rfl (h _ rfl).2.2.1
    · exact absurd rfl (h _ rfl).2.2.2
    · rfl
  | some e =>
    obtain ⟨mark, ds, marked, filled, value⟩ := spelled
    have plain := readSignedNat_digitChars filled h.noDigitFirst
    have digits := readNat_digitChars filled h.noDigitFirst
    rcases value with ⟨rfl, rfl | rfl⟩ | ⟨rfl, rfl⟩
    · rcases marked with rfl | rfl <;>
        simp only [List.cons_append, readExponent, plain, Option.map_some]
    all_goals
      rcases marked with rfl | rfl <;>
        simp only [List.cons_append, readExponent, readSignedNat, digits, Option.map_some]

theorem spelled_of_readSignedNat {cs rest : List Char} {e : Int} {mark : Char}
    (marked : mark = 'e' ∨ mark = 'E') (h : readSignedNat cs = some (e, rest)) :
    ∃ tail, ExponentSpelled (some e) (mark :: tail) ∧ cs = tail ++ rest := by
  unfold readSignedNat at h
  split at h
  all_goals
    obtain ⟨⟨n, after⟩, read, same⟩ := Option.map_eq_some_iff.1 h
    obtain ⟨ds, filled, rfl, rfl⟩ := eq_of_readNat read
    cases same
  · exact ⟨'+' :: digitChars ds, ⟨mark, ds, marked, filled, .inl ⟨rfl, .inr rfl⟩⟩, rfl⟩
  · exact ⟨'-' :: digitChars ds, ⟨mark, ds, marked, filled, .inr ⟨rfl, rfl⟩⟩, rfl⟩
  · exact ⟨digitChars ds, ⟨mark, ds, marked, filled, .inl ⟨rfl, .inl rfl⟩⟩, rfl⟩

theorem spelled_of_readExponent {cs rest : List Char} {exponent : Option Int}
    (h : readExponent cs = some (exponent, rest)) :
    ∃ value, ExponentSpelled exponent value ∧ cs = value ++ rest := by
  unfold readExponent at h
  split at h
  · obtain ⟨⟨e, after⟩, read, same⟩ := Option.map_eq_some_iff.1 h
    cases same
    obtain ⟨tail, spelled, rfl⟩ := spelled_of_readSignedNat (.inl rfl) read
    exact ⟨_, spelled, rfl⟩
  · obtain ⟨⟨e, after⟩, read, same⟩ := Option.map_eq_some_iff.1 h
    cases same
    obtain ⟨tail, spelled, rfl⟩ := spelled_of_readSignedNat (.inr rfl) read
    exact ⟨_, spelled, rfl⟩
  · cases h
    exact ⟨[], rfl, rfl⟩

/-! ## Numerals -/

/-- How a numeral is spelled: its whole part has no leading zero. -/
def Numeral.Spelled (n : Numeral) (cs : List Char) : Prop :=
  ∃ exponent, ExponentSpelled n.exponent exponent ∧
    cs = (if n.negative then ['-'] else [])
      ++ (printNat n.whole ++ (printFraction n.fraction ++ exponent))

/-- What follows the whole part or the fraction of a numeral goes on with neither. -/
theorem noDigitFirst_exponent {exponent : Option Int} {cs rest : List Char}
    (spelled : ExponentSpelled exponent cs) (h : NumeralEnd rest) :
    ∀ c ∈ (cs ++ rest).head?, Digit.ofChar? c = none ∧ c ≠ '.' := by
  cases exponent with
  | none =>
    rw [ExponentSpelled] at spelled
    intro c first
    rw [spelled] at first
    exact ⟨(h c first).1, (h c first).2.1⟩
  | some e =>
    obtain ⟨mark, ds, marked, -, value⟩ := spelled
    have first : (cs ++ rest).head? = some mark := by
      rcases value with ⟨-, rfl | rfl⟩ | ⟨-, rfl⟩ <;> rfl
    rw [first]
    rintro c ⟨⟩
    rcases marked with rfl | rfl <;> decide

theorem noDigitFirst_fraction (fraction : List Digit) {rest : List Char} (h : NoDigitFirst rest) :
    NoDigitFirst (printFraction fraction ++ rest) := by
  unfold printFraction
  split
  · exact h
  · intro c first
    obtain rfl : c = '.' := (Option.some.inj first).symm
    decide

theorem readUnsigned_of_spelled (negative : Bool) (whole : Nat) (fraction : List Digit)
    {exponent : Option Int} {cs rest : List Char} (spelled : ExponentSpelled exponent cs)
    (h : NumeralEnd rest) :
    readUnsigned negative (printNat whole ++ (printFraction fraction ++ (cs ++ rest)))
      = some (⟨negative, whole, fraction, exponent⟩, rest) := by
  have follows := noDigitFirst_exponent spelled h
  have noDigit : NoDigitFirst (cs ++ rest) := fun c first => (follows c first).1
  simp only [readUnsigned, Option.bind_eq_bind,
    readWhole_printNat whole (noDigitFirst_fraction fraction noDigit), Option.bind_some,
    readFraction_printFraction fraction noDigit fun c first => (follows c first).2,
    readExponent_of_spelled spelled h, Option.pure_def]

/-- A numeral begins with a sign or a digit. -/
theorem Numeral.Spelled.eq_cons {n : Numeral} {cs : List Char} (h : n.Spelled cs) :
    ∃ c tail, cs = c :: tail ∧ (c = '-' ∨ ∃ d : Digit, c = d.toChar) := by
  obtain ⟨exponent, -, rfl⟩ := h
  obtain ⟨d, tail, first⟩ := printNat_eq_cons n.whole
  rw [first]
  cases n.negative with
  | true => exact ⟨'-', _, rfl, .inl rfl⟩
  | false => exact ⟨d.toChar, _, rfl, .inr ⟨d, rfl⟩⟩

/-- A numeral is read as it is spelled. -/
theorem readNumeral_of_spelled {n : Numeral} {cs rest : List Char} (spelled : n.Spelled cs)
    (h : NumeralEnd rest) : readNumeral (cs ++ rest) = some (n, rest) := by
  obtain ⟨negative, whole, fraction, exponent⟩ := n
  obtain ⟨tail, spelled, rfl⟩ := spelled
  have unsigned := readUnsigned_of_spelled negative whole fraction spelled h
  cases negative with
  | true =>
    simp only [if_true, List.cons_append, List.nil_append, List.append_assoc, readNumeral, unsigned]
  | false =>
    simp only [Bool.false_eq_true, if_false, List.nil_append, List.append_assoc]
    rw [readNumeral.eq_def]
    split
    · next eq =>
      obtain ⟨d, cs, first⟩ := printNat_eq_cons whole
      rw [first] at eq
      have minus : d.toChar = '-' := (List.cons.inj eq).1
      have : Digit.ofChar? d.toChar = none := by rw [minus]; decide
      rw [Digit.ofChar?_toChar] at this
      cases this
    · exact unsigned

theorem spelled_of_readUnsigned {cs rest : List Char} {negative : Bool} {n : Numeral}
    (h : readUnsigned negative cs = some (n, rest)) :
    n.negative = negative ∧ ∃ exponent, ExponentSpelled n.exponent exponent ∧
      cs = printNat n.whole ++ (printFraction n.fraction ++ (exponent ++ rest)) := by
  simp only [readUnsigned, Option.bind_eq_bind, Option.bind_eq_some_iff, Option.pure_def,
    Option.some.injEq, Prod.mk.injEq] at h
  obtain ⟨⟨whole, a⟩, first, ⟨fraction, b⟩, second, ⟨exponent, c⟩, third, rfl, rfl⟩ := h
  obtain ⟨value, spelled, rfl⟩ := spelled_of_readExponent third
  have front := eq_of_readFraction second
  simp only at front
  exact ⟨rfl, value, spelled, by rw [eq_of_readWhole first, front]⟩

/-- What is read as a numeral is spelled so. -/
theorem spelled_of_readNumeral {cs rest : List Char} {n : Numeral}
    (h : readNumeral cs = some (n, rest)) : ∃ value, n.Spelled value ∧ cs = value ++ rest := by
  unfold readNumeral at h
  split at h
  all_goals
    obtain ⟨sign, exponent, spelled, rfl⟩ := spelled_of_readUnsigned h
    refine ⟨_, ⟨exponent, spelled, rfl⟩, ?_⟩
    simp [sign]

/-- A printed exponent is spelled well. -/
theorem exponentSpelled_print (e : Int) : ExponentSpelled (some e) (printExponent e) := by
  refine ⟨'e', digitsOf e.natAbs, .inl rfl, digitsOf_ne_nil _, ?_⟩
  rw [ofDigits_digitsOf]
  by_cases negative : e < 0
  · exact .inr ⟨by omega, by simp only [printExponent, negative, if_true, printNat]⟩
  · exact .inl ⟨by omega, .inr (by simp only [printExponent, negative, if_false, printNat])⟩

/-- A printed numeral is spelled well. -/
theorem Numeral.spelled_print (n : Numeral) : n.Spelled n.print := by
  obtain ⟨negative, whole, fraction, exponent⟩ := n
  rw [print, List.append_assoc, List.append_assoc]
  cases exponent with
  | none => exact ⟨[], rfl, rfl⟩
  | some e => exact ⟨printExponent e, exponentSpelled_print e, rfl⟩

/-! ## Units of string literals -/

/-- How a unit of a string literal is spelled. -/
inductive StringUnit.Spelled : StringUnit → List Char → Prop
  | plain {c : Char} (quote : c ≠ '"') (backslash : c ≠ '\\') (large : 0x20 ≤ c.toNat) :
      Spelled (.plain c) [c]
  | short {c letter : Char} (escape : shortEscape? letter = some c) :
      Spelled (.plain c) ['\\', letter]
  | number {a b c d : Char} {bits : UInt16} (value : hexQuad? a b c d = some bits) :
      Spelled (.code bits) ['\\', 'u', a, b, c, d]

/-- How the units of a string literal are spelled, one after the other. -/
def UnitsSpelled : List StringUnit → List Char → Prop
  | [], cs => cs = []
  | unit :: units, cs =>
    ∃ first rest, unit.Spelled first ∧ UnitsSpelled units rest ∧ cs = first ++ rest

/-- How a string literal is spelled. -/
def LiteralSpelled (units : List StringUnit) (cs : List Char) : Prop :=
  ∃ inner, UnitsSpelled units inner ∧ cs = '"' :: (inner ++ ['"'])

/-- The mark of an escape by number is no escape of its own. -/
theorem shortEscape?_ne {letter c : Char} (escape : shortEscape? letter = some c) :
    letter ≠ 'u' := by
  rintro rfl
  revert escape
  rw [show shortEscape? 'u' = none by decide]
  rintro ⟨⟩

/-- A unit is read as it is spelled. -/
theorem StringUnit.Spelled.readUnits_append {unit : StringUnit} {cs : List Char}
    (spelled : unit.Spelled cs) (rest : List Char) :
    readUnits (cs ++ rest) = (readUnits rest).map fun (us, rest) => (unit :: us, rest) := by
  cases spelled with
  | @plain c quote backslash large =>
    have taken : ¬ (c.toNat < 0x20 ∨ c = '\\') := by
      simp only [not_or, Nat.not_lt]
      exact ⟨large, backslash⟩
    rw [List.cons_append, List.nil_append, readUnits]
    · rw [if_neg taken]
      cases readUnits rest <;> rfl
    · exact quote
    · rintro _ _ _ _ _ rfl
      exact absurd rfl backslash
    · rintro _ _ rfl
      exact absurd rfl backslash
  | short escape =>
    rw [List.cons_append, List.cons_append, List.nil_append, readUnits]
    · simp only [escape, Option.bind_eq_bind, Option.bind_some]
      cases readUnits rest <;> rfl
    · rintro _ _ _ _ _ rfl
      exact absurd rfl (shortEscape?_ne escape)
  | number value =>
    simp only [List.cons_append, List.nil_append, readUnits, value, Option.bind_eq_bind,
      Option.bind_some]
    cases readUnits rest <;> rfl

/-- Units are read as they are spelled, up to the closing quote. -/
theorem readUnits_of_spelled {units : List StringUnit} {cs : List Char}
    (spelled : UnitsSpelled units cs) (rest : List Char) :
    readUnits (cs ++ '"' :: rest) = some (units, rest) := by
  induction units generalizing cs with
  | nil =>
    rw [UnitsSpelled] at spelled
    simp [spelled, readUnits]
  | cons unit units ih =>
    obtain ⟨first, others, own, spelled, rfl⟩ := spelled
    rw [List.append_assoc, own.readUnits_append, ih spelled]
    rfl

/-- What is read as units is spelled so. -/
theorem spelled_of_readUnits {cs rest : List Char} {units : List StringUnit}
    (h : readUnits cs = some (units, rest)) :
    ∃ inner, UnitsSpelled units inner ∧ cs = inner ++ '"' :: rest := by
  fun_induction readUnits cs generalizing units rest with
  | case1 => cases h
  | case2 =>
    cases h
    exact ⟨[], rfl, rfl⟩
  | case3 a b c d tail ih =>
    simp only [Option.bind_eq_bind, Option.bind_eq_some_iff, Option.pure_def,
      Option.some.injEq, Prod.mk.injEq] at h
    obtain ⟨bits, value, ⟨others, after⟩, read, rfl, rfl⟩ := h
    obtain ⟨inner, spelled, rfl⟩ := ih read
    exact ⟨_, ⟨_, inner, .number value, spelled, rfl⟩, rfl⟩
  | case4 letter tail _ ih =>
    simp only [Option.bind_eq_bind, Option.bind_eq_some_iff, Option.pure_def,
      Option.some.injEq, Prod.mk.injEq] at h
    obtain ⟨c, escape, ⟨others, after⟩, read, rfl, rfl⟩ := h
    obtain ⟨inner, spelled, rfl⟩ := ih read
    exact ⟨_, ⟨_, inner, .short escape, spelled, rfl⟩, rfl⟩
  | case5 => cases h
  | case6 c tail quote _ _ taken ih =>
    simp only [Option.bind_eq_bind, Option.bind_eq_some_iff, Option.pure_def,
      Option.some.injEq, Prod.mk.injEq] at h
    obtain ⟨⟨others, after⟩, read, rfl, rfl⟩ := h
    obtain ⟨inner, spelled, rfl⟩ := ih read
    simp only [not_or, Nat.not_lt] at taken
    refine ⟨_, ⟨_, inner, .plain ?_ taken.2 taken.1, spelled, rfl⟩, rfl⟩
    exact quote

/-! ## Printed literals -/

/-- A unit that may stand in a literal: a control character needs an escape. -/
def StringUnit.Printable : StringUnit → Prop
  | .plain c => 0x20 ≤ c.toNat ∨ (shortEscapes.lookup c).isSome
  | .code _ => True

/-- The unit that stands for a character may stand in a literal. -/
theorem StringUnit.printable_ofChar (c : Char) : (StringUnit.ofChar c).Printable := by
  unfold ofChar
  split
  · trivial
  · next h =>
    by_cases small : c.toNat < 0x20
    · exact .inr (by simpa [small] using h)
    · exact .inl (by omega)

theorem hexValue?_hexChar {n : Nat} (h : n < 16) : hexValue? (hexChar n) = some n := by
  have all : ∀ n < 16, hexValue? (hexChar n) = some n := by decide
  exact all n h

/-- Four hexadecimal digits are read back. -/
theorem hexQuad?_hexQuad (bits : UInt16) :
    hexQuad? (hexChar (bits.toNat / 4096)) (hexChar (bits.toNat / 256 % 16))
        (hexChar (bits.toNat / 16 % 16)) (hexChar (bits.toNat % 16))
      = some bits := by
  have bound : bits.toNat < 65536 := bits.toNat_lt
  have value : ((bits.toNat / 4096 * 16 + bits.toNat / 256 % 16) * 16 + bits.toNat / 16 % 16) * 16
      + bits.toNat % 16 = bits.toNat := by omega
  simp only [hexQuad?, Option.bind_eq_bind,
    hexValue?_hexChar (show bits.toNat / 4096 < 16 by omega),
    hexValue?_hexChar (Nat.mod_lt (bits.toNat / 256) (show 16 > 0 by decide)),
    hexValue?_hexChar (Nat.mod_lt (bits.toNat / 16) (show 16 > 0 by decide)),
    hexValue?_hexChar (Nat.mod_lt bits.toNat (show 16 > 0 by decide)), Option.bind_some, value,
    Option.pure_def]
  rw [Nat.toUInt16, UInt16.ofNat_toNat]

/-- A character has a short escape exactly if it is one of seven. -/
theorem lookup_shortEscapes {c letter : Char} (h : shortEscapes.lookup c = some letter) :
    (c, letter) ∈ shortEscapes := by
  obtain ⟨before, after, split, -⟩ := List.lookup_eq_some_iff.1 h
  rw [split]
  simp

/-- A printed unit is spelled well. -/
theorem StringUnit.spelled_print {unit : StringUnit} (h : unit.Printable) :
    unit.Spelled unit.print := by
  cases unit with
  | code bits => exact .number (hexQuad?_hexQuad bits)
  | plain c =>
    cases escape : shortEscapes.lookup c with
    | some letter =>
      have letters : ∀ entry ∈ shortEscapes, shortEscape? entry.2 = some entry.1 := by decide
      have short := letters _ (lookup_shortEscapes escape)
      simpa only [StringUnit.print, escape] using StringUnit.Spelled.short short
    | none =>
      have large : 0x20 ≤ c.toNat := by simpa [StringUnit.Printable, escape] using h
      have quote : c ≠ '"' := by
        rintro rfl
        simp [shortEscapes] at escape
      have backslash : c ≠ '\\' := by
        rintro rfl
        simp [shortEscapes] at escape
      simpa only [StringUnit.print, escape] using StringUnit.Spelled.plain quote backslash large

/-- A printed string literal is spelled well. -/
theorem literalSpelled_print {units : List StringUnit} (h : ∀ u ∈ units, u.Printable) :
    LiteralSpelled units (printString units) := by
  refine ⟨units.flatMap StringUnit.print, ?_, rfl⟩
  induction units with
  | nil => rfl
  | cons unit units ih =>
    exact ⟨_, _, StringUnit.spelled_print (h unit (by simp)), ih fun u mem => h u (by simp [mem]),
      List.flatMap_cons⟩

end LiveThread.Json
