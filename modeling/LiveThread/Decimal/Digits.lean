/-!
# Decimal digits

Digits as values, the digits of a natural number without leading zeros, and
the run of digits at the front of a text.

Main results:

- Theorem `ofDigits_digitsOf`: the digits of a number denote it.
- Theorem `Digit.ofChar?_toChar`: a digit is read back from its character.
- Theorem `takeDigits_append`: a run of digits is taken whole and nothing beyond it.
-/

namespace LiveThread.Decimal

/-! ## Digits -/

/-- A decimal digit. -/
abbrev Digit := Fin 10

/-- The digit 0. -/
def Digit.zero : Digit := ⟨0, by decide⟩

/-- The last digit of a number. -/
def Digit.last (n : Nat) : Digit := ⟨n % 10, Nat.mod_lt n (by decide)⟩

/-- The character of a digit. -/
def Digit.toChar (d : Digit) : Char :=
  Char.ofNat (48 + d.val)

/-- The digit of a character of ASCII, if it is one. -/
def Digit.ofChar? (c : Char) : Option Digit :=
  if h : 48 ≤ c.toNat ∧ c.toNat ≤ 57 then some ⟨c.toNat - 48, by omega⟩ else none

@[simp]
theorem Digit.ofChar?_toChar (d : Digit) : Digit.ofChar? d.toChar = some d := by
  revert d
  decide

/-! ## Numbers and their digits -/

/-- The digits of `n`, most significant first; zero has the one digit 0. -/
def digitsOf (n : Nat) : List Digit :=
  if h : n < 10 then [⟨n, h⟩]
  else digitsOf (n / 10) ++ [⟨n % 10, Nat.mod_lt _ (by decide)⟩]
termination_by n
decreasing_by omega

/-- The number that a run of digits denotes. -/
def ofDigits (ds : List Digit) : Nat :=
  ds.foldl (fun n d => 10 * n + d.val) 0

theorem ofDigits_append_singleton (ds : List Digit) (d : Digit) :
    ofDigits (ds ++ [d]) = 10 * ofDigits ds + d.val := by
  simp [ofDigits]

@[simp]
theorem ofDigits_digitsOf (n : Nat) : ofDigits (digitsOf n) = n := by
  fun_induction digitsOf n with
  | case1 n h => simp [ofDigits]
  | case2 n h ih =>
    rw [ofDigits_append_singleton, ih]
    simp only
    omega

theorem digitsOf_ne_nil (n : Nat) : digitsOf n ≠ [] := by
  rw [digitsOf]
  split <;> simp

/-! ## Digits in a text -/

/-- The characters of a run of digits. -/
def digitChars (ds : List Digit) : List Char :=
  ds.map Digit.toChar

/-- The longest run of digits at the front of a text, and what follows it. -/
def takeDigits : List Char → List Digit × List Char
  | [] => ([], [])
  | c :: cs =>
    match Digit.ofChar? c with
    | some d => let (ds, rest) := takeDigits cs; (d :: ds, rest)
    | none => ([], c :: cs)

/-- A text that does not begin with a digit. -/
def NoDigitFirst (cs : List Char) : Prop :=
  ∀ c ∈ cs.head?, Digit.ofChar? c = none

theorem takeDigits_append (ds : List Digit) {rest : List Char} (h : NoDigitFirst rest) :
    takeDigits (digitChars ds ++ rest) = (ds, rest) := by
  induction ds with
  | nil =>
    cases rest with
    | nil => rfl
    | cons c cs => simp [digitChars, takeDigits, h c rfl]
  | cons d ds ih =>
    simp only [digitChars] at ih
    simp [digitChars, takeDigits, ih]

theorem takeDigits_eq (cs : List Char) :
    cs.length = (takeDigits cs).1.length + (takeDigits cs).2.length := by
  fun_induction takeDigits cs with
  | case1 => rfl
  | case2 c cs d hd ds rest eq ih => simp_all; omega
  | case3 c cs hc => simp

end LiveThread.Decimal
