import LiveThread.Proofs.Json.Records

/-!
# What a schema accepts

A shape says which trees a schema accepts, without saying what is read from
them: an integer by how it is written, a text by the halves of characters in
its literal, a value by how deep it is and what its leaves are.

Main results:

- Definitions `Shape` and `Reader.Takes`: shapes, and the readers that accept just them.
- Theorem `isSome_text?_iff`: a literal is a text if the halves in it stand in pairs.
- Theorem `isSome_ofTree?_iff`: a tree is a value if it is not too deep and all its leaves are.
- Theorems `Reader.takes_list`, `Reader.takes_nullable` and `Reader.takes_nullableList`: what
  compounds accept.
-/

namespace LiveThread.Json

/-! ## Shapes -/

/-- Which trees are accepted, told how many levels may still be opened. -/
abbrev Shape :=
  Nat → Tree → Prop

/-- A reader that accepts the trees of a shape and no others. -/
def Reader.Takes {α : Type} (read : Reader α) (shape : Shape) : Prop :=
  ∀ room tree, (read room tree).isSome ↔ shape room tree

/-! ## Texts -/

/-- The halves of characters in a literal stand in pairs. -/
inductive Paired : List StringUnit → Prop
  | nil : Paired []
  | plain (c : Char) {rest : List StringUnit} : Paired rest → Paired (.plain c :: rest)
  | whole {bits : UInt16} {rest : List StringUnit} (noHigh : isHighHalf bits = false)
      (noLow : isLowHalf bits = false) : Paired rest → Paired (.code bits :: rest)
  | pair {high low : UInt16} {rest : List StringUnit} (first : isHighHalf high = true)
      (second : isLowHalf low = true) : Paired rest → Paired (.code high :: .code low :: rest)

/-- A literal has characters exactly if its halves stand in pairs. -/
theorem isSome_chars?_iff (units : List StringUnit) : (chars? units).isSome ↔ Paired units := by
  fun_induction chars? units with
  | case1 => simp [Paired.nil]
  | case2 c rest ih =>
    rw [Option.isSome_map, ih]
    constructor
    · exact .plain c
    · rintro ⟨⟩
      assumption
  | case3 high low rest first second ih =>
    rw [Option.isSome_map, ih]
    constructor
    · exact .pair first second
    · intro paired
      cases paired with
      | whole noHigh => simp [first] at noHigh
      | pair _ _ paired => exact paired
  | case4 high low rest first second =>
    constructor
    · rintro ⟨⟩
    · intro paired
      cases paired with
      | whole noHigh => simp [first] at noHigh
      | pair _ low => exact absurd low second
  | case5 high low rest first second =>
    constructor
    · rintro ⟨⟩
    · intro paired
      cases paired with
      | whole _ noLow => simp [second] at noLow
      | pair high => exact absurd high first
  | case6 high low rest first second ih =>
    rw [Option.isSome_map, ih]
    constructor
    · exact .whole (by simpa using first) (by simpa using second)
    · intro paired
      cases paired with
      | whole _ _ paired => exact paired
      | pair high => exact absurd high first
  | case7 bits rest other half =>
    constructor
    · rintro ⟨⟩
    · intro paired
      cases paired with
      | whole noHigh noLow => simp [noHigh, noLow] at half
      | pair => exact absurd rfl (other _ _)
  | case8 bits rest other half ih =>
    simp only [Bool.or_eq_true, not_or, Bool.not_eq_true] at half
    rw [Option.isSome_map, ih]
    constructor
    · exact .whole half.1 half.2
    · intro paired
      cases paired with
      | whole _ _ paired => exact paired
      | pair => exact absurd rfl (other _ _)

/-- A literal is a text exactly if its halves stand in pairs. -/
theorem isSome_text?_iff (units : List StringUnit) : (text? units).isSome ↔ Paired units := by
  rw [text?, Option.isSome_map, isSome_chars?_iff]

/-! ## Leaves -/

/-- Truth values. -/
def Shape.bool : Shape := fun _ tree =>
  ∃ b, tree = .bool b

/-- Texts. -/
def Shape.text : Shape := fun _ tree =>
  ∃ units, tree = .string units ∧ Paired units

/-- Integers of at least `low` and less than `high`, written without fraction and exponent. -/
def Shape.integer (low high : Int) : Shape := fun _ tree =>
  ∃ n, low ≤ n ∧ n < high ∧ tree = Tree.ofInt n

/-- Integers that fit into so many bits without a sign. -/
def Shape.unsigned (bits : Nat) : Shape :=
  .integer 0 (2 ^ bits : Nat)

/-- Integers that fit into so many bits with a sign. -/
def Shape.signed (bits : Nat) : Shape :=
  .integer (-(2 ^ (bits - 1) : Nat)) (2 ^ (bits - 1) : Nat)

/-- A numeral denotes an integer exactly if that integer is so written. -/
theorem Numeral.int?_eq_some_iff {numeral : Numeral} {n : Int} :
    numeral.int? = some n ↔ numeral = Numeral.ofInt n := by
  constructor
  · intro h
    obtain ⟨negative, whole, fraction, exponent⟩ := numeral
    unfold int? at h
    split at h
    · next plain =>
      obtain ⟨rfl, rfl⟩ := plain
      cases negative with
      | true =>
        simp only [if_true] at h
        split at h
        · cases h
        · next nonzero =>
          obtain rfl : n = -(whole : Int) := (Option.some.inj h).symm
          simp [Numeral.ofInt]
          omega
      | false =>
        simp only [Bool.false_eq_true, if_false] at h
        obtain rfl : n = (whole : Int) := (Option.some.inj h).symm
        simp [Numeral.ofInt]
    · cases h
  · rintro rfl
    exact Numeral.int?_ofInt n

theorem Reader.int_eq_some_iff {room : Nat} {tree : Tree} {n : Int} :
    Reader.int room tree = some n ↔ tree = Tree.ofInt n := by
  unfold Reader.int Tree.ofInt
  split
  · simp [Numeral.int?_eq_some_iff]
  · next other =>
    constructor
    · rintro ⟨⟩
    · intro same
      exact absurd same (other _)

namespace Reader

theorem takes_bool : Reader.bool.Takes .bool := by
  intro room tree
  cases tree <;> simp [Reader.bool, Shape.bool]

theorem takes_text : Reader.text.Takes .text := by
  intro room tree
  cases tree <;> simp [Reader.text, Shape.text, isSome_text?_iff]

/-- A natural number below the bound is read from its tree. -/
theorem below_eq_some_iff {bound room n : Nat} {tree : Tree} :
    Reader.below bound room tree = some n ↔ n < bound ∧ tree = Tree.ofInt n := by
  unfold Reader.below
  constructor
  · intro h
    split at h
    · next i read =>
      split at h
      · next range =>
        obtain rfl : i.toNat = n := Option.some.inj h
        rw [Int.toNat_of_nonneg range.1]
        exact ⟨by omega, Reader.int_eq_some_iff.1 read⟩
      · cases h
    · cases h
  · rintro ⟨below, same⟩
    have range : (0 : Int) ≤ n ∧ (n : Int) < bound := by omega
    simp only [Reader.int_eq_some_iff.2 same, if_pos range, Int.toNat_natCast]

theorem takes_below (bound : Nat) : (Reader.below bound).Takes (.integer 0 bound) := by
  intro room tree
  rw [Option.isSome_iff_exists]
  simp only [below_eq_some_iff]
  constructor
  · rintro ⟨n, below, same⟩
    exact ⟨n, by omega, by omega, same⟩
  · rintro ⟨n, low, high, rfl⟩
    exact ⟨n.toNat, by omega, by rw [Int.toNat_of_nonneg low]⟩

theorem takes_uint8 : Reader.uint8.Takes (.unsigned 8) := by
  intro room tree
  rw [Reader.uint8, Option.isSome_map]
  exact takes_below _ room tree

theorem takes_uint16 : Reader.uint16.Takes (.unsigned 16) := by
  intro room tree
  rw [Reader.uint16, Option.isSome_map]
  exact takes_below _ room tree

theorem takes_uint32 : Reader.uint32.Takes (.unsigned 32) := by
  intro room tree
  rw [Reader.uint32, Option.isSome_map]
  exact takes_below _ room tree

theorem takes_uint64 : Reader.uint64.Takes (.unsigned 64) := by
  intro room tree
  rw [Reader.uint64, Option.isSome_map]
  exact takes_below _ room tree

/-- A number of sixty-four bits is read from its tree. -/
theorem uint64_eq_some_iff {room : Nat} {tree : Tree} {n : UInt64} :
    Reader.uint64 room tree = some n ↔ tree = Tree.ofInt n.toNat := by
  simp only [Reader.uint64, Option.map_eq_some_iff, below_eq_some_iff, Nat.toUInt64]
  constructor
  · rintro ⟨i, ⟨below, rfl⟩, rfl⟩
    rw [UInt64.toNat_ofNat_of_lt' below]
  · rintro rfl
    exact ⟨n.toNat, ⟨n.toNat_lt_size, rfl⟩, UInt64.ofNat_toNat⟩

theorem takes_int64 : Reader.int64.Takes (.signed 64) := by
  intro room tree
  have bound : ((2 ^ (64 - 1) : Nat) : Int) = 0x8000000000000000 := rfl
  rw [Shape.signed, Shape.integer, bound]
  unfold Reader.int64
  constructor
  · intro h
    split at h
    · next n read =>
      split at h
      · next range => exact ⟨n, range.1, range.2, Reader.int_eq_some_iff.1 read⟩
      · cases h
    · cases h
  · rintro ⟨n, low, high, same⟩
    simp only [Reader.int_eq_some_iff.2 same, if_pos (And.intro low high), Option.isSome_some]

end Reader

/-! ## Values -/

mutual

/-- How many arrays and objects stand inside each other in a tree. -/
def Tree.levels : Tree → Nat
  | .array items => treeItemLevels items + 1
  | .object members => treeMemberLevels members + 1
  | _ => 0

/-- The levels of the deepest item. -/
def treeItemLevels : List Tree → Nat
  | [] => 0
  | item :: items => max item.levels (treeItemLevels items)

/-- The levels of the deepest member. -/
def treeMemberLevels : List (List StringUnit × Tree) → Nat
  | [] => 0
  | (_, tree) :: members => max tree.levels (treeMemberLevels members)

end

mutual

/-- Every literal in the tree is a text and every numeral in it is in range. -/
def Tree.Meaningful : Tree → Prop
  | .number n => (Number.ofNumeral? n).isSome
  | .string units => Paired units
  | .array items => MeaningfulItems items
  | .object members => MeaningfulMembers members
  | _ => True

/-- Every item is meaningful. -/
def MeaningfulItems : List Tree → Prop
  | [] => True
  | item :: items => item.Meaningful ∧ MeaningfulItems items

/-- Every member is meaningful, its name and its value. -/
def MeaningfulMembers : List (List StringUnit × Tree) → Prop
  | [] => True
  | (key, tree) :: members => Paired key ∧ tree.Meaningful ∧ MeaningfulMembers members

end

/-- Any values. -/
def Shape.value : Shape := fun room tree =>
  tree.levels ≤ room ∧ tree.Meaningful

/-- A step and what follows it succeed if the step does and what follows its result. -/
theorem isSome_bind_iff {α β : Type} {x : Option α} {f : α → Option β} :
    (x.bind f).isSome ↔ ∃ a, x = some a ∧ (f a).isSome := by
  cases x <;> simp

mutual

/-- A tree is a value exactly if it is not too deep and all its leaves are values. -/
theorem isSome_ofTree?_iff (room : Nat) :
    (tree : Tree) → ((Value.ofTree? room tree).isSome ↔ tree.levels ≤ room ∧ tree.Meaningful)
  | .null => by simp [Value.ofTree?, Tree.levels, Tree.Meaningful]
  | .bool _ => by simp [Value.ofTree?, Tree.levels, Tree.Meaningful]
  | .number _ => by simp [Value.ofTree?, Tree.levels, Tree.Meaningful]
  | .string units => by
    simp [Value.ofTree?, Tree.levels, Tree.Meaningful, isSome_text?_iff]
  | .array items => by
    cases room with
    | zero => simp [Value.ofTree?, Tree.levels]
    | succ room =>
      simp [Value.ofTree?, Tree.levels, Tree.Meaningful, isSome_itemsOf?_iff room items]
  | .object members => by
    cases room with
    | zero => simp [Value.ofTree?, Tree.levels]
    | succ room =>
      simp [Value.ofTree?, Tree.levels, Tree.Meaningful, isSome_membersOf?_iff room members]

/-- Items are values exactly if each of them is one. -/
theorem isSome_itemsOf?_iff (room : Nat) :
    (items : List Tree) →
      ((itemsOf? room items).isSome ↔ treeItemLevels items ≤ room ∧ MeaningfulItems items)
  | [] => by simp [itemsOf?, treeItemLevels, MeaningfulItems]
  | item :: items => by
    have first := isSome_ofTree?_iff room item
    have others := isSome_itemsOf?_iff room items
    simp only [itemsOf?, Option.bind_eq_bind, isSome_bind_iff, Option.pure_def,
      Option.isSome_some, and_true, exists_and_right, ← Option.isSome_iff_exists, first, others,
      treeItemLevels, MeaningfulItems, Nat.max_le]
    tauto

/-- Members are values exactly if the name of each is a text and what it names a value. -/
theorem isSome_membersOf?_iff (room : Nat) :
    (members : List (List StringUnit × Tree)) → (read : List (String × Value)) →
      ((membersOf? room members read).isSome ↔
        treeMemberLevels members ≤ room ∧ MeaningfulMembers members)
  | [], _ => by simp [membersOf?, treeMemberLevels, MeaningfulMembers]
  | (key, tree) :: members, read => by
    have first := isSome_ofTree?_iff room tree
    have others := fun read => isSome_membersOf?_iff room members read
    simp only [membersOf?, Option.bind_eq_bind, isSome_bind_iff, others, exists_and_right,
      ← Option.isSome_iff_exists, first, isSome_text?_iff, treeMemberLevels, MeaningfulMembers,
      Nat.max_le]
    tauto

end

theorem Reader.takes_document : Reader.document.Takes .value := by
  intro room tree
  rw [Shape.value, ← isSome_ofTree?_iff, Reader.document, Document.ofTree?]
  split
  · next read => simp [read]
  · next read => simp [read]

/-! ## Compounds -/

/-- Arrays of items of a shape. -/
def Shape.list (item : Shape) : Shape
  | room + 1, .array items => ∀ i ∈ items, item room i
  | _, _ => False

/-- Arrays of exactly so many items, each of its own shape. -/
def Shape.tuple (shapes : List Shape) : Shape
  | room + 1, .array items => List.Forall₂ (fun shape item => shape room item) shapes items
  | _, _ => False

/-- What may be null instead. -/
def Shape.nullable (shape : Shape) : Shape := fun room tree =>
  tree = .null ∨ shape room tree

namespace Reader

variable {α : Type} {read : Reader α} {shape : Shape}

/-- A list is read exactly if each of its items is. -/
theorem takes_list (h : read.Takes shape) : (Reader.list read).Takes (.list shape) := by
  intro room tree
  cases room with
  | zero => cases tree <;> simp [Reader.list, Shape.list]
  | succ room =>
    cases tree with
    | array items =>
      simp only [Reader.list, Shape.list]
      induction items with
      | nil => simp
      | cons item items ih =>
        simp only [List.mapM_cons, Option.bind_eq_bind, isSome_bind_iff, Option.pure_def,
          Option.isSome_some, and_true, exists_and_right, ← Option.isSome_iff_exists, ih,
          h room item, List.forall_mem_cons]
    | _ => simp [Reader.list, Shape.list]

/-- What may be null is read exactly if it is, or if what may stand instead is. -/
theorem takes_nullable (h : read.Takes shape) :
    (Reader.nullable read).Takes (.nullable shape) := by
  intro room tree
  cases tree with
  | null => simp [Reader.nullable, Shape.nullable]
  | _ => simp [Reader.nullable, Shape.nullable, h room _]

theorem takes_nullableList (h : read.Takes shape) :
    (Reader.nullableList read).Takes (.nullable (.list shape)) := by
  intro room tree
  rw [Reader.nullableList, Option.isSome_map]
  exact takes_nullable (takes_list h) room tree

/-- Just so many items are read exactly if an array holds so many and each is read. -/
theorem exists_list_length_iff (h : read.Takes shape) (count room : Nat) (tree : Tree) :
    (∃ xs, Reader.list read room tree = some xs ∧ xs.length = count) ↔
      Shape.tuple (List.replicate count shape) room tree := by
  cases room with
  | zero => cases tree <;> simp [Reader.list, Shape.tuple]
  | succ room =>
    cases tree with
    | array items =>
      simp only [Reader.list, mapM_eq_some_iff, Shape.tuple]
      induction count generalizing items with
      | zero => simp [List.length_eq_zero_iff]
      | succ count ih =>
        simp only [List.replicate_succ, List.forall₂_cons_left_iff, ← ih, ← h room]
        constructor
        · rintro ⟨xs, all, length⟩
          obtain ⟨x, rest, rfl⟩ := List.exists_cons_of_length_eq_add_one length
          obtain ⟨item, others, first, more, rfl⟩ := List.forall₂_cons_right_iff.1 all
          exact ⟨item, others, by simp [first], ⟨rest, more, by simpa using length⟩, rfl⟩
        · rintro ⟨item, others, first, ⟨rest, more, length⟩, rfl⟩
          obtain ⟨x, first⟩ := Option.isSome_iff_exists.1 first
          exact ⟨x :: rest, .cons first more, by simp [length]⟩
    | _ => simp [Reader.list, Shape.tuple]

end Reader

end LiveThread.Json
