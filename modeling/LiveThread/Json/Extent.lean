import LiveThread.Json.Parser

/-!
# How much text a tree takes

A reader consumes at least as many characters as the tree that it returns
needs.  Only texts and arrays are counted: they bound the texts that an array
can hold, whatever escapes and blanks stand in between.

Main results:

- Definition `Tree.extent`: the least number of characters of a text or of an array.
- Theorem `readTree_extent`: reading a tree consumes its extent.
- Theorem `Tree.extent_le_of_parse?`: a tree is read from a text of at least its extent.
- Theorem `length_le_of_text?`: a text is no longer than its literal.
-/

namespace LiveThread.Json

open Decimal

/-! ## Extents -/

mutual

/-- The least number of characters that a text or an array takes. -/
def Tree.extent : Tree → Nat
  | .string units => units.length + 2
  | .array items => itemsExtent items + 1
  | _ => 0

/-- The least number of characters that items and the marks after them take. -/
def itemsExtent : List Tree → Nat
  | [] => 0
  | item :: items => item.extent + 1 + itemsExtent items

end

/-! ## Leaves -/

theorem length_skipBlanks_le (cs : List Char) : (skipBlanks cs).length ≤ cs.length :=
  (List.dropWhile_sublist _).length_le

theorem length_takeDigits_le (cs : List Char) : (takeDigits cs).2.length ≤ cs.length := by
  have := takeDigits_eq cs
  omega

theorem length_readWhole {cs rest : List Char} {n : Nat}
    (h : readWhole cs = some (n, rest)) : rest.length ≤ cs.length := by
  unfold readWhole at h
  split at h
  · cases h
    simp
  · split at h
    · cases h
    · next eq =>
      cases h
      have := length_takeDigits_le cs
      rwa [eq] at this

theorem length_readFraction {cs rest : List Char} {ds : List Digit}
    (h : readFraction cs = some (ds, rest)) : rest.length ≤ cs.length := by
  unfold readFraction at h
  split at h
  · next cs =>
    split at h
    · cases h
    · next eq =>
      cases h
      have := length_takeDigits_le cs
      rw [eq] at this
      exact Nat.le_succ_of_le this
  · cases h
    exact Nat.le_refl _

theorem length_readNat {cs rest : List Char} {n : Nat}
    (h : readNat cs = some (n, rest)) : rest.length ≤ cs.length := by
  unfold readNat at h
  split at h
  · cases h
  · next eq =>
    cases h
    have := length_takeDigits_le cs
    rwa [eq] at this

theorem length_readSignedNat {cs rest : List Char} {e : Int}
    (h : readSignedNat cs = some (e, rest)) : rest.length ≤ cs.length := by
  unfold readSignedNat at h
  split at h <;>
    · obtain ⟨⟨n, tail⟩, read, eq⟩ := Option.map_eq_some_iff.1 h
      cases eq
      have := length_readNat read
      simp only [List.length_cons] at *
      omega

theorem length_readExponent {cs rest : List Char} {e : Option Int}
    (h : readExponent cs = some (e, rest)) : rest.length ≤ cs.length := by
  unfold readExponent at h
  split at h
  · obtain ⟨⟨n, tail⟩, read, eq⟩ := Option.map_eq_some_iff.1 h
    cases eq
    exact Nat.le_succ_of_le (length_readSignedNat read)
  · obtain ⟨⟨n, tail⟩, read, eq⟩ := Option.map_eq_some_iff.1 h
    cases eq
    exact Nat.le_succ_of_le (length_readSignedNat read)
  · cases h
    exact Nat.le_refl _

theorem length_readUnsigned {cs rest : List Char} {negative : Bool} {n : Numeral}
    (h : readUnsigned negative cs = some (n, rest)) : rest.length ≤ cs.length := by
  simp only [readUnsigned, Option.bind_eq_bind, Option.bind_eq_some_iff, Option.pure_def,
    Option.some.injEq, Prod.mk.injEq] at h
  obtain ⟨⟨_, a⟩, whole, ⟨_, b⟩, fraction, ⟨_, c⟩, exponent, -, rfl⟩ := h
  have := length_readWhole whole
  have := length_readFraction fraction
  have := length_readExponent exponent
  simp only at *
  omega

theorem length_readNumeral {cs rest : List Char} {n : Numeral}
    (h : readNumeral cs = some (n, rest)) : rest.length ≤ cs.length := by
  unfold readNumeral at h
  split at h
  · exact Nat.le_succ_of_le (length_readUnsigned h)
  · exact length_readUnsigned h

/-- A literal takes a character for each unit and one for the closing quote. -/
theorem length_readUnits {cs rest : List Char} {units : List StringUnit}
    (h : readUnits cs = some (units, rest)) : units.length + 1 + rest.length ≤ cs.length := by
  fun_induction readUnits cs generalizing units rest with
  | case1 => cases h
  | case2 => cases h; simp; omega
  | case3 a b c d tail ih =>
    simp only [Option.bind_eq_bind, Option.bind_eq_some_iff, Option.pure_def,
      Option.some.injEq, Prod.mk.injEq] at h
    obtain ⟨_, _, ⟨us, r⟩, read, rfl, rfl⟩ := h
    have := ih read
    simp only [List.length_cons] at *
    omega
  | case4 letter tail _ ih =>
    simp only [Option.bind_eq_bind, Option.bind_eq_some_iff, Option.pure_def,
      Option.some.injEq, Prod.mk.injEq] at h
    obtain ⟨_, _, ⟨us, r⟩, read, rfl, rfl⟩ := h
    have := ih read
    simp only [List.length_cons] at *
    omega
  | case5 => cases h
  | case6 c tail _ _ _ _ ih =>
    simp only [Option.bind_eq_bind, Option.bind_eq_some_iff, Option.pure_def,
      Option.some.injEq, Prod.mk.injEq] at h
    obtain ⟨⟨us, r⟩, read, rfl, rfl⟩ := h
    have := ih read
    simp only [List.length_cons] at *
    omega

/-! ## Trees -/

theorem length_cons_of_skipBlanks {cs rest : List Char} {c : Char}
    (h : skipBlanks cs = c :: rest) : rest.length + 1 ≤ cs.length := by
  have := length_skipBlanks_le cs
  rwa [h] at this

/-- With this many steps the three readers of trees consume what they return. -/
structure ReadersConsume (steps : Nat) : Prop where
  tree : ∀ {cs rest tree}, readTree steps cs = some (tree, rest) →
    tree.extent + rest.length ≤ cs.length
  items : ∀ {cs rest items}, readItems steps cs = some (items, rest) →
    itemsExtent items + rest.length ≤ cs.length
  members : ∀ {cs rest members}, readMembers steps cs = some (members, rest) →
    rest.length ≤ cs.length

namespace ReadersConsume

variable {steps : Nat} {cs rest : List Char}

theorem readTree_succ (ih : ReadersConsume steps) {tree : Tree}
    (h : readTree (steps + 1) cs = some (tree, rest)) :
    tree.extent + rest.length ≤ cs.length := by
  have blanks := length_skipBlanks_le cs
  unfold readTree at h
  split at h
  iterate 3
    · next eq =>
      cases h
      rw [eq] at blanks
      simp only [List.length_cons, Tree.extent] at *
      omega
  · next eq =>
    obtain ⟨⟨us, r⟩, read, same⟩ := Option.map_eq_some_iff.1 h
    cases same
    have := length_readUnits read
    have := length_cons_of_skipBlanks eq
    simp only [Tree.extent]
    omega
  · next tail eq =>
    have := length_cons_of_skipBlanks eq
    have := length_skipBlanks_le tail
    split at h
    · next closed =>
      cases h
      have := length_cons_of_skipBlanks closed
      simp only [Tree.extent, itemsExtent]
      omega
    · obtain ⟨⟨is, r⟩, read, same⟩ := Option.map_eq_some_iff.1 h
      cases same
      have := ih.items read
      simp only [Tree.extent]
      omega
  · next tail eq =>
    have := length_cons_of_skipBlanks eq
    have := length_skipBlanks_le tail
    split at h
    · next closed =>
      cases h
      have := length_cons_of_skipBlanks closed
      simp only [Tree.extent]
      omega
    · obtain ⟨⟨is, r⟩, read, same⟩ := Option.map_eq_some_iff.1 h
      cases same
      have := ih.members read
      simp only [Tree.extent]
      omega
  · obtain ⟨⟨n, r⟩, read, same⟩ := Option.map_eq_some_iff.1 h
    cases same
    have := length_readNumeral read
    simp only [Tree.extent]
    omega

theorem readItems_succ (ih : ReadersConsume steps) {items : List Tree}
    (h : readItems (steps + 1) cs = some (items, rest)) :
    itemsExtent items + rest.length ≤ cs.length := by
  simp only [readItems, Option.bind_eq_bind, Option.bind_eq_some_iff] at h
  obtain ⟨⟨t, r⟩, read, h⟩ := h
  have first := ih.tree read
  split at h
  · next eq =>
    cases h
    have := length_cons_of_skipBlanks eq
    simp only [itemsExtent] at *
    omega
  · next eq =>
    simp only [Option.bind_eq_some_iff, Option.pure_def,
      Option.some.injEq, Prod.mk.injEq] at h
    obtain ⟨⟨ts, r'⟩, more, rfl, rfl⟩ := h
    have := ih.items more
    have := length_cons_of_skipBlanks eq
    simp only [itemsExtent] at *
    omega
  · cases h

theorem readMembers_succ (ih : ReadersConsume steps) {members : List (List StringUnit × Tree)}
    (h : readMembers (steps + 1) cs = some (members, rest)) :
    rest.length ≤ cs.length := by
  unfold readMembers at h
  split at h
  · next opened =>
    have := length_cons_of_skipBlanks opened
    simp only [Option.bind_eq_bind, Option.bind_eq_some_iff] at h
    obtain ⟨⟨key, r⟩, read, h⟩ := h
    have := length_readUnits read
    split at h
    · next colon =>
      have := length_cons_of_skipBlanks colon
      simp only [Option.bind_eq_some_iff] at h
      obtain ⟨⟨t, r'⟩, value, h⟩ := h
      have := ih.tree value
      split at h
      · next closed =>
        cases h
        have := length_cons_of_skipBlanks closed
        simp only at *
        omega
      · next comma =>
        simp only [Option.bind_eq_some_iff, Option.pure_def,
          Option.some.injEq, Prod.mk.injEq] at h
        obtain ⟨⟨ts, r''⟩, more, rfl, rfl⟩ := h
        have := ih.members more
        have := length_cons_of_skipBlanks comma
        simp only at *
        omega
      · cases h
    · cases h
  · cases h

end ReadersConsume

/-- The three readers of trees consume what they return. -/
theorem readTree_extent (steps : Nat) : ReadersConsume steps := by
  induction steps with
  | zero => constructor <;> simp [readTree, readItems, readMembers]
  | succ steps ih => exact ⟨ih.readTree_succ, ih.readItems_succ, ih.readMembers_succ⟩

/-- A tree is read from a text of at least its extent. -/
theorem Tree.extent_le_of_parse? {cs : List Char} {tree : Tree}
    (h : Tree.parse? cs = some tree) : tree.extent ≤ cs.length := by
  unfold Tree.parse? at h
  split at h
  · next read =>
    split at h
    · cases h
      have := (readTree_extent _).tree read
      omega
    · cases h
  · cases h

/-! ## Texts -/

/-- A text is no longer than its literal. -/
theorem length_le_of_text? {units : List StringUnit} {text : String}
    (h : text? units = some text) : text.length ≤ units.length := by
  have key : ∀ {us : List StringUnit} {cs : List Char}, chars? us = some cs →
      cs.length ≤ us.length := by
    intro us
    fun_induction chars? us with
    | case1 => rintro cs ⟨⟩; simp
    | case2 c rest ih =>
      intro cs h
      obtain ⟨ds, read, rfl⟩ := Option.map_eq_some_iff.1 h
      simpa using ih read
    | case3 high low rest _ _ ih =>
      intro cs h
      obtain ⟨ds, read, rfl⟩ := Option.map_eq_some_iff.1 h
      have := ih read
      simp only [List.length_cons] at *
      omega
    | case4 => rintro cs ⟨⟩
    | case5 => rintro cs ⟨⟩
    | case6 high low rest _ _ ih =>
      intro cs h
      obtain ⟨ds, read, rfl⟩ := Option.map_eq_some_iff.1 h
      have := ih read
      simp only [List.length_cons] at *
      omega
    | case7 => rintro cs ⟨⟩
    | case8 bits rest _ _ ih =>
      intro cs h
      obtain ⟨ds, read, rfl⟩ := Option.map_eq_some_iff.1 h
      simpa using ih read
  obtain ⟨cs, read, rfl⟩ := Option.map_eq_some_iff.1 h
  simpa using key read

end LiveThread.Json
