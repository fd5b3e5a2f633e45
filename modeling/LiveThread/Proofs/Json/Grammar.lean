import LiveThread.Proofs.Json.Literals

/-!
# The grammar of JSON texts

A JSON text is one value with blanks around it.  Blanks may stand around every
item, name and value inside it; there are commas between items and between
members and nowhere else.  Here the spellings of a tree are said without the
reader, and the reader finds the tree of a text exactly if the text spells it.

Main results:

- Definition `Tree.Spelled`: how a tree may be spelled.
- Theorem `readersComplete`: what is spelled is read, a tree in as many steps as twice its length.
- Theorem `readersSound`: what the readers return is spelled in what they consume.
- Theorem `Tree.parse?_eq_some_iff`: a text is read as the tree that it spells.
-/

namespace LiveThread.Json

open Decimal

/-! ## Spellings -/

/-- Blanks and nothing else. -/
def Blanks (cs : List Char) : Prop :=
  ∀ c ∈ cs, isBlank c = true

/-- A text of the given form with blanks around it. -/
def Padded (form : List Char → Prop) (cs : List Char) : Prop :=
  ∃ before value after, Blanks before ∧ form value ∧ Blanks after ∧
    cs = before ++ (value ++ after)

/-- How a member is spelled: its name, a colon, and its value in the given form. -/
def MemberSpelled (key : List StringUnit) (form : List Char → Prop) (cs : List Char) : Prop :=
  ∃ name value, Padded (LiteralSpelled key) name ∧ Padded form value ∧ cs = name ++ ':' :: value

mutual

/-- How a tree is spelled, without blanks around it. -/
def Tree.Spelled : Tree → List Char → Prop
  | .null, cs => cs = ['n', 'u', 'l', 'l']
  | .bool true, cs => cs = ['t', 'r', 'u', 'e']
  | .bool false, cs => cs = ['f', 'a', 'l', 's', 'e']
  | .number n, cs => n.Spelled cs
  | .string units, cs => LiteralSpelled units cs
  | .array items, cs => ∃ inner, ItemsSpelled items inner ∧ cs = '[' :: (inner ++ [']'])
  | .object members, cs =>
    ∃ inner, MembersSpelled members inner ∧ cs = '\x7b' :: (inner ++ ['\x7d'])

/-- How the items of an array are spelled, with commas between them. -/
def ItemsSpelled : List Tree → List Char → Prop
  | [], cs => Blanks cs
  | [item], cs => Padded item.Spelled cs
  | item :: next :: items, cs => ∃ first others, Padded item.Spelled first ∧
      ItemsSpelled (next :: items) others ∧ cs = first ++ ',' :: others

/-- How the members of an object are spelled, with commas between them. -/
def MembersSpelled : List (List StringUnit × Tree) → List Char → Prop
  | [], cs => Blanks cs
  | [(key, tree)], cs => MemberSpelled key tree.Spelled cs
  | (key, tree) :: next :: members, cs => ∃ first others, MemberSpelled key tree.Spelled first ∧
      MembersSpelled (next :: members) others ∧ cs = first ++ ',' :: others

end

/-! ## Blanks -/

theorem blanks_nil : Blanks [] := by
  simp [Blanks]

/-- What is said about a text holds with no blanks around it as well. -/
theorem padded_of {form : List Char → Prop} {cs : List Char} (h : form cs) : Padded form cs :=
  ⟨[], cs, [], blanks_nil, h, blanks_nil, by simp⟩

/-- No blanks are skipped before a character that is none. -/
theorem skipBlanks_cons {c : Char} (h : isBlank c = false) (cs : List Char) :
    skipBlanks (c :: cs) = c :: cs := by
  simp [skipBlanks, h]

/-- A text is its leading blanks and the rest. -/
theorem skipBlanks_split (cs : List Char) :
    ∃ blanks, Blanks blanks ∧ cs = blanks ++ skipBlanks cs :=
  ⟨cs.takeWhile isBlank, fun _ mem => List.mem_takeWhile_imp mem,
    List.takeWhile_append_dropWhile.symm⟩

/-- A text whose blanks are skipped is those blanks and what is left. -/
theorem eq_of_skipBlanks {cs rest : List Char} (h : skipBlanks cs = rest) :
    ∃ blanks, Blanks blanks ∧ cs = blanks ++ rest := by
  subst h
  exact skipBlanks_split cs

/-- Leading blanks are skipped. -/
theorem skipBlanks_append {blanks : List Char} (h : Blanks blanks) (rest : List Char) :
    skipBlanks (blanks ++ rest) = skipBlanks rest := by
  induction blanks with
  | nil => rfl
  | cons c blanks ih =>
    have first : isBlank c = true := h c List.mem_cons_self
    simpa [skipBlanks, first] using ih fun c mem => h c (List.mem_cons_of_mem _ mem)

/-- They are skipped up to a character that is none. -/
theorem skipBlanks_append_cons {blanks : List Char} (h : Blanks blanks) {c : Char}
    (other : isBlank c = false) (rest : List Char) :
    skipBlanks (blanks ++ c :: rest) = c :: rest := by
  rw [skipBlanks_append h, skipBlanks_cons other]

theorem skipBlanks_skipBlanks (cs : List Char) : skipBlanks (skipBlanks cs) = skipBlanks cs := by
  obtain ⟨blanks, all, split⟩ := skipBlanks_split cs
  conv => rhs; rw [split, skipBlanks_append all]

/-- Blanks do not go on with a numeral. -/
theorem numeralEnd_blanks {blanks rest : List Char} (h : Blanks blanks) (ends : NumeralEnd rest) :
    NumeralEnd (blanks ++ rest) := by
  cases blanks with
  | nil => exact ends
  | cons c blanks =>
    have blank : isBlank c = true := h c List.mem_cons_self
    simp only [isBlank, Bool.or_eq_true, decide_eq_true_eq] at blank
    apply numeralEnd_cons
    rcases blank with ((rfl | rfl) | rfl) | rfl <;> decide

/-- A reader of trees skips blanks itself. -/
theorem readTree_skipBlanks (steps : Nat) (cs : List Char) :
    readTree steps (skipBlanks cs) = readTree steps cs := by
  cases steps with
  | zero => rw [readTree, readTree]
  | succ steps => rw [readTree, readTree, skipBlanks_skipBlanks]

theorem readTree_blanks {blanks : List Char} (h : Blanks blanks) (steps : Nat) (cs : List Char) :
    readTree steps (blanks ++ cs) = readTree steps cs := by
  rw [← readTree_skipBlanks, skipBlanks_append h, readTree_skipBlanks]

theorem readItems_skipBlanks (steps : Nat) (cs : List Char) :
    readItems steps (skipBlanks cs) = readItems steps cs := by
  cases steps with
  | zero => rw [readItems, readItems]
  | succ steps => rw [readItems, readItems, readTree_skipBlanks]

theorem readMembers_skipBlanks (steps : Nat) (cs : List Char) :
    readMembers steps (skipBlanks cs) = readMembers steps cs := by
  cases steps with
  | zero => rw [readMembers, readMembers]
  | succ steps => rw [readMembers, readMembers, skipBlanks_skipBlanks]

/-! ## First characters -/

/-- The characters that a spelled tree can begin with. -/
def IsTreeStart (c : Char) : Prop :=
  isBlank c = false ∧ c ≠ ']' ∧ c ≠ '\x7d'

/-- A spelled tree begins with a character of its own. -/
theorem Tree.Spelled.eq_cons {tree : Tree} {cs : List Char} (h : tree.Spelled cs) :
    ∃ c tail, cs = c :: tail ∧ IsTreeStart c := by
  have digits : ∀ d : Digit, isBlank d.toChar = false ∧ d.toChar ≠ ']' ∧ d.toChar ≠ '\x7d' := by
    decide
  cases tree with
  | null =>
    rw [Tree.Spelled] at h
    exact ⟨_, _, h, by simp [IsTreeStart, isBlank]⟩
  | bool b =>
    cases b <;>
      · rw [Tree.Spelled] at h
        exact ⟨_, _, h, by simp [IsTreeStart, isBlank]⟩
  | number n =>
    rw [Tree.Spelled] at h
    obtain ⟨c, tail, first, rfl | ⟨d, rfl⟩⟩ := h.eq_cons
    · exact ⟨_, _, first, by simp [IsTreeStart, isBlank]⟩
    · exact ⟨_, _, first, digits d⟩
  | string units =>
    rw [Tree.Spelled] at h
    obtain ⟨inner, -, rfl⟩ := h
    exact ⟨_, _, rfl, by simp [IsTreeStart, isBlank]⟩
  | array items =>
    rw [Tree.Spelled] at h
    obtain ⟨inner, -, rfl⟩ := h
    exact ⟨_, _, rfl, by simp [IsTreeStart, isBlank]⟩
  | object members =>
    rw [Tree.Spelled] at h
    obtain ⟨inner, -, rfl⟩ := h
    exact ⟨_, _, rfl, by simp [IsTreeStart, isBlank]⟩

/-- The first item begins with a character of its own, after blanks. -/
theorem ItemsSpelled.skipBlanks_eq_cons {item : Tree} {items : List Tree} {inner : List Char}
    (h : ItemsSpelled (item :: items) inner) (rest : List Char) :
    ∃ c tail, skipBlanks (inner ++ rest) = c :: tail ∧ IsTreeStart c := by
  have first : ∃ text others, Padded item.Spelled text ∧ inner = text ++ others := by
    cases items with
    | nil => exact ⟨inner, [], by rwa [ItemsSpelled] at h, by simp⟩
    | cons next items =>
      rw [ItemsSpelled] at h
      obtain ⟨text, others, padded, -, rfl⟩ := h
      exact ⟨text, _, padded, rfl⟩
  obtain ⟨text, others, ⟨before, value, after, blank, spelled, -, rfl⟩, rfl⟩ := first
  obtain ⟨c, tail, rfl, start⟩ := spelled.eq_cons
  refine ⟨c, tail ++ (after ++ (others ++ rest)), ?_, start⟩
  simp only [List.append_assoc, List.cons_append]
  exact skipBlanks_append_cons blank start.1 _

/-- The name of the first member begins with a quote, after blanks. -/
theorem MembersSpelled.skipBlanks_eq_cons {member : List StringUnit × Tree}
    {members : List (List StringUnit × Tree)} {inner : List Char}
    (h : MembersSpelled (member :: members) inner) (rest : List Char) :
    ∃ tail, skipBlanks (inner ++ rest) = '"' :: tail := by
  obtain ⟨key, tree⟩ := member
  have first : ∃ text others, MemberSpelled key tree.Spelled text ∧ inner = text ++ others := by
    cases members with
    | nil => exact ⟨inner, [], by rwa [MembersSpelled] at h, by simp⟩
    | cons next members =>
      rw [MembersSpelled] at h
      obtain ⟨text, others, spelled, -, rfl⟩ := h
      exact ⟨text, _, spelled, rfl⟩
  obtain ⟨text, others, ⟨name, value, ⟨before, literal, after, blank, ⟨units, -, rfl⟩, -, rfl⟩,
    -, rfl⟩, rfl⟩ := first
  refine ⟨units ++ '"' :: (after ++ ':' :: (value ++ (others ++ rest))), ?_⟩
  simp only [List.append_assoc, List.cons_append, List.nil_append]
  exact skipBlanks_append_cons blank (by decide) _

/-! ## What is spelled is read -/

/-- A numeral is read where no other value begins. -/
theorem readTree_numeral {n : Numeral} {cs : List Char} (spelled : n.Spelled cs) (steps : Nat)
    {rest : List Char} (ends : NumeralEnd rest) :
    readTree (steps + 1) (cs ++ rest) = some (.number n, rest) := by
  have read := readNumeral_of_spelled spelled ends
  obtain ⟨c, tail, rfl, start⟩ := spelled.eq_cons
  have own : isBlank c = false ∧ c ≠ 'n' ∧ c ≠ 't' ∧ c ≠ 'f' ∧ c ≠ '"' ∧ c ≠ '[' ∧ c ≠ '\x7b' := by
    have digits : ∀ d : Digit, isBlank d.toChar = false ∧ d.toChar ≠ 'n' ∧ d.toChar ≠ 't' ∧
        d.toChar ≠ 'f' ∧ d.toChar ≠ '"' ∧ d.toChar ≠ '[' ∧ d.toChar ≠ '\x7b' := by decide
    rcases start with rfl | ⟨d, rfl⟩
    · decide
    · exact digits d
  rw [List.cons_append] at read ⊢
  rw [readTree.eq_def]
  simp only [skipBlanks_cons own.1]
  split <;> simp_all

/-- A name is read as it is spelled, up to the colon. -/
theorem readUnits_of_padded {key : List StringUnit} {name : List Char}
    (h : Padded (LiteralSpelled key) name) (rest : List Char) :
    ∃ tail after, skipBlanks (name ++ ':' :: rest) = '"' :: tail ∧
      readUnits tail = some (key, after) ∧ skipBlanks after = ':' :: rest := by
  obtain ⟨before, literal, after, first, ⟨units, spelled, rfl⟩, last, rfl⟩ := h
  refine ⟨units ++ '"' :: (after ++ ':' :: rest), _, ?_, readUnits_of_spelled spelled _,
    skipBlanks_append_cons last (by decide) rest⟩
  simp only [List.append_assoc, List.cons_append, List.nil_append]
  exact skipBlanks_append_cons first (by decide) _

/-- With this many steps the three readers of trees read what is spelled: a tree unless what follows
goes on with a numeral, items and members up to the closing mark. -/
structure ReadersComplete (steps : Nat) : Prop where
  tree : ∀ {tree : Tree} {value : List Char} (rest : List Char), tree.Spelled value →
    2 * value.length ≤ steps → NumeralEnd rest →
    readTree steps (value ++ rest) = some (tree, rest)
  items : ∀ {item items inner} (rest : List Char), ItemsSpelled (item :: items) inner →
    2 * inner.length + 1 ≤ steps →
    readItems steps (inner ++ ']' :: rest) = some (item :: items, rest)
  members : ∀ {member members inner} (rest : List Char), MembersSpelled (member :: members) inner →
    2 * inner.length + 1 ≤ steps →
    readMembers steps (inner ++ '\x7d' :: rest) = some (member :: members, rest)

/-- A mark that ends a value: no blank and no part of a numeral. -/
def IsMark (c : Char) : Prop :=
  isBlank c = false ∧ Digit.ofChar? c = none ∧ c ≠ '.' ∧ c ≠ 'e' ∧ c ≠ 'E'

instance (c : Char) : Decidable (IsMark c) :=
  inferInstanceAs (Decidable (_ ∧ _))

namespace ReadersComplete

variable {steps : Nat} {rest : List Char}

/-- A tree with blanks around it is read up to the mark that ends it. -/
theorem padded (ih : ReadersComplete steps) {tree : Tree} {text : List Char} {mark : Char}
    (h : Padded tree.Spelled text) (enough : 2 * text.length ≤ steps) (ends : IsMark mark)
    (rest : List Char) :
    ∃ after, readTree steps (text ++ mark :: rest) = some (tree, after) ∧
      skipBlanks after = mark :: rest := by
  obtain ⟨before, value, after, first, spelled, last, rfl⟩ := h
  simp only [List.length_append] at enough
  refine ⟨after ++ mark :: rest, ?_, skipBlanks_append_cons last ends.1 rest⟩
  rw [List.append_assoc, List.append_assoc, readTree_blanks first]
  exact ih.tree _ spelled (by omega) (numeralEnd_blanks last (numeralEnd_cons ends.2 rest))

/-- An array is read if its items are. -/
theorem readTree_array (ih : ReadersComplete steps) {items : List Tree} {inner : List Char}
    (spelled : ItemsSpelled items inner) (enough : 2 * inner.length + 1 ≤ steps) :
    readTree (steps + 1) ('[' :: (inner ++ ']' :: rest)) = some (.array items, rest) := by
  simp only [readTree]
  rw [skipBlanks_cons (by decide)]
  cases items with
  | nil =>
    rw [ItemsSpelled] at spelled
    simp only [skipBlanks_append_cons spelled (show isBlank ']' = false by decide)]
  | cons item items =>
    have read := ih.items rest spelled enough
    rw [← readItems_skipBlanks] at read
    obtain ⟨c, tail, first, start⟩ := spelled.skipBlanks_eq_cons (']' :: rest)
    simp only
    split
    · next closed =>
      rw [first] at closed
      exact absurd (List.cons.inj closed).1 start.2.1
    · rw [read, Option.map_some]

/-- An object is read if its members are. -/
theorem readTree_object (ih : ReadersComplete steps) {members : List (List StringUnit × Tree)}
    {inner : List Char} (spelled : MembersSpelled members inner)
    (enough : 2 * inner.length + 1 ≤ steps) :
    readTree (steps + 1) ('\x7b' :: (inner ++ '\x7d' :: rest)) = some (.object members, rest) := by
  simp only [readTree]
  rw [skipBlanks_cons (by decide)]
  cases members with
  | nil =>
    rw [MembersSpelled] at spelled
    simp only [skipBlanks_append_cons spelled (show isBlank '\x7d' = false by decide)]
  | cons member members =>
    have read := ih.members rest spelled enough
    rw [← readMembers_skipBlanks] at read
    obtain ⟨tail, first⟩ := spelled.skipBlanks_eq_cons ('\x7d' :: rest)
    simp only
    split
    · next closed =>
      rw [first] at closed
      exact absurd (List.cons.inj closed).1 (by decide)
    · rw [read, Option.map_some]

theorem readTree_succ (ih : ReadersComplete steps) {tree : Tree} {value : List Char}
    (spelled : tree.Spelled value) (enough : 2 * value.length ≤ steps + 1)
    (ends : NumeralEnd rest) : readTree (steps + 1) (value ++ rest) = some (tree, rest) := by
  cases tree with
  | null =>
    rw [Tree.Spelled] at spelled
    simp [spelled, readTree, skipBlanks, isBlank]
  | bool b =>
    cases b <;>
      · rw [Tree.Spelled] at spelled
        simp [spelled, readTree, skipBlanks, isBlank]
  | number n =>
    rw [Tree.Spelled] at spelled
    exact readTree_numeral spelled steps ends
  | string units =>
    rw [Tree.Spelled] at spelled
    obtain ⟨inner, units, rfl⟩ := spelled
    simp only [List.append_assoc, List.cons_append, List.nil_append, readTree]
    rw [skipBlanks_cons (by decide)]
    simp only [readUnits_of_spelled units, Option.map_some]
  | array items =>
    rw [Tree.Spelled] at spelled
    obtain ⟨inner, spelled, rfl⟩ := spelled
    simp only [List.length_cons, List.length_append, List.length_nil] at enough
    simp only [List.append_assoc, List.cons_append, List.nil_append]
    exact ih.readTree_array spelled (by omega)
  | object members =>
    rw [Tree.Spelled] at spelled
    obtain ⟨inner, spelled, rfl⟩ := spelled
    simp only [List.length_cons, List.length_append, List.length_nil] at enough
    simp only [List.append_assoc, List.cons_append, List.nil_append]
    exact ih.readTree_object spelled (by omega)

theorem readItems_succ (ih : ReadersComplete steps) {item : Tree} {items : List Tree}
    {inner : List Char} (spelled : ItemsSpelled (item :: items) inner)
    (enough : 2 * inner.length + 1 ≤ steps + 1) :
    readItems (steps + 1) (inner ++ ']' :: rest) = some (item :: items, rest) := by
  cases items with
  | nil =>
    rw [ItemsSpelled] at spelled
    obtain ⟨after, read, closed⟩ := ih.padded spelled (by omega) (show IsMark ']' by decide) rest
    simp only [readItems, read, closed, Option.bind_eq_bind, Option.bind_some, Option.pure_def]
  | cons next items =>
    rw [ItemsSpelled] at spelled
    obtain ⟨first, others, own, more, rfl⟩ := spelled
    simp only [List.length_append, List.length_cons] at enough
    obtain ⟨after, read, comma⟩ :=
      ih.padded own (by omega) (show IsMark ',' by decide) (others ++ ']' :: rest)
    simp only [List.append_assoc, List.cons_append, readItems, read, comma, ih.items rest more
      (by omega), Option.bind_eq_bind, Option.bind_some, Option.pure_def]

theorem readMembers_succ (ih : ReadersComplete steps) {member : List StringUnit × Tree}
    {members : List (List StringUnit × Tree)} {inner : List Char}
    (spelled : MembersSpelled (member :: members) inner)
    (enough : 2 * inner.length + 1 ≤ steps + 1) :
    readMembers (steps + 1) (inner ++ '\x7d' :: rest) = some (member :: members, rest) := by
  obtain ⟨key, tree⟩ := member
  cases members with
  | nil =>
    rw [MembersSpelled] at spelled
    obtain ⟨name, value, named, own, rfl⟩ := spelled
    simp only [List.length_append, List.length_cons] at enough
    obtain ⟨after, read, closed⟩ :=
      ih.padded own (by omega) (show IsMark '\x7d' by decide) rest
    obtain ⟨tail, behind, quote, units, colon⟩ :=
      readUnits_of_padded named (value ++ '\x7d' :: rest)
    simp only [List.append_assoc, List.cons_append, readMembers, quote, units, colon, read, closed,
      Option.bind_eq_bind, Option.bind_some, Option.pure_def]
  | cons next members =>
    rw [MembersSpelled] at spelled
    obtain ⟨_, others, ⟨name, value, named, own, rfl⟩, more, rfl⟩ := spelled
    simp only [List.length_append, List.length_cons] at enough
    obtain ⟨after, read, comma⟩ :=
      ih.padded own (by omega) (show IsMark ',' by decide) (others ++ '\x7d' :: rest)
    obtain ⟨tail, behind, quote, units, colon⟩ :=
      readUnits_of_padded named (value ++ ',' :: (others ++ '\x7d' :: rest))
    simp only [List.append_assoc, List.cons_append, readMembers, quote, units, colon, read, comma,
      ih.members rest more (by omega), Option.bind_eq_bind, Option.bind_some, Option.pure_def]

end ReadersComplete

/-- The three readers of trees read what is spelled. -/
theorem readersComplete (steps : Nat) : ReadersComplete steps := by
  induction steps with
  | zero =>
    refine ⟨fun rest spelled enough => ?_, fun _ _ enough => ?_, fun _ _ enough => ?_⟩
    -- A spelled tree is never empty, so it is granted a step.
    · obtain ⟨c, tail, rfl, -⟩ := spelled.eq_cons
      simp at enough
    · omega
    · omega
  | succ steps ih =>
    exact ⟨fun _ => ih.readTree_succ, fun _ => ih.readItems_succ, fun _ => ih.readMembers_succ⟩

/-! ## What is read is spelled -/

/-- With this many steps the three readers of trees return only what is spelled. -/
structure ReadersSound (steps : Nat) : Prop where
  tree : ∀ {cs rest tree}, readTree steps cs = some (tree, rest) →
    ∃ before value, Blanks before ∧ tree.Spelled value ∧ cs = before ++ (value ++ rest)
  items : ∀ {cs rest items}, readItems steps cs = some (items, rest) →
    items ≠ [] ∧ ∃ inner, ItemsSpelled items inner ∧ cs = inner ++ ']' :: rest
  members : ∀ {cs rest members}, readMembers steps cs = some (members, rest) →
    members ≠ [] ∧ ∃ inner, MembersSpelled members inner ∧ cs = inner ++ '\x7d' :: rest

namespace ReadersSound

variable {steps : Nat} {cs rest : List Char}

/-- What a reader of trees returns after a first character is spelled with it. -/
theorem spelled_of_front {tree : Tree} {front : List Char} (eq : skipBlanks cs = front)
    (h : ∃ value, tree.Spelled value ∧ front = value ++ rest) :
    ∃ before value, Blanks before ∧ tree.Spelled value ∧ cs = before ++ (value ++ rest) := by
  obtain ⟨before, blank, rfl⟩ := eq_of_skipBlanks eq
  obtain ⟨value, spelled, rfl⟩ := h
  exact ⟨before, value, blank, spelled, rfl⟩

theorem readTree_succ (ih : ReadersSound steps) {tree : Tree}
    (h : readTree (steps + 1) cs = some (tree, rest)) :
    ∃ before value, Blanks before ∧ tree.Spelled value ∧ cs = before ++ (value ++ rest) := by
  unfold readTree at h
  split at h
  iterate 3
    · next eq =>
      cases h
      exact spelled_of_front eq ⟨_, by rw [Tree.Spelled], rfl⟩
  · next tail eq =>
    obtain ⟨⟨units, after⟩, read, same⟩ := Option.map_eq_some_iff.1 h
    cases same
    obtain ⟨inner, spelled, rfl⟩ := spelled_of_readUnits read
    refine spelled_of_front eq ⟨'"' :: (inner ++ ['"']), ?_, by simp⟩
    rw [Tree.Spelled]
    exact ⟨inner, spelled, rfl⟩
  · next tail eq =>
    split at h
    · next closed =>
      cases h
      obtain ⟨blanks, blank, rfl⟩ := eq_of_skipBlanks closed
      refine spelled_of_front eq ⟨'[' :: (blanks ++ [']']), ?_, by simp⟩
      rw [Tree.Spelled]
      exact ⟨blanks, by rwa [ItemsSpelled], rfl⟩
    · obtain ⟨⟨items, after⟩, read, same⟩ := Option.map_eq_some_iff.1 h
      cases same
      rw [readItems_skipBlanks] at read
      obtain ⟨-, inner, spelled, rfl⟩ := ih.items read
      refine spelled_of_front eq ⟨'[' :: (inner ++ [']']), ?_, by simp⟩
      rw [Tree.Spelled]
      exact ⟨inner, spelled, rfl⟩
  · next tail eq =>
    split at h
    · next closed =>
      cases h
      obtain ⟨blanks, blank, rfl⟩ := eq_of_skipBlanks closed
      refine spelled_of_front eq ⟨'\x7b' :: (blanks ++ ['\x7d']), ?_, by simp⟩
      rw [Tree.Spelled]
      exact ⟨blanks, by rwa [MembersSpelled], rfl⟩
    · obtain ⟨⟨members, after⟩, read, same⟩ := Option.map_eq_some_iff.1 h
      cases same
      rw [readMembers_skipBlanks] at read
      obtain ⟨-, inner, spelled, rfl⟩ := ih.members read
      refine spelled_of_front eq ⟨'\x7b' :: (inner ++ ['\x7d']), ?_, by simp⟩
      rw [Tree.Spelled]
      exact ⟨inner, spelled, rfl⟩
  · obtain ⟨⟨n, after⟩, read, same⟩ := Option.map_eq_some_iff.1 h
    cases same
    obtain ⟨value, spelled, split⟩ := spelled_of_readNumeral read
    exact spelled_of_front rfl ⟨value, by rwa [Tree.Spelled], split⟩

theorem readItems_succ (ih : ReadersSound steps) {items : List Tree}
    (h : readItems (steps + 1) cs = some (items, rest)) :
    items ≠ [] ∧ ∃ inner, ItemsSpelled items inner ∧ cs = inner ++ ']' :: rest := by
  simp only [readItems, Option.bind_eq_bind, Option.bind_eq_some_iff] at h
  obtain ⟨⟨item, behind⟩, read, h⟩ := h
  obtain ⟨before, value, first, spelled, rfl⟩ := ih.tree read
  split at h
  · next closed =>
    cases h
    obtain ⟨after, last, rfl⟩ := eq_of_skipBlanks closed
    refine ⟨List.cons_ne_nil _ _, before ++ (value ++ after), ?_, by simp⟩
    rw [ItemsSpelled]
    exact ⟨before, value, after, first, spelled, last, rfl⟩
  · next comma =>
    simp only [Option.bind_eq_some_iff, Option.pure_def, Option.some.injEq, Prod.mk.injEq] at h
    obtain ⟨⟨others, final⟩, more, rfl, rfl⟩ := h
    obtain ⟨after, last, rfl⟩ := eq_of_skipBlanks comma
    obtain ⟨filled, inner, spelledOthers, rfl⟩ := ih.items more
    refine ⟨List.cons_ne_nil _ _, (before ++ (value ++ after)) ++ ',' :: inner, ?_, by simp⟩
    cases others with
    | nil => exact absurd rfl filled
    | cons next others =>
      rw [ItemsSpelled]
      exact ⟨_, inner, ⟨before, value, after, first, spelled, last, rfl⟩, spelledOthers, rfl⟩
  · cases h

theorem readMembers_succ (ih : ReadersSound steps) {members : List (List StringUnit × Tree)}
    (h : readMembers (steps + 1) cs = some (members, rest)) :
    members ≠ [] ∧ ∃ inner, MembersSpelled members inner ∧ cs = inner ++ '\x7d' :: rest := by
  unfold readMembers at h
  split at h
  case h_2 => cases h
  next tail opened =>
  obtain ⟨opening, first, rfl⟩ := eq_of_skipBlanks opened
  simp only [Option.bind_eq_bind, Option.bind_eq_some_iff] at h
  obtain ⟨⟨key, behind⟩, read, h⟩ := h
  obtain ⟨units, spelledKey, rfl⟩ := spelled_of_readUnits read
  split at h
  case h_2 => cases h
  next tail colon =>
  obtain ⟨between, second, rfl⟩ := eq_of_skipBlanks colon
  simp only [Option.bind_eq_some_iff] at h
  obtain ⟨⟨tree, behind⟩, value, h⟩ := h
  obtain ⟨before, text, third, spelled, rfl⟩ := ih.tree value
  have named : Padded (LiteralSpelled key) (opening ++ ('"' :: (units ++ ['"']) ++ between)) :=
    ⟨opening, _, between, first, ⟨units, spelledKey, rfl⟩, second, rfl⟩
  split at h
  · next closed =>
    cases h
    obtain ⟨after, last, rfl⟩ := eq_of_skipBlanks closed
    refine ⟨List.cons_ne_nil _ _, (opening ++ ('"' :: (units ++ ['"']) ++ between))
      ++ ':' :: (before ++ (text ++ after)), ?_, by simp⟩
    rw [MembersSpelled]
    exact ⟨_, _, named, ⟨before, text, after, third, spelled, last, rfl⟩, rfl⟩
  · next comma =>
    simp only [Option.bind_eq_some_iff, Option.pure_def, Option.some.injEq, Prod.mk.injEq] at h
    obtain ⟨⟨others, final⟩, more, rfl, rfl⟩ := h
    obtain ⟨after, last, rfl⟩ := eq_of_skipBlanks comma
    obtain ⟨filled, inner, spelledOthers, rfl⟩ := ih.members more
    refine ⟨List.cons_ne_nil _ _, ((opening ++ ('"' :: (units ++ ['"']) ++ between))
      ++ ':' :: (before ++ (text ++ after))) ++ ',' :: inner, ?_, by simp⟩
    cases others with
    | nil => exact absurd rfl filled
    | cons next others =>
      rw [MembersSpelled]
      exact ⟨_, inner, ⟨_, _, named, ⟨before, text, after, third, spelled, last, rfl⟩, rfl⟩,
        spelledOthers, rfl⟩
  · cases h

end ReadersSound

/-- The three readers of trees return only what is spelled. -/
theorem readersSound (steps : Nat) : ReadersSound steps := by
  induction steps with
  | zero => constructor <;> simp [readTree, readItems, readMembers]
  | succ steps ih => exact ⟨ih.readTree_succ, ih.readItems_succ, ih.readMembers_succ⟩

/-- A text is read as a tree exactly if it spells that tree, with blanks around it. -/
theorem Tree.parse?_eq_some_iff {cs : List Char} {tree : Tree} :
    Tree.parse? cs = some tree ↔ Padded tree.Spelled cs := by
  constructor
  · intro h
    unfold Tree.parse? at h
    split at h
    · next read =>
      split at h
      · next blank =>
        cases h
        obtain ⟨before, value, first, spelled, rfl⟩ := (readersSound _).tree read
        exact ⟨before, value, _, first, spelled, List.all_eq_true.1 blank, rfl⟩
      · cases h
    · cases h
  · rintro ⟨before, value, after, first, spelled, last, rfl⟩
    have ends : NumeralEnd after := by
      simpa using numeralEnd_blanks last numeralEnd_nil
    have read := (readersComplete (2 * (before ++ (value ++ after)).length + 2)).tree after spelled
      (by simp; omega) ends
    unfold Tree.parse?
    rw [readTree_blanks first, read]
    simp only [if_pos (List.all_eq_true.2 last)]

end LiveThread.Json
