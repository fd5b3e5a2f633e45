import LiveThread.Proofs.Json.Printed
import LiveThread.Json.Record

/-!
# Documents and their trees

A value without doubles is read back from its tree by a reader that may open as
many levels as the value has; and whatever a reader returns has no more levels
than it might open.

Main results:

- Definition `Value.levels`: how deep arrays and objects stand inside each other.
- Definition `Value.Integral`: no number of the value is a double.
- Theorem `Value.ofTree?_toTree`: a value is read back from its tree.
- Theorem `Value.levels_le_of_ofTree?`: no value is deeper than its reader allows.
- Theorem `Value.printable_toTree`: the tree of a value may be printed.
-/

namespace LiveThread.Json

/-! ## Levels -/

mutual

/-- How many arrays and objects stand inside each other in a value. -/
def Value.levels : Value → Nat
  | .array items => valueItemLevels items + 1
  | .object members => valueMemberLevels members + 1
  | _ => 0

/-- The levels of the deepest item. -/
def valueItemLevels : List Value → Nat
  | [] => 0
  | item :: items => max item.levels (valueItemLevels items)

/-- The levels of the deepest member. -/
def valueMemberLevels : List (String × Value) → Nat
  | [] => 0
  | (_, value) :: members => max value.levels (valueMemberLevels members)

end

/-! ## Values without doubles -/

mutual

/-- No number in the value is a double. -/
def Value.Integral : Value → Prop
  | .number (.double _) => False
  | .array items => IntegralItems items
  | .object members => IntegralMembers members
  | _ => True

/-- Every item is integral. -/
def IntegralItems : List Value → Prop
  | [] => True
  | item :: items => item.Integral ∧ IntegralItems items

/-- The value of every member is integral. -/
def IntegralMembers : List (String × Value) → Prop
  | [] => True
  | (_, value) :: members => value.Integral ∧ IntegralMembers members

end

/-- An integer in range is the number of its numeral. -/
theorem Number.ofNumeral?_ofInt {n : Int} (h : IsWord n) :
    Number.ofNumeral? (Numeral.ofInt n) = some (.integer n h) := by
  simp [Number.ofNumeral?, h]

/-- A member whose name comes after all others is put at the end. -/
theorem putMember_of_forall_lt {name : String} (value : Value) {members : List (String × Value)}
    (h : ∀ other ∈ members.map Prod.fst, other < name) :
    putMember name value members = members ++ [(name, value)] := by
  induction members with
  | nil => rfl
  | cons member members ih =>
    obtain ⟨other, kept⟩ := member
    have before : other < name := h other (by simp)
    have notBefore : ¬ name < other := String.lt_asymm before
    have notSame : name ≠ other := fun e => String.lt_irrefl name (e ▸ before)
    unfold putMember
    rw [if_neg notBefore, if_neg notSame, ih fun o mem => h o (by simp [mem])]
    rfl

mutual

/-- A value without doubles is read back from its tree. -/
theorem Value.ofTree?_toTree {room : Nat} : (value : Value) → value.Ordered → value.Integral →
    value.levels ≤ room → Value.ofTree? room value.toTree = some value
  | .null, _, _, _ => rfl
  | .bool _, _, _, _ => rfl
  | .number (.integer n isWord), _, _, _ => by
    simp only [Value.toTree, Number.numeral, Value.ofTree?, Number.ofNumeral?_ofInt isWord,
      Option.map_some]
  | .number (.double x), _, integral, _ => by
    simp [Value.Integral] at integral
  | .string text, _, _, _ => by
    simp [Value.toTree, Tree.ofString, Value.ofTree?]
  | .array items, ordered, integral, fits => by
    simp only [Value.Ordered] at ordered
    simp only [Value.Integral] at integral
    simp only [Value.levels] at fits
    cases room with
    | zero => simp at fits
    | succ room =>
      simp only [Value.toTree, Value.ofTree?,
        itemsOf?_itemTrees items ordered integral (Nat.le_of_succ_le_succ fits), Option.map_some]
  | .object members, ordered, integral, fits => by
    simp only [Value.Ordered] at ordered
    simp only [Value.Integral] at integral
    simp only [Value.levels] at fits
    cases room with
    | zero => simp at fits
    | succ room =>
      have read := membersOf?_memberTrees members [] (by simpa using ordered.1) ordered.2 integral
        (Nat.le_of_succ_le_succ fits)
      simp only [Value.toTree, Value.ofTree?, read, Option.map_some, List.nil_append]

theorem itemsOf?_itemTrees {room : Nat} : (items : List Value) → OrderedItems items →
    IntegralItems items → valueItemLevels items ≤ room →
    itemsOf? room (itemTrees items) = some items
  | [], _, _, _ => rfl
  | item :: items, ordered, integral, fits => by
    simp only [valueItemLevels, Nat.max_le] at fits
    simp only [itemTrees, itemsOf?, Option.bind_eq_bind,
      Value.ofTree?_toTree item ordered.1 integral.1 fits.1, Option.bind_some,
      itemsOf?_itemTrees items ordered.2 integral.2 fits.2, Option.pure_def]

theorem membersOf?_memberTrees {room : Nat} : (members : List (String × Value)) →
    (read : List (String × Value)) → Ascending (read ++ members) → OrderedMembers members →
    IntegralMembers members → valueMemberLevels members ≤ room →
    membersOf? room (memberTrees members) read = some (read ++ members)
  | [], read, _, _, _, _ => by simp [memberTrees, membersOf?]
  | (name, value) :: members, read, ascending, ordered, integral, fits => by
    simp only [valueMemberLevels, Nat.max_le] at fits
    have last : ∀ other ∈ read.map Prod.fst, other < name := by
      intro other mem
      unfold Ascending at ascending
      rw [List.map_append, List.pairwise_append] at ascending
      exact ascending.2.2 other mem name (by simp)
    have rest := membersOf?_memberTrees members (read ++ [(name, value)])
      (by simpa using ascending) ordered.2 integral.2 fits.2
    simp only [memberTrees, membersOf?, text?_unitsOf, Option.bind_eq_bind, Option.bind_some,
      Value.ofTree?_toTree value ordered.1 integral.1 fits.1, putMember_of_forall_lt value last,
      rest, List.append_assoc, List.singleton_append]

end

/-! ## No value is deeper than its reader allows -/

theorem valueMemberLevels_putMember_le (name : String) (value : Value)
    (members : List (String × Value)) :
    valueMemberLevels (putMember name value members)
      ≤ max value.levels (valueMemberLevels members) := by
  induction members with
  | nil => simp [putMember, valueMemberLevels]
  | cons member members ih =>
    obtain ⟨other, kept⟩ := member
    unfold putMember
    split
    · simp [valueMemberLevels]
    · split <;> simp only [valueMemberLevels] <;> omega

mutual

/-- No value is deeper than its reader allows. -/
theorem Value.levels_le_of_ofTree? {room : Nat} {value : Value} : (tree : Tree) →
    Value.ofTree? room tree = some value → value.levels ≤ room
  | .null, h | .bool _, h => by
    simp only [Value.ofTree?, Option.some.injEq] at h
    subst h
    simp [Value.levels]
  | .number _, h | .string _, h => by
    obtain ⟨_, _, rfl⟩ := Option.map_eq_some_iff.1 (by simpa only [Value.ofTree?] using h)
    simp [Value.levels]
  | .array items, h => by
    cases room with
    | zero => simp [Value.ofTree?] at h
    | succ room =>
      simp only [Value.ofTree?, Option.map_eq_some_iff] at h
      obtain ⟨values, read, rfl⟩ := h
      simpa [Value.levels] using levels_le_of_itemsOf? items read
  | .object members, h => by
    cases room with
    | zero => simp [Value.ofTree?] at h
    | succ room =>
      simp only [Value.ofTree?, Option.map_eq_some_iff] at h
      obtain ⟨values, read, rfl⟩ := h
      simpa [Value.levels] using levels_le_of_membersOf? members (Nat.zero_le _) read

theorem levels_le_of_itemsOf? {room : Nat} {values : List Value} : (items : List Tree) →
    itemsOf? room items = some values → valueItemLevels values ≤ room
  | [], h => by
    simp only [itemsOf?, Option.some.injEq] at h
    subst h
    simp [valueItemLevels]
  | item :: items, h => by
    simp only [itemsOf?, Option.bind_eq_bind, Option.bind_eq_some_iff, Option.pure_def,
      Option.some.injEq] at h
    obtain ⟨value, first, others, rest, rfl⟩ := h
    exact Nat.max_le.2 ⟨Value.levels_le_of_ofTree? item first, levels_le_of_itemsOf? items rest⟩

theorem levels_le_of_membersOf? {room : Nat} {read values : List (String × Value)} :
    (members : List (List StringUnit × Tree)) → valueMemberLevels read ≤ room →
    membersOf? room members read = some values → valueMemberLevels values ≤ room
  | [], fits, h => by
    simp only [membersOf?, Option.some.injEq] at h
    exact h ▸ fits
  | (key, tree) :: members, fits, h => by
    simp only [membersOf?, Option.bind_eq_bind, Option.bind_eq_some_iff] at h
    obtain ⟨name, -, value, first, rest⟩ := h
    have shallow := Value.levels_le_of_ofTree? tree first
    have put := valueMemberLevels_putMember_le name value read
    exact levels_le_of_membersOf? members (by omega) rest

end

/-! ## Documents -/

namespace Document

/-- A document without doubles is read back from its tree. -/
theorem ofTree?_toTree {document : Document} {room : Nat} (integral : document.value.Integral)
    (fits : document.value.levels ≤ room) :
    Document.ofTree? room document.toTree = some document := by
  have read := Value.ofTree?_toTree document.value document.ordered integral fits
  unfold Document.ofTree? toTree
  split
  · next value found =>
    have same : value = document.value := Option.some.inj (found.symm.trans read)
    subst same
    rfl
  · next missing => rw [read] at missing; cases missing

/-- No document is deeper than its reader allows. -/
theorem levels_le_of_ofTree? {document : Document} {room : Nat} {tree : Tree}
    (h : Document.ofTree? room tree = some document) : document.value.levels ≤ room := by
  unfold Document.ofTree? at h
  split at h
  · next value found =>
    cases h
    exact Value.levels_le_of_ofTree? tree found
  · cases h

end Document

/-! ## The trees of values may be printed -/

/-- The literal of a text may be printed. -/
theorem printable_unitsOf (text : String) : ∀ u ∈ unitsOf text, u.Printable := by
  intro u mem
  obtain ⟨c, -, rfl⟩ := List.mem_map.1 mem
  exact StringUnit.printable_ofChar c

mutual

/-- The tree of a value may be printed. -/
theorem Value.printable_toTree : (value : Value) → value.toTree.Printable
  | .null | .bool _ | .number _ => by simp [Value.toTree, Tree.Printable]
  | .string text => by
    simp only [Value.toTree, Tree.ofString, Tree.Printable]
    exact printable_unitsOf text
  | .array items => by
    simp only [Value.toTree, Tree.Printable]
    exact printable_itemTrees items
  | .object members => by
    simp only [Value.toTree, Tree.Printable]
    exact printable_memberTrees members

theorem printable_itemTrees : (items : List Value) → PrintableItems (itemTrees items)
  | [] => trivial
  | item :: items => ⟨Value.printable_toTree item, printable_itemTrees items⟩

theorem printable_memberTrees : (members : List (String × Value)) →
    PrintableMembers (memberTrees members)
  | [] => trivial
  | (name, value) :: members =>
    ⟨printable_unitsOf name, Value.printable_toTree value, printable_memberTrees members⟩

end

end LiveThread.Json
