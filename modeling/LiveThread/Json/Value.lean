import LiveThread.Json.Number

/-!
# Values

The value of a tree: escapes are resolved, numbers are in range, objects hold
each name once and list their members by name.  A value may be nested only so
deep; how many levels are left is counted down while it is read.

Main results:

- Definition `Value.ofTree?`: the value of a tree.
- Theorem `Value.ofTree?_ordered`: its objects list their members in ascending order.
- Definition `Document`: a value with that property.
-/

namespace LiveThread.Json

/-! ## Values and their order -/

/-- A JSON value. -/
inductive Value where
  | null
  | bool (b : Bool)
  | number (n : Number)
  | string (text : String)
  | array (items : List Value)
  | object (members : List (String × Value))

/-- Members are in ascending order of their names, each name once. -/
def Ascending (members : List (String × Value)) : Prop :=
  (members.map Prod.fst).Pairwise (· < ·)

mutual

/-- Every object in the value has its members in ascending order. -/
def Value.Ordered : Value → Prop
  | .array items => OrderedItems items
  | .object members => Ascending members ∧ OrderedMembers members
  | _ => True

/-- Every item is ordered. -/
def OrderedItems : List Value → Prop
  | [] => True
  | item :: items => item.Ordered ∧ OrderedItems items

/-- The value of every member is ordered. -/
def OrderedMembers : List (String × Value) → Prop
  | [] => True
  | (_, value) :: members => value.Ordered ∧ OrderedMembers members

end

/-- Puts a member in its place; a later member replaces an earlier one of the same name. -/
def putMember (name : String) (value : Value) : List (String × Value) → List (String × Value)
  | [] => [(name, value)]
  | (other, kept) :: members =>
    if name < other then (name, value) :: (other, kept) :: members
    else if name = other then (name, value) :: members
    else (other, kept) :: putMember name value members

/-! ## From trees -/

mutual

/-- The value of a tree with at most `room` levels of arrays and objects inside each other. -/
def Value.ofTree? (room : Nat) : Tree → Option Value
  | .null => some .null
  | .bool b => some (.bool b)
  | .number n => (Number.ofNumeral? n).map .number
  | .string units => (text? units).map .string
  | .array items =>
    match room with
    | 0 => none
    | room + 1 => (itemsOf? room items).map .array
  | .object members =>
    match room with
    | 0 => none
    | room + 1 => (membersOf? room members []).map .object

/-- The values of the items of an array. -/
def itemsOf? (room : Nat) : List Tree → Option (List Value)
  | [] => some []
  | item :: items => do
    let item ← Value.ofTree? room item
    let items ← itemsOf? room items
    return item :: items

/-- Puts the members of an object into those read before. -/
def membersOf? (room : Nat) :
    List (List StringUnit × Tree) → List (String × Value) → Option (List (String × Value))
  | [], read => some read
  | (key, tree) :: members, read => do
    let name ← text? key
    let value ← Value.ofTree? room tree
    membersOf? room members (putMember name value read)

end

/-! ## The order of what is read -/

theorem mem_names_putMember {name other : String} {value : Value}
    {members : List (String × Value)}
    (h : other ∈ (putMember name value members).map Prod.fst) :
    other = name ∨ other ∈ members.map Prod.fst := by
  induction members with
  | nil => simpa [putMember] using h
  | cons member members ih =>
    obtain ⟨kept, old⟩ := member
    unfold putMember at h
    split at h
    · simpa using h
    · split at h
      · simp only [List.map_cons, List.mem_cons] at h ⊢
        exact h.imp_right .inr
      · simp only [List.map_cons, List.mem_cons] at h ⊢
        rcases h with h | h
        · exact .inr (.inl h)
        · exact (ih h).imp_right .inr

/-- Putting a member keeps the order. -/
theorem ascending_putMember (name : String) (value : Value) {members : List (String × Value)}
    (h : Ascending members) : Ascending (putMember name value members) := by
  induction members with
  | nil => simp [putMember, Ascending]
  | cons member members ih =>
    obtain ⟨kept, old⟩ := member
    simp only [Ascending, List.map_cons, List.pairwise_cons] at h
    unfold putMember
    split
    · next before =>
      simp only [Ascending, List.map_cons, List.pairwise_cons, List.mem_cons]
      refine ⟨?_, h.1, h.2⟩
      rintro other (rfl | later)
      · exact before
      · exact String.lt_trans before (h.1 other later)
    · split
      · next same =>
        subst same
        simpa only [Ascending, List.map_cons, List.pairwise_cons] using h
      · next notBefore notSame =>
        have after : kept < name := Std.lt_of_le_of_ne (Std.not_lt.1 notBefore) (Ne.symm notSame)
        simp only [Ascending, List.map_cons, List.pairwise_cons]
        refine ⟨fun other later => ?_, ih h.2⟩
        rcases mem_names_putMember later with rfl | later
        · exact after
        · exact h.1 other later

theorem orderedMembers_putMember (name : String) {value : Value} (hv : value.Ordered)
    {members : List (String × Value)} (h : OrderedMembers members) :
    OrderedMembers (putMember name value members) := by
  induction members with
  | nil => exact ⟨hv, trivial⟩
  | cons member members ih =>
    obtain ⟨kept, old⟩ := member
    unfold putMember
    split
    · exact ⟨hv, h⟩
    · split
      · exact ⟨hv, h.2⟩
      · exact ⟨h.1, ih h.2⟩

mutual

/-- What is read from a tree is ordered. -/
theorem Value.ofTree?_ordered {room : Nat} {value : Value} :
    (tree : Tree) → Value.ofTree? room tree = some value → value.Ordered
  | .null, h => by simp [Value.ofTree?] at h; subst h; simp [Value.Ordered]
  | .bool b, h => by simp [Value.ofTree?] at h; subst h; simp [Value.Ordered]
  | .number n, h => by
    obtain ⟨_, _, rfl⟩ := Option.map_eq_some_iff.1 (by simpa [Value.ofTree?] using h)
    simp [Value.Ordered]
  | .string units, h => by
    obtain ⟨_, _, rfl⟩ := Option.map_eq_some_iff.1 (by simpa [Value.ofTree?] using h)
    simp [Value.Ordered]
  | .array items, h => by
    cases room with
    | zero => simp [Value.ofTree?] at h
    | succ room =>
      simp only [Value.ofTree?, Option.map_eq_some_iff] at h
      obtain ⟨values, read, rfl⟩ := h
      simpa [Value.Ordered] using itemsOf?_ordered items read
  | .object members, h => by
    cases room with
    | zero => simp [Value.ofTree?] at h
    | succ room =>
      simp only [Value.ofTree?, Option.map_eq_some_iff] at h
      obtain ⟨values, read, rfl⟩ := h
      simpa [Value.Ordered] using
        membersOf?_ordered members (by simp [Ascending]) (by simp [OrderedMembers]) read

/-- The items of an array are ordered. -/
theorem itemsOf?_ordered {room : Nat} {values : List Value} :
    (items : List Tree) → itemsOf? room items = some values → OrderedItems values
  | [], h => by simp [itemsOf?] at h; subst h; simp [OrderedItems]
  | item :: items, h => by
    simp only [itemsOf?, Option.bind_eq_bind, Option.bind_eq_some_iff, Option.pure_def,
      Option.some.injEq] at h
    obtain ⟨v, hv, vs, hvs, rfl⟩ := h
    exact ⟨Value.ofTree?_ordered item hv, itemsOf?_ordered items hvs⟩

/-- The members of an object are ordered, and so are their values. -/
theorem membersOf?_ordered {room : Nat} {read values : List (String × Value)} :
    (members : List (List StringUnit × Tree)) → Ascending read → OrderedMembers read →
      membersOf? room members read = some values → Ascending values ∧ OrderedMembers values
  | [], ascending, ordered, h => by
    simp [membersOf?] at h
    subst h
    exact ⟨ascending, ordered⟩
  | (key, tree) :: members, ascending, ordered, h => by
    simp only [membersOf?, Option.bind_eq_bind, Option.bind_eq_some_iff] at h
    obtain ⟨name, _, value, hvalue, h⟩ := h
    exact membersOf?_ordered members (ascending_putMember name value ascending)
      (orderedMembers_putMember name (Value.ofTree?_ordered tree hvalue) ordered) h

end

/-! ## Documents -/

/-- A value whose objects list their members in ascending order. -/
structure Document where
  value : Value
  ordered : value.Ordered

/-- The document without content. -/
def Document.null : Document :=
  ⟨.null, by simp [Value.Ordered]⟩

/-- The document of a tree with at most `room` levels of nesting. -/
def Document.ofTree? (room : Nat) (tree : Tree) : Option Document :=
  match h : Value.ofTree? room tree with
  | some value => some ⟨value, Value.ofTree?_ordered tree h⟩
  | none => none

/-! ## To trees -/

mutual

/-- The tree of a value. -/
def Value.toTree : Value → Tree
  | .null => .null
  | .bool b => .bool b
  | .number n => .number n.numeral
  | .string text => Tree.ofString text
  | .array items => .array (itemTrees items)
  | .object members => .object (memberTrees members)

/-- The trees of the items of an array. -/
def itemTrees : List Value → List Tree
  | [] => []
  | item :: items => item.toTree :: itemTrees items

/-- The trees of the members of an object. -/
def memberTrees : List (String × Value) → List (List StringUnit × Tree)
  | [] => []
  | (name, value) :: members => (unitsOf name, value.toTree) :: memberTrees members

end

/-- The tree of a document. -/
def Document.toTree (document : Document) : Tree :=
  document.value.toTree

end LiveThread.Json
