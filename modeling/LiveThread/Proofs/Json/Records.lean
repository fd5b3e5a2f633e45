import LiveThread.Post.Schema
import LiveThread.Proofs.Json.Documents

/-!
# Written records are read back

The tree of a record is read by the schema that it was written for.  Leaves
need no level of their own, an array or an object needs one more than what it
holds.

Main results:

- Theorems `Reader.uint64_ofInt`, `Reader.int64_ofInt`, `Reader.text_ofString` and their like:
  leaves are read back.
- Theorems `Reader.list_listTree` and `Reader.nullable_nullableTree`: so are compounds.
- Theorems `plainMembers?_record` and `flatMembers?_record`: so are the members of a record.
- Theorems `Members.required_cons_self` and `Members.withDefault_cons_self`: a member is found by
  its name.
- Theorem `decodeText?_print`: a printable tree is read from its text.
-/

namespace LiveThread.Json

/-! ## Leaves -/

@[simp]
theorem Reader.bool_bool (room : Nat) (b : Bool) : Reader.bool room (.bool b) = some b :=
  rfl

@[simp]
theorem Reader.text_ofString (room : Nat) (text : String) :
    Reader.text room (Tree.ofString text) = some text := by
  simp [Reader.text, Tree.ofString]

/-- A natural number below the bound is read back. -/
theorem Reader.below_ofInt {bound n : Nat} (h : n < bound) (room : Nat) :
    Reader.below bound room (Tree.ofInt n) = some n := by
  simp [Reader.below, Reader.int, Tree.ofInt, h]

@[simp]
theorem Reader.uint8_ofInt (room : Nat) (n : UInt8) :
    Reader.uint8 room (Tree.ofInt n.toNat) = some n := by
  simp [Reader.uint8, Reader.below_ofInt n.toNat_lt_size, Nat.toUInt8]

@[simp]
theorem Reader.uint16_ofInt (room : Nat) (n : UInt16) :
    Reader.uint16 room (Tree.ofInt n.toNat) = some n := by
  simp [Reader.uint16, Reader.below_ofInt n.toNat_lt_size, Nat.toUInt16]

@[simp]
theorem Reader.uint32_ofInt (room : Nat) (n : UInt32) :
    Reader.uint32 room (Tree.ofInt n.toNat) = some n := by
  simp [Reader.uint32, Reader.below_ofInt n.toNat_lt_size, Nat.toUInt32]

@[simp]
theorem Reader.uint64_ofInt (room : Nat) (n : UInt64) :
    Reader.uint64 room (Tree.ofInt n.toNat) = some n := by
  simp [Reader.uint64, Reader.below_ofInt n.toNat_lt_size, Nat.toUInt64]

@[simp]
theorem Reader.int64_ofInt (room : Nat) (n : Int64) :
    Reader.int64 room (Tree.ofInt n.toInt) = some n := by
  have range : -0x8000000000000000 ≤ n.toInt ∧ n.toInt < 0x8000000000000000 :=
    ⟨n.le_toInt, n.toInt_lt⟩
  simp only [Reader.int64, Reader.int, Tree.ofInt, Numeral.int?_ofInt, if_pos range,
    Int64.ofInt_toInt]

/-! ## Compounds -/

/-- Items are read one by one. -/
theorem mapM_eq_some_iff {α β : Type} {f : α → Option β} {xs : List α} {ys : List β} :
    xs.mapM f = some ys ↔ List.Forall₂ (fun x y => f x = some y) xs ys := by
  induction xs generalizing ys with
  | nil => simp [eq_comm]
  | cons x xs ih =>
    simp only [List.mapM_cons, Option.bind_eq_bind, Option.bind_eq_some_iff, Option.pure_def,
      Option.some.injEq, ih, List.forall₂_cons_left_iff]
    constructor
    · rintro ⟨y, first, rest, others, rfl⟩
      exact ⟨y, rest, first, others, rfl⟩
    · rintro ⟨y, rest, first, others, rfl⟩
      exact ⟨y, first, rest, others, rfl⟩

/-- A list is read as just these items exactly if it is an array of their trees. -/
theorem Reader.list_eq_some_iff {α : Type} {read : Reader α} {room : Nat} {tree : Tree}
    {xs : List α} :
    Reader.list read room tree = some xs ↔ ∃ inner items, room = inner + 1 ∧
      tree = .array items ∧ List.Forall₂ (fun item x => read inner item = some x) items xs := by
  cases room with
  | zero => simp [Reader.list]
  | succ room =>
    cases tree with
    | array items => simp [Reader.list, mapM_eq_some_iff]
    | _ => simp [Reader.list]

/-- A list of items is read back if every item is. -/
theorem Reader.list_listTree {α : Type} {item : Reader α} {tree : α → Tree} {room : Nat}
    {items : List α} (h : ∀ x ∈ items, item room (tree x) = some x) :
    Reader.list item (room + 1) (listTree tree items) = some items :=
  Reader.list_eq_some_iff.2
    ⟨room, _, rfl, rfl, List.forall₂_map_left_iff.2 (List.forall₂_same.2 h)⟩

/-- What is not null is present. -/
theorem Reader.nullable_of_ne_null {α : Type} {read : Reader α} {room : Nat} {tree : Tree}
    (h : tree ≠ .null) : Reader.nullable read room tree = (read room tree).map some := by
  rw [Reader.nullable]
  exact h

/-- What may be absent is read back if what is present is, and its tree is not null. -/
theorem Reader.nullable_nullableTree {α : Type} {read : Reader α} {tree : α → Tree} {room : Nat}
    {x : Option α} (h : ∀ y ∈ x, read room (tree y) = some y) (present : ∀ y, tree y ≠ .null) :
    Reader.nullable read room (nullableTree tree x) = some x := by
  cases x with
  | none => simp [nullableTree, Reader.nullable]
  | some y =>
    simp only [nullableTree]
    rw [Reader.nullable_of_ne_null (present y), h y rfl]
    rfl

/-- A list for which null may stand is read back as well. -/
theorem Reader.nullableList_listTree {α : Type} {item : Reader α} {tree : α → Tree} {room : Nat}
    {items : List α} (h : ∀ x ∈ items, item room (tree x) = some x) :
    Reader.nullableList item (room + 1) (listTree tree items) = some items := by
  have present : listTree tree items ≠ .null := by simp [listTree]
  unfold Reader.nullableList
  rw [Reader.nullable_of_ne_null present, Reader.list_listTree h]
  rfl

/-! ## Records -/

/-- The names of a written record are texts. -/
theorem namedMembers?_record (members : Members) :
    namedMembers? (members.map fun (name, tree) => (unitsOf name, tree)) = some members := by
  unfold namedMembers?
  induction members with
  | nil => rfl
  | cons member members ih =>
    rw [List.map_cons, List.mapM_cons, ih]
    simp

/-- Members that a schema names, none of them given twice, are all known. -/
theorem knownMembers?_eq_some {names : List String} {members : Members}
    (named : ∀ name ∈ members.map Prod.fst, name ∈ names) (once : (members.map Prod.fst).Nodup) :
    knownMembers? names members = some members := by
  have all : members.filter (fun member => names.contains member.1) = members := by
    rw [List.filter_eq_self]
    intro member mem
    exact List.contains_iff_mem.2 (named member.1 (List.mem_map_of_mem mem))
  unfold knownMembers?
  simp only [all, once, if_true]

/-- The members of a written record are read back. -/
theorem plainMembers?_record {names : List String} {members : Members}
    (named : ∀ name ∈ members.map Prod.fst, name ∈ names) (once : (members.map Prod.fst).Nodup) :
    plainMembers? names (Tree.record members) = some members := by
  simp only [Tree.record, plainMembers?, Option.bind_eq_bind, namedMembers?_record,
    Option.bind_some, knownMembers?_eq_some named once]

/-- So are those of a flat record, if each of them is a value. -/
theorem flatMembers?_record {names : List String} {members : Members} {room : Nat}
    (named : ∀ name ∈ members.map Prod.fst, name ∈ names) (once : (members.map Prod.fst).Nodup)
    (values : ∀ member ∈ members, (Value.ofTree? room member.2).isSome) :
    flatMembers? names room (Tree.record members) = some members := by
  have all : (members.all fun member => (Value.ofTree? room member.2).isSome) = true :=
    List.all_eq_true.2 values
  simp only [Tree.record, flatMembers?, Option.bind_eq_bind, namedMembers?_record,
    Option.bind_some, all, if_true, knownMembers?_eq_some named once]

/-! ## Members by their names -/

namespace Members

variable {α : Type} {members : Members} {name other : String} {tree : Tree} {room : Nat}
  {read : Reader α} {default : α}

@[simp]
theorem required_cons_self :
    Members.required ((name, tree) :: members) name room read = read room tree := by
  simp [Members.required]

@[simp]
theorem required_cons_of_ne (h : name ≠ other) :
    Members.required ((other, tree) :: members) name room read
      = Members.required members name room read := by
  simp [Members.required, List.lookup_cons, beq_false_of_ne h]

@[simp]
theorem withDefault_nil : Members.withDefault [] name room read default = some default := by
  simp [Members.withDefault]

@[simp]
theorem withDefault_cons_self :
    Members.withDefault ((name, tree) :: members) name room read default = read room tree := by
  simp [Members.withDefault]

@[simp]
theorem withDefault_cons_of_ne (h : name ≠ other) :
    Members.withDefault ((other, tree) :: members) name room read default
      = Members.withDefault members name room read default := by
  simp [Members.withDefault, List.lookup_cons, beq_false_of_ne h]

end Members

/-! ## What is read was read from a tree -/

/-- A member that was not given its own value was read. -/
theorem Members.of_withDefault {α : Type} {members : Members} {name : String} {room : Nat}
    {read : Reader α} {default x : α}
    (h : members.withDefault name room read default = some x) :
    x = default ∨ ∃ tree, read room tree = some x := by
  unfold Members.withDefault at h
  split at h
  · next tree _ => exact .inr ⟨tree, h⟩
  · exact .inl (Option.some.inj h).symm

/-- What is present was read. -/
theorem Reader.of_nullable {α : Type} {read : Reader α} {room : Nat} {tree : Tree} {x : α}
    (h : Reader.nullable read room tree = some (some x)) : read room tree = some x := by
  unfold Reader.nullable at h
  split at h
  · cases h
  · obtain ⟨y, found, same⟩ := Option.map_eq_some_iff.1 h
    cases same
    exact found

/-- The items of a list were read with one level less. -/
theorem Reader.of_mem_list {α : Type} {item : Reader α} {room : Nat} {tree : Tree} {items : List α}
    {x : α} (h : Reader.list item room tree = some items) (mem : x ∈ items) :
    ∃ inner part, room = inner + 1 ∧ item inner part = some x := by
  obtain ⟨inner, parts, rfl, rfl, all⟩ := Reader.list_eq_some_iff.1 h
  clear h
  induction all with
  | nil => cases mem
  | cons first _ ih =>
    rcases List.mem_cons.1 mem with rfl | mem
    · exact ⟨inner, _, rfl, first⟩
    · exact ih mem

/-- So were those of a list for which null may stand. -/
theorem Reader.of_mem_nullableList {α : Type} {item : Reader α} {room : Nat} {tree : Tree}
    {items : List α} {x : α} (h : Reader.nullableList item room tree = some items)
    (mem : x ∈ items) : ∃ inner part, room = inner + 1 ∧ item inner part = some x := by
  unfold Reader.nullableList at h
  obtain ⟨read, found, rfl⟩ := Option.map_eq_some_iff.1 h
  cases read with
  | none => cases mem
  | some items => exact Reader.of_mem_list (Reader.of_nullable found) mem

/-! ## Leaves are values -/

/-- The tree of a number below 2^64 is a value. -/
theorem isSome_ofTree?_ofInt {n : Nat} (h : n < 0x10000000000000000) (room : Nat) :
    (Value.ofTree? room (Tree.ofInt n)).isSome := by
  have isWord : IsWord n := ⟨by omega, by omega⟩
  simp [Tree.ofInt, Value.ofTree?, Number.ofNumeral?_ofInt isWord]

@[simp]
theorem isSome_ofTree?_ofString (room : Nat) (text : String) :
    (Value.ofTree? room (Tree.ofString text)).isSome := by
  simp [Tree.ofString, Value.ofTree?]

@[simp]
theorem isSome_ofTree?_bool (room : Nat) (b : Bool) : (Value.ofTree? room (.bool b)).isSome := by
  simp [Value.ofTree?]

@[simp]
theorem isSome_ofTree?_uint8 (room : Nat) (n : UInt8) :
    (Value.ofTree? room (Tree.ofInt n.toNat)).isSome := by
  have := n.toNat_lt
  exact isSome_ofTree?_ofInt (by omega) room

@[simp]
theorem isSome_ofTree?_uint16 (room : Nat) (n : UInt16) :
    (Value.ofTree? room (Tree.ofInt n.toNat)).isSome := by
  have := n.toNat_lt
  exact isSome_ofTree?_ofInt (by omega) room

@[simp]
theorem isSome_ofTree?_uint32 (room : Nat) (n : UInt32) :
    (Value.ofTree? room (Tree.ofInt n.toNat)).isSome := by
  have := n.toNat_lt
  exact isSome_ofTree?_ofInt (by omega) room

@[simp]
theorem isSome_ofTree?_uint64 (room : Nat) (n : UInt64) :
    (Value.ofTree? room (Tree.ofInt n.toNat)).isSome :=
  isSome_ofTree?_ofInt n.toNat_lt room

/-- An array of values is a value. -/
theorem isSome_ofTree?_array {room : Nat} {items : List Tree}
    (h : ∀ item ∈ items, (Value.ofTree? room item).isSome) :
    (Value.ofTree? (room + 1) (.array items)).isSome := by
  have values : (itemsOf? room items).isSome := by
    induction items with
    | nil => rfl
    | cons item items ih =>
      obtain ⟨value, first⟩ := Option.isSome_iff_exists.1 (h item (by simp))
      obtain ⟨values, rest⟩ := Option.isSome_iff_exists.1 (ih fun i mem => h i (by simp [mem]))
      simp [itemsOf?, first, rest]
  simpa [Value.ofTree?] using values

/-! ## Printable records -/

@[simp]
theorem printable_null : Tree.Printable .null := by
  simp [Tree.Printable]

@[simp]
theorem printable_bool (b : Bool) : Tree.Printable (.bool b) := by
  simp [Tree.Printable]

@[simp]
theorem printable_ofInt (n : Int) : (Tree.ofInt n).Printable := by
  simp [Tree.ofInt, Tree.Printable]

@[simp]
theorem printable_ofString (text : String) : (Tree.ofString text).Printable := by
  simp only [Tree.ofString, Tree.Printable]
  exact printable_unitsOf text

@[simp]
theorem printable_document (document : Document) : document.toTree.Printable :=
  Value.printable_toTree document.value

/-- An array may be printed if its items may. -/
theorem printable_array {items : List Tree} (h : ∀ item ∈ items, item.Printable) :
    Tree.Printable (.array items) := by
  simp only [Tree.Printable]
  induction items with
  | nil => trivial
  | cons item items ih => exact ⟨h item (by simp), ih fun i mem => h i (by simp [mem])⟩

theorem printable_listTree {α : Type} {tree : α → Tree} (h : ∀ x, (tree x).Printable)
    (items : List α) : (listTree tree items).Printable := by
  apply printable_array
  intro item mem
  obtain ⟨x, -, rfl⟩ := List.mem_map.1 mem
  exact h x

theorem printable_nullableTree {α : Type} {tree : α → Tree} (h : ∀ x, (tree x).Printable)
    (x : Option α) : (nullableTree tree x).Printable := by
  cases x with
  | none => exact printable_null
  | some y => exact h y

/-- A record may be printed if its members may. -/
theorem printable_record {members : Members} (h : ∀ member ∈ members, member.2.Printable) :
    (Tree.record members).Printable := by
  simp only [Tree.record, Tree.Printable]
  induction members with
  | nil => trivial
  | cons member members ih =>
    exact ⟨printable_unitsOf member.1, h member (by simp), ih fun m mem => h m (by simp [mem])⟩

/-! ## Texts -/

/-- A printable tree is read from its text. -/
theorem decodeText?_print {α : Type} (read : Reader α) {tree : Tree} (h : tree.Printable) :
    decodeText? read tree.print = read maxLevels tree := by
  unfold decodeText?
  rw [Tree.parse?_print h]

end LiveThread.Json
