import LiveThread.Proofs.Json.Shapes

/-!
# What a record accepts

The shape of a record is said by its fields.  What stands under the name of a
field, or at its position in an array, must be of the shape of that field; a
field without a value of its own must be there, and none may be given twice.

Main results:

- Definition `Field`: what a record says of one of its members.
- Definitions `Shape.plain` and `Shape.flat`: the shapes of the two kinds of record.
- Theorems `exists_plainMembers_iff` and `exists_flatMembers_iff`: members are found and fit their
  fields exactly if the tree is of the shape of the record.
- Theorems `takes_plain` and `takes_flat`: readers of records accept their shapes.
-/

namespace LiveThread.Json

/-! ## Fields and the shapes of records -/

/-- A field of a record: its name, whether it must be there, and what must stand for it. -/
structure Field where
  name : String
  required : Bool
  shape : Shape

/-- A field that must be there. -/
def Field.must (name : String) (shape : Shape) : Field :=
  ⟨name, true, shape⟩

/-- A field with a value of its own when it is missing. -/
def Field.may (name : String) (shape : Shape) : Field :=
  ⟨name, false, shape⟩

/-- The entries of an object have these names. -/
def Named (entries : List (List StringUnit × Tree)) (members : Members) : Prop :=
  List.Forall₂ (fun entry member => text? entry.1 = some member.1 ∧ entry.2 = member.2)
    entries members

/-- Members follow the fields of a record.  Other members may stand between them. -/
structure Follow (fields : List Field) (room : Nat) (members : Members) : Prop where
  /-- No field is given twice. -/
  once : ∀ field ∈ fields, (members.map Prod.fst).count field.name ≤ 1
  /-- What is given for a field is of its shape. -/
  fits : ∀ field ∈ fields, ∀ tree, (field.name, tree) ∈ members → field.shape room tree
  /-- What must be there is given. -/
  given : ∀ field ∈ fields, field.required = true → field.name ∈ members.map Prod.fst

/-- Trees stand for the first fields of a record, and no other field must be there. -/
def InOrder (room : Nat) : List Field → List Tree → Prop
  | fields, [] => ∀ field ∈ fields, field.required = false
  | [], _ :: _ => False
  | field :: fields, tree :: trees => field.shape room tree ∧ InOrder room fields trees

/-- Objects with these fields, or arrays of the fields in their order. -/
def Shape.plain (fields : List Field) : Shape
  | room + 1, .object entries => ∃ members, Named entries members ∧ Follow fields room members
  | room + 1, .array items => InOrder room fields items
  | _, _ => False

/-- Objects with these fields in which every member is a value. -/
def Shape.flat (fields : List Field) : Shape
  | room + 1, .object entries => ∃ members, Named entries members ∧
      (∀ member ∈ members, Shape.value room member.2) ∧ Follow fields room members
  | _, _ => False

/-- What is found for a field among the members is of its shape, and something is found for it if
it must be there. -/
def Field.Fits (field : Field) (room : Nat) (members : Members) : Prop :=
  match members.lookup field.name with
  | some tree => field.shape room tree
  | none => field.required = false

/-! ## Members -/

namespace Members

variable {α : Type} {read : Reader α} {shape : Shape}

theorem isSome_required_iff (h : read.Takes shape) (members : Members) (name : String)
    (room : Nat) :
    (members.required name room read).isSome ↔ (Field.must name shape).Fits room members := by
  unfold Members.required Field.Fits Field.must
  cases members.lookup name with
  | none => simp
  | some tree => exact h room tree

theorem isSome_withDefault_iff (h : read.Takes shape) (members : Members) (name : String)
    (room : Nat) (default : α) :
    (members.withDefault name room read default).isSome
      ↔ (Field.may name shape).Fits room members := by
  unfold Members.withDefault Field.Fits Field.may
  cases members.lookup name with
  | none => simp
  | some tree => exact h room tree

end Members

theorem namedMembers?_eq_some_iff {entries : List (List StringUnit × Tree)} {members : Members} :
    namedMembers? entries = some members ↔ Named entries members := by
  have entry : ∀ (entry : List StringUnit × Tree) (member : String × Tree),
      (text? entry.1).map (fun name => (name, entry.2)) = some member ↔
        text? entry.1 = some member.1 ∧ entry.2 = member.2 := by
    rintro ⟨key, tree⟩ ⟨name, value⟩
    cases text? key <;> simp
  simp only [namedMembers?, mapM_eq_some_iff, entry, Named]

/-- Where no name stands twice, a name is looked up as it stands. -/
theorem lookup_eq_some_iff {members : Members} (once : (members.map Prod.fst).Nodup)
    {name : String} {tree : Tree} :
    members.lookup name = some tree ↔ (name, tree) ∈ members := by
  induction members with
  | nil => simp
  | cons member members ih =>
    obtain ⟨other, value⟩ := member
    simp only [List.map_cons, List.nodup_cons] at once
    by_cases same : name = other
    · subst same
      have later : (name, tree) ∉ members := fun mem => once.1 (List.mem_map_of_mem mem)
      simp [later, eq_comm]
    · simp [List.lookup_cons, beq_false_of_ne same, same, ih once.2]

theorem lookup_eq_none_iff {members : Members} {name : String} :
    members.lookup name = none ↔ name ∉ members.map Prod.fst := by
  induction members with
  | nil => simp
  | cons member members ih =>
    obtain ⟨other, value⟩ := member
    by_cases same : name = other
    · simp [same]
    · simp [List.lookup_cons, beq_false_of_ne same, same, ih]

section Fields

variable {fields : List Field} {room : Nat} {members : Members}

/-- The known members hold what all members hold for the fields. -/
theorem forall_fits_iff {known : Members} (once : (known.map Prod.fst).Nodup)
    (same : ∀ field ∈ fields, ∀ tree, (field.name, tree) ∈ known ↔ (field.name, tree) ∈ members) :
    (∀ field ∈ fields, field.Fits room known) ↔
      (∀ field ∈ fields, ∀ tree, (field.name, tree) ∈ members → field.shape room tree) ∧
        ∀ field ∈ fields, field.required = true → field.name ∈ members.map Prod.fst := by
  -- Field by field: what is looked up among the known members is what stands among all.
  have one : ∀ field ∈ fields, (field.Fits room known ↔
      (∀ tree, (field.name, tree) ∈ members → field.shape room tree) ∧
        (field.required = true → field.name ∈ members.map Prod.fst)) := by
    intro field mem
    unfold Field.Fits
    cases found : known.lookup field.name with
    | none =>
      have absent : ∀ tree, (field.name, tree) ∉ members := by
        intro tree stands
        exact lookup_eq_none_iff.1 found (List.mem_map_of_mem ((same field mem tree).2 stands))
      have unnamed : field.name ∉ members.map Prod.fst := by
        simpa using absent
      simp only [absent, false_implies, implies_true, true_and, unnamed]
      cases field.required <;> simp
    | some tree =>
      have stands := (same field mem tree).1 ((lookup_eq_some_iff once).1 found)
      have named : field.name ∈ members.map Prod.fst := List.mem_map_of_mem stands
      simp only [named, implies_true, and_true]
      constructor
      · intro fits other also
        have again := (lookup_eq_some_iff once).2 ((same field mem other).2 also)
        rw [found] at again
        exact Option.some.inj again ▸ fits
      · intro all
        exact all tree stands
  constructor
  · intro fits
    exact ⟨fun field mem => ((one field mem).1 (fits field mem)).1,
      fun field mem => ((one field mem).1 (fits field mem)).2⟩
  · rintro ⟨fits, given⟩ field mem
    exact (one field mem).2 ⟨fits field mem, given field mem⟩

/-- Members are known and fit exactly if they follow the fields. -/
theorem exists_known_iff :
    (∃ known, knownMembers? (fields.map Field.name) members = some known ∧
        ∀ field ∈ fields, field.Fits room known) ↔ Follow fields room members := by
  have names : ((members.filter fun member => (fields.map Field.name).contains member.1).map
      Prod.fst) = (members.map Prod.fst).filter fun name => (fields.map Field.name).contains name := by
    rw [List.filter_map]
    rfl
  have once : ((members.filter fun member => (fields.map Field.name).contains member.1).map
      Prod.fst).Nodup ↔ ∀ field ∈ fields, (members.map Prod.fst).count field.name ≤ 1 := by
    rw [names, List.nodup_iff_count_le_one]
    constructor
    · intro all field mem
      have := all field.name
      rwa [List.count_filter (by simpa using ⟨field, mem, rfl⟩)] at this
    · intro all name
      by_cases known : (fields.map Field.name).contains name = true
      · obtain ⟨field, mem, rfl⟩ := List.mem_map.1 (List.contains_iff_mem.1 known)
        rw [List.count_filter known]
        exact all field mem
      · rw [List.count_eq_zero.2 fun mem => known (List.mem_filter.1 mem).2]
        exact Nat.zero_le 1
  have same : ∀ field ∈ fields, ∀ tree,
      (field.name, tree) ∈ members.filter (fun member => (fields.map Field.name).contains member.1)
        ↔ (field.name, tree) ∈ members := by
    intro field mem tree
    rw [List.mem_filter]
    exact and_iff_left (List.contains_iff_mem.2 (List.mem_map_of_mem mem))
  constructor
  · rintro ⟨known, read, fits⟩
    simp only [knownMembers?] at read
    split at read
    · next distinct =>
      cases read
      obtain ⟨fits, given⟩ := (forall_fits_iff distinct same).1 fits
      exact ⟨once.1 distinct, fits, given⟩
    · cases read
  · rintro ⟨least, fits, given⟩
    have distinct := once.2 least
    refine ⟨_, ?_, (forall_fits_iff distinct same).2 ⟨fits, given⟩⟩
    simp only [knownMembers?, if_pos distinct]

/-- Trees in the order of the fields fit exactly if each is of the shape of its field. -/
theorem forall_fits_zip_iff (distinct : (fields.map Field.name).Nodup) (items : List Tree) :
    (items.length ≤ fields.length ∧
        ∀ field ∈ fields, field.Fits room ((fields.map Field.name).zip items)) ↔
      InOrder room fields items := by
  induction fields generalizing items with
  | nil => cases items <;> simp [InOrder]
  | cons field fields ih =>
    cases items with
    | nil => simp [InOrder, Field.Fits]
    | cons item items =>
      simp only [List.map_cons, List.nodup_cons] at distinct
      have later : ∀ other ∈ fields,
          (other.Fits room ((field.name, item) :: (fields.map Field.name).zip items) ↔
            other.Fits room ((fields.map Field.name).zip items)) := by
        intro other mem
        have ne : other.name ≠ field.name := by
          intro same
          exact distinct.1 (same ▸ List.mem_map_of_mem mem)
        simp only [Field.Fits, List.lookup_cons, beq_false_of_ne ne]
      have first : field.Fits room ((field.name, item) :: (fields.map Field.name).zip items) ↔
          field.shape room item := by
        simp only [Field.Fits, List.lookup_cons, beq_self_eq_true]
      have others := ih distinct.2 items
      simp only [List.map_cons, List.zip_cons_cons, List.length_cons, Nat.add_le_add_iff_right,
        List.forall_mem_cons, first, InOrder, ← others]
      constructor
      · rintro ⟨length, fits, rest⟩
        exact ⟨fits, length, fun other mem => (later other mem).1 (rest other mem)⟩
      · rintro ⟨fits, length, rest⟩
        exact ⟨length, fits, fun other mem => (later other mem).2 (rest other mem)⟩

/-! ## Records -/

/-- The members of a plain record are found and fit exactly if the tree is of its shape. -/
theorem exists_plainMembers_iff (distinct : (fields.map Field.name).Nodup) (tree : Tree) :
    (∃ members, plainMembers? (fields.map Field.name) tree = some members ∧
        ∀ field ∈ fields, field.Fits room members) ↔ Shape.plain fields (room + 1) tree := by
  cases tree with
  | object entries =>
    simp only [plainMembers?, Shape.plain, Option.bind_eq_bind, Option.bind_eq_some_iff,
      namedMembers?_eq_some_iff, ← exists_known_iff]
    constructor
    · rintro ⟨known, ⟨members, named, read⟩, fits⟩
      exact ⟨members, named, known, read, fits⟩
    · rintro ⟨members, named, known, read, fits⟩
      exact ⟨known, ⟨members, named, read⟩, fits⟩
  | array items =>
    rw [plainMembers?, Shape.plain, ← forall_fits_zip_iff distinct, List.length_map]
    by_cases short : items.length ≤ fields.length <;> simp [short]
  | _ => simp [plainMembers?, Shape.plain]

/-- A written record is of a plain shape exactly if its members follow the fields. -/
theorem plain_record_iff :
    Shape.plain fields (room + 1) (Tree.record members) ↔ Follow fields room members := by
  have written := namedMembers?_record members
  simp only [Tree.record, Shape.plain, ← namedMembers?_eq_some_iff, written, Option.some.injEq,
    exists_eq_left']

/-- So are those of a flat record. -/
theorem exists_flatMembers_iff (tree : Tree) :
    (∃ members, flatMembers? (fields.map Field.name) room tree = some members ∧
        ∀ field ∈ fields, field.Fits room members) ↔ Shape.flat fields (room + 1) tree := by
  cases tree with
  | object entries =>
    have values : ∀ members : Members, (members.all fun member =>
        (Value.ofTree? room member.2).isSome) = true ↔
          ∀ member ∈ members, Shape.value room member.2 := by
      simp [List.all_eq_true, isSome_ofTree?_iff, Shape.value]
    simp only [flatMembers?, Shape.flat, Option.bind_eq_bind, Option.bind_eq_some_iff,
      namedMembers?_eq_some_iff, ← exists_known_iff]
    constructor
    · rintro ⟨known, ⟨members, named, read⟩, fits⟩
      split at read
      · next all => exact ⟨members, named, (values members).1 all, known, read, fits⟩
      · cases read
    · rintro ⟨members, named, all, known, read, fits⟩
      exact ⟨known, ⟨members, named, by rwa [if_pos ((values members).2 all)]⟩, fits⟩
  | _ => simp [flatMembers?, Shape.flat]

end Fields

/-! ## Readers of records -/

section Readers

variable {α β : Type} {fields : List Field} {names : List String} {room : Nat} {members : Members}

/-- A member that must be there is read, and then the members for the other fields. -/
theorem isSome_required {read : Reader α} {shape : Shape} (takes : read.Takes shape)
    {name : String} {f : α → Option β}
    (others : ∀ x, (f x).isSome ↔ ∀ field ∈ fields, field.Fits room members) :
    (members.required name room read >>= f).isSome ↔
      ∀ field ∈ .must name shape :: fields, field.Fits room members := by
  simp only [Option.bind_eq_bind, isSome_bind_iff, others, exists_and_right,
    ← Option.isSome_iff_exists, Members.isSome_required_iff takes, List.forall_mem_cons]

/-- So is a member with a value of its own. -/
theorem isSome_withDefault {read : Reader α} {shape : Shape} (takes : read.Takes shape)
    {name : String} {default : α} {f : α → Option β}
    (others : ∀ x, (f x).isSome ↔ ∀ field ∈ fields, field.Fits room members) :
    (members.withDefault name room read default >>= f).isSome ↔
      ∀ field ∈ .may name shape :: fields, field.Fits room members := by
  simp only [Option.bind_eq_bind, isSome_bind_iff, others, exists_and_right,
    ← Option.isSome_iff_exists, Members.isSome_withDefault_iff takes, List.forall_mem_cons]

/-- Without further fields the record is complete. -/
theorem isSome_complete {x : α} :
    (pure x : Option α).isSome ↔ ∀ field ∈ [], Field.Fits field room members := by
  simp

/-- A reader accepts a plain record if it finds the members and then succeeds just where they fit
their fields. -/
theorem takes_plain {read : Reader α} {body : Nat → Members → Option α}
    (same : fields.map Field.name = names) (distinct : names.Nodup)
    (closed : ∀ tree, read 0 tree = none)
    (opened : ∀ room tree, read (room + 1) tree = plainMembers? names tree >>= body room)
    (fits : ∀ room members,
      (body room members).isSome ↔ ∀ field ∈ fields, field.Fits room members) :
    read.Takes (.plain fields) := by
  subst same
  intro room tree
  cases room with
  | zero => cases tree <;> simp [closed, Shape.plain]
  | succ room =>
    rw [opened, Option.bind_eq_bind, isSome_bind_iff, ← exists_plainMembers_iff distinct]
    simp only [fits]

/-- So does a reader of a flat record. -/
theorem takes_flat {read : Reader α} {body : Nat → Members → Option α}
    (same : fields.map Field.name = names) (closed : ∀ tree, read 0 tree = none)
    (opened : ∀ room tree, read (room + 1) tree = flatMembers? names room tree >>= body room)
    (fits : ∀ room members,
      (body room members).isSome ↔ ∀ field ∈ fields, field.Fits room members) :
    read.Takes (.flat fields) := by
  subst same
  intro room tree
  cases room with
  | zero => cases tree <;> simp [closed, Shape.flat]
  | succ room =>
    rw [opened, Option.bind_eq_bind, isSome_bind_iff, ← exists_flatMembers_iff]
    simp only [fits]

end Readers

end LiveThread.Json
