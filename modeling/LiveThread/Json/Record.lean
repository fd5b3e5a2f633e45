import LiveThread.Json.Parser
import LiveThread.Json.Printer
import LiveThread.Json.Value

/-!
# Reading by a schema

A schema reads a tree as a value of a given type.  A plain record is an object
with named members, or an array with the same members in their declared order
and perhaps without the last ones; members that the schema does not name are
skipped unread, but their names must be texts.  A flat record is an object
whose members belong to several schemas at once; it is never an array, and
every one of its members must be a value, named or not.

In both kinds a named member may be given only once.

Main results:

- Definition `Reader`: what reads trees, told how many levels may still be opened.
- Definitions `plainMembers?` and `flatMembers?`: the named members of the two kinds of record.
-/

namespace LiveThread.Json

/-- Reads a tree with at most the given number of levels inside each other. -/
abbrev Reader (α : Type) :=
  Nat → Tree → Option α

/-- The greatest number of arrays and objects inside each other. -/
def maxLevels : Nat := 127

/-! ## Leaves -/

/-- Reads a truth value. -/
def Reader.bool : Reader Bool
  | _, .bool b => some b
  | _, _ => none

/-- Reads a text. -/
def Reader.text : Reader String
  | _, .string units => text? units
  | _, _ => none

/-- Reads an integer spelled as one. -/
def Reader.int : Reader Int
  | _, .number n => n.int?
  | _, _ => none

/-- Reads an integer that is at least zero and less than `bound`. -/
def Reader.below (bound : Nat) : Reader Nat := fun room tree =>
  match Reader.int room tree with
  | some n => if 0 ≤ n ∧ n < bound then some n.toNat else none
  | none => none

/-- Reads an unsigned integer of eight bits. -/
def Reader.uint8 : Reader UInt8 := fun room tree =>
  (Reader.below UInt8.size room tree).map Nat.toUInt8

/-- Reads an unsigned integer of sixteen bits. -/
def Reader.uint16 : Reader UInt16 := fun room tree =>
  (Reader.below UInt16.size room tree).map Nat.toUInt16

/-- Reads an unsigned integer of thirty-two bits. -/
def Reader.uint32 : Reader UInt32 := fun room tree =>
  (Reader.below UInt32.size room tree).map Nat.toUInt32

/-- Reads an unsigned integer of sixty-four bits. -/
def Reader.uint64 : Reader UInt64 := fun room tree =>
  (Reader.below UInt64.size room tree).map Nat.toUInt64

/-- Reads a signed integer of sixty-four bits. -/
def Reader.int64 : Reader Int64 := fun room tree =>
  match Reader.int room tree with
  | some n =>
    if -0x8000000000000000 ≤ n ∧ n < 0x8000000000000000 then some (Int64.ofInt n) else none
  | none => none

/-- Reads any value. -/
def Reader.document : Reader Document :=
  Document.ofTree?

/-! ## Compounds -/

/-- Reads an array. -/
def Reader.list {α : Type} (item : Reader α) : Reader (List α)
  | room + 1, .array items => items.mapM (item room)
  | _, _ => none

/-- Reads what may be absent, written as null. -/
def Reader.nullable {α : Type} (read : Reader α) : Reader (Option α)
  | _, .null => some none
  | room, tree => (read room tree).map some

/-- Reads an array for which null stands as well when it is empty. -/
def Reader.nullableList {α : Type} (item : Reader α) : Reader (List α) := fun room tree =>
  (Reader.nullable (Reader.list item) room tree).map fun items => items.getD []

/-! ## Records -/

/-- The named members of a record. -/
abbrev Members :=
  List (String × Tree)

/-- The members with their names as texts. -/
def namedMembers? (members : List (List StringUnit × Tree)) : Option Members :=
  members.mapM fun (key, tree) => (text? key).map fun name => (name, tree)

/-- The members that a schema names, none of them given twice. -/
def knownMembers? (names : List String) (members : Members) : Option Members :=
  let known := members.filter fun (name, _) => names.contains name
  if (known.map Prod.fst).Nodup then some known else none

/-- The members of a plain record with these names. -/
def plainMembers? (names : List String) : Tree → Option Members
  | .object members => do knownMembers? names (← namedMembers? members)
  | .array items => if items.length ≤ names.length then some (names.zip items) else none
  | _ => none

/-- The members of a flat record with these names; `room` levels may be opened inside it. -/
def flatMembers? (names : List String) (room : Nat) : Tree → Option Members
  | .object members => do
    let members ← namedMembers? members
    if members.all fun (_, tree) => (Value.ofTree? room tree).isSome then
      knownMembers? names members
    else none
  | _ => none

/-- A member that has to be there. -/
def Members.required {α : Type} (members : Members) (name : String) (room : Nat)
    (read : Reader α) : Option α :=
  match members.lookup name with
  | some tree => read room tree
  | none => none

/-- A member with a value of its own when it is missing. -/
def Members.withDefault {α : Type} (members : Members) (name : String) (room : Nat)
    (read : Reader α) (default : α) : Option α :=
  match members.lookup name with
  | some tree => read room tree
  | none => some default

/-! ## Texts -/

/-- Reads a whole text. -/
def decodeText? {α : Type} (read : Reader α) (cs : List Char) : Option α :=
  match Tree.parse? cs with
  | some tree => read maxLevels tree
  | none => none

end LiveThread.Json
