import LiveThread.Proofs.Json.Grammar

/-!
# Printed trees are read back

A tree whose string literals may be printed is printed to a text that spells
it, with no blanks anywhere, and is read back from that text.

Main results:

- Definition `Tree.Printable`: every literal in the tree may be printed.
- Theorem `Tree.spelled_print`: a printed tree is spelled well.
- Theorem `Tree.parse?_print`: a printed tree is a text of its own.
-/

namespace LiveThread.Json

open Decimal

/-! ## Printable trees -/

mutual

/-- Every string literal in the tree may be printed. -/
def Tree.Printable : Tree → Prop
  | .string units => ∀ u ∈ units, u.Printable
  | .array items => PrintableItems items
  | .object members => PrintableMembers members
  | _ => True

/-- Every item is printable. -/
def PrintableItems : List Tree → Prop
  | [] => True
  | item :: items => item.Printable ∧ PrintableItems items

/-- Every member is printable, its name and its value. -/
def PrintableMembers : List (List StringUnit × Tree) → Prop
  | [] => True
  | (key, tree) :: members =>
    (∀ u ∈ key, u.Printable) ∧ tree.Printable ∧ PrintableMembers members

end

/-! ## Printed trees -/

/-- A printed member is spelled well if its value is. -/
theorem memberSpelled_print {key : List StringUnit} (printable : ∀ u ∈ key, u.Printable)
    {tree : Tree} (spelled : tree.Spelled tree.print) :
    MemberSpelled key tree.Spelled (printString key ++ ':' :: tree.print) :=
  ⟨_, _, padded_of (literalSpelled_print printable), padded_of spelled, rfl⟩

mutual

/-- A printed tree is spelled well. -/
theorem Tree.spelled_print : (tree : Tree) → tree.Printable → tree.Spelled tree.print
  | .null, _ => by rw [Tree.Spelled, Tree.print]
  | .bool true, _ => by rw [Tree.Spelled, Tree.print]
  | .bool false, _ => by rw [Tree.Spelled, Tree.print]
  | .number n, _ => by
    rw [Tree.Spelled, Tree.print]
    exact n.spelled_print
  | .string units, printable => by
    rw [Tree.Printable] at printable
    rw [Tree.Spelled, Tree.print]
    exact literalSpelled_print printable
  | .array [], _ => by
    rw [Tree.Spelled, Tree.print]
    exact ⟨[], by rw [ItemsSpelled]; exact blanks_nil, rfl⟩
  | .array (item :: items), printable => by
    rw [Tree.Printable, PrintableItems] at printable
    rw [Tree.Spelled, Tree.print]
    obtain ⟨inner, spelled, printed⟩ :=
      itemsSpelled_print items printable.2 item (item.spelled_print printable.1)
    exact ⟨inner, spelled, by rw [printed]⟩
  | .object [], _ => by
    rw [Tree.Spelled, Tree.print]
    exact ⟨[], by rw [MembersSpelled]; exact blanks_nil, rfl⟩
  | .object ((key, tree) :: members), printable => by
    rw [Tree.Printable, PrintableMembers] at printable
    rw [Tree.Spelled, Tree.print]
    obtain ⟨inner, spelled, printed⟩ := membersSpelled_print members printable.2.2 key tree
      printable.1 (tree.spelled_print printable.2.1)
    exact ⟨inner, spelled, by rw [printed]⟩

/-- Further items are printed well after a first one, up to the closing bracket. -/
theorem itemsSpelled_print : (items : List Tree) → PrintableItems items → (item : Tree) →
    item.Spelled item.print →
    ∃ inner, ItemsSpelled (item :: items) inner ∧ item.print ++ printItems items = inner ++ [']']
  | [], _, item, first => by
    refine ⟨item.print, ?_, by rw [printItems]⟩
    rw [ItemsSpelled]
    exact padded_of first
  | next :: items, printable, item, first => by
    rw [PrintableItems] at printable
    obtain ⟨others, spelled, printed⟩ :=
      itemsSpelled_print items printable.2 next (next.spelled_print printable.1)
    refine ⟨item.print ++ ',' :: others, ?_, by simp [printItems, printed]⟩
    rw [ItemsSpelled]
    exact ⟨_, others, padded_of first, spelled, rfl⟩

/-- Further members are printed well after a first one, up to the closing brace. -/
theorem membersSpelled_print : (members : List (List StringUnit × Tree)) →
    PrintableMembers members → (key : List StringUnit) → (tree : Tree) →
    (∀ u ∈ key, u.Printable) → tree.Spelled tree.print →
    ∃ inner, MembersSpelled ((key, tree) :: members) inner ∧
      printString key ++ ':' :: (tree.print ++ printMembers members) = inner ++ ['\x7d']
  | [], _, key, tree, named, first => by
    refine ⟨printString key ++ ':' :: tree.print, ?_, by simp [printMembers]⟩
    rw [MembersSpelled]
    exact memberSpelled_print named first
  | (name, value) :: members, printable, key, tree, named, first => by
    rw [PrintableMembers] at printable
    obtain ⟨others, spelled, printed⟩ := membersSpelled_print members printable.2.2 name value
      printable.1 (value.spelled_print printable.2.1)
    refine ⟨(printString key ++ ':' :: tree.print) ++ ',' :: others, ?_, by
      simp [printMembers, printed]⟩
    rw [MembersSpelled]
    exact ⟨_, others, memberSpelled_print named first, spelled, rfl⟩

end

/-- A printed tree is a text of its own. -/
theorem Tree.parse?_print {tree : Tree} (h : tree.Printable) :
    Tree.parse? tree.print = some tree :=
  Tree.parse?_eq_some_iff.2 (padded_of (tree.spelled_print h))

end LiveThread.Json
