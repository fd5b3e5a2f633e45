import LiveThread.Wire.ClientMessage

/-!
# Edits

The change from one body to the next as a single edit.  Typing at the end and
deleting from the end have edits of their own; every other change replaces the
part between the common beginning and the common end of the two bodies.

Main results:

- Definition `Edit`: the edits.
- Definition `Edit.between?`: the edit from one body to another.
- Theorem `Edit.between?_eq_none_iff`: there is none exactly between equal bodies.
- Theorem `Edit.apply_between?`: the edit from one body to another makes that other body.
-/

namespace LiveThread

/-! ## Edits and what they do -/

/-- A change of a body.  Positions count characters. -/
inductive Edit where
  /-- One more character at the end. -/
  | append (c : Char)
  /-- One character less at the end. -/
  | backspace
  /-- A text in place of `count` characters from `start` on. -/
  | splice (start count : Nat) (text : String)
  deriving DecidableEq

namespace Edit

/-- The characters of a body after an edit; positions beyond the end mean the end. -/
def applyChars (cs : List Char) : Edit → List Char
  | append c => cs ++ [c]
  | backspace => cs.dropLast
  | splice start count text => cs.take start ++ text.toList ++ cs.drop (start + count)

/-- The body after an edit. -/
def apply (edit : Edit) (body : String) : String :=
  String.ofList (edit.applyChars body.toList)

/-- The message that tells the server of an edit. -/
def message : Edit → ClientMessage
  | append c => .append c.val
  | backspace => .backspace
  | splice start count text => .splice ⟨start.toUInt64, count.toUInt64, text⟩

/-! ## The edit between two bodies -/

/-- How many characters two texts have in common at the beginning. -/
def commonLength : List Char → List Char → Nat
  | a :: as, b :: bs => if a = b then commonLength as bs + 1 else 0
  | _, _ => 0

/-- The replacement of what two texts do not have in common at the beginning and at the end. -/
def spliceBetween (old new : List Char) : Edit :=
  let start := commonLength old new
  let oldRest := old.drop start
  let newRest := new.drop start
  let kept := commonLength oldRest.reverse newRest.reverse
  splice start (oldRest.length - kept) (String.ofList (newRest.take (newRest.length - kept)))

/-- The edit from one body to another, if they differ. -/
def between? (old new : String) : Option Edit :=
  if old = new then none
  else if old.toList = new.toList.dropLast then new.toList.getLast?.map append
  else if new.toList = old.toList.dropLast then some backspace
  else some (spliceBetween old.toList new.toList)

/-! ## Exactness -/

theorem take_commonLength (as bs : List Char) :
    as.take (commonLength as bs) = bs.take (commonLength as bs) := by
  fun_induction commonLength as bs with
  | case1 as b bs ih => simp [ih]
  | case2 => simp
  | case3 => simp

theorem commonLength_le (as bs : List Char) :
    commonLength as bs ≤ as.length ∧ commonLength as bs ≤ bs.length := by
  fun_induction commonLength as bs with
  | case1 as b bs ih => simp only [List.length_cons]; omega
  | case2 => simp
  | case3 => simp

/-- The replacement makes the new text of the old one. -/
theorem applyChars_spliceBetween (old new : List Char) :
    (spliceBetween old new).applyChars old = new := by
  simp only [spliceBetween, applyChars, String.toList_ofList]
  generalize hs : commonLength old new = start
  have front : old.take start = new.take start := hs ▸ take_commonLength old new
  generalize hk : commonLength (old.drop start).reverse (new.drop start).reverse = kept
  have back := take_commonLength (old.drop start).reverse (new.drop start).reverse
  have le := commonLength_le (old.drop start).reverse (new.drop start).reverse
  rw [hk] at back le
  simp only [List.length_reverse] at le
  rw [List.take_reverse, List.take_reverse, List.reverse_inj] at back
  rw [← List.drop_drop, back, front, List.append_assoc, List.take_append_drop,
    List.take_append_drop]

/-- There is no edit exactly between equal bodies. -/
theorem between?_eq_none_iff {old new : String} : between? old new = none ↔ old = new := by
  unfold between?
  split
  · next h => simp [h]
  · next different =>
    split
    · next longer =>
      simp only [Option.map_eq_none_iff, List.getLast?_eq_none_iff, different, iff_false]
      intro empty
      apply different
      rw [← String.toList_inj, longer, empty]
      rfl
    · split <;> simp [different]

/-- The edit from one body to another makes that other body. -/
theorem apply_between? {old new : String} {edit : Edit} (h : between? old new = some edit) :
    edit.apply old = new := by
  rw [apply, ← String.toList_inj, String.toList_ofList]
  unfold between? at h
  split at h
  · cases h
  · split at h
    · next longer =>
      obtain ⟨c, last, rfl⟩ := Option.map_eq_some_iff.1 h
      obtain ⟨init, eq⟩ := List.getLast?_eq_some_iff.1 last
      simp [applyChars, longer, eq]
    · split at h
      · next shorter =>
        cases h
        exact shorter.symm
      · cases h
        exact applyChars_spliceBetween _ _

end Edit

end LiveThread
