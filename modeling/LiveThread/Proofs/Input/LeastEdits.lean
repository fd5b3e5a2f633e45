import LiveThread.Proofs.Composition.Replay

/-!
# Least edits

The edit between two bodies takes the least there is to take away and puts in
the least there is to put in.  The common beginning is found first, and the
common end only in what it leaves over, so the two never overlap; still no
other way to keep a beginning and an end of the old body keeps more of it.

Main results:

- Theorem `Edit.commonLength_isGreatest`: the common beginning is the longest one.
- Theorem `Edit.kept_le`: no replacement keeps more than the one between two texts.
- Theorems `Edit.between?_eq_append_iff` and `Edit.between?_eq_backspace_iff`: when a single
  character is typed or deleted at the end.
- Theorem `Edit.between?_exact_and_least`: the edit between two bodies is exact, of the cheapest kind,
  and replaces no more than any other one.
-/

namespace LiveThread

namespace Edit

/-! ## Common beginnings and ends -/

/-- A common beginning is no longer than the one that is found. -/
theorem length_le_commonLength {p as bs : List Char} (first : p <+: as) (second : p <+: bs) :
    p.length ≤ commonLength as bs := by
  induction p generalizing as bs with
  | nil => exact Nat.zero_le _
  | cons c p ih =>
    obtain ⟨as, rfl⟩ := first
    obtain ⟨bs, rfl⟩ := second
    simp only [List.cons_append, commonLength, if_true, List.length_cons]
    exact Nat.succ_le_succ (ih (List.prefix_append p as) (List.prefix_append p bs))

/-- What is found is the length of the longest common beginning. -/
theorem commonLength_isGreatest (as bs : List Char) :
    IsGreatest {n | ∃ p : List Char, p <+: as ∧ p <+: bs ∧ p.length = n} (commonLength as bs) := by
  constructor
  · refine ⟨as.take (commonLength as bs), List.take_prefix _ _, ?_, ?_⟩
    · rw [take_commonLength]
      exact List.take_prefix _ _
    · rw [List.length_take]
      exact Nat.min_eq_left (commonLength_le as bs).1
  · rintro n ⟨p, first, second, rfl⟩
    exact length_le_commonLength first second

/-- A common end is no longer than the one that is found from behind. -/
theorem length_le_commonLength_reverse {p as bs : List Char} (first : p <:+ as)
    (second : p <:+ bs) : p.length ≤ commonLength as.reverse bs.reverse := by
  rw [← List.length_reverse]
  apply length_le_commonLength
  · exact List.reverse_prefix.2 first
  · exact List.reverse_prefix.2 second

/-- An end of a text that is no longer than what a cut leaves over is an end of that. -/
theorem suffix_drop {p as : List Char} {n : Nat} (suffix : p <:+ as)
    (short : p.length ≤ as.length - n) : p <:+ as.drop n := by
  apply List.suffix_of_suffix_length_le suffix (List.drop_suffix n as)
  rwa [List.length_drop]

/-- Two texts that keep a beginning `a` and an end `b` keep no more than what is found: the longest
common beginning, and the longest common end of what it leaves over. -/
theorem kept_le (a b old new : List Char) :
    let start := commonLength (a ++ old ++ b) (a ++ new ++ b)
    let kept := commonLength ((a ++ old ++ b).drop start).reverse
      ((a ++ new ++ b).drop start).reverse
    a.length + b.length ≤ start + kept := by
  intro start kept
  have front : a.length ≤ start := by
    apply length_le_commonLength
    · rw [List.append_assoc]
      exact List.prefix_append _ _
    · rw [List.append_assoc]
      exact List.prefix_append _ _
  have inside := commonLength_le (a ++ old ++ b) (a ++ new ++ b)
  have oldSize : (a ++ old ++ b).length = a.length + old.length + b.length := by
    rw [List.length_append, List.length_append]
  have newSize : (a ++ new ++ b).length = a.length + new.length + b.length := by
    rw [List.length_append, List.length_append]
  -- The longest end of `b` that the common beginning leaves over on both sides.
  obtain ⟨rest, suffix, size⟩ : ∃ rest, rest <:+ b ∧ rest.length
      = min b.length (min ((a ++ old ++ b).length - start) ((a ++ new ++ b).length - start)) := by
    refine ⟨b.drop (b.length - min ((a ++ old ++ b).length - start)
      ((a ++ new ++ b).length - start)), List.drop_suffix _ b, ?_⟩
    rw [List.length_drop]
    omega
  have back : rest.length ≤ kept := by
    apply length_le_commonLength_reverse
    · exact suffix_drop (suffix.trans (List.suffix_append _ b)) (by omega)
    · exact suffix_drop (suffix.trans (List.suffix_append _ b)) (by omega)
  omega

/-! ## Replacements -/

/-- The replacement between two texts lies in the old one, and takes away and puts in no more than
any other replacement that makes the new text. -/
theorem spliceBetween_least {old new : List Char} {start count : Nat} {text : String}
    (between : spliceBetween old new = splice start count text) {s l : Nat} {t : List Char}
    (inside : s + l ≤ old.length) (makes : old.take s ++ t ++ old.drop (s + l) = new) :
    count ≤ l ∧ text.length ≤ t.length := by
  have cut : old.take s ++ (old.drop s).take l ++ old.drop (s + l) = old := by
    rw [← List.drop_drop, List.append_assoc, List.take_append_drop, List.take_append_drop]
  have keeps := kept_le (old.take s) (old.drop (s + l)) ((old.drop s).take l) t
  simp only [cut, makes] at keeps
  have newSize := congrArg List.length makes
  have beginning : (old.take s).length = s :=
    List.length_take_of_le ((Nat.le_add_right s l).trans inside)
  have start_le := commonLength_le old new
  have kept_le := commonLength_le (old.drop (commonLength old new)).reverse
    (new.drop (commonLength old new)).reverse
  simp only [spliceBetween, splice.injEq] at between
  obtain ⟨rfl, rfl, rfl⟩ := between
  simp only [List.length_append, beginning, List.length_drop] at keeps newSize
  simp only [List.length_reverse, List.length_drop] at kept_le
  simp only [List.length_drop, List.length_take, String.length_ofList]
  omega

/-! ## The kinds of edits -/

section Kinds

variable {old new : String}

/-- A character is typed exactly if the new body is the old one with the character at the end. -/
theorem between?_eq_append_iff {c : Char} :
    between? old new = some (append c) ↔ new = old.push c := by
  constructor
  · intro between
    rw [← apply_between? between, ← String.toList_inj]
    simp [apply, applyChars]
  · rintro rfl
    have longer : old ≠ old.push c := by
      intro same
      have size := congrArg String.length same
      simp at size
    simp [between?, longer]

/-- A character is deleted exactly if the old body is the new one with some character at the end. -/
theorem between?_eq_backspace_iff :
    between? old new = some backspace ↔ ∃ c, old = new.push c := by
  constructor
  · intro between
    have made := apply_between? between
    rw [← String.toList_inj, apply, applyChars, String.toList_ofList] at made
    have filled : old.toList ≠ [] := by
      intro empty
      have same : old = new := by
        rw [← String.toList_inj, ← made, empty]
        rfl
      rw [between?_eq_none_iff.2 same] at between
      cases between
    refine ⟨old.toList.getLast filled, ?_⟩
    rw [← String.toList_inj, String.toList_push, ← made, List.dropLast_append_getLast]
  · rintro ⟨c, rfl⟩
    have shorter : new.push c ≠ new := by
      intro same
      have size := congrArg String.length same
      simp at size
    have other : (new.push c).toList ≠ new.toList.dropLast := by
      intro same
      have size := congrArg List.length same
      simp at size
      omega
    rw [between?, if_neg shorter, if_neg other, if_pos (by simp)]

/-- Everything else is replaced. -/
theorem between?_eq_splice (different : old ≠ new) (longer : ∀ c, new ≠ old.push c)
    (shorter : ∀ c, old ≠ new.push c) :
    between? old new = some (spliceBetween old.toList new.toList) := by
  cases between : between? old new with
  | none => exact absurd (between?_eq_none_iff.1 between) different
  | some edit =>
    cases edit with
    | append c => exact absurd (between?_eq_append_iff.1 between) (longer c)
    | backspace =>
      obtain ⟨c, same⟩ := between?_eq_backspace_iff.1 between
      exact absurd same (shorter c)
    | splice start count text =>
      unfold between? at between
      split at between
      · cases between
      · split at between
        · obtain ⟨c, -, other⟩ := Option.map_eq_some_iff.1 between
          cases other
        · split at between
          · cases between
          · rw [← between]

end Kinds

/-- The edit from one body to another.

- There is none exactly if the bodies are equal; otherwise it makes the new body of the old one.
- One character is typed exactly if the new body is the old one and that character, and one is
  deleted exactly if the old body is the new one and some character.
- Otherwise a part of the old body is replaced that begins where the longest common beginning ends.
  Something is taken away or put in, and no other replacement in the old body that makes the new one
  takes away or puts in less. -/
theorem between?_exact_and_least (old new : String) :
    (between? old new = none ↔ old = new) ∧
    (∀ edit, between? old new = some edit → edit.apply old = new) ∧
    (∀ c, between? old new = some (append c) ↔ new = old.push c) ∧
    (between? old new = some backspace ↔ ∃ c, old = new.push c) ∧
    (old ≠ new → (∀ c, new ≠ old.push c) → (∀ c, old ≠ new.push c) →
      ∃ start count text, between? old new = some (splice start count text) ∧
        start + count ≤ old.length ∧
        IsGreatest {n | ∃ p : List Char, p <+: old.toList ∧ p <+: new.toList ∧ p.length = n} start ∧
        (0 < count ∨ text ≠ "") ∧
        ∀ (s l : Nat) (t : String), s + l ≤ old.length →
          old.toList.take s ++ t.toList ++ old.toList.drop (s + l) = new.toList →
          count ≤ l ∧ text.length ≤ t.length) := by
  refine ⟨between?_eq_none_iff, fun edit between => apply_between? between,
    fun c => between?_eq_append_iff, between?_eq_backspace_iff, ?_⟩
  intro different longer shorter
  have between := between?_eq_splice different longer shorter
  cases found : spliceBetween old.toList new.toList with
  | append | backspace => cases found
  | splice start count text =>
    rw [found] at between
    refine ⟨start, count, text, between, end_le_of_between? between, ?_, ?_, ?_⟩
    · have begins : commonLength old.toList new.toList = start := by
        simp only [spliceBetween, splice.injEq] at found
        exact found.1
      rw [← begins]
      exact commonLength_isGreatest old.toList new.toList
    · by_contra! empty
      have made := apply_between? between
      obtain ⟨none, rfl⟩ := empty
      apply different
      rw [← made, ← String.toList_inj]
      simp [apply, applyChars, Nat.le_zero.1 none]
    · intro s l t inside makes
      rw [← String.length_toList] at inside
      exact spliceBetween_least found inside makes

end Edit

end LiveThread
