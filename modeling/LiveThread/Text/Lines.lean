/-!
# Lines

A text is cut into lines at its line feeds, which belong to no line.  The empty
text is one empty line, and a line feed at the end opens a further empty line.

Main results:

- Definition `linesOf`: the lines of a text.
- Theorem `length_linesOf`: there is one line more than there are line feeds.
- Theorem `intercalate_linesOf`: with line feeds between them the lines are the text again.
- Definition `keepLines`: the longest beginning with a bounded number of line feeds.
- Theorems `isPrefix_keepLines` and `isPrefix_keepLines_of_count_le`: what is kept is a beginning of
  the text, and the longest one allowed.
-/

namespace LiveThread.Text

/-! ## Lines of a text -/

/-- The lines of a text. -/
def linesOf : List Char → List (List Char)
  | [] => [[]]
  | c :: cs =>
    if c = '\n' then [] :: linesOf cs
    else
      match linesOf cs with
      | line :: lines => (c :: line) :: lines
      | [] => [[c]]

/-- There is one line more than there are line feeds. -/
theorem length_linesOf (cs : List Char) : (linesOf cs).length = cs.count '\n' + 1 := by
  induction cs with
  | nil => rfl
  | cons c cs ih =>
    unfold linesOf
    split
    · next h => simp [h, ih]
    · next h =>
      rw [List.count_cons_of_ne h, ← ih]
      split
      · next eq => simp [eq]
      · next eq => simp [eq] at ih

/-- The lines of a text, with line feeds between them, are the text. -/
theorem intercalate_linesOf (cs : List Char) : ['\n'].intercalate (linesOf cs) = cs := by
  induction cs with
  | nil => rfl
  | cons c cs ih =>
    have some_lines : linesOf cs ≠ [] := by
      intro none
      have size := length_linesOf cs
      rw [none] at size
      cases size
    obtain ⟨line, lines, cut⟩ := List.exists_cons_of_ne_nil some_lines
    rw [cut] at ih
    unfold linesOf
    split
    · next h =>
      rw [cut, List.intercalate_cons_cons, ih, h]
      rfl
    · rw [cut]
      cases lines with
      | nil => simpa using ih
      | cons next lines =>
        simp only [List.intercalate_cons_cons] at ih ⊢
        rw [← ih]
        simp

/-- No line holds a line feed. -/
theorem notMem_of_mem_linesOf {cs line : List Char} (h : line ∈ linesOf cs) : '\n' ∉ line := by
  induction cs generalizing line with
  | nil =>
    cases List.mem_singleton.1 h
    exact List.not_mem_nil
  | cons c cs ih =>
    unfold linesOf at h
    split at h
    · rcases List.mem_cons.1 h with rfl | h
      · exact List.not_mem_nil
      · exact ih h
    · next other =>
      split at h
      · next first lines cut =>
        rcases List.mem_cons.1 h with rfl | h
        · rw [List.mem_cons, not_or]
          exact ⟨Ne.symm other, ih (cut ▸ List.mem_cons_self)⟩
        · exact ih (cut ▸ List.mem_cons_of_mem _ h)
      · cases List.mem_singleton.1 h
        simpa using Ne.symm other

/-! ## The first lines of a text -/

/-- The longest beginning of a text with at most `breaks` line feeds. -/
def keepLines (breaks : Nat) : List Char → List Char
  | [] => []
  | c :: cs =>
    if c = '\n' then
      match breaks with
      | 0 => []
      | breaks + 1 => c :: keepLines breaks cs
    else c :: keepLines breaks cs

/-- What is kept is a beginning of the text. -/
theorem isPrefix_keepLines (breaks : Nat) (cs : List Char) : keepLines breaks cs <+: cs := by
  induction cs generalizing breaks with
  | nil => simp [keepLines]
  | cons c cs ih =>
    unfold keepLines
    split
    · split
      · exact List.nil_prefix
      · exact (List.prefix_cons_inj c).2 (ih _)
    · exact (List.prefix_cons_inj c).2 (ih _)

/-- No more line feeds are kept than allowed. -/
theorem count_keepLines_le (breaks : Nat) (cs : List Char) :
    (keepLines breaks cs).count '\n' ≤ breaks := by
  induction cs generalizing breaks with
  | nil => simp [keepLines]
  | cons c cs ih =>
    unfold keepLines
    split
    · next h =>
      subst h
      split
      · simp
      · simpa using ih _
    · next h =>
      rw [List.count_cons_of_ne h]
      exact ih _

/-- Every beginning with no more line feeds than allowed is kept. -/
theorem isPrefix_keepLines_of_count_le {breaks : Nat} {p cs : List Char} (first : p <+: cs)
    (few : p.count '\n' ≤ breaks) : p <+: keepLines breaks cs := by
  induction p generalizing breaks cs with
  | nil => exact List.nil_prefix
  | cons c p ih =>
    obtain ⟨rest, rfl⟩ := first
    rw [List.cons_append]
    unfold keepLines
    split
    · next h =>
      subst h
      rw [List.count_cons_self] at few
      cases breaks with
      | zero => cases few
      | succ breaks =>
        exact (List.prefix_cons_inj _).2 (ih (List.prefix_append p rest) (Nat.le_of_succ_le_succ few))
    · next h =>
      rw [List.count_cons_of_ne h] at few
      exact (List.prefix_cons_inj c).2 (ih (List.prefix_append p rest) few)

end LiveThread.Text
