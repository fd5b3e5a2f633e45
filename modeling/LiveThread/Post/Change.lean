import LiveThread.Wire.ClientMessage

/-!
# Changes in place

The body of a post that is shown is changed where it stands.  A change looks at
the post, may refuse, and otherwise writes the new body; what it has written
before it refuses would stay.  Positions are numbers of 64 bits, so their sum
may not be one.

Main results:

- Definition `PostChange`: a change that may fail and leaves a post either way.
- Definitions `PostChange.append`, `PostChange.backspace` and `PostChange.splice`: the changes of an
  open body.
- Definition `PostChange.ofMessage`: the change that a message of the author stands for.
- Theorems `PostChange.append_run` and `PostChange.splice_run`: a change has the same outcome in
  place, and a refused one has not touched the post.
-/

namespace LiveThread

/-- The sum of two numbers of 64 bits, if it is one. -/
def checkedSum? (a b : UInt64) : Option UInt64 :=
  let sum := a + b
  if sum < a then none else some sum

/-- The sum is checked exactly. -/
theorem checkedSum?_eq_some_iff {a b c : UInt64} :
    checkedSum? a b = some c ↔ c.toNat = a.toNat + b.toNat := by
  have sum := UInt64.toNat_add a b
  have left := a.toNat_lt
  have right := b.toNat_lt
  have whole := c.toNat_lt
  unfold checkedSum?
  dsimp only
  split
  · next wrapped =>
    rw [UInt64.lt_iff_toNat_lt] at wrapped
    simp only [reduceCtorEq, false_iff]
    omega
  · next fits =>
    rw [UInt64.lt_iff_toNat_lt] at fits
    rw [Option.some.injEq, ← UInt64.toNat_inj]
    omega

/-- Whether `count` characters from `start` on end within a number of characters. -/
def endsWithin (start count : UInt64) (length : Nat) : Bool :=
  (checkedSum? start count).any fun stop => stop.toNat ≤ length

/-- The end is computed exactly, or not at all. -/
theorem endsWithin_iff {start count : UInt64} {length : Nat} :
    endsWithin start count length = true ↔
      start.toNat + count.toNat < 0x10000000000000000 ∧ start.toNat + count.toNat ≤ length := by
  simp only [endsWithin, Option.any_eq_true, decide_eq_true_eq, checkedSum?_eq_some_iff]
  constructor
  · rintro ⟨stop, sum, inside⟩
    have bound := stop.toNat_lt
    omega
  · rintro ⟨bound, inside⟩
    have sum : (start + count).toNat = start.toNat + count.toNat := by
      rw [UInt64.toNat_add, Nat.mod_eq_of_lt bound]
    exact ⟨start + count, sum, sum ▸ inside⟩

/-- A change of a post in place: it may fail, and leaves a post either way. -/
abbrev PostChange :=
  EStateM PostError Post Unit

namespace PostChange

/-- Appends the character with a code point. -/
def append (code : UInt32) : PostChange :=
  match charOfCode? code with
  | some c => modify fun p => { p with body := p.body.push c }
  | none => throw (.invalidCodePoint code)

/-- Removes the last character, if there is one. -/
def backspace : PostChange :=
  modify Post.backspace

/-- Replaces `count` characters from `start` on, if the body has that many. -/
def splice (start count : UInt64) (text : String) : PostChange := do
  let bodyLength := (← get).bodyLength
  unless endsWithin start count bodyLength do
    throw (.spliceOutOfRange start count bodyLength)
  let body := (← get).body.toList
  let replaced := body.take start.toNat ++ text.toList ++ body.drop (start + count).toNat
  modify fun p => { p with body := String.ofList replaced }

/-- The change that a message of the author stands for; all but the edits stand for none. -/
def ofMessage : ClientMessage → PostChange
  | .append code => append code
  | .backspace => backspace
  | .splice s => splice s.start s.count s.text
  | .synchronise _ | .insertPost _ | .closePost | .insertImage _ | .spoiler | .noop => pure ()

/-- The outcome of a change that has not touched the post if it is refused. -/
def outcome (p : Post) : Except PostError Post → EStateM.Result PostError Post Unit
  | .ok changed => .ok () changed
  | .error e => .error e p

/-- A character is appended in place. -/
theorem append_run (p : Post) (code : UInt32) :
    (append code).run p = outcome p (p.append? code) := by
  unfold append Post.append?
  cases charOfCode? code <;> rfl

/-- The last character is removed in place. -/
theorem backspace_run (p : Post) : backspace.run p = outcome p (.ok p.backspace) :=
  rfl

/-- A part is replaced in place if it lies in the body; nothing is written before that is known. -/
theorem splice_run_eq (p : Post) (start count : UInt64) (text : String) :
    (splice start count text).run p
      = if endsWithin start count p.bodyLength then
          .ok () { p with
            body := String.ofList
              (p.body.toList.take start.toNat ++ text.toList
                ++ p.body.toList.drop (start + count).toNat) }
        else .error (.spliceOutOfRange start count p.bodyLength) p := by
  cases inside : endsWithin start count p.bodyLength <;> simp [splice, inside]

/-- A part is replaced in place.  A body in memory has fewer than 2^64 characters, so an end that is
too large for 64 bits lies beyond it. -/
theorem splice_run {p : Post} {start count : UInt64}
    (short : start.toNat + count.toNat < 0x10000000000000000 ∨ p.bodyLength < 0x10000000000000000)
    (text : String) : (splice start count text).run p = outcome p (p.splice? start count text) := by
  rw [splice_run_eq]
  by_cases inside : start.toNat + count.toNat ≤ p.bodyLength
  · have bound : start.toNat + count.toNat < 0x10000000000000000 := by omega
    rw [if_pos (endsWithin_iff.2 ⟨bound, inside⟩), UInt64.toNat_add, Nat.mod_eq_of_lt bound,
      Post.splice?, if_pos inside, outcome]
  · rw [if_neg (fun ends => inside (endsWithin_iff.1 ends).2), Post.splice?, if_neg inside, outcome]

end PostChange

end LiveThread
