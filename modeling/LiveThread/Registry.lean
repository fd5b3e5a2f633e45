import LiveThread.Post.Basic

/-!
# The posts of a thread

The posts that a page shows, each under the id it was registered with.  The
entries are kept in ascending order of their ids.

Main results:

- Definition `Registry.get?`: the post under an id, the view that the other operations are
  described by.
- Theorems `Registry.get?_insert`, `Registry.get?_erase` and `Registry.get?_modify`: what each
  operation does to it.
- Theorem `Registry.mem_ids_iff`: the listed ids are those with a post.
-/

namespace LiveThread

/-! ## Entries -/

/-- Entries with strictly ascending ids. -/
def AscendingIds (entries : List (UInt64 × Post)) : Prop :=
  (entries.map Prod.fst).Pairwise (· < ·)

/-- Puts a post in its place, replacing the one under the same id. -/
def putEntry (id : UInt64) (post : Post) : List (UInt64 × Post) → List (UInt64 × Post)
  | [] => [(id, post)]
  | (other, kept) :: entries =>
    if id < other then (id, post) :: (other, kept) :: entries
    else if id = other then (id, post) :: entries
    else (other, kept) :: putEntry id post entries

theorem mem_ids_putEntry {id other : UInt64} {post : Post} {entries : List (UInt64 × Post)}
    (h : other ∈ (putEntry id post entries).map Prod.fst) :
    other = id ∨ other ∈ entries.map Prod.fst := by
  induction entries with
  | nil => simpa [putEntry] using h
  | cons entry entries ih =>
    obtain ⟨kept, old⟩ := entry
    unfold putEntry at h
    split at h
    · simpa using h
    · split at h
      · simp only [List.map_cons, List.mem_cons] at h ⊢
        exact h.imp_right .inr
      · simp only [List.map_cons, List.mem_cons] at h ⊢
        rcases h with h | h
        · exact .inr (.inl h)
        · exact (ih h).imp_right .inr

theorem ascendingIds_putEntry (id : UInt64) (post : Post) {entries : List (UInt64 × Post)}
    (h : AscendingIds entries) : AscendingIds (putEntry id post entries) := by
  induction entries with
  | nil => simp [putEntry, AscendingIds]
  | cons entry entries ih =>
    obtain ⟨kept, old⟩ := entry
    simp only [AscendingIds, List.map_cons, List.pairwise_cons] at h
    unfold putEntry
    split
    · next before =>
      simp only [AscendingIds, List.map_cons, List.pairwise_cons, List.mem_cons]
      refine ⟨?_, h.1, h.2⟩
      rintro other (rfl | later)
      · exact before
      · exact UInt64.lt_trans before (h.1 other later)
    · split
      · next same =>
        subst same
        simpa only [AscendingIds, List.map_cons, List.pairwise_cons] using h
      · next notBefore notSame =>
        have after : kept < id := by
          simp only [UInt64.lt_iff_toNat_lt, ← UInt64.toNat_inj] at *
          omega
        simp only [AscendingIds, List.map_cons, List.pairwise_cons]
        refine ⟨fun other later => ?_, ih h.2⟩
        rcases mem_ids_putEntry later with rfl | later
        · exact after
        · exact h.1 other later

/-! ## Registries -/

/-- The registered posts of a thread. -/
structure Registry where
  entries : List (UInt64 × Post)
  ascending : AscendingIds entries

namespace Registry

/-- No posts. -/
def empty : Registry :=
  ⟨[], by simp [AscendingIds]⟩

/-- The post under an id. -/
def get? (r : Registry) (id : UInt64) : Option Post :=
  r.entries.lookup id

/-- Whether there is a post under an id. -/
def contains (r : Registry) (id : UInt64) : Bool :=
  (r.get? id).isSome

/-- The ids with a post, in ascending order. -/
def ids (r : Registry) : List UInt64 :=
  r.entries.map Prod.fst

/-- The posts, in ascending order of their ids. -/
def posts (r : Registry) : List Post :=
  r.entries.map Prod.snd

/-- The number of posts. -/
def size (r : Registry) : Nat :=
  r.entries.length

/-- Registers a post under its own id, in place of the one registered before. -/
def insert (r : Registry) (post : Post) : Registry :=
  ⟨putEntry post.id post r.entries, ascendingIds_putEntry _ _ r.ascending⟩

/-- Drops the post under an id. -/
def erase (r : Registry) (id : UInt64) : Registry :=
  ⟨r.entries.filter fun entry => entry.1 ≠ id, by
    have sub : ((r.entries.filter fun entry => entry.1 ≠ id).map Prod.fst).Sublist
        (r.entries.map Prod.fst) := List.filter_sublist.map _
    exact List.Pairwise.sublist sub r.ascending⟩

/-- Changes the post under an id, if there is one; it stays under that id. -/
def modify (r : Registry) (id : UInt64) (change : Post → Post) : Registry :=
  ⟨r.entries.map fun entry => if entry.1 = id then (entry.1, change entry.2) else entry, by
    have same : (r.entries.map fun entry =>
        if entry.1 = id then (entry.1, change entry.2) else entry).map Prod.fst
          = r.entries.map Prod.fst := by
      rw [List.map_map]
      apply List.map_congr_left
      intro entry _
      simp only [Function.comp]
      split <;> rfl
    unfold AscendingIds
    rw [same]
    exact r.ascending⟩

/-- Registers a post and tells which one it replaced. -/
def getThenInsert (r : Registry) (post : Post) : Option Post × Registry :=
  (r.get? post.id, r.insert post)

/-- Drops the post under an id and tells which one it was. -/
def getThenErase (r : Registry) (id : UInt64) : Option Post × Registry :=
  (r.get? id, r.erase id)

/-- Runs a step on the post under an id; nothing runs if there is no such post. -/
def update {α : Type} (r : Registry) (id : UInt64) (step : Post → α × Post) :
    Option α × Registry :=
  match r.get? id with
  | some post => let (answer, post) := step post; (some answer, r.modify id fun _ => post)
  | none => (none, r)

/-! ## The view -/

theorem lookup_putEntry (id other : UInt64) (post : Post) (entries : List (UInt64 × Post)) :
    (putEntry id post entries).lookup other
      = if other = id then some post else entries.lookup other := by
  have beq_of_ne : ∀ {a b : UInt64}, a ≠ b → (a == b) = false := by simp
  induction entries with
  | nil =>
    by_cases h : other = id
    · simp [putEntry, h]
    · simp [putEntry, List.lookup_cons, h, beq_of_ne h]
  | cons entry entries ih =>
    obtain ⟨kept, old⟩ := entry
    unfold putEntry
    split
    · by_cases h : other = id
      · simp [h]
      · simp [List.lookup_cons, h, beq_of_ne h]
    · split
      · next same =>
        subst same
        by_cases h : other = id
        · simp [h]
        · simp [List.lookup_cons, h, beq_of_ne h]
      · next notSame =>
        by_cases h : other = kept
        · have : ¬ kept = id := fun e => notSame e.symm
          simp [h, this]
        · simp [List.lookup_cons, beq_of_ne h, ih]

/-- Inserting a post changes the entry of its id only. -/
@[simp]
theorem get?_insert (r : Registry) (post : Post) (id : UInt64) :
    (r.insert post).get? id = if id = post.id then some post else r.get? id := by
  simp [get?, insert, lookup_putEntry]

/-- Erasing an id leaves no post under it and the others as they were. -/
@[simp]
theorem get?_erase (r : Registry) (id other : UInt64) :
    (r.erase id).get? other = if other = id then none else r.get? other := by
  simp only [get?, erase]
  induction r.entries with
  | nil => simp
  | cons entry entries ih =>
    obtain ⟨kept, old⟩ := entry
    by_cases hk : kept = id
    · by_cases h : other = id
      · simp [hk, h] at ih ⊢
        exact ih
      · have : (other == kept) = false := by simp [hk, h]
        simp [List.lookup_cons, hk, h] at ih ⊢
        simp [ih, hk ▸ this]
    · by_cases h : other = kept
      · subst h
        simp [hk]
      · have : (other == kept) = false := by simp [h]
        simp [List.lookup_cons, hk, this] at ih ⊢
        exact ih

/-- Changing the post of an id changes no other entry, and none if there is no such post. -/
@[simp]
theorem get?_modify (r : Registry) (id other : UInt64) (change : Post → Post) :
    (r.modify id change).get? other
      = if other = id then (r.get? id).map change else r.get? other := by
  simp only [get?, modify]
  induction r.entries with
  | nil => simp
  | cons entry entries ih =>
    obtain ⟨kept, old⟩ := entry
    by_cases hk : kept = id
    · subst hk
      by_cases h : other = kept
      · simp [h]
      · have : (other == kept) = false := by simp [h]
        simp [List.lookup_cons, this, h] at ih ⊢
        exact ih
    · by_cases h : other = kept
      · subst h
        simp [hk]
      · have : (other == kept) = false := by simp [h]
        have hid : (id == kept) = false := by simp [Ne.symm hk]
        simp [List.lookup_cons, hk, this, hid] at ih ⊢
        exact ih

/-- A step on a post changes the entry of that post only. -/
@[simp]
theorem get?_update {α : Type} (r : Registry) (id other : UInt64) (step : Post → α × Post) :
    (r.update id step).2.get? other
      = if other = id then (r.get? id).map fun post => (step post).2 else r.get? other := by
  unfold update
  split
  · next post found => simp [found]
  · next missing =>
    by_cases h : other = id
    · simp [h, missing]
    · simp [h]

/-- A step runs exactly if there is a post. -/
theorem update_fst {α : Type} (r : Registry) (id : UInt64) (step : Post → α × Post) :
    (r.update id step).1 = (r.get? id).map fun post => (step post).1 := by
  unfold update
  split <;> simp_all

@[simp]
theorem get?_empty (id : UInt64) : empty.get? id = none :=
  rfl

/-- The listed ids are those with a post. -/
theorem mem_ids_iff {r : Registry} {id : UInt64} : id ∈ r.ids ↔ r.contains id = true := by
  simp only [ids, contains, get?]
  induction r.entries with
  | nil => simp
  | cons entry entries ih =>
    obtain ⟨kept, old⟩ := entry
    by_cases h : id = kept
    · simp [h]
    · have : (id == kept) = false := by simp [h]
      simp only [List.map_cons, List.mem_cons, h, false_or, List.lookup_cons, this]
      exact ih

end Registry

end LiveThread
