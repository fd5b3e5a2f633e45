import LiveThread.Registry
import Mathlib.Data.List.Induction

/-!
# Registries as finite maps

A registry is changed by inserting posts, by erasing ids and by running steps on
the post under an id.  Whatever is called, in whatever order, it has under each
id what was written there last, changed by the steps that were run on it since,
and nothing of what was written before.

Main results:

- Definitions `RegistryCall` and `Registry.after`: calls, and a registry after some of them.
- Definition `lastWrite`: the post under an id, found by going back to the last write there.
- Definition `Registry.Refines`: a registry agrees with a partial map, in all that can be asked.
- Theorem `Registry.refines_lastWrite`: after any calls it agrees with the last writes.
- Theorem `Registry.call_fst`: a caller is told what the registry had before.
-/

namespace LiveThread

/-! ## Calls -/

/-- A change that is asked of a registry. -/
inductive RegistryCall (α : Type) where
  | insert (post : Post)
  | erase (id : UInt64)
  /-- A step is run on the post under an id.  It may change the post in any way, and leave
  something else behind as well. -/
  | update (id : UInt64) (step : Post → α × Post)

/-- What the caller is told. -/
inductive RegistryAnswer (α : Type) where
  /-- The post that was there before. -/
  | previous (post : Option Post)
  /-- What the step left behind; nothing if it was not run. -/
  | stepped (outcome : Option α)

/-- What the caller is told if these are the posts. -/
def RegistryCall.answer {α : Type} (post? : UInt64 → Option Post) :
    RegistryCall α → RegistryAnswer α
  | .insert post => .previous (post? post.id)
  | .erase id => .previous (post? id)
  | .update id step => .stepped ((post? id).map fun post => (step post).1)

/-- The post under an id after some calls, of which the last comes first.  An insertion or an
erasure there decides, whatever came before it. -/
def lastWrite {α : Type} (start : UInt64 → Option Post) (id : UInt64) :
    List (RegistryCall α) → Option Post
  | [] => start id
  | .insert post :: earlier => if id = post.id then some post else lastWrite start id earlier
  | .erase other :: earlier => if id = other then none else lastWrite start id earlier
  | .update other step :: earlier =>
    if id = other then (lastWrite start id earlier).map fun post => (step post).2
    else lastWrite start id earlier

namespace Registry

/-- A registry agrees with a partial map: it has the posts of the map, and the listed ids are those
of the posts, each once and in ascending order. -/
structure Refines (r : Registry) (post? : UInt64 → Option Post) : Prop where
  get : ∀ id, r.get? id = post? id
  contains : ∀ id, r.contains id = true ↔ ∃ post, r.get? id = some post
  ascending : r.ids.Pairwise (· < ·)
  listed : ∀ id, id ∈ r.ids ↔ r.contains id = true
  counted : r.size = r.ids.length

/-- A registry agrees with a map if it has its posts. -/
theorem refines_of_get? {r : Registry} {post? : UInt64 → Option Post}
    (same : ∀ id, r.get? id = post? id) : r.Refines post? where
  get := same
  contains _ := Option.isSome_iff_exists
  ascending := r.ascending
  listed _ := mem_ids_iff
  counted := (List.length_map Prod.fst).symm

variable {α : Type}

/-- Makes a change and tells the caller. -/
def call (r : Registry) : RegistryCall α → RegistryAnswer α × Registry
  | .insert post => let (before, r) := r.getThenInsert post; (.previous before, r)
  | .erase id => let (before, r) := r.getThenErase id; (.previous before, r)
  | .update id step => let (outcome, r) := r.update id step; (.stepped outcome, r)

/-- The registry after some calls. -/
def after (r : Registry) (calls : List (RegistryCall α)) : Registry :=
  calls.foldl (fun r call => (r.call call).2) r

theorem after_concat (r : Registry) (calls : List (RegistryCall α)) (call : RegistryCall α) :
    r.after (calls ++ [call]) = ((r.after calls).call call).2 := by
  simp [after]

/-! ## Last writes -/

/-- A caller is told what the registry had before. -/
theorem call_fst (r : Registry) (call : RegistryCall α) : (r.call call).1 = call.answer r.get? := by
  cases call with
  | insert | erase => rfl
  | update id step => exact congrArg RegistryAnswer.stepped (update_fst r id step)

/-- A call is the last write under the id that it names, and no write under any other. -/
theorem get?_call (r : Registry) (call : RegistryCall α) (id : UInt64) :
    (r.call call).2.get? id = lastWrite r.get? id [call] := by
  cases call with
  | insert post => exact get?_insert r post id
  | erase other => exact get?_erase r other id
  | update other step =>
    simp only [Registry.call, get?_update, lastWrite]
    split
    · next own => rw [own]
    · rfl

/-- What was there before the last call is found from the calls before it. -/
theorem lastWrite_cons (start : UInt64 → Option Post) (id : UInt64) (call : RegistryCall α)
    (earlier : List (RegistryCall α)) :
    lastWrite start id (call :: earlier)
      = lastWrite (fun id => lastWrite start id earlier) id [call] := by
  cases call <;> rfl

/-- After some calls the post under an id is the one that was written there last. -/
theorem get?_after (start : Registry) (calls : List (RegistryCall α)) (id : UInt64) :
    (start.after calls).get? id = lastWrite start.get? id calls.reverse := by
  induction calls using List.reverseRecOn generalizing id with
  | nil => rfl
  | append_singleton calls call ih =>
    calc (start.after (calls ++ [call])).get? id
        = lastWrite (start.after calls).get? id [call] := by rw [after_concat, get?_call]
      _ = lastWrite (fun id => lastWrite start.get? id calls.reverse) id [call] := by
        rw [funext ih]
      _ = lastWrite start.get? id (calls ++ [call]).reverse := by
        rw [List.reverse_concat, ← lastWrite_cons]

/-- After any calls a registry agrees with the last writes. -/
theorem refines_lastWrite (start : Registry) (calls : List (RegistryCall α)) :
    (start.after calls).Refines fun id => lastWrite start.get? id calls.reverse :=
  refines_of_get? (get?_after start calls)

/-- On an id without a post no step is run, and nothing changes. -/
theorem update_of_absent {r : Registry} {id : UInt64} (absent : r.contains id = false)
    (step : Post → α × Post) : r.update id step = (none, r) := by
  have missing : r.get? id = none := Option.not_isSome_iff_eq_none.1 (Bool.eq_false_iff.1 absent)
  simp only [update, missing]

end Registry

end LiveThread
