import LiveThread.Proofs.Page.Allocation
import LiveThread.Proofs.Page.OwnPost

/-!
# The reserved id

Zero is the id of a composition that has none yet, and of its post.  Nothing
keeps the server from giving zero as an id or from announcing a post under it:
the composition then counts as answered and as a draft, and a post is registered
under zero.  Nothing else does that.

Main results:

- Definition `Page.taken`: the ids that were taken by compositions, with who took them.
- Definition `Page.Numbered`: the id of a composition is the one that it took last, and zero
  before.
- Definition `Page.BringsZero`: a step by which zero is used as an id.
- Theorem `Page.numbered_follow`: the compositions of a page are always numbered.
- Theorem `Page.zero_is_unused_iff`: zero stays unused exactly as long as no step brings it.
- Theorem `Page.zero_is_given`: a history in which it does not.
-/

namespace LiveThread

/-! ## Compositions and their ids -/

section Moves

variable {action : Action} {a b : Account}

/-- Only by taking an id a composition comes to another one, and to have one. -/
theorem Move.same_id (move : Move action a b) (unanswered : ∀ now id, action ≠ .receiveId now id) :
    b.composer.id = a.composer.id ∧
      (b.composer.phase = .allocated → a.composer.phase = .allocated) := by
  cases move with
  | receiveId answer => exact absurd answer (unanswered _ _)
  | request => exact ⟨rfl, by rintro ⟨⟩⟩
  | close => exact ⟨rfl, by rintro ⟨⟩⟩
  | abandon => exact ⟨rfl, by rintro ⟨⟩⟩
  | halt => exact ⟨rfl, by rintro ⟨⟩⟩
  | note | change | hideImage | insertImage | forget | mergeEcho => exact ⟨rfl, fun h => h⟩

/-- No other move registers a post. -/
theorem Move.keeps_missing {id : UInt64} (move : Move action a b)
    (unanswered : ∀ now id, action ≠ .receiveId now id) (missing : a.registry.get? id = none) :
    b.registry.get? id = none := by
  have abandoned : ∀ a : Account, a.registry.get? id = none →
      a.abandoned.registry.get? id = none := by
    intro a missing
    simp only [Account.abandoned]
    split
    · exact missing
    · rw [Registry.get?_modify]
      split
      · next own => rw [← own, missing, Option.map_none]
      · exact missing
  cases move with
  | receiveId answer => exact absurd answer (unanswered _ _)
  | close => exact abandoned _ missing
  | abandon => exact abandoned _ missing
  | mergeEcho =>
    simp only [Account.merged, Registry.get?_modify]
    split
    · next own => rw [← own, missing, Option.map_none]
    · exact missing
  | note | request | change | halt | hideImage | insertImage | forget => exact missing

end Moves

/-- The id that a step offers to a composition. -/
def PageStep.offer? : PageStep → Option UInt64
  | .message (.postId id) => some id
  | .action (.compose _ (.receiveId _ id)) => some id
  | _ => none

/-- The ids that a composition has taken, in order. -/
def idsOf (number : Nat) (taken : List (Nat × UInt64)) : List UInt64 :=
  taken.filterMap fun (taker, id) => if taker = number then some id else none

theorem mem_idsOf_iff {number : Nat} {taken : List (Nat × UInt64)} {id : UInt64} :
    id ∈ idsOf number taken ↔ (number, id) ∈ taken := by
  simp [idsOf]

theorem idsOf_concat_self (number : Nat) (taken : List (Nat × UInt64)) (id : UInt64) :
    idsOf number (taken ++ [(number, id)]) = idsOf number taken ++ [id] := by
  simp [idsOf]

theorem idsOf_concat_of_ne {number other : Nat} (different : other ≠ number)
    (taken : List (Nat × UInt64)) (id : UInt64) :
    idsOf number (taken ++ [(other, id)]) = idsOf number taken := by
  simp [idsOf, different]

namespace Page

variable {τ : Type} [Transport τ]

/-! ## Who takes an id -/

/-- The composition with a number takes an id if it waits for one. -/
def takes? (page : Page τ) (number : Nat) (id : UInt64) : Option (Nat × UInt64) :=
  if (page.composers[number]?.bind Composer.ticket).isSome then some (number, id) else none

/-- The composition that takes an id in a step, with the id. -/
def taken? (page : Page τ) : PageStep → Option (Nat × UInt64)
  | .message (.postId id) => page.attached.bind fun number => page.takes? number id
  | .action (.compose number (.receiveId _ id)) => page.takes? number id
  | _ => none

/-- The compositions that have taken an id, with the ids, in order. -/
def taken (page : Page τ) : List (Int64 × PageStep) → List (Nat × UInt64)
  | [] => []
  | (now, step) :: steps => (page.taken? step).toList ++ (page.step now step).1.taken steps

theorem taken_concat (page : Page τ) (past : List (Int64 × PageStep)) (now : Int64)
    (step : PageStep) :
    page.taken (past ++ [(now, step)])
      = page.taken past ++ ((page.follow past).1.taken? step).toList := by
  induction past generalizing page with
  | nil => simp [taken, follow_nil]
  | cons entry past ih =>
    obtain ⟨now, first⟩ := entry
    simp only [List.cons_append, taken, follow_cons, ih, List.append_assoc]

/-- An offered id is taken by the composition that waits for it, and is not heard otherwise. -/
theorem perform_receiveId (page : Page τ) (number : Nat) (now : Int64) (id : UInt64) :
    (page.takes? number id = some (number, id) ∧
      ∃ c ticket, page.composers[number]? = some c ∧ c.ticket = some ticket) ∨
    (page.takes? number id = none ∧ page.perform number (.receiveId now id) = page) := by
  cases found : page.composers[number]? with
  | none => exact .inr ⟨by simp [takes?, found], perform_of_none found _⟩
  | some c =>
    cases waiting : c.ticket with
    | some ticket => exact .inl ⟨by simp [takes?, found, waiting], c, ticket, rfl, waiting⟩
    | none =>
      refine .inr ⟨by simp [takes?, found, waiting], ?_⟩
      have same := putDesk_deskOf found
      rw [perform_of_some found]
      simpa [Desk.perform, Desk.receiveId, deskOf, waiting] using same

/-- An offered id is taken, or it is as if it had not been offered. -/
theorem step_offer (page : Page τ) (now : Int64) {step : PageStep} {id : UInt64}
    (offered : step.offer? = some id) :
    (∃ number given c ticket, page.taken? step = some (number, id) ∧
      page.composers[number]? = some c ∧ c.ticket = some ticket ∧
      (page.step now step).1 = page.perform number (.receiveId given id)) ∨
    (page.taken? step = none ∧ (page.step now step).1 = page) := by
  unfold PageStep.offer? at offered
  split at offered
  · cases offered
    simp only [Page.step, receive, receiveId_eq_perform, taken?]
    cases page.attached with
    | none => exact .inr ⟨rfl, rfl⟩
    | some number =>
      rcases page.perform_receiveId number now id with ⟨takes, c, ticket, found, waiting⟩ | idle
      · exact .inl ⟨number, now, c, ticket, takes, found, waiting, rfl⟩
      · exact .inr idle
  · next number given other =>
    cases offered
    rw [step_compose]
    rcases page.perform_receiveId number given id with ⟨takes, c, ticket, found, waiting⟩ | idle
    · exact .inl ⟨number, given, c, ticket, takes, found, waiting, rfl⟩
    · exact .inr idle
  · cases offered

omit [Transport τ] in
/-- What is taken was offered. -/
theorem offer?_of_taken? {page : Page τ} {step : PageStep} {number : Nat} {id : UInt64}
    (taken : page.taken? step = some (number, id)) : step.offer? = some id := by
  have same : ∀ {other given}, page.takes? other given = some (number, id) → given = id := by
    intro other given takes
    unfold takes? at takes
    split at takes
    · exact congrArg Prod.snd (Option.some.inj takes)
    · cases takes
  unfold taken? at taken
  split at taken
  · obtain ⟨other, -, takes⟩ := Option.bind_eq_some_iff.1 taken
    exact congrArg some (same takes)
  · exact congrArg some (same taken)
  · cases taken

omit [Transport τ] in
/-- Without an offer no id is taken. -/
theorem taken?_of_silent {page : Page τ} {step : PageStep} (silent : step.offer? = none) :
    page.taken? step = none := by
  by_contra takes
  obtain ⟨⟨number, id⟩, taken⟩ := Option.ne_none_iff_exists'.1 takes
  rw [offer?_of_taken? taken] at silent
  cases silent

/-! ## Steps without an offer -/

/-- No composition comes by an id: the earlier ones stay as they are in that respect, and new ones
have none. -/
structure SameIds (before after : Page τ) : Prop where
  old : ∀ (number : Nat) (c : Composer), before.composers[number]? = some c →
    ∃ d, after.composers[number]? = some d ∧ d.id = c.id ∧
      (d.phase = .allocated → c.phase = .allocated)
  new : ∀ (number : Nat) (d : Composer), before.composers[number]? = none →
    after.composers[number]? = some d → d.id = 0 ∧ d.phase ≠ .allocated

section SameIds

variable {page before between after : Page (Logged τ)}

omit [Transport τ] in
theorem SameIds.of_eq (same : after.composers = before.composers) : before.SameIds after where
  old number c found := ⟨c, same ▸ found, rfl, fun h => h⟩
  new number d missing found := by
    rw [same, missing] at found
    cases found

omit [Transport τ] in
theorem SameIds.trans (first : before.SameIds between) (second : between.SameIds after) :
    before.SameIds after where
  old number c found := by
    obtain ⟨d, there, same, phase⟩ := first.old number c found
    obtain ⟨e, here, again, later⟩ := second.old number d there
    exact ⟨e, here, again.trans same, fun h => phase (later h)⟩
  new number e missing found := by
    cases there : between.composers[number]? with
    | none => exact second.new number e there found
    | some d =>
      obtain ⟨zero, begun⟩ := first.new number d missing there
      obtain ⟨f, here, same, phase⟩ := second.old number d there
      rw [found] at here
      cases here
      exact ⟨same.trans zero, fun h => begun (phase h)⟩

/-- An action of a composition that offers no id. -/
theorem sameIds_perform (page : Page (Logged τ)) (number : Nat) {action : Action}
    (unanswered : ∀ now id, action ≠ .receiveId now id) :
    page.SameIds (page.perform number action) := by
  cases found : page.composers[number]? with
  | none =>
    rw [perform_of_none found]
    exact .of_eq rfl
  | some c =>
    obtain ⟨same, phase⟩ := Account.induct
      (P := fun a => a.composer.id = c.id ∧ (a.composer.phase = .allocated → c.phase = .allocated))
      (Desk.perform_moves (page.deskOf c) action) ⟨rfl, fun h => h⟩ fun move before => by
        obtain ⟨same, phase⟩ := move.same_id unanswered
        exact ⟨same.trans before.1, fun h => before.2 (phase h)⟩
    constructor
    · intro other d there
      by_cases own : other = number
      · subst own
        rw [found] at there
        cases there
        exact ⟨_, perform_composers_self found action, same, phase⟩
      · exact ⟨d, (perform_composers_of_ne page action own).trans there, rfl, fun h => h⟩
    · intro other d missing there
      have different : other ≠ number := by
        rintro rfl
        rw [found] at missing
        cases missing
      rw [perform_composers_of_ne page action different, missing] at there
      cases there

/-- A move of a step that offers no id. -/
theorem sameIds_move {now : Int64} {step : PageStep} (silent : step.offer? = none)
    (move : PageMove now step before after) : before.SameIds after := by
  cases move with
  | hear attached heard =>
    refine sameIds_perform _ _ fun given id same => ?_
    have unanswered : step.answer? = none := by
      unfold PageStep.answer?
      split
      · cases silent
      · rfl
    exact PageStep.heard?_ne_of_unanswered unanswered (same ▸ heard)
  | begin config =>
    constructor
    · intro number c found
      have inside := (List.getElem?_eq_some_iff.1 found).1
      exact ⟨c, (List.getElem?_append_left inside).trans found, rfl, fun h => h⟩
    · intro number d missing found
      have outside : before.composers.length ≤ number := List.getElem?_eq_none_iff.1 missing
      rw [addComposer, List.getElem?_append_right outside] at found
      obtain rfl := List.mem_singleton.1 (List.mem_of_getElem? found)
      exact ⟨rfl, by rintro ⟨⟩⟩
  | posts | attach | clock | fail => exact .of_eq rfl

/-- A step that offers no id. -/
theorem sameIds_step (page : Page (Logged τ)) (now : Int64) {step : PageStep}
    (silent : step.offer? = none) (single : ∀ frame, step ≠ .action (.receive frame)) :
    page.SameIds (page.step now step).1 := by
  by_cases composed : ∃ number action, step = .action (.compose number action)
  · obtain ⟨number, action, rfl⟩ := composed
    rw [step_compose]
    refine sameIds_perform page number ?_
    rintro given id rfl
    cases silent
  · exact step_induct composed single (fun move before => before.trans (sameIds_move silent move))
      (.of_eq rfl)

end SameIds

/-! ## Numbered compositions -/

/-- Every composition has the id that it took last, and zero before; one that has been answered has
taken an id. -/
structure Numbered (taken : List (Nat × UInt64)) (page : Page τ) : Prop where
  id : ∀ (number : Nat) (c : Composer), page.composers[number]? = some c →
    c.id = (idsOf number taken).getLast?.getD 0
  allocated : ∀ (number : Nat) (c : Composer), page.composers[number]? = some c →
    c.phase = .allocated → idsOf number taken ≠ []
  begun : ∀ number, page.composers[number]? = none → idsOf number taken = []

namespace Numbered

variable {page after : Page (Logged τ)} {taken : List (Nat × UInt64)}

omit [Transport τ] in
theorem of_fresh (fresh : page.composers = []) : page.Numbered [] where
  id number c found := by simp [fresh] at found
  allocated number c found := by simp [fresh] at found
  begun number missing := rfl

omit [Transport τ] in
/-- Compositions that come by no id stay numbered. -/
theorem sameIds (h : page.Numbered taken) (same : page.SameIds after) : after.Numbered taken := by
  have cases : ∀ (number : Nat) (d : Composer), after.composers[number]? = some d →
      (∃ c, page.composers[number]? = some c ∧ d.id = c.id ∧
        (d.phase = .allocated → c.phase = .allocated)) ∨
      (page.composers[number]? = none ∧ d.id = 0 ∧ d.phase ≠ .allocated) := by
    intro number d there
    cases found : page.composers[number]? with
    | none => exact .inr ⟨rfl, same.new number d found there⟩
    | some c =>
      obtain ⟨e, here, kept⟩ := same.old number c found
      rw [there] at here
      cases here
      exact .inl ⟨c, rfl, kept⟩
  constructor
  · intro number d there
    rcases cases number d there with ⟨c, found, id, -⟩ | ⟨missing, id, -⟩
    · rw [id, h.id number c found]
    · rw [id, h.begun number missing]
      rfl
  · intro number d there allocated
    rcases cases number d there with ⟨c, found, -, phase⟩ | ⟨-, -, begun⟩
    · exact h.allocated number c found (phase allocated)
    · exact absurd allocated begun
  · intro number missing
    refine h.begun number ?_
    by_contra there
    obtain ⟨c, found⟩ := Option.ne_none_iff_exists'.1 there
    obtain ⟨d, here, -⟩ := same.old number c found
    rw [missing] at here
    cases here

/-- So does one that takes an id. -/
theorem perform_receiveId (h : page.Numbered taken) {number : Nat} {c : Composer} {ticket : Ticket}
    (found : page.composers[number]? = some c) (waiting : c.ticket = some ticket) (now : Int64)
    (id : UInt64) :
    (page.perform number (.receiveId now id)).Numbered (taken ++ [(number, id)]) := by
  have own := perform_composers_self found (.receiveId now id)
  have given : ((page.deskOf c).perform (.receiveId now id)).2.composer.id = id := by
    simp [Desk.perform, Desk.receiveId, deskOf, waiting]
  constructor
  · intro other d there
    by_cases same : other = number
    · subst same
      rw [own] at there
      cases there
      simp [given, idsOf_concat_self]
    · rw [perform_composers_of_ne page _ same] at there
      rw [idsOf_concat_of_ne (Ne.symm same), h.id other d there]
  · intro other d there allocated
    by_cases same : other = number
    · subst same
      simp [idsOf_concat_self]
    · rw [perform_composers_of_ne page _ same] at there
      rw [idsOf_concat_of_ne (Ne.symm same)]
      exact h.allocated other d there allocated
  · intro other missing
    have different : other ≠ number := by
      rintro rfl
      rw [own] at missing
      cases missing
    rw [perform_composers_of_ne page _ different] at missing
    rw [idsOf_concat_of_ne (Ne.symm different), h.begun other missing]

/-- So does every page in a step. -/
theorem step (h : page.Numbered taken) (now : Int64) {step : PageStep}
    (single : ∀ frame, step ≠ .action (.receive frame)) :
    (page.step now step).1.Numbered (taken ++ (page.taken? step).toList) := by
  cases offered : step.offer? with
  | none =>
    rw [taken?_of_silent offered, Option.toList_none, List.append_nil]
    exact h.sameIds (sameIds_step page now offered single)
  | some id =>
    rcases page.step_offer now offered with
      ⟨number, given, c, ticket, takes, found, waiting, stepped⟩ | ⟨idle, same⟩
    · rw [takes, stepped]
      exact h.perform_receiveId found waiting given id
    · rw [idle, same, Option.toList_none, List.append_nil]
      exact h

end Numbered

/-- The compositions of a page are always numbered. -/
theorem numbered_follow {page : Page (Logged τ)} (fresh : page.composers = [])
    {steps : List (Int64 × PageStep)}
    (single : ∀ entry ∈ steps, ∀ frame, entry.2 ≠ .action (.receive frame)) :
    (page.follow steps).1.Numbered (page.taken steps) := by
  induction steps using List.reverseRecOn with
  | nil => exact .of_fresh fresh
  | append_singleton past entry ih =>
    obtain ⟨now, step⟩ := entry
    rw [follow_concat, taken_concat]
    exact (ih fun entry mem => single entry (List.mem_append_left _ mem)).step now
      (single (now, step) (by simp))

/-! ## Where zero comes from -/

/-- A step by which zero is used as an id: a composition takes it, or a post is announced or
registered under it. -/
def BringsZero (page : Page τ) (step : PageStep) : Prop :=
  (∃ number, page.taken? step = some (number, 0)) ∨
    (∃ data, step = .message (.insertPost data) ∧ data.id = 0) ∨
    ∃ post, step = .action (.register post) ∧ post.id = 0

/-- No post comes to be registered under zero in another step. -/
theorem missing_step {page : Page (Logged τ)} (now : Int64) {step : PageStep}
    (single : ∀ frame, step ≠ .action (.receive frame)) (clean : ¬ page.BringsZero step)
    (missing : page.registry.get? 0 = none) : (page.step now step).1.registry.get? 0 = none := by
  cases offered : step.offer? with
  | some id =>
    rcases page.step_offer now offered with
      ⟨number, given, c, ticket, takes, found, waiting, stepped⟩ | ⟨-, same⟩
    · have other : id ≠ 0 := by
        rintro rfl
        exact clean (.inl ⟨number, takes⟩)
      rw [stepped, registry_perform found]
      simpa [Desk.perform, Desk.receiveId, deskOf, waiting, Desk.registeredPost, other.symm]
        using missing
    · rw [same]
      exact missing
  | none =>
    cases step with
    | message m =>
      have other : ∀ id, m ≠ .postId id := by
        rintro id rfl
        cases offered
      simp only [Page.step]
      rw [(receive_own now page other).2 0, missing]
      by_contra registered
      split at registered
      · next about =>
        obtain ⟨data, rfl⟩ := Setting.announced_of_entry (Option.isSome_iff_ne_none.2 registered)
        exact clean (.inr (.inl ⟨data, rfl, Option.some.inj about⟩))
      · exact registered rfl
    | action what =>
      cases what with
      | receive frame => exact absurd rfl (single frame)
      | compose number action =>
        rw [step_compose]
        refine registry_perform_induct (P := fun posts => posts.get? 0 = none)
          (fun move => move.keeps_missing ?_) missing number
        rintro given id rfl
        cases offered
      | attach number =>
        simp only [Page.step, act]
        split <;> exact missing
      | register post =>
        have other : ¬ 0 = post.id := fun zero => clean (.inr (.inr ⟨post, rfl, zero.symm⟩))
        simpa [Page.step, act, Registry.getThenInsert, other] using missing
      | drop id => simp [Page.step, act, Registry.getThenErase, missing]
      | newComposer | addComposer | detach | fail => exact missing

/-- A post is registered under zero once it is announced or registered under it. -/
theorem registered_step (page : Page (Logged τ)) (now : Int64) {step : PageStep}
    (brings : (∃ data, step = .message (.insertPost data) ∧ data.id = 0) ∨
      ∃ post, step = .action (.register post) ∧ post.id = 0) :
    (page.step now step).1.registry.get? 0 ≠ none := by
  rcases brings with ⟨data, rfl, zero⟩ | ⟨post, rfl, zero⟩
  · simp only [Page.step]
    rw [(receive_own now page (by rintro id ⟨⟩)).2 0, ServerMessage.target?, if_pos (by rw [zero])]
    cases page.registry.get? 0 <;> simp [Setting.entry]
  · simp [Page.step, act, Registry.getThenInsert, zero]

/-- Without a step that brings zero, no composition takes it, and no post is registered under it. -/
theorem unused_follow {page : Page (Logged τ)} (unlisted : page.registry.get? 0 = none)
    {steps : List (Int64 × PageStep)}
    (single : ∀ entry ∈ steps, ∀ frame, entry.2 ≠ .action (.receive frame))
    (clean : ∀ past now step rest, steps = past ++ (now, step) :: rest →
      ¬ (page.follow past).1.BringsZero step) :
    (∀ entry ∈ page.taken steps, entry.2 ≠ 0) ∧ (page.follow steps).1.registry.get? 0 = none := by
  induction steps using List.reverseRecOn with
  | nil => exact ⟨by simp [taken], unlisted⟩
  | append_singleton steps entry ih =>
    obtain ⟨now, step⟩ := entry
    obtain ⟨nonzero, missing⟩ := ih (fun entry mem => single entry (List.mem_append_left _ mem))
      fun past earlier first rest parts =>
        clean past earlier first (rest ++ [(now, step)]) (by rw [parts]; simp)
    have last := clean steps now step [] rfl
    rw [follow_concat, taken_concat]
    refine ⟨fun entry mem => ?_, missing_step now (single (now, step) (by simp)) last missing⟩
    rcases List.mem_append.1 mem with earlier | new
    · exact nonzero entry earlier
    · rintro zero
      exact last (.inl ⟨entry.1, by rw [← zero]; exact Option.mem_toList.1 new⟩)

/-- Take a page without compositions and without a post under zero, and a history of frames and
actions on it with the standard handlers.  These hold at every moment of the history: a composition
that has its id has not zero, its id is zero exactly as long as it has taken no id, and no post is
registered under zero.  That is so exactly if in no step a composition takes zero as its id, and no
post is announced or registered under zero. -/
theorem zero_is_unused_iff (page : Page (Logged τ)) (fresh : page.composers = [])
    (unlisted : page.registry.get? 0 = none) (history : List (Int64 × PageAction)) :
    (∀ past rest, stepsOf history = past ++ rest →
      (∀ (number : Nat) (c : Composer), (page.follow past).1.composers[number]? = some c →
        (c.phase = .allocated → c.id ≠ 0) ∧ (c.id = 0 ↔ idsOf number (page.taken past) = [])) ∧
      (page.follow past).1.registry.get? 0 = none) ↔
    ∀ past now step rest, stepsOf history = past ++ (now, step) :: rest →
      ¬ (page.follow past).1.BringsZero step := by
  have single : ∀ entry ∈ stepsOf history, ∀ frame, entry.2 ≠ .action (.receive frame) :=
    fun entry mem => single_of_mem_stepsOf mem
  generalize stepsOf history = steps at single
  have numbered : ∀ past rest, steps = past ++ rest →
      (page.follow past).1.Numbered (page.taken past) := by
    rintro past rest rfl
    exact numbered_follow fresh fun entry mem => single entry (List.mem_append_left _ mem)
  constructor
  · rintro unused past now step rest rfl brings
    have parts : past ++ (now, step) :: rest = (past ++ [(now, step)]) ++ rest := by simp
    obtain ⟨ids, missing⟩ := unused _ rest parts
    rcases brings with ⟨number, takes⟩ | registers
    · have all := numbered _ rest parts
      have last : idsOf number (page.taken (past ++ [(now, step)]))
          = idsOf number (page.taken past) ++ [0] := by
        rw [taken_concat, takes]
        exact idsOf_concat_self number _ 0
      cases found : (page.follow (past ++ [(now, step)])).1.composers[number]? with
      | none => simp [all.begun number found] at last
      | some c =>
        have zero : c.id = 0 := by simp [all.id number c found, last]
        simp [(ids number c found).2.1 zero] at last
    · rw [follow_concat] at missing
      exact registered_step _ now registers missing
  · rintro clean past rest rfl
    obtain ⟨nonzero, missing⟩ := unused_follow unlisted
      (fun entry mem => single entry (List.mem_append_left _ mem))
      fun before now step between parts =>
        clean before now step (between ++ rest) (by rw [parts]; simp)
    have all := numbered past rest rfl
    refine ⟨fun number c found => ?_, missing⟩
    have same : c.id = 0 ↔ idsOf number (page.taken past) = [] := by
      rw [all.id number c found]
      cases last : (idsOf number (page.taken past)).getLast? with
      | none => simp [List.getLast?_eq_none_iff.1 last]
      | some id =>
        have mem := List.mem_of_getLast? last
        refine iff_of_false (nonzero _ (mem_idsOf_iff.1 mem)) ?_
        intro none
        rw [none] at mem
        cases mem
    exact ⟨fun allocated zero => all.allocated number c found allocated (same.1 zero), same⟩

/-- The server gives another id, and announces its post. -/
theorem zero_is_unused_by_other_ids :
    let after := ((Page.inMemory "a" 1).happen
      [(0, .newComposer {}), (0, .compose 0 (.edit "a")),
        (1, .receive (ServerMessage.postId 7).frame),
        (2, .receive (ServerMessage.insertPost { id := 7, body := "a" }).frame)]).1
    after.registry.get? 0 = none ∧
      ∃ c, after.composers[0]? = some c ∧ c.phase = .allocated ∧ c.id ≠ 0 := by
  let history : List (Int64 × PageAction) := [(0, .newComposer {}), (0, .compose 0 (.edit "a")),
    (1, .receive (ServerMessage.postId 7).frame),
    (2, .receive (ServerMessage.insertPost { id := 7, body := "a" }).frame)]
  let messages : List (Int64 × PageStep) := [(0, .action (.newComposer {})),
    (0, .action (.compose 0 (.edit "a"))), (1, .message (.postId 7)),
    (2, .message (.insertPost { id := 7, body := "a" }))]
  have steps : stepsOf history = messages := by
    simp only [history, stepsOf, List.flatMap_cons, List.flatMap_nil]
    rw [PageAction.steps_frame (by rintro ⟨⟩) rfl rfl,
      PageAction.steps_frame (by rintro ⟨⟩) rfl rfl]
    rfl
  have clean : ∀ past now step rest, stepsOf history = past ++ (now, step) :: rest →
      ¬ ((Page.inMemory "a" 1).follow past).1.BringsZero step := by
    intro past now step rest parts
    have mem : (now, step) ∈ messages := by
      rw [← steps, parts]
      simp
    simp only [messages, List.mem_cons, Prod.mk.injEq, List.not_mem_nil, or_false] at mem
    rintro (⟨number, taken⟩ | ⟨data, announced, zero⟩ | ⟨post, registered, -⟩)
    · have offered := offer?_of_taken? taken
      rcases mem with ⟨-, rfl⟩ | ⟨-, rfl⟩ | ⟨-, rfl⟩ | ⟨-, rfl⟩ <;>
        simp [PageStep.offer?] at offered
    · rcases mem with ⟨-, rfl⟩ | ⟨-, rfl⟩ | ⟨-, rfl⟩ | ⟨-, rfl⟩ <;> cases announced
      cases zero
    · rcases mem with ⟨-, rfl⟩ | ⟨-, rfl⟩ | ⟨-, rfl⟩ | ⟨-, rfl⟩ <;> cases registered
  obtain ⟨ids, missing⟩ := (zero_is_unused_iff (Page.inMemory "a" 1) rfl rfl history).2 clean
    messages [] (steps.trans (List.append_nil _).symm)
  have allocated : (((Page.inMemory "a" 1).follow messages).1.composers[0]?).map Composer.phase
      = some .allocated := by rfl
  obtain ⟨c, found, phase⟩ := Option.map_eq_some_iff.1 allocated
  rw [happen_eq_follow, show stepsOf _ = messages from steps]
  exact ⟨missing, c, found, phase, (ids 0 c found).1 phase⟩

/-- The server gives zero as an id.  The composition counts as answered and as a draft, and its
post is registered under zero. -/
theorem zero_is_given :
    let after := ((Page.inMemory "a" 1).happen
      [(0, .newComposer {}), (0, .compose 0 (.edit "a")),
        (1, .receive (ServerMessage.postId 0).frame)]).1
    after.composers.map (fun c => (c.phase, c.id)) = [(.allocated, 0)] ∧
      (after.registry.get? 0).map (fun post => (post.body, post.view.isDraft))
        = some ("a", true) := by
  intro after
  have given : after = (((Page.inMemory "a" 1).happen
      [(0, .newComposer {}), (0, .compose 0 (.edit "a"))]).1.receive Handlers.standard 1
        (.postId 0)).page :=
    happen_frame ((Page.inMemory "a" 1).happen
      [(0, .newComposer {}), (0, .compose 0 (.edit "a"))]).1 1 (by rintro ⟨⟩) rfl rfl []
  rw [given]
  exact ⟨rfl, rfl⟩

end Page

end LiveThread
