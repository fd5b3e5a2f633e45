/-!
# Kinds of messages

Every frame begins with the number of its kind.  Kinds from 1 to 29 change
posts; the others concern the connection or the page.

Main results:

- Definition `MessageKind`: the kinds.
- Theorem `MessageKind.ofCode?_eq_some_iff`: a number names a kind exactly when it is its code.
-/

namespace LiveThread

/-- The kind of a message. -/
inductive MessageKind where
  | invalid
  | insertPost
  | append
  | backspace
  | splice
  | closePost
  | insertImage
  | spoiler
  | moderatePost
  | synchronise
  | reclaim
  | postId
  | concat
  | noop
  | syncCount
  | serverTime
  | redirect
  | notification
  | captcha
  | meguTv
  | configs
  deriving DecidableEq

namespace MessageKind

/-- Every kind, in ascending order of the codes. -/
def all : List MessageKind :=
  [invalid, insertPost, append, backspace, splice, closePost, insertImage, spoiler, moderatePost,
    synchronise, reclaim, postId, concat, noop, syncCount, serverTime, redirect, notification,
    captcha, meguTv, configs]

/-- The number of a kind. -/
def code : MessageKind → Nat
  | invalid => 0
  | insertPost => 1
  | append => 2
  | backspace => 3
  | splice => 4
  | closePost => 5
  | insertImage => 6
  | spoiler => 7
  | moderatePost => 8
  | synchronise => 30
  | reclaim => 31
  | postId => 32
  | concat => 33
  | noop => 34
  | syncCount => 35
  | serverTime => 36
  | redirect => 37
  | notification => 38
  | captcha => 39
  | meguTv => 40
  | configs => 41

/-- The kind with a number. -/
def ofCode? (n : Nat) : Option MessageKind :=
  all.find? fun kind => kind.code = n

/-- The name of a kind in diagnostics. -/
def name : MessageKind → String
  | invalid => "Invalid"
  | insertPost => "InsertPost"
  | append => "Append"
  | backspace => "Backspace"
  | splice => "Splice"
  | closePost => "ClosePost"
  | insertImage => "InsertImage"
  | spoiler => "Spoiler"
  | moderatePost => "ModeratePost"
  | synchronise => "Synchronise"
  | reclaim => "Reclaim"
  | postId => "PostId"
  | concat => "Concat"
  | noop => "Noop"
  | syncCount => "SyncCount"
  | serverTime => "ServerTime"
  | redirect => "Redirect"
  | notification => "Notification"
  | captcha => "Captcha"
  | meguTv => "MeguTv"
  | configs => "Configs"

/-- Whether messages of this kind change a post. -/
def isPostUpdate (kind : MessageKind) : Bool :=
  1 ≤ kind.code && kind.code < 30

@[simp]
theorem ofCode?_code (kind : MessageKind) : ofCode? kind.code = some kind := by
  cases kind <;> rfl

/-- A number names a kind exactly when it is the code of that kind. -/
theorem ofCode?_eq_some_iff {n : Nat} {kind : MessageKind} :
    ofCode? n = some kind ↔ kind.code = n := by
  constructor
  · intro h
    simpa using List.find?_some h
  · rintro rfl
    exact ofCode?_code kind

/-- Different kinds have different codes. -/
theorem code_injective {a b : MessageKind} (h : a.code = b.code) : a = b := by
  have := ofCode?_code a
  rw [h, ofCode?_code] at this
  exact (Option.some.inj this).symm

/-- Every code has at most two digits. -/
theorem code_lt_hundred (kind : MessageKind) : kind.code < 100 := by
  cases kind <;> decide

end MessageKind

end LiveThread
