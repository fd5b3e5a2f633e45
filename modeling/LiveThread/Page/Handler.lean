import LiveThread.Page.Basic

/-!
# Handlers

What a page does with a message that was sent to it alone.  Messages about the
connection and answers to requests are handled by the page itself; every other
message goes to the handler of its kind, which may be replaced.

The standard handler changes the post that a message names.  A post that is
not registered is not an error: it may never have been shown.  Nor is a change
that the post refuses.

Main results:

- Definition `Page.handle`: the standard handler.
- Definition `Handlers`: the table of handlers by kind.
- Definition `Page.receive`: what a page does with a message.
-/

namespace LiveThread

variable {τ : Type}

/-- What is done with messages of a kind. -/
abbrev Handler (τ : Type) :=
  Page τ → ServerMessage → Reply τ

/-- The handlers by kind. -/
abbrev Handlers (τ : Type) :=
  MessageKind → Handler τ

namespace Page

/-! ## The standard handler -/

/-- Changes a registered post.  The listener is told unless the post refuses the change. -/
def changePost (page : Page τ) (id : UInt64) (kind : MessageKind)
    (change : Post → Except PostError Post) : Reply τ :=
  match page.registry.get? id with
  | none => page.ignore
  | some post =>
    match change post with
    | .error _ => page.ignore
    | .ok post =>
      { page := { page with registry := page.registry.modify id fun _ => post }
        events := [.postChanged id kind] }

/-- The post as it is registered when the server announces it: in the thread of the page. -/
def announcedPost (page : Page τ) (data : Post) : Post :=
  { data with op := page.thread, board := page.board, seenOnce := true }

variable [Transport τ]

/-- Takes the announcement of a post: the own post is merged, a registered one is left alone, and
any other one is registered. -/
def insertPost (page : Page τ) (data : Post) : Reply τ :=
  match page.atAttached (·.mergeEcho data) with
  | (some true, page) => page.tell (.postChanged data.id .insertPost)
  | (_, page) =>
    if page.registry.contains data.id then page.ignore
    else
      { page := { page with registry := page.registry.insert (page.announcedPost data) }
        events := [.postInserted data.id] }

/-- The standard handler. -/
def handle (page : Page τ) : ServerMessage → Reply τ
  | .insertPost data => page.insertPost data
  | .append id code => page.changePost id .append (·.append? code)
  | .backspace id => page.changePost id .backspace (.ok ·.backspace)
  | .splice id s => page.changePost id .splice (·.splice? s.start s.count s.text)
  | .closePost id links commands => page.changePost id .closePost (.ok <| ·.close links commands)
  | .insertImage id image => page.changePost id .insertImage (.ok <| ·.insertImage image)
  | .spoiler id => page.changePost id .spoiler (.ok ·.spoilerImage)
  | .moderatePost id entry => page.changePost id .moderatePost (.ok <| ·.moderate entry)
  | .synchronise state => page.tell (.synchronised state)
  | .syncCount active total => page.tell (.syncCount active total)
  | .redirect url => page.tell (.redirect url)
  | .notification text => page.tell (.notification text)
  | .captcha => page.tell .captchaRequired
  | .configs configs => page.tell (.configs configs)
  | .invalid _ | .postId _ | .concat _ | .noop | .serverTime _ => page.ignore

end Page

/-! ## Tables of handlers -/

namespace Handlers

variable [Transport τ]

/-- The standard handler for every kind. -/
def standard : Handlers τ :=
  fun _ => Page.handle

/-- A table with another handler for a kind. -/
def register (handlers : Handlers τ) (kind : MessageKind) (handler : Handler τ) : Handlers τ :=
  fun other => if other = kind then handler else handlers other

/-- A handler that accepts and does nothing. -/
def ignoring : Handler τ :=
  fun page _ => page.ignore

/-- A handler that rejects every message as unsupported. -/
def rejecting : Handler τ :=
  fun page m => page.reject (.frame (.unsupported m.kind))

end Handlers

/-! ## Messages to the page itself -/

namespace Page

variable [Transport τ]

/-- Gives an id to the attached composer. -/
def receiveId (page : Page τ) (now : Int64) (id : UInt64) : Reply τ :=
  match page.atAttached (·.receiveId now id) with
  | (some (.ok ()), page) => page.tell (.allocated id)
  | (some (.error e), page) => page.reject (.unexpectedAllocation e)
  | (none, page) => page.reject (.unexpectedAllocation ⟨id⟩)

/-- Gives up: the way out is told, and the attached composer is halted. -/
def failWith (page : Page τ) (reason : String) : Reply τ :=
  let page := { page with transport := Transport.fail page.transport reason }
  let (_, page) := page.atAttached fun desk => ((), desk.halt)
  { result := .error (.fatal reason), page := page, events := [.fatal reason] }

/-- The difference of two times, if it has at most 64 bits. -/
def difference? (a b : Int64) : Option Int64 :=
  let d := a.toInt - b.toInt
  if -0x8000000000000000 ≤ d ∧ d < 0x8000000000000000 then some (Int64.ofInt d) else none

/-- Takes the time of the server. -/
def setClock (page : Page τ) (now time : Int64) : Reply τ :=
  match difference? time now with
  | some offset =>
    { page := { page with serverOffset := offset }, events := [.serverTime time offset] }
  | none => page.reject (.frame (.impossiblePayload .serverTime (.serverTime time)))

/-- Takes one message at the local time `now`.  A batch has no effect of its own: its frames are
delivered one by one. -/
def receive (handlers : Handlers τ) (now : Int64) (page : Page τ) (m : ServerMessage) :
    Reply τ :=
  match m with
  | .postId id => page.receiveId now id
  | .invalid reason => page.failWith reason
  | .serverTime time => page.setClock now time
  | .noop | .concat _ => page.ignore
  | m => handlers m.kind page m

end Page

end LiveThread
