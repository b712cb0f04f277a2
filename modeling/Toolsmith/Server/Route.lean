import Toolsmith.Server.Basic
import Toolsmith.Server.Session

/-!
# Messages over HTTP

Messages are posted to one path and answered in the body of the reply; a notification is accepted
with an empty body. Where the server keeps sessions, the first request of a client begins one,
whose id the reply carries in a header, and every other message has to carry the id of an open
session. A session ends on request.

## Main definitions

* `Server.Inquiry`, `Server.Answer`: what comes in, and what goes out.
* `Server.Endpoint`: a server with its sessions, if it keeps any.
* `Server.Endpoint.respond`: the answer to an inquiry.
-/

namespace Toolsmith.Server

/-- The path that messages are posted to. -/
def messagePath : String := "/mcp"

/-- What comes in over HTTP. -/
structure Inquiry where
  /-- The method. -/
  method : String
  /-- The path, with a query behind it if there is one. -/
  path : String
  /-- The header with the id of a session. -/
  session : Option String := none
  /-- The body. -/
  body : String := ""

namespace Inquiry

/-- Whether messages are posted to the path of an inquiry. -/
def isToMessages (i : Inquiry) : Bool :=
  String.ofList (i.path.toList.takeWhile fun c ↦ c ≠ '?' ∧ c ≠ '#') == messagePath

end Inquiry

/-- What goes out over HTTP. -/
structure Answer where
  /-- The status code. -/
  status : Nat
  /-- The header with the id of a session. -/
  session : Option String := none
  /-- The body, which is JSON. -/
  body : Option String := none
deriving DecidableEq

namespace Answer

/-- The answer with a response. -/
def ofResponse (status : Nat) (r : Response) : Answer :=
  { status, body := some r.toJson.compact }

/-- The answer to messages that carry no id of an open session. -/
def noSession : Answer :=
  .ofResponse 400
    (.failure none RpcError.serverError "Bad Request: No valid session ID provided")

end Answer

/-- The time of an inquiry, and the id for the session that it may begin. -/
structure Moment where
  /-- The time in milliseconds. -/
  now : Nat
  /-- An id that was never given before. -/
  freshId : String

/-- A server with its sessions, if it keeps any. -/
structure Endpoint (σ : Type) where
  /-- The server. -/
  server : Server σ
  /-- The sessions. -/
  sessions : Option SessionStore := none

namespace Endpoint

variable {σ : Type}

/-- Whether a text is a message that begins a session. -/
def isGreeting (text : String) : Bool :=
  match Message.parse text with
  | .ok m => m.method = "initialize"
  | .error _ => false

/-- The text of a header that consists of visible ASCII characters, blanks and tabs. -/
def visible (header : Option String) : Option String :=
  header.filter fun s ↦ s.toList.all fun c ↦ c = '\t' || (32 ≤ c.toNat && c.toNat < 127)

/-- The answer to a message. -/
def deliver (e : Endpoint σ) (body : String) (state : σ) : Answer × σ :=
  match e.server.answer body state with
  | (some r, state) => (.ofResponse 200 r, state)
  | (none, state) => ({ status := 202 }, state)

/-- The answer to a posted message. -/
def post (e : Endpoint σ) (m : Moment) (i : Inquiry) (state : σ) :
    Answer × Endpoint σ × σ :=
  match e.sessions with
  | none =>
    let (answer, state) := e.deliver i.body state
    (answer, e, state)
  | some store =>
    if isGreeting i.body then
      let (answer, state) := e.deliver i.body state
      ({ answer with session := some m.freshId },
        { e with sessions := some (store.start m.now m.freshId) }, state)
    else match visible i.session with
      | none => (.noSession, e, state)
      | some id =>
        match store.touch m.now id with
        | (false, store) => (.noSession, { e with sessions := some store }, state)
        | (true, store) =>
          let (answer, state) := e.deliver i.body state
          (answer, { e with sessions := some store }, state)

/-- The answer to the request to end a session. -/
def delete (e : Endpoint σ) (i : Inquiry) : Answer × Endpoint σ :=
  match e.sessions with
  | none => ({ status := 405 }, e)
  | some store =>
    match visible i.session with
    | none => (.noSession, e)
    | some id =>
      let (held, store) := store.close id
      ({ status := if held then 200 else 404 }, { e with sessions := some store })

/-- The answer to an inquiry. -/
def respond (e : Endpoint σ) (m : Moment) (i : Inquiry) (state : σ) :
    Answer × Endpoint σ × σ :=
  if !i.isToMessages then ({ status := 404 }, e, state)
  else if i.method = "POST" then e.post m i state
  else if i.method = "DELETE" then
    let (answer, e) := e.delete i
    (answer, e, state)
  else ({ status := 405 }, e, state)

end Endpoint

end Toolsmith.Server
