import Toolsmith.Proofs.Server.Exchange
import Toolsmith.Proofs.Server.Framing
import Toolsmith.Proofs.Server.Noted

/-!
# The same message on a line and in an inquiry

A message that fills its line gets the same response whether it comes on standard input or is
posted, and the tools do the same. What a server with sessions finds out about a posted message
before it hands it on, by reading it a first time, makes no difference to what becomes of it, as
long as the message is let through.

## Main definitions

* `Server.FillsLine`: texts that are messages of their own on a line.
* `Server.Endpoint.Admits`: inquiries that are let through.

## Main statements

* `Server.serveLines_of_fillsLine`: what is written for a message.
* `Server.Endpoint.respond_of_admits`: what is answered to an inquiry that is let through.
* `Server.Endpoint.respond_agrees`: both are the same.
-/

namespace Toolsmith.Server

open Json (Value)

variable {σ : Type} {s : Server σ} {text : String} {state : σ}

/-! ### Messages that fill a line -/

/-- A text that is not empty, is on one line, and has no blanks around it. -/
structure FillsLine (text : String) : Prop where
  /-- It does not break its line. -/
  unbroken : '\n' ∉ text.toList
  /-- It has no blanks around it. -/
  trimmed : Text.trim text = text
  /-- It is not empty. -/
  filled : text ≠ ""

/-- What is written for a message is the line of its response, if it has one. -/
theorem serveLines_of_fillsLine (h : FillsLine text) :
    s.serveLines text state =
      (((s.answer text state).1.map responseLine).getD "", (s.answer text state).2) := by
  have message : messages text = [text] := by
    rw [messages, lines_of_notMem h.unbroken, messagesOn, List.map_singleton, h.trimmed]
    simp [h.filled]
  rw [serveLines_eq, message]
  show (unlines (s.repliesOn [⟨text, state⟩]), (s.answer text state).2) = _
  rw [repliesOn, List.filterMap_cons, Turn.reply?]
  cases (s.answer text state).1 with
  | none => rfl
  | some r => simp [responseLine]

namespace Endpoint

variable {e : Endpoint σ} {m : Moment} {i : Inquiry}

/-- A message is delivered as it is served: either nothing is written and the answer is empty, or
the answer has what is written as its body, but for the line feed. -/
theorem deliver_of_fillsLine (h : FillsLine text) (e : Endpoint σ) (state : σ) :
    (e.deliver text state).2 = (e.server.serveLines text state).2 ∧
      ((e.deliver text state).1 = { status := 202 } ∧
          (e.server.serveLines text state).1 = "" ∨
        ∃ body, (e.deliver text state).1 = { status := 200, body := some body } ∧
          (e.server.serveLines text state).1 = body ++ "\n") := by
  rw [deliver, serveLines_of_fillsLine h]
  rcases e.server.answer text state with ⟨_ | r, after⟩
  · exact ⟨rfl, .inl ⟨rfl, rfl⟩⟩
  · exact ⟨rfl, .inr ⟨r.toJson.compact, rfl, rfl⟩⟩

/-! ### Inquiries that are let through -/

/-- Whether a posted message is let through: the server keeps no sessions, or the message begins
one, or its header names one that is open. -/
def Admits (e : Endpoint σ) (m : Moment) (i : Inquiry) : Prop :=
  ∀ store, e.sessions = some store →
    i.Greets ∨ ∃ id, i.id? = some id ∧ (store.touch m.now id).1 = true

/-- A posted message that is let through is delivered. The answer may carry the id of a session. -/
theorem respond_of_admits (path : i.isToMessages = true) (posted : i.method = "POST")
    (admitted : e.Admits m i) (state : σ) :
    ∃ session after, e.respond m i state =
      ({ (e.deliver i.body state).1 with session }, after, (e.deliver i.body state).2) := by
  have bare : { (e.deliver i.body state).1 with session := none } = (e.deliver i.body state).1 :=
    congrArg Prod.fst (deliver_eq e i.body state)
  cases sessions : e.sessions with
  | none =>
    refine ⟨none, e, ?_⟩
    rw [bare]
    simp [respond, path, posted, post, sessions]
  | some store =>
    by_cases greets : i.Greets
    · exact ⟨some m.freshId, _, respond_of_greets sessions greets⟩
    · have asks : i.Asks :=
        ⟨path, posted, Bool.eq_false_iff.2 fun greeting ↦ greets ⟨path, posted, greeting⟩⟩
      obtain ⟨id, header, found⟩ := (admitted store sessions).resolve_left greets
      refine ⟨none, { e with sessions := some (store.touch m.now id).2 }, ?_⟩
      rw [bare, respond_of_asks sessions asks header, if_pos found]

/-- The server with tools that note their calls. -/
def noted (e : Endpoint σ) : Endpoint (σ × List (String × Value)) where
  server := e.server.noted
  sessions := e.sessions

/-- A message that fills its line does the same on a line and in an inquiry that is let through. The
same state is left and the same calls of tools are made, in the same order. The answer is empty and
has the status of a text that was accepted if and only if nothing is written; else its body is the
line that is written, without the line feed. -/
theorem respond_agrees (path : i.isToMessages = true) (posted : i.method = "POST")
    (line : FillsLine i.body) (admitted : e.Admits m i) (state : σ) :
    (e.respond m i state).2.2 = (e.server.serveLines i.body state).2 ∧
      (e.noted.respond m i (state, [])).2.2.2 =
        (e.server.noted.serveLines i.body (state, [])).2.2 ∧
      ((e.respond m i state).1.status = 202 ↔ (e.server.serveLines i.body state).1 = "") ∧
      ((e.respond m i state).1.status = 202 → (e.respond m i state).1.body = none) ∧
      ((e.respond m i state).1.status ≠ 202 →
        (e.respond m i state).1.status = 200 ∧
          ∃ body, (e.respond m i state).1.body = some body ∧
            (e.server.serveLines i.body state).1 = body ++ "\n") := by
  obtain ⟨session, after, answered⟩ := respond_of_admits path posted admitted state
  obtain ⟨session', after', noted⟩ :=
    respond_of_admits (e := e.noted) path posted admitted (state, [])
  obtain ⟨left, reply⟩ := deliver_of_fillsLine line e state
  obtain ⟨calls, -⟩ := deliver_of_fillsLine line e.noted (state, [])
  rw [answered, noted]
  refine ⟨left, congrArg Prod.snd calls, ?_⟩
  rcases reply with ⟨empty, written⟩ | ⟨body, full, written⟩
  · rw [empty, written]
    simp
  · rw [full, written]
    simp

/-- A ping with an id, posted by a client that names a session. -/
def pinged : Inquiry where
  method := "POST"
  path := "/mcp"
  session := "a"
  body := pingText ",\"id\":\"a\""

/-- The session that the ping names, last active when the clock was started. -/
def opened : SessionStore where
  lastActive := [("a", 0)]

/-- The ping is answered as on a line, by a server without sessions as by one that holds the
session. -/
theorem respond_agrees_pinged :
    (∃ body, (({ server := idle } : Endpoint Unit).respond ⟨5, "b"⟩ pinged ()).1.body = some body ∧
        (idle.serveLines pinged.body ()).1 = body ++ "\n") ∧
      ∃ body, (({ server := idle, sessions := some opened } : Endpoint Unit).respond ⟨5, "b"⟩
          pinged ()).1.body = some body ∧
        (idle.serveLines pinged.body ()).1 = body ++ "\n" := by
  have line : FillsLine pinged.body := ⟨by decide, by decide +kernel, by decide⟩
  constructor
  · have alone : ({ server := idle } : Endpoint Unit).Admits ⟨5, "b"⟩ pinged :=
      fun _ h ↦ (nomatch h)
    obtain ⟨-, -, -, -, answered⟩ := respond_agrees (by decide +kernel) rfl line alone ()
    exact (answered (by decide +kernel)).2
  · have live : ({ server := idle, sessions := some opened } : Endpoint Unit).Admits ⟨5, "b"⟩
        pinged := fun _ h ↦ by
      cases h
      exact .inr ⟨"a", by decide, by decide⟩
    obtain ⟨-, -, -, -, answered⟩ := respond_agrees (by decide +kernel) rfl line live ()
    exact (answered (by decide +kernel)).2

end Endpoint

end Toolsmith.Server
