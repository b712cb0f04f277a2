import Toolsmith.Proofs.Json.Printed
import Toolsmith.Proofs.Server.Unanswered
import Toolsmith.Proofs.Text.Split
import Toolsmith.Server.Lines

/-!
# What is written line by line

A server that is served a text takes its messages in turn, each of which finds the state that the
one before it has left. What is written is one line for every message that is no notification, in
the order of the messages: the response to a request, which carries the id of the request, or the
news that the message cannot be read. As no response breaks its line, a client can tell which line
answers which message. Serving is blind to where a text ends, so a text can be served piece by piece
as long as it is cut at line feeds.

## Main definitions

* `Server.messages`: the messages of a text.
* `Server.Turn`, `Server.turns`: the messages with the states that they find.
* `Server.Turn.reply?`: what is written for a message.
* `Server.Replies`: what a response to an id looks like.

## Main statements

* `Server.serveLines_eq`: all that is written, and the state that is left.
* `Server.serveLines_append`: two texts with a line feed between them.
* `Server.serveLines_framed`: one line for every message that is no notification.
-/

namespace Toolsmith.Server

open Json (Value)

variable {σ : Type}

/-! ### Turns -/

/-- The messages on lines: what is left of each without the blanks around it, if anything. -/
def messagesOn (lines : List String) : List String :=
  (lines.map Text.trim).filter (!·.isEmpty)

/-- The messages of a text. -/
def messages (text : String) : List String :=
  messagesOn (lines text)

/-- A message with the state that it finds. -/
structure Turn (σ : Type) where
  /-- The message. -/
  message : String
  /-- The state before it. -/
  state : σ

/-- Messages in turn, each of which finds what the one before it leaves. -/
def turns (s : Server σ) : List String → σ → List (Turn σ)
  | [], _ => []
  | m :: ms, state => ⟨m, state⟩ :: s.turns ms (s.answer m state).2

/-- The state after several messages. -/
def stateAfter (s : Server σ) (ms : List String) (state : σ) : σ :=
  ms.foldl (fun state m ↦ (s.answer m state).2) state

/-- The text of the response on a turn, if there is one. -/
def Turn.reply? (s : Server σ) (t : Turn σ) : Option String :=
  (s.answer t.message t.state).1.map (·.toJson.compact)

/-- The texts of the responses on turns. -/
def repliesOn (s : Server σ) (ts : List (Turn σ)) : List String :=
  ts.filterMap (·.reply? s)

/-- Texts put together, each with a line feed behind it. -/
def unlines (ls : List String) : String :=
  String.join (ls.map (· ++ "\n"))

@[simp] theorem unlines_nil : unlines [] = "" := rfl

@[simp] theorem unlines_cons (l : String) (ls : List String) :
    unlines (l :: ls) = l ++ "\n" ++ unlines ls :=
  String.join_cons

/-- Lines that come after others are written below them. -/
theorem unlines_append (ks ls : List String) : unlines (ks ++ ls) = unlines ks ++ unlines ls := by
  rw [unlines, List.map_append, String.join_append, unlines, unlines]

/-- Messages that come after others are answered in the state that those left. -/
theorem turns_append (s : Server σ) (ms ns : List String) (state : σ) :
    s.turns (ms ++ ns) state = s.turns ms state ++ s.turns ns (s.stateAfter ms state) := by
  induction ms generalizing state with
  | nil => rfl
  | cons m ms ih => exact congrArg (_ :: ·) (ih (s.answer m state).2)

/-- The state after several messages is that after the last ones. -/
theorem stateAfter_append (s : Server σ) (ms ns : List String) (state : σ) :
    s.stateAfter (ms ++ ns) state = s.stateAfter ns (s.stateAfter ms state) :=
  List.foldl_append

/-- There is one turn for each message. -/
theorem map_message_turns (s : Server σ) (ms : List String) (state : σ) :
    (s.turns ms state).map (·.message) = ms := by
  induction ms generalizing state with
  | nil => rfl
  | cons m ms ih => exact congrArg (m :: ·) (ih (s.answer m state).2)

/-! ### What is written -/

/-- A blank line is passed over. -/
theorem answerLine_of_blank {s : Server σ} {line : String} (blank : (Text.trim line).isEmpty)
    (state : σ) : s.answerLine line state = ("", state) := by
  rw [answerLine, if_pos blank]

/-- A line that is not blank is one turn. -/
theorem answerLine_of_not_blank {s : Server σ} {line : String}
    (filled : ¬ (Text.trim line).isEmpty) (state : σ) :
    s.answerLine line state =
      (unlines (s.repliesOn [⟨Text.trim line, state⟩]), (s.answer (Text.trim line) state).2) := by
  rw [answerLine, if_neg filled, repliesOn, List.filterMap_cons, Turn.reply?]
  rcases s.answer (Text.trim line) state with ⟨_ | r, after⟩
  · rfl
  · simp [responseLine]

/-- A line is answered before those below it. -/
theorem answerLines_cons (s : Server σ) (line : String) (rest : List String) (state : σ) :
    s.answerLines (line :: rest) state =
      ((s.answerLine line state).1 ++ (s.answerLines rest (s.answerLine line state).2).1,
        (s.answerLines rest (s.answerLine line state).2).2) := by
  rw [answerLines]

/-- Lines are served by taking their messages in turn. -/
theorem answerLines_eq (s : Server σ) (ls : List String) (state : σ) :
    s.answerLines ls state =
      (unlines (s.repliesOn (s.turns (messagesOn ls) state)),
        s.stateAfter (messagesOn ls) state) := by
  induction ls generalizing state with
  | nil => rfl
  | cons line rest ih =>
    rw [answerLines_cons, ih]
    by_cases blank : (Text.trim line).isEmpty
    · have passed : messagesOn (line :: rest) = messagesOn rest := by simp [messagesOn, blank]
      rw [passed, answerLine_of_blank blank, String.empty_append]
    · have taken : messagesOn (line :: rest) = [Text.trim line] ++ messagesOn rest := by
        simp [messagesOn, blank]
      rw [taken, answerLine_of_not_blank blank, turns_append, repliesOn, repliesOn, repliesOn,
        List.filterMap_append, unlines_append]
      rfl

/-- A text is served by taking its messages in turn. -/
theorem serveLines_eq (s : Server σ) (text : String) (state : σ) :
    s.serveLines text state =
      (unlines (s.repliesOn (s.turns (messages text) state)),
        s.stateAfter (messages text) state) :=
  answerLines_eq s (lines text) state

/-- The lines of two texts with a line feed between them are those of each. -/
theorem lines_append (a b : String) : lines (a ++ "\n" ++ b) = lines a ++ lines b := by
  have joined : (a ++ "\n" ++ b).toList = a.toList ++ '\n' :: b.toList := by
    rw [String.toList_append, String.toList_append, List.append_assoc]
    rfl
  rw [lines, joined, List.splitOn_append_cons_self, List.map_append, lines, lines]

/-- A text that does not break its line is a line. -/
theorem lines_of_notMem {l : String} (h : '\n' ∉ l.toList) : lines l = [l] := by
  rw [lines, List.splitOn_eq_singleton h, List.map_singleton, String.ofList_toList]

/-- Lines that are put together are told apart again. -/
theorem lines_unlines {ls : List String} (h : ∀ l ∈ ls, '\n' ∉ l.toList) :
    lines (unlines ls) = ls ++ [""] := by
  induction ls with
  | nil => rfl
  | cons l ls ih =>
    obtain ⟨first, rest⟩ := List.forall_mem_cons.1 h
    rw [unlines_cons, lines_append, lines_of_notMem first, ih rest]
    rfl

/-- So are the messages. -/
theorem messages_append (a b : String) :
    messages (a ++ "\n" ++ b) = messages a ++ messages b := by
  rw [messages, lines_append, messagesOn, List.map_append, List.filter_append]
  rfl

/-- A text that goes on after a line feed is served by serving the one part and then the other. -/
theorem serveLines_append (s : Server σ) (a b : String) (state : σ) :
    s.serveLines (a ++ "\n" ++ b) state =
      ((s.serveLines a state).1 ++ (s.serveLines b (s.serveLines a state).2).1,
        (s.serveLines b (s.serveLines a state).2).2) := by
  simp only [serveLines_eq, messages_append, turns_append, stateAfter_append, repliesOn,
    List.filterMap_append, unlines_append]

/-- What is written for a message does not break its line. -/
theorem notMem_of_mem_repliesOn {s : Server σ} {ts : List (Turn σ)} {reply : String}
    (h : reply ∈ s.repliesOn ts) : '\n' ∉ reply.toList ∧ '\r' ∉ reply.toList := by
  obtain ⟨t, -, replied⟩ := List.mem_filterMap.1 h
  obtain ⟨r, -, rfl⟩ := Option.map_eq_some_iff.1 replied
  exact r.toJson.notMem_compact

/-! ### Responses to ids -/

/-- Whether a value is a response to an id: an object with the version, the id, and either a result
or an error. -/
def Replies (id v : Value) : Prop :=
  ∃ name body, (name = "result" ∨ name = "error") ∧
    v = .object [("jsonrpc", .string "2.0"), ("id", id), (name, body)]

/-- A response of success has the id of its request. -/
theorem replies_success (id : RequestId) (result : Value) :
    Replies id.toJson (Response.success id result).toJson :=
  ⟨"result", result, .inl rfl, rfl⟩

/-- So has one of failure. -/
theorem replies_failure (id : RequestId) (code : Int) (message : String) :
    Replies id.toJson (Response.failure (some id) code message).toJson :=
  ⟨"error", _, .inr rfl, rfl⟩

/-- A call of a tool is answered under its id. -/
theorem replies_callTool (s : Server σ) (id : RequestId) (params : Option Value) (state : σ) :
    Replies id.toJson (s.callTool id params state).1.toJson := by
  unfold callTool
  split
  · exact replies_failure ..
  · split
    · exact replies_failure ..
    · split
      · exact replies_failure ..
      · exact replies_success ..

/-- Every request is answered by a response to its id, whatever its method and its parameters are
and whatever a tool does. -/
theorem replies_answerRequest (s : Server σ) (id : RequestId) (c : Call) (state : σ) :
    Replies id.toJson (s.answerRequest id c state).1.toJson := by
  unfold answerRequest
  split_ifs
  · exact replies_success ..
  · exact replies_success ..
  · exact replies_success ..
  · exact replies_callTool s id c.params state
  · exact replies_failure ..

/-! ### One line for every message that is no notification -/

/-- How a message is answered: a notification not at all, a request by a response to its id, and
anything else by the news that it cannot be read, which is for no id. -/
structure Turn.Answered (s : Server σ) (t : Turn σ) : Prop where
  /-- Nothing is written for notifications, and for nothing else. -/
  silent : t.reply? s = none ↔ ∃ c, Message.parse t.message = .ok (.notification c)
  /-- A response to a request is for its id. -/
  request : ∀ {id c}, Message.parse t.message = .ok (.request id c) →
    ∃ v, t.reply? s = some v.compact ∧ Replies id.toJson v
  /-- The id of a request is the one that the client has spelled. -/
  own : ∀ {id c} {members : Table Value}, Message.parse t.message = .ok (.request id c) →
    Json.parse t.message = .ok (.object members) → members.get? "id" = some id.toJson
  /-- What cannot be read is answered by an error for no id. -/
  unreadable : ∀ {f}, Message.parse t.message = .error f →
    ∃ wording, t.reply? s = some (Value.object [("jsonrpc", .string "2.0"), ("id", .null),
      ("error", .object [("code", .number (.integer (-32700))),
        ("message", .string wording)])]).compact

/-- Each message is answered as its kind demands. -/
theorem Turn.answered (s : Server σ) (t : Turn σ) : t.Answered s := by
  have noted {c : Call} (h : Message.parse t.message = .ok (.notification c)) :
      t.reply? s = none := by rw [reply?, answer, h, Option.map_none]
  have requested {id : RequestId} {c : Call} (h : Message.parse t.message = .ok (.request id c)) :
      t.reply? s = some (s.answerRequest id c t.state).1.toJson.compact := by
    rw [reply?, answer, h, Option.map_some]
  have unread {f : Json.Fault} (h : Message.parse t.message = .error f) :
      t.reply? s = some (Response.failure none RpcError.parseError
        ("Parse error: " ++ f.message)).toJson.compact := by
    rw [reply?, answer, h, Option.map_some]
  refine ⟨⟨fun none ↦ ?_, ?_⟩, fun h ↦ ⟨_, requested h, replies_answerRequest s _ _ t.state⟩,
    Message.get?_id_of_parse, fun h ↦ ⟨_, unread h⟩⟩
  · rcases parsed : Message.parse t.message with f | ⟨id, c⟩ | c
    · cases none.symm.trans (unread parsed)
    · cases none.symm.trans (requested parsed)
    · exact ⟨c, rfl⟩
  · rintro ⟨c, h⟩
    exact noted h

/-- What is written for a text. Its messages are taken in order. The lines that are written are the
replies to them, one line each, and every message is answered as it should be; none of the replies
breaks its line, whatever the tools come up with. Serving a text that goes on after a line feed is
serving the one part and then the other in the state that is left. -/
theorem serveLines_framed (s : Server σ) (state : σ) :
    (∀ text,
      (s.turns (messages text) state).map (·.message) = messages text ∧
      (s.serveLines text state).1 = unlines (s.repliesOn (s.turns (messages text) state)) ∧
      lines (s.serveLines text state).1 =
        s.repliesOn (s.turns (messages text) state) ++ [""] ∧
      (∀ t ∈ s.turns (messages text) state, t.Answered s) ∧
      ∀ reply ∈ s.repliesOn (s.turns (messages text) state),
        '\n' ∉ reply.toList ∧ '\r' ∉ reply.toList) ∧
    ∀ a b, s.serveLines (a ++ "\n" ++ b) state =
      ((s.serveLines a state).1 ++ (s.serveLines b (s.serveLines a state).2).1,
        (s.serveLines b (s.serveLines a state).2).2) := by
  refine ⟨fun text ↦ ?_, fun a b ↦ serveLines_append s a b state⟩
  have written : (s.serveLines text state).1 =
      unlines (s.repliesOn (s.turns (messages text) state)) := by rw [serveLines_eq]
  refine ⟨map_message_turns s _ state, written, ?_, fun t _ ↦ t.answered s,
    fun _ h ↦ notMem_of_mem_repliesOn h⟩
  rw [written, lines_unlines fun _ h ↦ (notMem_of_mem_repliesOn h).1]

/-- A ping with an id, a ping without one, and a text that is no message, among blank lines. -/
def pings : String :=
  "\r\n" ++ pingText ",\"id\":\"a\"" ++ "\n \n" ++ pingText "" ++ "\r\n?"

/-- Two of the messages are answered, each on a line of its own. -/
theorem serveLines_framed_pings :
    messages pings = [pingText ",\"id\":\"a\"", pingText "", "?"] ∧
      lines (idle.serveLines pings ()).1 =
        ["\x7b\"jsonrpc\":\"2.0\",\"id\":\"a\",\"result\":\x7b\x7d\x7d",
          "\x7b\"jsonrpc\":\"2.0\",\"id\":null,\"error\":\x7b\"code\":-32700,\"message\":" ++
            "\"Parse error: expected value at line 1 column 1\"\x7d\x7d", ""] := by
  obtain ⟨-, -, split, -⟩ := (serveLines_framed idle ()).1 pings
  exact ⟨by decide +kernel, split.trans (by decide +kernel)⟩

end Toolsmith.Server
