import Toolsmith.Server.Basic

/-!
# Messages line by line

On standard input and output there is one message a line. Blanks around a message do not count,
and lines without a message are passed over. Every response is written on a line of its own.

## Main definitions

* `Server.answerLine`: the line that is written for a line.
* `Server.serveLines`: all that is written for a text.
-/

namespace Toolsmith.Server

variable {σ : Type}

/-- The lines of a text, without their line feeds. -/
def lines (text : String) : List String :=
  (text.toList.splitOn '\n').map String.ofList

/-- The line of a response. -/
def responseLine (r : Response) : String :=
  r.toJson.compact ++ "\n"

/-- What is written for a line. -/
def answerLine (s : Server σ) (line : String) (state : σ) : String × σ :=
  let message := Text.trim line
  if message.isEmpty then ("", state)
  else
    let (response, state) := s.answer message state
    ((response.map responseLine).getD "", state)

/-- What is written for several lines. -/
def answerLines (s : Server σ) : List String → σ → String × σ
  | [], state => ("", state)
  | line :: rest, state =>
    let (written, state) := s.answerLine line state
    let (more, state) := s.answerLines rest state
    (written ++ more, state)

/-- All that is written for a text. -/
def serveLines (s : Server σ) (text : String) (state : σ) : String × σ :=
  s.answerLines (lines text) state

end Toolsmith.Server
