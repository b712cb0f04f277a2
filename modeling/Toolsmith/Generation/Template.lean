import Toolsmith.Artifact
import Toolsmith.Server.Mode
import Toolsmith.Text.LetterCase
import Toolsmith.Text.Sorted

/-!
# Templates

A generated server carries a few text files that are made from templates. A slot of a template
stands between double braces and has one of three names; what is put in its place is not looked
at again.

## Main definitions

* `Generation.serverName`: the name of the server made of a collection.
* `Generation.environmentNames`: the variables that tools take from the environment.
* `Generation.Context.render`: a template with its slots filled.
* `Generation.Template.all`: the templates of a server.
-/

namespace Toolsmith.Generation

/-! ### Server names -/

/-- The name of servers whose collection has none. -/
def unnamedServer : String := "mcp-server"

/-- The characters of a server name. The flag tells whether a blank was just passed. -/
def serverNameChars : Bool → List Char → List Char
  | _, [] => []
  | afterBlank, c :: cs =>
    if Text.isBlank c then
      if afterBlank then serverNameChars true cs else '-' :: serverNameChars true cs
    else Text.lowerCase c ++ serverNameChars false cs

/-- The name of the server made of a collection: in lower case, each run of blanks a dash. -/
def serverName (collection : String) : String :=
  let cs := serverNameChars false collection.toList
  if cs.isEmpty then unnamedServer else String.ofList cs

/-! ### Environment variables -/

/-- The slots of a tool that its input does not fill. -/
def freeSlots (a : Artifact) : List String :=
  a.handler.slots.filter fun slot ↦ !a.handler.pathParams.contains slot

/-- The variables that tools take from the environment, in order and each once. -/
def environmentNames (artifacts : List Artifact) : List String :=
  Text.sortDistinct (artifacts.flatMap freeSlots)

/-! ### Rendering -/

/-- What fills the slots. -/
structure Context where
  /-- The name of the server. -/
  serverName : String
  /-- The mode of the server. -/
  mode : Server.Mode
  /-- The variables that the tools take from the environment. -/
  environment : List String := []

/-- The first line of a text. -/
def firstLine (cs : List Char) : String :=
  String.ofList (cs.takeWhile (· ≠ '\n'))

/-- The text before the first pair of a character, and the text after the pair. -/
def splitAtPair? (c : Char) : List Char → Option (List Char × List Char)
  | x :: y :: rest =>
    if x = c ∧ y = c then some ([], rest)
    else (splitAtPair? c (y :: rest)).map fun parts ↦ (x :: parts.1, parts.2)
  | _ => none

theorem splitAtPair?_length {c : Char} {cs before after : List Char}
    (h : splitAtPair? c cs = some (before, after)) : after.length < cs.length := by
  fun_induction splitAtPair? c cs generalizing before after with
  | case1 x y rest hc =>
    simp only [Option.some.injEq, Prod.mk.injEq] at h
    rw [← h.2, List.length_cons, List.length_cons]
    omega
  | case2 x y rest hc ih =>
    obtain ⟨⟨b, a⟩, hs, he⟩ := Option.map_eq_some_iff.1 h
    simp only [Prod.mk.injEq] at he
    have := ih hs
    rw [he.2] at this
    exact Nat.lt_succ_of_lt this
  | case3 => simp at h

namespace Context

/-- The line that sets a variable to nothing. -/
def variableLine (name : String) : String :=
  name ++ "="

/-- The text of a slot. -/
def slotText? (c : Context) (slot : String) : Option String :=
  if slot = "serverName" then some c.serverName
  else if slot = "serverMode" then some c.mode.name
  else if slot = "envVariables" then some ("\n".intercalate (c.environment.map variableLine))
  else none

/-- The template with its slots filled, or the first line from the double brace that begins no
slot. -/
def renderChars (c : Context) (source : List Char) : Except String (List Char) :=
  match h : splitAtPair? '{' source with
  | none => .ok source
  | some (before, opened) =>
    let refused := firstLine (source.drop before.length)
    match h' : splitAtPair? '}' opened with
    | none => .error refused
    | some (slot, rest) =>
      have := splitAtPair?_length h
      have := splitAtPair?_length h'
      match c.slotText? (String.ofList slot) with
      | none => .error refused
      | some text => do
        let rest ← renderChars c rest
        return before ++ text.toList ++ rest
termination_by source.length

/-- The template with its slots filled, or the wording of why it cannot be. -/
def render (c : Context) (source : String) : Except String String :=
  match c.renderChars source.toList with
  | .ok cs => .ok (String.ofList cs)
  | .error line => .error ("unknown placeholder " ++ line)

end Context

/-! ### The templates of a server -/

/-- A text file of a server. -/
structure Template where
  /-- The name of the file. -/
  file : String
  /-- The text with its slots. -/
  source : String
  /-- Whether the file can be executed. -/
  executable : Bool := false

namespace Template

/-- The name of the script that starts the server. -/
def startScript : String := "start.sh"

/-- The description of the server. -/
def readme : Template where
  file := "README.md"
  source := "# \x7b\x7bserverName\x7d\x7d

MCP server generated by `mcpforge` from a Postman collection.

## Layout

- `tools/`: one JSON file per API request, grouped by collection folder
- `mcp-server.json`: server manifest
- `.env.example`: variables referenced by the tool URLs
- `start.sh`: launches the server

## Running

```sh
cp .env.example .env   # then fill in the values
./start.sh
```

The server uses the `\x7b\x7bserverMode\x7d\x7d` transport. Pass `--mode` to `start.sh`
to override it:

```sh
./start.sh --mode http-session --addr 127.0.0.1:3000
```

HTTP transports answer on `POST /mcp`. In `http-session` mode the
`initialize` response carries an `Mcp-Session-Id` header that later requests
must send back; `DELETE /mcp` ends the session.
"

/-- The sample of an environment. -/
def environment : Template where
  file := ".env.example"
  source := "# Variables substituted into tool URL templates at runtime.
# Example: baseUrl=https://api.example.com
\x7b\x7benvVariables\x7d\x7d
"

/-- The script that starts the server. -/
def start : Template where
  file := startScript
  source := "#!/bin/sh
# Starts the \x7b\x7bserverName\x7d\x7d MCP server.
set -e
cd \"$(dirname \"$0\")\"

if [ -f .env ]; then
    set -a
    . ./.env
    set +a
fi

exec mcpforge serve --dir . --mode \"\x7b\x7bserverMode\x7d\x7d\" \"$@\"
"
  executable := true

/-- The templates, in the order in which they are written. -/
def all : List Template :=
  [readme, environment, start]

end Template

end Toolsmith.Generation
