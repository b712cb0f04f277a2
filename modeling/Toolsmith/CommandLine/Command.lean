import Toolsmith.CommandLine.Address
import Toolsmith.CommandLine.Option
import Toolsmith.Generation.Generator
import Toolsmith.Naming.Completion

/-!
# Commands

The program has two commands: one generates a server from a collection, the other serves a
generated server. Two settings may come from the environment where they are not given as options.

## Main definitions

* `CommandLine.Generate`, `CommandLine.Serve`: the commands with their settings.
* `CommandLine.Invocation.parse`: what a command line asks for.
* `CommandLine.Generate.settings`: how the server is generated.
-/

namespace Toolsmith.CommandLine

open Generation (Collision Target)

/-- The settings of the command that generates a server. -/
structure Generate where
  /-- The collection. -/
  input : Option String := none
  /-- The archive to write. -/
  output : Option String := none
  /-- The directory to write instead of an archive. -/
  outDir : Option String := none
  /-- The mode of the server. -/
  mode : Option Server.Mode := none
  /-- The key of the completion service. -/
  openaiKey : Option String := none
  /-- The model of the completion service. -/
  openaiModel : String := Naming.defaultModel
  /-- The URL of the completion service. -/
  openaiBaseUrl : Option String := none
  /-- What happens to equal identifiers. -/
  collision : Collision := .overwrite
  /-- Whether names are made without the completion service when it fails. -/
  augmentFallback : Bool := false

/-- The settings of the command that serves a server. -/
structure Serve where
  /-- The directory of the server. -/
  dir : String := "."
  /-- The mode, instead of the one in the manifest. -/
  mode : Option Server.Mode := none
  /-- The address to listen on. -/
  addr : Address := .v4 0x7F000001 3000

/-- A command with its settings. -/
inductive Command where
  /-- Generates a server. -/
  | generate (settings : Generate)
  /-- Serves a server. -/
  | serve (settings : Serve)

/-- What a command line asks for. -/
structure Invocation where
  /-- Whether logs are JSON. -/
  jsonLogs : Bool
  /-- The command. -/
  command : Command

/-! ### Values of options -/

/-- Reads the value of an option as it is. -/
def textValue {α : Type} (set : String → α → α) : Effect α :=
  .value fun v a ↦ .ok (set v a)

/-- Reads the value of an option that is a path, which is not empty. -/
def pathValue {α : Type} (set : String → α → α) : Effect α :=
  .value fun v a ↦ if v.isEmpty then .error .missingValue else .ok (set v a)

/-- Reads the value of an option by a function that may refuse it. -/
def parsedValue {α β : Type} (parse : String → Option β) (set : β → α → α) : Effect α :=
  .value fun v a ↦
    match parse v with
    | some b => .ok (set b a)
    | none => .error .invalidValue

/-! ### Options -/

/-- The options of every command: settings come with the mark whether logs are JSON. -/
def commonSwitches (α : Type) : List (Switch (Bool × α)) :=
  [{ long := "json-logs", effect := .flag fun a ↦ (true, a.2) },
    { long := "help", short := some 'h', effect := .stop .displayHelp }]

/-- A switch of a command among its settings with the mark whether logs are JSON. -/
def onSettings {α : Type} (s : Switch α) : Switch (Bool × α) :=
  { long := s.long
    short := s.short
    effect := match s.effect with
      | .stop reason => .stop reason
      | .flag set => .flag fun a ↦ (a.1, set a.2)
      | .value set => .value fun v a ↦ do return (a.1, ← set v a.2) }

/-- The options of the command that generates a server. -/
def Generate.switches : List (Switch Generate) :=
  [{ long := "input", short := some 'i'
     effect := pathValue fun v g ↦ { g with input := some v } },
    { long := "output", short := some 'o'
      effect := pathValue fun v g ↦ { g with output := some v } },
    { long := "out-dir"
      effect := pathValue fun v g ↦ { g with outDir := some v } },
    { long := "mode", short := some 'm'
      effect := parsedValue Server.Mode.parse fun m g ↦ { g with mode := some m } },
    { long := "openai-key"
      effect := textValue fun v g ↦ { g with openaiKey := some v } },
    { long := "openai-model"
      effect := textValue fun v g ↦ { g with openaiModel := v } },
    { long := "openai-base-url"
      effect := textValue fun v g ↦ { g with openaiBaseUrl := some v } },
    { long := "collision"
      effect := parsedValue Collision.parse fun c g ↦ { g with collision := c } },
    { long := "augment-fallback"
      effect := .flag fun g ↦ { g with augmentFallback := true } }]

/-- The options of the command that serves a server. -/
def Serve.switches : List (Switch Serve) :=
  [{ long := "dir", short := some 'd'
     effect := pathValue fun v s ↦ { s with dir := v } },
    { long := "mode", short := some 'm'
      effect := parsedValue Server.Mode.parse fun m s ↦ { s with mode := some m } },
    { long := "addr"
      effect := parsedValue Address.parse fun a s ↦ { s with addr := a } }]

/-- The grammar of a command, which takes no other words. -/
def commandGrammar {α : Type} (switches : List (Switch α))
    (finish : α → Except UsageError Command) : Grammar (Bool × α) Invocation where
  switches := commonSwitches α ++ switches.map onSettings
  word _ _ _ _ := .error .unknownArgument
  finish a := do return { jsonLogs := a.1, command := ← finish a.2 }

/-! ### Commands -/

/-- The command that generates a server, with what the environment adds. There has to be an input,
and only one kind of output. -/
def Generate.finish (environment : Table String) (g : Generate) : Except UsageError Command :=
  if g.output.isSome && g.outDir.isSome then .error .conflict
  else if g.input.isNone then .error .missingOption
  else .ok <| .generate
    { g with
      openaiKey := g.openaiKey.or (environment.get? Naming.Completion.keyVariable)
      openaiBaseUrl := g.openaiBaseUrl.or (environment.get? Naming.Completion.baseUrlVariable) }

/-- What the words after the name of a command ask for. -/
def readCommand (environment : Table String) (jsonLogs : Bool) (name : String)
    (words : List String) : Option (Except UsageError Invocation) :=
  if name = "generate" then
    some ((commandGrammar Generate.switches (Generate.finish environment)).read
      (jsonLogs, {}) words)
  else if name = "serve" then
    some ((commandGrammar Serve.switches fun s ↦ .ok (.serve s)).read (jsonLogs, {}) words)
  else if name = "help" then
    some <| .error <| match words with
      | [] => .displayHelp
      | [topic] =>
        if ["generate", "serve", "help"].contains topic then .displayHelp else .unknownCommand
      | _ => .unknownCommand
  else none

/-- The grammar of the program: options of its own, then a command. -/
def programGrammar (environment : Table String) : Grammar Bool Invocation where
  switches :=
    [{ long := "json-logs", effect := .flag fun _ ↦ true },
      { long := "help", short := some 'h', effect := .stop .displayHelp },
      { long := "version", short := some 'V', effect := .stop .displayVersion }]
  word ended jsonLogs name words :=
    match readCommand environment jsonLogs name words with
    | none => .error .unknownCommand
    | some invocation => if ended then .error .unknownArgument else invocation
  finish jsonLogs := .error (if jsonLogs then .missingCommand else .nothingGiven)

/-- What a command line asks for, in an environment. -/
def Invocation.parse (environment : Table String) (words : List String) :
    Except UsageError Invocation :=
  (programGrammar environment).read false words

/-! ### What follows from the settings -/

/-- How a server is generated. -/
structure Settings where
  /-- The mode of the server. -/
  mode : Server.Mode := .stdio
  /-- What happens to equal identifiers. -/
  collision : Collision := .overwrite
  /-- What follows from a failure of the completion service. -/
  policy : Naming.FailurePolicy := .abort
  /-- The completion service, if it is asked. -/
  completion : Option Naming.Completion := none
deriving DecidableEq

/-- The generator with these settings. -/
def Settings.generator (s : Settings) : Generation.Generator Http.Network where
  resolver := { augmentor := s.completion.map Naming.Completion.augmentor, policy := s.policy }
  collision := s.collision
  mode := s.mode

namespace Generate

/-- The completion service, if there is a key for it. -/
def completion (g : Generate) : Option Naming.Completion :=
  (g.openaiKey.filter fun key ↦ !(Text.trim key).isEmpty).map fun apiKey ↦
    let service : Naming.Completion := { apiKey, model := g.openaiModel }
    match g.openaiBaseUrl with
    | some url => service.withBaseUrl url
    | none => service

/-- How the server is generated. -/
def settings (g : Generate) : Settings where
  mode := g.mode.getD .stdio
  collision := g.collision
  policy := if g.augmentFallback then .fallback else .abort
  completion := g.completion

/-- The archive that is written unless something else is named. -/
def defaultOutput : String := "mcp-server.zip"

/-- Where the server goes. -/
def target (g : Generate) : Target :=
  match g.outDir with
  | some dir => .directory ⟨dir, []⟩
  | none => .archive ⟨g.output.getD defaultOutput, []⟩

end Generate

end Toolsmith.CommandLine
