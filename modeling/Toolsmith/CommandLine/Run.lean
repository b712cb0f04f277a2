import Toolsmith.CommandLine.Command
import Toolsmith.Server.Lines
import Toolsmith.Server.Route
import Toolsmith.Server.Toolset

/-!
# Running commands

A command acts on files and the network, reads a text and writes another. If it fails, it tells
why: what went wrong at the top, and below it what led to that.

## Main definitions

* `CommandLine.Chain`: why a command failed.
* `CommandLine.Generate.run`, `CommandLine.Serve.load`: what the commands do.
* `CommandLine.run`: what a command line does.
-/

namespace Toolsmith.CommandLine

open Generation (Job Manifest World)

/-- Why a command failed, the outermost reason first. -/
abbrev Chain := List String

namespace Chain

/-- The chain of a failed run. -/
def ofError (e : Generation.Error) : Chain :=
  e.message :: e.causes

/-- A text whose lines after the first stand behind a margin. -/
def withMargin (margin : String) (text : String) : String :=
  ("\n" ++ margin).intercalate (Server.lines text)

/-- The text of what led to a failure. A single cause has no number. -/
def causesText : List String → String
  | [] => ""
  | [cause] => "\n\nCaused by:\n    " ++ withMargin "    " cause
  | causes =>
    "\n\nCaused by:" ++
      String.join (causes.mapIdx fun i cause ↦ s!"\n    {i}: " ++ withMargin "       " cause)

/-- The text that tells of a failure. -/
def report : Chain → String
  | [] => ""
  | top :: causes => "Error: " ++ top ++ causesText causes ++ "\n"

end Chain

/-- What a command writes, and how it ends. -/
structure Outcome where
  /-- The exit code. -/
  exitCode : Nat := 0
  /-- What is written to standard output. -/
  output : String := ""
  /-- Why the command failed. -/
  failure : Chain := []
deriving DecidableEq

namespace Outcome

/-- The outcome of a command that failed. -/
def failed (chain : Chain) : Outcome :=
  { exitCode := 1, failure := chain }

end Outcome

/-- Generates a server. -/
def Generate.run (g : Generate) (w : World Http.Network) :
    Except Chain Generation.Report × World Http.Network :=
  let input := g.input.getD ""
  match (g.settings.generator.generateFile ⟨input, []⟩ g.target).perform w with
  | (.ok report, w) => (.ok report, w)
  | (.error e, w) => (.error (("Generation from '" ++ input ++ "' failed") :: Chain.ofError e), w)

namespace Serve

/-- The manifest and the tools of the server in a directory. -/
def load (directory : Path) (files : Files) : Except Chain (Manifest × List Artifact) := do
  let manifest ← (Manifest.load files directory).mapError Chain.ofError
  let tools := manifest.toolsPath directory
  let artifacts ← (Server.Toolset.load files tools).mapError fun e ↦
    ["Failed to load tools from '" ++ tools.text ++ "'", e.message]
  return (manifest, artifacts)

/-- The server of a manifest with its tools. -/
def server (environment : Table String) (m : Manifest) (artifacts : List Artifact) :
    Server Http.Network :=
  Server.Toolset.register { identity := ⟨m.name, m.version⟩ } environment artifacts

/-- Serves a server: what it answers to a text on standard input. Sockets are not supported. -/
def run (s : Serve) (environment : Table String) (input : String) (w : World Http.Network) :
    Outcome × World Http.Network :=
  match load ⟨s.dir, []⟩ w.files with
  | .error chain => (.failed chain, w)
  | .ok (manifest, artifacts) =>
    if (s.mode.getD manifest.mode).isHttp then
      (.failed [(Server.cannotListen s.addr.text .notSupported).message], w)
    else
      let (output, network) := (server environment manifest artifacts).serveLines input w.service
      ({ output }, { w with service := network })

end Serve

/-- The version of the program, as it is written. -/
def versionText : String := "mcpforge 0.1.0\n"

/-- The description of the program. -/
def helpText : String :=
  "Compile Postman collections into MCP servers

Usage: mcpforge [OPTIONS] <COMMAND>

Commands:
  generate  Generate an MCP server from a collection
  serve     Serve a generated MCP server
  help      Print this message or the help of the given subcommand(s)

Options:
      --json-logs  Emit logs as JSON lines
  -h, --help       Print help
  -V, --version    Print version
"

/-- The outcome of a command line that names no command to run. -/
def usageOutcome : UsageError → Outcome
  | .displayHelp => { output := helpText }
  | .displayVersion => { output := versionText }
  | _ => { exitCode := 2 }

/-- What a command line does, given the environment and the text on standard input. -/
def run (words : List String) (environment : Table String) (input : String)
    (w : World Http.Network) : Outcome × World Http.Network :=
  match Invocation.parse environment words with
  | .error e => (usageOutcome e, w)
  | .ok { command := .serve s, .. } => s.run environment input w
  | .ok { command := .generate g, .. } =>
    match g.run w with
    | (.ok _, w) => ({}, w)
    | (.error chain, w) => (.failed chain, w)

end Toolsmith.CommandLine
