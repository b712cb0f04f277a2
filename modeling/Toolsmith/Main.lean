import Toolsmith.CommandLine.Run
import Toolsmith.Generation.Zip

/-!
# The program

Runs a command on the files of the computer. What a command needs of the files is read first, the
command runs on that, and what it changed is written. A server on standard input and output
answers line by line. There are no sockets, so nothing is sent and nobody is listened to.
-/

namespace Toolsmith.Program

open Files (Content Node)

/-- The text of the path that names lead to. -/
def pathText (names : List String) : String :=
  "/" ++ "/".intercalate names

/-- The text of a file; empty where it is no text. -/
def textOf (path : String) : IO String := do
  try IO.FS.readFile path catch _ => return ""

/-- What stands at the end of some names. -/
def nodeAt? (names : List String) : IO (Option Node) := do
  try
    let real ← IO.FS.realPath (pathText names)
    if ← real.isDir then return some .directory
    else if ← real.pathExists then return some (.file (.text (← textOf (pathText names))) false)
    else return none
  catch _ => return none

/-- Puts what stands at the end of some names, and at the names on the way, into the files. -/
def readAlong (fs : Files) : List String → List String → IO Files
  | _, [] => return fs
  | passed, name :: rest => do
    let names := passed ++ [name]
    match ← nodeAt? names with
    | none => return fs
    | some node => readAlong (fs.set names node) names rest

/-- Puts everything below a directory into the files. -/
partial def readBelow (fs : Files) (names : List String) : IO Files := do
  match fs.get? names with
  | some .directory =>
    let real ← IO.FS.realPath (pathText names)
    let mut fs := fs
    for entry in ← real.readDir do
      let below := names ++ [entry.fileName]
      if let some node ← nodeAt? below then
        fs ← readBelow (fs.set below node) below
    return fs
  | _ => return fs

/-- Puts what stands at and below a path into the files. -/
def readTree (fs : Files) (p : Path) : IO Files := do
  let names := fs.locate p
  readBelow (← readAlong fs [] names) names

/-- The files with nothing in them but the place of the working directory. -/
def emptyFiles : IO Files := do
  let here := (← IO.currentDir).toString
  return { workingDirectory := Path.follow [] here }

/-- Writes a node to the end of some names. -/
def writeNode (names : List String) : Node → IO Unit
  | .directory => IO.FS.createDirAll (pathText names)
  | .file content executable => do
    match content with
    | .text t => IO.FS.writeFile (pathText names) t
    | .archive entries =>
      IO.FS.writeBinFile (pathText names) ⟨(Generation.Zip.bytes entries).toArray⟩
    if executable then
      let all : IO.AccessRight := { read := true, write := true, execution := true }
      let others : IO.AccessRight := { read := true, execution := true }
      IO.setAccessRights (pathText names) { user := all, group := others, other := others }

/-- Writes what has changed. -/
def writeChanges (before after : Files) : IO Unit := do
  for (names, node) in after.entries do
    if before.entries.get? names ≠ some node then writeNode names node

/-- The values of variables of the environment. -/
def environmentOf (names : List String) : IO (Table String) := do
  let mut t : Table String := []
  for name in names do
    if let some value ← IO.getEnv name then t := t.insert name value
  return t

/-- Tells of a failure. -/
def fail (chain : CommandLine.Chain) : IO UInt32 := do
  IO.eprint chain.report
  return 1

/-- Generates a server. -/
def generate (g : CommandLine.Generate) : IO UInt32 := do
  let before ← readTree (← emptyFiles) ⟨g.input.getD "", []⟩
  let before ← readTree before g.target.path
  let (outcome, after) := g.run ⟨before, { reachable := false }⟩
  writeChanges before after.files
  match outcome with
  | .ok _ => return 0
  | .error chain => fail chain

/-- Answers line by line. -/
partial def answerLines (s : Server Http.Network) (input output : IO.FS.Stream)
    (net : Http.Network) : IO Unit := do
  let line ← input.getLine
  if line.isEmpty then return
  let (written, net) := s.answerLine line net
  output.putStr written
  output.flush
  answerLines s input output net

/-- Serves a server. -/
def serve (s : CommandLine.Serve) : IO UInt32 := do
  let directory : Path := ⟨s.dir, []⟩
  let files ← readTree (← emptyFiles) directory
  let files ← match Generation.Manifest.load files directory with
    | .ok m => readTree files (m.toolsPath directory)
    | .error _ => pure files
  match CommandLine.Serve.load directory files with
  | .error chain => fail chain
  | .ok (manifest, artifacts) =>
    if (s.mode.getD manifest.mode).isHttp then
      fail [(Server.cannotListen s.addr.text .notSupported).message]
    else
      let environment ← environmentOf (artifacts.flatMap fun a ↦ a.handler.slots)
      answerLines (CommandLine.Serve.server environment manifest artifacts)
        (← IO.getStdin) (← IO.getStdout) { reachable := false }
      return 0

end Toolsmith.Program

open Toolsmith in
/-- Runs the command that the arguments name. -/
def main (args : List String) : IO UInt32 := do
  let environment ← Program.environmentOf
    [Naming.Completion.keyVariable, Naming.Completion.baseUrlVariable]
  match CommandLine.Invocation.parse environment args with
  | .error e =>
    let outcome := CommandLine.usageOutcome e
    IO.print outcome.output
    if outcome.exitCode ≠ 0 then IO.eprintln ("error: " ++ e.message)
    return outcome.exitCode.toUInt32
  | .ok i =>
    match i.command with
    | .generate g => Program.generate g
    | .serve s => Program.serve s
