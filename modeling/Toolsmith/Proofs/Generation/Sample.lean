import Toolsmith.Proofs.Generation.Environment
import Toolsmith.Proofs.Generation.Grammar
import Toolsmith.Proofs.Generation.Packed
import Toolsmith.Proofs.Text.Bytes

/-!
# The sample of an environment

A server comes with a text file that lists the variables of its tools, one after another and each
followed by an equals sign, below a comment of two lines. The variables are slots of URLs, and so
whatever stands between braces there. The lines of the file are those of the variables as long as no
slot holds a line feed; a slot that does is spread over several lines, and none of them is its own.

## Main definitions

* `Generation.environmentNote`: the comment.
* `Generation.linesOf`: the lines of a text.
* `Generation.Target.Holds`: the server at a target has a file with a text.
* `Generation.Generator.Samples`: what is true of a sample.
* `Generation.Generator.requestWith`: a collection of one request.

## Main statements

* `Generation.render_environment`: the text of the sample.
* `Generation.linesOf_intercalate_eq_iff`: when the variables can be read back.
* `Generation.Generator.exists_holds_iff`: the files that templates leave at a target.
* `Generation.Generator.generate_sample`: what the sample of a generated server lists.
-/

namespace Toolsmith.Generation

open Context (variableLine)

/-! ### Rendering the sample -/

/-- The comment that begins the sample. -/
def environmentNote : String :=
  "# Variables substituted into tool URL templates at runtime.
# Example: baseUrl=https://api.example.com
"

/-- The sample is the comment, and below it the lines of the variables. -/
theorem render_environment (c : Context) :
    c.render Template.environment.source =
      .ok (environmentNote ++ "\n".intercalate (c.environment.map variableLine) ++ "\n") := by
  have source : Template.environment.source =
      environmentNote ++ ("\x7b\x7benvVariables\x7d\x7d" ++ "\n") := by decide +kernel
  have slot : "\x7b\x7benvVariables\x7d\x7d".toList = Slot.envVariables.written := by decide
  rw [c.render_eq_ok_iff, source, String.toList_append, String.toList_append, slot,
    c.renderChars_append (by decide +kernel) (.inl (by decide +kernel)),
    c.renderChars_append_written, c.renderChars_of_not_infix (by decide), String.toList_append,
    String.toList_append, List.append_assoc]
  rfl

/-! ### Lines -/

/-- The lines of a text. -/
def linesOf (text : String) : List String :=
  (List.splitOn '\n' text.toList).map String.ofList

variable {texts names : List String}

theorem toList_newline : "\n".toList = ['\n'] := rfl

/-- The lines of texts that stand below each other are those of each. -/
theorem linesOf_intercalate (ne : texts ≠ []) :
    linesOf ("\n".intercalate texts) = texts.flatMap linesOf := by
  have ne' : texts.map String.toList ≠ [] := mt List.map_eq_nil_iff.1 ne
  rw [linesOf, Text.toList_intercalate toList_newline, Text.splitOn_intercalate_eq_flatMap ne',
    List.map_flatMap, List.flatMap_map]
  rfl

/-- Texts that stand below each other are the lines if and only if none of them has a line feed. -/
theorem linesOf_intercalate_eq_iff (ne : texts ≠ []) :
    linesOf ("\n".intercalate texts) = texts ↔ ∀ text ∈ texts, '\n' ∉ text.toList := by
  have ne' : texts.map String.toList ≠ [] := mt List.map_eq_nil_iff.1 ne
  have same (pieces : List (List Char)) : pieces.map String.ofList = texts ↔
      pieces = texts.map String.toList := by
    constructor
    · rintro rfl
      simp
    · rintro rfl
      simp
  rw [linesOf, Text.toList_intercalate toList_newline, same, Text.splitOn_intercalate_eq_iff ne',
    List.forall_mem_map]

theorem newline_mem_variableLine {name : String} :
    '\n' ∈ (variableLine name).toList ↔ '\n' ∈ name.toList := by
  rw [variableLine, String.toList_append, List.mem_append]
  exact or_iff_left (by decide)

/-! ### The files of a server -/

/-- The server at a target has a file with a text, in its directory or among the entries of its
archive. -/
def Target.Holds (files : Files) (name text : String) : Target → Prop
  | .directory p => files.read (p.child name) = .ok text
  | .archive p => ∃ entries x executable,
    files.get? (files.locate p) = some (.file (.archive entries) x) ∧
      { name, executable, text } ∈ entries

namespace Generator

variable {σ : Type} {g : Generator σ} {c : Collection} {name : String} {target : Target}
  {w w' : World σ} {s : Summary}

/-- The files of the templates are there once a server was written. -/
theorem rendered_of_writeServer {root : Path}
    (h : (g.writeServer c name root).perform w = (.ok s, w')) :
    ∀ t ∈ Template.all, Rendered w'.files root (g.templateContext name s) t := by
  obtain ⟨_, _, -, extras⟩ := writeServer_eq_ok h
  exact rendered_of_writeExtras extras

/-- A server that was written to a target has the file of each template, with the rendered text and
no other one. -/
theorem exists_holds_iff (h : (g.writeTo c name target).result w = .ok (s, w')) {t : Template}
    (ht : t ∈ Template.all) :
    ∃ text, (g.templateContext name s).render t.source = .ok text ∧
      ∀ text', target.Holds w'.files t.file text' ↔ text' = text := by
  cases target with
  | directory directory =>
    obtain ⟨_, -, server⟩ := writeTo_directory_eq_ok.1 h
    obtain ⟨text, x, rendered, -, leads, there⟩ := rendered_of_writeServer server t ht
    refine ⟨text, rendered, fun text' ↦ ?_⟩
    rw [Target.Holds, Files.read_of_get? leads there, Except.ok.injEq]
    exact eq_comm
  | archive archive =>
    obtain ⟨_, v, found, y, server, archived, distinct, mem⟩ := exists_entries_of_writeTo h
    obtain ⟨text, x, rendered, -, -, there⟩ := rendered_of_writeServer server t ht
    rw [Files.locate_child] at there
    have entry := (mem _ _).2 ⟨List.cons_ne_nil _ _, there⟩
    have named : (entryOf ([t.file], .file (.text text) x)).name = t.file := by
      rw [entryOf, String.intercalate_singleton]
    refine ⟨text, rendered, fun text' ↦ ⟨?_, ?_⟩⟩
    · rintro ⟨entries, _, executable, archived', listed⟩
      cases archived.symm.trans archived'
      obtain ⟨e, he, same⟩ := List.mem_map.1 listed
      -- No two entries have one name.
      have one : e = ([t.file], .file (.text text) x) :=
        List.inj_on_of_nodup_map distinct he entry (by rw [same, named])
      rw [one] at same
      exact (congrArg Files.Packed.text same).symm
    · rintro rfl
      have listed := List.mem_map_of_mem (f := entryOf) entry
      rw [entryOf] at listed
      exact ⟨_, y, x, archived, listed⟩

/-- The sample of a server that was written lists the variables of its tools. -/
theorem holds_sample_iff (h : (g.writeTo c name target).result w = .ok (s, w')) (text : String) :
    target.Holds w'.files Template.environment.file text ↔ text = environmentNote ++
      "\n".intercalate ((environmentNames s.artifacts).map variableLine) ++ "\n" := by
  obtain ⟨_, rendered, holds⟩ :=
    exists_holds_iff h (List.mem_of_getElem? (i := 1) (a := Template.environment) rfl)
  rw [render_environment] at rendered
  cases rendered
  exact holds text

/-- What is true of the sample of a server after a run, where a walk told of the tools and the
sample has a text between its comment and its last line feed. -/
structure Samples (g : Generator σ) (c : Collection) (target : Target) (w : World σ) (r : Report)
    (w' : World σ) (s : Summary) (body : String) : Prop where
  /-- The server was written to its target by that walk. -/
  written : (g.writeTo c (serverName (c.name.getD "")) target).result w = .ok (s, w')
  /-- The tools that are reported are those of the walk. -/
  tools : r.tools = s.artifacts.map (·.name)
  /-- The server has the sample, with the comment above the text. -/
  holds : ∀ text, target.Holds w'.files ".env.example" text ↔
    text = environmentNote ++ body ++ "\n"
  /-- The variables stand in the order of their bytes, each of them once. -/
  increasing : (environmentNames s.artifacts).Pairwise fun m n ↦
    Text.utf8 m.toList < Text.utf8 n.toList
  /-- They are the slots of the tools that are no path parameters. -/
  mem_iff : ∀ name, name ∈ environmentNames s.artifacts ↔
    ∃ a ∈ s.artifacts, name ∈ a.handler.slots ∧ name ∉ a.handler.pathParams
  /-- The lines are those of the variables, each followed by an equals sign. -/
  lines : environmentNames s.artifacts ≠ [] →
    linesOf body = (environmentNames s.artifacts).flatMap fun name ↦ linesOf (variableLine name)
  /-- A variable stands on a line of its own unless it holds a line feed. -/
  lines_iff : environmentNames s.artifacts ≠ [] →
    (linesOf body = (environmentNames s.artifacts).map variableLine ↔
      ∀ name ∈ environmentNames s.artifacts, '\n' ∉ name.toList)

/-- What the sample of a generated server lists. The server at either target has the sample, which
is the comment, the variables of its tools, and a line feed. The variables are the slots of the
tools that are no path parameters, each of them once and in the order of their bytes. Where there
are any, the lines below the comment are those of the variables, each followed by an equals sign,
if and only if no variable holds a line feed; one that does is spread over the lines of its text. -/
theorem generate_sample (g : Generator σ) (c : Collection) (target : Target) {w w' : World σ}
    {r : Report} (run : (g.generate c target).perform w = (.ok r, w')) :
    ∃ s body, g.Samples c target w r w' s body := by
  obtain ⟨s, written, rfl⟩ := generate_eq_ok_iff.1 run
  have ne (some : environmentNames s.artifacts ≠ []) :
      (environmentNames s.artifacts).map variableLine ≠ [] := mt List.map_eq_nil_iff.1 some
  refine ⟨s, "\n".intercalate ((environmentNames s.artifacts).map variableLine), {
    written := written
    tools := rfl
    holds := holds_sample_iff written
    increasing := (Text.pairwise_sortDistinct _).imp fun lt ↦ Text.utf8_lt_iff.2 lt
    mem_iff := fun name ↦ ?_
    lines := fun some ↦ ?_
    lines_iff := fun some ↦ ?_ }⟩
  · rw [mem_environmentNames]
    simp only [mem_freeSlots]
  · rw [linesOf_intercalate (ne some), List.flatMap_map]
  · rw [linesOf_intercalate_eq_iff (ne some), List.forall_mem_map]
    simp only [newline_mem_variableLine]

/-! ### One request -/

/-- A collection of one request, with slots in its address. -/
def requestWith (slots : List String) : Collection where
  items :=
    let parts := slots.map fun slot ↦ "\x7b\x7b" ++ slot ++ "\x7d\x7d"
    [.request {
      name := some "pet"
      payload := some { address := { raw := "/".intercalate parts } } }]

open CommandLine.Serve in
/-- The walk of a collection whose server goes into an empty directory. -/
def walkOut (c : Collection) : Job Unit Summary := do
  Job.makeDirectories ⟨"out", []⟩
  numbering.walkCollection c (Path.child ⟨"out", []⟩ toolsDirectory)

open CommandLine.Serve in
/-- A server whose collection was walked is generated, unless a directory is in the way, and has the
variables of the walk. -/
theorem exists_generate_of_walkOut {c : Collection} {names : List String}
    (walked : ((walkOut c).perform ⟨{}, ()⟩).1.toOption.map (environmentNames ·.artifacts) =
      some names)
    (ready : Ready ((walkOut c).perform ⟨{}, ()⟩).2.files ⟨"out", []⟩) :
    ∃ (r : Report) (s : Summary) (w' : World Unit),
      (numbering.generate c (.directory ⟨"out", []⟩)).perform ⟨{}, ()⟩ = (.ok r, w') ∧
      (numbering.writeTo c (serverName (c.name.getD "")) (.directory ⟨"out", []⟩)).result ⟨{}, ()⟩ =
        .ok (s, w') ∧
      environmentNames s.artifacts = names := by
  obtain ⟨s, w₁, walk, listed⟩ := Job.exists_of_toOption walked
  rw [walk] at ready
  obtain ⟨w', run⟩ := generate_of_walk walk ready
  obtain ⟨s', written, -⟩ := generate_eq_ok_iff.1 run
  obtain ⟨_, w₂, made, server⟩ := Job.bind_eq_ok (Job.result_eq_ok.1 written)
  obtain ⟨w₃, _, again, -⟩ := writeServer_eq_ok server
  -- The walk of the run is the one that was looked at.
  cases walk.symm.trans (Job.bind_of_ok made again)
  exact ⟨_, s, w', run, written, listed⟩

open CommandLine.Serve in
/-- Two variables are read back from the sample. -/
theorem generate_sample_requestWith :
    ∃ (r : Report) (w' : World Unit) (body : String),
      (numbering.generate (requestWith ["kind", "host"]) (.directory ⟨"out", []⟩)).perform
        ⟨{}, ()⟩ = (.ok r, w') ∧
      w'.files.read ⟨"out", [".env.example"]⟩ = .ok (environmentNote ++ body ++ "\n") ∧
      linesOf body = ["host=", "kind="] := by
  have walked : ((walkOut (requestWith ["kind", "host"])).perform ⟨{}, ()⟩).1.toOption.map
      (environmentNames ·.artifacts) = some ["host", "kind"] := by decide +kernel
  obtain ⟨r, s, w', run, written, listed⟩ := exists_generate_of_walkOut walked
    ⟨by decide +kernel, by decide +kernel, by decide +kernel, by decide +kernel⟩
  obtain ⟨s', body, sample⟩ := generate_sample _ _ _ run
  cases written.symm.trans sample.written
  have lines := sample.lines_iff
  rw [listed] at lines
  exact ⟨r, w', body, run, (sample.holds _).2 rfl, (lines (by decide)).2 (by decide)⟩

open CommandLine.Serve in
/-- A variable with a line feed is not read back: its first line sets nothing, and its second line
sets another variable. -/
theorem generate_sample_fails :
    ∃ (r : Report) (s : Summary) (w' : World Unit),
      (numbering.generate (requestWith ["host\nPATH"]) (.directory ⟨"out", []⟩)).perform
        ⟨{}, ()⟩ = (.ok r, w') ∧
      (numbering.writeTo (requestWith ["host\nPATH"]) (serverName "")
        (.directory ⟨"out", []⟩)).result ⟨{}, ()⟩ = .ok (s, w') ∧
      environmentNames s.artifacts = ["host\nPATH"] ∧
      w'.files.read ⟨"out", [".env.example"]⟩ = .ok (environmentNote ++ "host\nPATH=" ++ "\n") ∧
      linesOf "host\nPATH=" = ["host", "PATH="] ∧
      linesOf "host\nPATH=" ≠ (environmentNames s.artifacts).map variableLine := by
  have walked : ((walkOut (requestWith ["host\nPATH"])).perform ⟨{}, ()⟩).1.toOption.map
      (environmentNames ·.artifacts) = some ["host\nPATH"] := by decide +kernel
  obtain ⟨r, s, w', run, written, listed⟩ := exists_generate_of_walkOut walked
    ⟨by decide +kernel, by decide +kernel, by decide +kernel, by decide +kernel⟩
  have holds := holds_sample_iff written
  rw [listed] at holds
  refine ⟨r, s, w', run, written, listed, (holds _).2 (by decide), by decide +kernel, ?_⟩
  rw [listed]
  decide +kernel

end Generator

end Toolsmith.Generation
