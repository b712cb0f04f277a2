import Toolsmith.Proofs.Generation.Grammar
import Toolsmith.Proofs.Generation.Sample

/-!
# The script of a server

A server comes with a script that starts it. The name of the collection is anybody's text, and the
script is run by a shell, so it matters what the name can do there. It stands in a comment, and it
cannot leave the comment: each run of blanks in it becomes a dash, and no letter has a blank for its
lower case, so the name of the server has no line feed. All other lines are those of the template
with the mode put in its place.

No slot reaches over the end of a line, and so a template is rendered line by line.

## Main definitions

* `Generation.replaceAll`, `Generation.Slot.fill`: a line with a text in the place of a slot.
* `Generation.startNote`, `Generation.startCommand`: the lines of the script with slots.

## Main statements

* `Generation.isBlank_of_mem_serverName`: the name of a server has no blanks.
* `Generation.Context.linesOf_render`: the lines of a rendered template.
* `Generation.Context.render_eq_fill`: a line with one sort of slot.
* `Generation.render_start`: the lines of the script.
* `Generation.Generator.generate_start`: the script of a generated server.
-/

namespace Toolsmith

/-! ### Blanks in the names of servers -/

namespace Text

/-- No member of a band has a blank for its lower-case counterpart. -/
theorem isBlank_move : ∀ b ∈ lowerBands, ∀ n ∈ List.range' b.first (b.last + 1 - b.first),
    isBlank (Char.ofNat (b.move n)) = false := by
  decide +kernel

/-- No character becomes a blank in lower case. -/
theorem isBlank_shiftBy_lowerBands {c : Char} (solid : isBlank c = false) :
    isBlank (shiftBy lowerBands c) = false := by
  rw [shiftBy]
  split
  next b found =>
    have holds := List.find?_some found
    rw [Band.holds, Bool.and_eq_true, Bool.and_eq_true, decide_eq_true_iff, decide_eq_true_iff]
      at holds
    obtain ⟨⟨first, last⟩, -⟩ := holds
    exact isBlank_move b (List.mem_of_find?_eq_some found) c.toNat
      (List.mem_range'_1.2 ⟨first, by omega⟩)
  next => exact solid

/-- What is no blank has none in lower case. -/
theorem isBlank_of_mem_lowerCase {c d : Char} (solid : isBlank c = false) (hd : d ∈ lowerCase c) :
    isBlank d = false := by
  rw [lowerCase] at hd
  split at hd
  · obtain rfl | rfl := List.mem_pair.1 hd
    · decide
    · decide
  · rw [List.mem_singleton.1 hd]
    exact isBlank_shiftBy_lowerBands solid

end Text

namespace Generation

/-- The name of a server has no blanks. -/
theorem isBlank_of_mem_serverNameChars {afterBlank : Bool} {cs : List Char} {d : Char}
    (hd : d ∈ serverNameChars afterBlank cs) : Text.isBlank d = false := by
  fun_induction serverNameChars afterBlank cs with
  | case1 => exact absurd hd List.not_mem_nil
  | case2 c cs blank ih => exact ih hd
  | case3 afterBlank c cs blank after ih =>
    obtain rfl | hd := List.mem_cons.1 hd
    · decide
    · exact ih hd
  | case4 afterBlank c cs solid ih =>
    obtain hd | hd := List.mem_append.1 hd
    · exact Text.isBlank_of_mem_lowerCase (Bool.eq_false_iff.2 solid) hd
    · exact ih hd

/-- The name of a server has no blanks, whatever the collection is called. -/
theorem isBlank_of_mem_serverName {collection : String} {d : Char}
    (hd : d ∈ (serverName collection).toList) : Text.isBlank d = false := by
  rw [serverName] at hd
  split at hd
  · have unnamed : unnamedServer.toList.all (! Text.isBlank ·) = true := by decide
    exact Bool.eq_false_of_not_eq_true' (List.all_eq_true.1 unnamed d hd)
  · rw [String.toList_ofList] at hd
    exact isBlank_of_mem_serverNameChars hd

example : serverName "Pets\r\n\n$(reboot)" = "pets-$(reboot)" := by
  decide +kernel

/-- The name of a server has no line feed. -/
theorem newline_notMem_serverName (collection : String) :
    '\n' ∉ (serverName collection).toList :=
  fun h ↦ absurd (isBlank_of_mem_serverName h) (by decide)

/-! ### Rendering line by line -/

namespace Context

variable (c : Context)

/-- A line and what stands below it are rendered apart: no slot reaches over a line feed. -/
theorem renderChars_append_newline {line rest text below : List Char}
    (first : c.renderChars line = .ok text) (later : c.renderChars rest = .ok below) :
    c.renderChars (line ++ '\n' :: rest) = .ok (text ++ '\n' :: below) := by
  obtain ⟨ps, grammatical, rfl, rfl⟩ := renderChars_eq_ok_iff.1 first
  -- A line feed is no brace, so a brace at the end of the line stays single.
  have broken : c.renderChars ('\n' :: rest) = .ok ('\n' :: below) := by
    rw [← List.singleton_append, c.renderChars_append (by decide) (.inl (by decide)), later]
    rfl
  rw [c.renderChars_append_pieces grammatical (.inr (by rw [List.head?_cons]; decide)), broken]
  rfl

/-- Lines that stand below each other are rendered one by one. -/
theorem renderChars_lines {lines texts : List (List Char)}
    (h : List.Forall₂ (fun line text ↦ c.renderChars line = .ok text) lines texts) :
    c.renderChars (['\n'].intercalate lines) = .ok (['\n'].intercalate texts) := by
  induction h with
  | nil => exact c.renderChars_of_not_infix (by decide)
  | cons first rest ih =>
    cases rest with
    | nil =>
      rw [List.intercalate_singleton, List.intercalate_singleton]
      exact first
    | cons => exact c.renderChars_append_newline first ih

/-- A template renders if its lines do. What they are rendered to are its lines then, as long as
nothing that fills a slot breaks one of them. -/
theorem linesOf_render {source : String} {texts : List String}
    (h : List.Forall₂ (fun line text ↦ c.render line = .ok text) (linesOf source) texts)
    (single : ∀ text ∈ texts, '\n' ∉ text.toList) :
    ∃ text, c.render source = .ok text ∧ linesOf text = texts := by
  have ne : texts ≠ [] := by
    rintro rfl
    have none := List.map_eq_nil_iff.1 (List.forall₂_nil_right_iff.1 h)
    exact List.splitOn_ne_nil '\n' source.toList none
  refine ⟨"\n".intercalate texts, ?_, (linesOf_intercalate_eq_iff ne).2 single⟩
  rw [render_eq_ok_iff, Text.toList_intercalate toList_newline,
    ← @List.intercalate_splitOn _ source.toList _ _ '\n']
  rw [linesOf, List.forall₂_map_left_iff] at h
  refine c.renderChars_lines (List.forall₂_map_right_iff.2 (h.imp fun line text rendered ↦ ?_))
  rw [render_eq_ok_iff, String.toList_ofList] at rendered
  exact rendered

end Context

/-! ### Slots in their places -/

/-- A text with a filling in the place of each occurrence of another text, from the left. The number
is that of the characters ahead that belong to an occurrence already filled. -/
def replaceAll (old filling : List Char) : Nat → List Char → List Char
  | _, [] => []
  | ahead + 1, _ :: cs => replaceAll old filling ahead cs
  | 0, c :: cs =>
    if old.isPrefixOf (c :: cs) then filling ++ replaceAll old filling (old.length - 1) cs
    else c :: replaceAll old filling 0 cs

/-- A line with a filling in the place of a slot. -/
def Slot.fill (s : Slot) (filling line : String) : String :=
  String.ofList (replaceAll s.written filling.toList 0 line.toList)

section Replaced

variable {c : Char} {old more filling text rest : List Char} {parts : List (List Char)}

/-- A character of the result was in the text, or in what was filled in. -/
theorem mem_of_mem_replaceAll {ahead : Nat} (hc : c ∈ replaceAll old filling ahead text) :
    c ∈ filling ∨ c ∈ text := by
  fun_induction replaceAll old filling ahead text with
  | case1 => exact absurd hc List.not_mem_nil
  | case2 ahead d cs ih => exact (ih hc).imp_right (List.mem_cons_of_mem d)
  | case3 d cs here ih =>
    obtain hc | hc := List.mem_append.1 hc
    · exact .inl hc
    · exact (ih hc).imp_right (List.mem_cons_of_mem d)
  | case4 d cs other ih =>
    obtain rfl | hc := List.mem_cons.1 hc
    · exact .inr List.mem_cons_self
    · exact (ih hc).imp_right (List.mem_cons_of_mem d)

/-- A text stays that does not have the first character of what is replaced. -/
theorem replaceAll_append (h : c ∉ text) :
    replaceAll (c :: more) filling 0 (text ++ rest) =
      text ++ replaceAll (c :: more) filling 0 rest := by
  induction text with
  | nil => rfl
  | cons d text ih =>
    rw [List.mem_cons, not_or] at h
    have other : ¬(c :: more).isPrefixOf (d :: (text ++ rest)) = true := by
      rw [List.isPrefixOf_cons_cons, Bool.and_eq_true, beq_iff_eq]
      exact fun same ↦ h.1 same.1
    rw [List.cons_append, replaceAll, if_neg other, ih h.2, List.cons_append]

/-- An occurrence is filled, and what follows it is looked at by itself. -/
theorem replaceAll_self_append :
    replaceAll (c :: more) filling 0 (c :: more ++ rest) =
      filling ++ replaceAll (c :: more) filling 0 rest := by
  have passed (covered : List Char) :
      replaceAll (c :: more) filling covered.length (covered ++ rest) =
        replaceAll (c :: more) filling 0 rest := by
    induction covered with
    | nil => rfl
    | cons d covered ih => exact ih
  have here : (c :: more).isPrefixOf (c :: (more ++ rest)) = true :=
    List.isPrefixOf_iff_prefix.2 (List.prefix_append (c :: more) rest)
  rw [List.cons_append, replaceAll, if_pos here]
  exact congrArg (filling ++ ·) (passed more)

/-- Where a pattern stands between parts that do not have its first character, it is replaced
there. -/
theorem replaceAll_intercalate (plain : ∀ part ∈ parts, c ∉ part) :
    replaceAll (c :: more) filling 0 ((c :: more).intercalate parts) =
      filling.intercalate parts := by
  induction parts with
  | nil => rfl
  | cons part parts ih =>
    obtain ⟨first, plain⟩ := List.forall_mem_cons.1 plain
    cases parts with
    | nil =>
      have stays : replaceAll (c :: more) filling 0 (part ++ []) = part ++ [] :=
        replaceAll_append first
      rw [List.append_nil] at stays
      rw [List.intercalate_singleton, List.intercalate_singleton, stays]
    | cons next parts =>
      rw [List.intercalate_cons_cons, List.intercalate_cons_cons, List.append_assoc,
        replaceAll_append first, replaceAll_self_append, ih plain, List.append_assoc]

end Replaced

namespace Context

variable (c : Context) {s : Slot} {parts : List (List Char)}

/-- A text that has braces only in the places of one slot has that slot filled, and stays else. -/
theorem renderChars_intercalate (plain : ∀ part ∈ parts, '{' ∉ part) :
    c.renderChars (s.written.intercalate parts) = .ok ((s.text c).toList.intercalate parts) := by
  have stays {part : List Char} (h : '{' ∉ part) : ¬['{', '{'] <:+: part :=
    fun pair ↦ h (pair.subset List.mem_cons_self)
  induction parts with
  | nil =>
    rw [List.intercalate_nil, List.intercalate_nil]
    exact c.renderChars_of_not_infix (stays List.not_mem_nil)
  | cons part parts ih =>
    obtain ⟨first, plain⟩ := List.forall_mem_cons.1 plain
    cases parts with
    | nil =>
      rw [List.intercalate_singleton, List.intercalate_singleton]
      exact c.renderChars_of_not_infix (stays first)
    | cons next parts =>
      rw [List.intercalate_cons_cons, List.intercalate_cons_cons, List.append_assoc,
        c.renderChars_append (stays first) (.inl fun last ↦ first (List.mem_of_getLast? last)),
        c.renderChars_append_written, ih plain, List.append_assoc]
      rfl

/-- A line that has braces only in the places of one slot is rendered to the line with what fills
the slot in its place. -/
theorem render_eq_fill {line : String} (plain : ∀ part ∈ parts, '{' ∉ part)
    (apart : line.toList = s.written.intercalate parts) :
    c.render line = .ok (s.fill (s.text c) line) := by
  rw [render_eq_ok_iff, Slot.fill, String.toList_ofList, apart, c.renderChars_intercalate plain,
    Slot.written, replaceAll_intercalate plain]

/-- A line without braces stays as it is. -/
theorem render_eq_fill_of_notMem (s : Slot) {line : String} (plain : '{' ∉ line.toList) :
    c.render line = .ok (s.fill (s.text c) line) :=
  c.render_eq_fill (List.forall_mem_singleton.2 plain) (List.intercalate_singleton).symm

end Context

/-! ### The script -/

/-- No line holds a line feed. -/
theorem newline_notMem_of_mem_linesOf {text line : String} (h : line ∈ linesOf text) :
    '\n' ∉ line.toList := by
  obtain ⟨cs, hcs, rfl⟩ := List.mem_map.1 h
  rw [String.toList_ofList]
  exact Text.notMem_of_mem_splitOn hcs

/-- Nor does one in which a slot is filled with none. -/
theorem newline_notMem_fill {s : Slot} {filling line : String} (h : '\n' ∉ filling.toList)
    (h' : '\n' ∉ line.toList) : '\n' ∉ (s.fill filling line).toList := by
  rw [Slot.fill, String.toList_ofList]
  exact fun broken ↦ (mem_of_mem_replaceAll broken).elim h h'

/-- The comment of the script with a name of the server. -/
def startNote (name : String) : String :=
  "# Starts the " ++ name ++ " MCP server."

/-- The command of the script with a mode of the server. -/
def startCommand (mode : String) : String :=
  "exec mcpforge serve --dir . --mode \"" ++ mode ++ "\" \"$@\""

set_option maxRecDepth 4000 in
/-- The lines of the template of the script. What is set up before the command has no slots. -/
theorem linesOf_start : ∃ setup, (∀ line ∈ setup, '{' ∉ line.toList) ∧
    linesOf Template.start.source = "#!/bin/sh" :: startNote "\x7b\x7bserverName\x7d\x7d" ::
      (setup ++ [startCommand "\x7b\x7bserverMode\x7d\x7d", ""]) := by
  -- the characters of a literal are found by matching it with the text of a list
  have apart : ∃ cs, Template.start.source = String.ofList cs ∧
      let lines := (List.splitOn '\n' cs).map String.ofList
      let setup := (lines.drop 2).take 9
      (∀ line ∈ setup, '{' ∉ line.toList) ∧
        lines = "#!/bin/sh" :: startNote "\x7b\x7bserverName\x7d\x7d" ::
          (setup ++ [startCommand "\x7b\x7bserverMode\x7d\x7d", ""]) :=
    ⟨_, rfl, by decide +kernel, by decide +kernel⟩
  obtain ⟨cs, source, plain, lines⟩ := apart
  refine ⟨_, plain, ?_⟩
  rw [linesOf, source, String.toList_ofList]
  exact lines

namespace Context

variable (c : Context)

/-- The comment of the script is rendered to the one with the name of the server. -/
theorem render_startNote :
    c.render (startNote "\x7b\x7bserverName\x7d\x7d") = .ok (startNote c.serverName) := by
  have apart : (startNote "\x7b\x7bserverName\x7d\x7d").toList =
      Slot.serverName.written.intercalate ["# Starts the ".toList, " MCP server.".toList] := by
    decide
  rw [render_eq_ok_iff, apart, c.renderChars_intercalate (by decide), startNote,
    String.toList_append, String.toList_append, List.intercalate_cons_cons,
    List.intercalate_singleton]
  rfl

/-- The command of the script is rendered to the one with the mode of the server. -/
theorem render_startCommand :
    c.render (startCommand "\x7b\x7bserverMode\x7d\x7d") =
      .ok (Slot.serverMode.fill c.mode.name (startCommand "\x7b\x7bserverMode\x7d\x7d")) := by
  have apart : (startCommand "\x7b\x7bserverMode\x7d\x7d").toList =
      Slot.serverMode.written.intercalate
        ["exec mcpforge serve --dir . --mode \"".toList, "\" \"$@\"".toList] := by
    decide
  exact c.render_eq_fill (by decide) apart

/-- If the name of the server is one line, the lines of the script are those of its template with
the mode in its place, but for the comment. -/
theorem linesOf_render_start (single : '\n' ∉ c.serverName.toList) :
    ∃ script, c.render Template.start.source = .ok script ∧
      linesOf script =
        ((linesOf Template.start.source).map (Slot.serverMode.fill c.mode.name)).set 1
          (startNote c.serverName) := by
  refine c.linesOf_render ?_ fun text ht ↦ ?_
  · obtain ⟨setup, plain, lines⟩ := linesOf_start
    -- A line without slots is rendered to itself, which is what filling one in makes of it.
    have filled (line : String) (h : '{' ∉ line.toList) :
        c.render line = .ok (Slot.serverMode.fill c.mode.name line) :=
      c.render_eq_fill_of_notMem .serverMode h
    rw [lines, List.map_cons, List.map_cons, List.set_cons_succ, List.set_cons_zero]
    refine .cons (filled _ (by decide)) (.cons c.render_startNote
      (List.forall₂_map_right_iff.2 (List.forall₂_same.2 (List.forall_mem_append.2 ⟨?_, ?_⟩))))
    · exact fun line h ↦ filled line (plain line h)
    · exact List.forall_mem_cons.2
        ⟨c.render_startCommand, List.forall_mem_singleton.2 (filled _ (by decide))⟩
  · obtain ht | rfl := List.mem_or_eq_of_mem_set ht
    · obtain ⟨line, hl, rfl⟩ := List.mem_map.1 ht
      exact newline_notMem_fill (by cases c.mode <;> decide) (newline_notMem_of_mem_linesOf hl)
    · rw [startNote, String.toList_append, String.toList_append, List.mem_append, List.mem_append]
      exact not_or.2 ⟨not_or.2 ⟨by decide, single⟩, by decide⟩

end Context

/-- Whatever a collection is called, all templates of its server render, and the script has as many
lines as its template. They are those of the template with the mode in its place, but for the second
one, which is the comment with the name of the server. -/
theorem render_start (collection : String) (mode : Server.Mode) (environment : List String) :
    ∃ readme sample script : String,
      Template.all.map (fun t ↦
        Context.render ⟨serverName collection, mode, environment⟩ t.source) =
          [.ok readme, .ok sample, .ok script] ∧
      (linesOf script).length = (linesOf Template.start.source).length ∧
      (∀ i, i ≠ 1 → (linesOf script)[i]? =
        (linesOf Template.start.source)[i]?.map (Slot.serverMode.fill mode.name)) ∧
      (linesOf script)[1]? = some ("# Starts the " ++ serverName collection ++ " MCP server.") := by
  let c : Context := ⟨serverName collection, mode, environment⟩
  obtain ⟨readme, rendered⟩ := render_eq_ok c (t := Template.readme) (List.mem_of_head? rfl)
  obtain ⟨script, started, lines⟩ := c.linesOf_render_start (newline_notMem_serverName collection)
  obtain ⟨sample, sampled⟩ := render_eq_ok c (t := .environment)
    (List.mem_of_getElem? (i := 1) rfl)
  refine ⟨readme, sample, script, ?_, ?_, fun i hi ↦ ?_, ?_⟩
  · rw [Template.all, List.map_cons, List.map_cons, List.map_singleton, rendered, sampled, started]
  · rw [lines, List.length_set, List.length_map]
  · rw [lines, List.getElem?_set_ne hi.symm, List.getElem?_map]
  · obtain ⟨setup, -, template⟩ := linesOf_start
    rw [lines, template]
    rfl

namespace Generator

variable {σ : Type}

/-- The script of a generated server. The server at either target has one script, with the lines of
its template and the mode in its place, but for the comment with the name of the server. -/
theorem generate_start (g : Generator σ) (c : Collection) (target : Target) {w w' : World σ}
    {r : Report} (run : (g.generate c target).perform w = (.ok r, w')) :
    ∃ script, (∀ text, target.Holds w'.files Template.startScript text ↔ text = script) ∧
      linesOf script =
        ((linesOf Template.start.source).map (Slot.serverMode.fill g.mode.name)).set 1
          (startNote (serverName (c.name.getD ""))) := by
  obtain ⟨s, written, -⟩ := generate_eq_ok_iff.1 run
  obtain ⟨script, rendered, holds⟩ :=
    exists_holds_iff written (t := Template.start) (List.mem_of_getLast? rfl)
  obtain ⟨script', started, lines⟩ := (g.templateContext _ s).linesOf_render_start
    (newline_notMem_serverName (c.name.getD ""))
  cases rendered.symm.trans started
  exact ⟨script, holds, lines⟩

end Generator

end Generation

end Toolsmith
