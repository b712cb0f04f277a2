import Mathlib.Data.List.Chain
import Toolsmith.Generation.Generator
import Toolsmith.Proofs.Generation.Job
import Toolsmith.Proofs.Generation.Template

/-!
# The grammar of templates

A template is made of pieces: literals, which stay as they are, and slots with one of three names. A
double brace belongs to a slot, so no literal holds one, and none that a slot follows ends in a
brace, which would be taken for the first one of the slot. What is made of such pieces renders, and
nothing else does.

A text that is not made of pieces is so up to some double brace, which is the first one that begins
no slot. There are no other texts (`exists_pieces`). What becomes of either sort of text is said for
each sort of piece first (`renderChars_append`, `renderChars_append_written`) and then along the
pieces (`renderChars_append_pieces`).

## Main definitions

* `Generation.Slot`, `Generation.Piece`: the pieces, how they are written, and what fills them.
* `Generation.Grammatical`: pieces that may stand beside each other.
* `Generation.Offends`: a double brace after some pieces that begins no slot.

## Main statements

* `Generation.exists_pieces`: a text is made of pieces, or a double brace in it offends.
* `Generation.Context.renderChars_append_pieces`: pieces are rendered one by one.
* `Generation.Context.renderChars_eq_ok_iff`, `Generation.Context.renderChars_eq_error_iff`: the
  texts that render, and those that do not.
* `Generation.Context.render_grammar`: what renders, to what, and what is reported else.
-/

namespace Toolsmith.Generation

/-! ### Pieces -/

/-- The slots that a template may have. -/
inductive Slot where
  /-- The name of the server. -/
  | serverName
  /-- The mode of the server. -/
  | serverMode
  /-- The lines of the variables. -/
  | envVariables
deriving DecidableEq

namespace Slot

/-- The name of a slot. -/
def name : Slot → String
  | serverName => "serverName"
  | serverMode => "serverMode"
  | envVariables => "envVariables"

/-- A slot as it is written, with its name between double braces. -/
def written (s : Slot) : List Char :=
  '{' :: '{' :: (s.name.toList ++ ['}', '}'])

/-- What a context puts in the place of a slot. -/
def text (c : Context) : Slot → String
  | serverName => c.serverName
  | serverMode => c.mode.name
  | envVariables => "\n".intercalate (c.environment.map Context.variableLine)

end Slot

/-- A piece of a template. -/
inductive Piece where
  /-- A text that stays. -/
  | literal (text : List Char)
  /-- A slot. -/
  | slot (s : Slot)

/-- What begins a slot. -/
def opening : List Char := ['{', '{']

namespace Piece

/-- A piece as it is written. -/
def written : Piece → List Char
  | literal text => text
  | slot s => s.written

/-- What a context makes of a piece. -/
def filled (c : Context) : Piece → List Char
  | literal text => text
  | slot s => (s.text c).toList

/-- Whether a piece holds no double brace but that of a slot. -/
def IsProper : Piece → Prop
  | literal text => ¬opening <:+: text
  | slot _ => True

/-- Whether a double brace may follow a piece. After a brace the first two of three would be taken
for it. -/
def MayOpen : Piece → Prop
  | literal text => text.getLast? ≠ some '{'
  | slot _ => True

/-- Whether a piece may stand before another one: literals do not stand beside each other. -/
def MayPrecede (p : Piece) : Piece → Prop
  | literal _ => ∃ s, p = slot s
  | slot _ => p.MayOpen

end Piece

/-- Whether pieces make up a template. -/
structure Grammatical (ps : List Piece) : Prop where
  /-- No literal holds a double brace. -/
  isProper : ∀ p ∈ ps, p.IsProper
  /-- Each piece may stand before the next one. -/
  mayPrecede : ps.IsChain Piece.MayPrecede

/-- Whether a double brace may follow pieces. -/
def MayOpenAfter (ps : List Piece) : Prop :=
  ∀ p ∈ ps.getLast?, p.MayOpen

/-- Whether a line that follows some pieces begins with a double brace that begins no slot. The line
ends at a line feed or at the end of the text. -/
structure Offends (ps : List Piece) (line more : List Char) : Prop where
  /-- Up to the line, the text is a template. -/
  grammatical : Grammatical ps
  /-- No earlier character belongs to the double brace. -/
  mayOpen : MayOpenAfter ps
  /-- The line begins with a double brace. -/
  opens : opening <+: line
  /-- No slot begins there. -/
  noSlot : ∀ s : Slot, ¬s.written <+: line ++ more
  /-- The line is one line. -/
  newline_notMem : '\n' ∉ line
  /-- The line is a whole one. -/
  ends : more = [] ∨ ∃ later, more = '\n' :: later

namespace Grammatical

variable {ps : List Piece} {p : Piece}

theorem singleton (h : p.IsProper) : Grammatical [p] :=
  ⟨List.forall_mem_singleton.2 h, .singleton p⟩

/-- The pieces behind the first one are grammatical too. -/
theorem tail (h : Grammatical (p :: ps)) : Grammatical ps :=
  ⟨fun q hq ↦ h.isProper q (List.mem_cons_of_mem p hq), h.mayPrecede.tail⟩

/-- Anything may follow a slot. -/
theorem slot_cons (s : Slot) (h : Grammatical ps) : Grammatical (.slot s :: ps) := by
  refine ⟨List.forall_mem_cons.2 ⟨trivial, h.isProper⟩, ?_⟩
  cases ps with
  | nil => exact .singleton _
  | cons p ps =>
    refine List.isChain_cons_cons.2 ⟨?_, h.mayPrecede⟩
    cases p with
    | literal text => exact ⟨s, rfl⟩
    | slot s' => exact trivial

/-- A slot may follow a literal that holds no double brace even with the first brace of the slot. -/
theorem literal_cons {text : List Char} {s : Slot} (h : Grammatical (.slot s :: ps))
    (proper : (Piece.literal text).IsProper) (opens : (Piece.literal text).MayOpen) :
    Grammatical (.literal text :: .slot s :: ps) :=
  ⟨List.forall_mem_cons.2 ⟨proper, h.isProper⟩, List.isChain_cons_cons.2 ⟨opens, h.mayPrecede⟩⟩

end Grammatical

theorem MayOpenAfter.tail {p : Piece} {ps : List Piece} (h : MayOpenAfter (p :: ps)) :
    MayOpenAfter ps := by
  cases ps with
  | nil => exact nofun
  | cons q ps => exact h

/-- A slot before some pieces does not change what may open after them. -/
theorem MayOpenAfter.slot_cons {ps : List Piece} (s : Slot) (h : MayOpenAfter ps) :
    MayOpenAfter (.slot s :: ps) := by
  cases ps with
  | nil => exact fun p hp ↦ Option.some.inj hp ▸ trivial
  | cons q ps => exact h

/-! ### Texts taken apart -/

/-- Pieces that are followed by a double brace which begins no slot offend there. -/
theorem Offends.of_opens {ps : List Piece} {rest : List Char} (grammatical : Grammatical ps)
    (mayOpen : MayOpenAfter ps) (opens : opening <+: rest)
    (noSlot : ∀ s : Slot, ¬s.written <+: rest) :
    Offends ps (rest.takeWhile (· ≠ '\n')) (rest.dropWhile (· ≠ '\n')) where
  grammatical := grammatical
  mayOpen := mayOpen
  opens := by
    obtain ⟨opened, rfl⟩ := opens
    exact ⟨opened.takeWhile (· ≠ '\n'), rfl⟩
  noSlot := by
    rw [List.takeWhile_append_dropWhile]
    exact noSlot
  newline_notMem h := absurd (List.all_eq_true.1 List.all_takeWhile '\n' h) (by decide)
  ends := by
    have first := List.head?_dropWhile_not (fun c ↦ decide (c ≠ '\n')) rest
    cases hd : rest.dropWhile (· ≠ '\n') with
    | nil => exact .inl rfl
    | cons c later =>
      rw [hd] at first
      rw [Decidable.not_not.1 (of_decide_eq_false first)]
      exact .inr ⟨later, rfl⟩

/-- A text is made of pieces, or it is so up to a double brace that begins no slot. -/
theorem exists_pieces (source : List Char) :
    (∃ ps, Grammatical ps ∧ source = ps.flatMap Piece.written) ∨
      ∃ ps line more, Offends ps line more ∧
        source = ps.flatMap Piece.written ++ line ++ more := by
  cases found : splitAtPair? '{' source with
  | none =>
    refine .inl ⟨[.literal source], .singleton (splitAtPair?_eq_none_iff.1 found), ?_⟩
    rw [List.flatMap_singleton, Piece.written]
  | some parts =>
    obtain ⟨before, opened⟩ := parts
    obtain ⟨rfl, proper, opens⟩ := splitAtPair?_eq_some_iff.1 found
    by_cases known : ∃ s : Slot, s.written <+: opening ++ opened
    · obtain ⟨s, rest, parts⟩ := known
      have shorter : rest.length < (before ++ '{' :: '{' :: opened).length := by
        have same := congrArg List.length parts
        simp only [Slot.written, opening, List.length_append, List.length_cons] at same ⊢
        omega
      rw [show '{' :: '{' :: opened = s.written ++ rest from parts.symm]
      obtain ⟨ps, grammatical, rfl⟩ | ⟨ps, line, more, offends, rfl⟩ := exists_pieces rest
      · exact .inl ⟨.literal before :: .slot s :: ps,
          (grammatical.slot_cons s).literal_cons proper opens, rfl⟩
      · refine .inr ⟨.literal before :: .slot s :: ps, line, more, { offends with
          grammatical := (offends.grammatical.slot_cons s).literal_cons proper opens
          mayOpen := offends.mayOpen.slot_cons s }, ?_⟩
        rw [List.flatMap_cons, List.flatMap_cons]
        simp only [List.append_assoc, Piece.written]
    · refine .inr ⟨[.literal before], _, _, .of_opens (.singleton proper)
        (fun p hp ↦ Option.some.inj hp ▸ opens) ⟨opened, rfl⟩ fun s hs ↦ known ⟨s, hs⟩, ?_⟩
      rw [List.append_assoc, List.takeWhile_append_dropWhile, List.flatMap_singleton]
      rfl
termination_by source.length

/-! ### Rendering -/

namespace Context

variable (c : Context)

/-- A name has a text if it is that of a slot, and then it is the text of the slot. -/
theorem slotText?_eq_some_iff {name text : String} :
    c.slotText? name = some text ↔ ∃ s : Slot, s.name = name ∧ s.text c = text := by
  constructor
  · intro filled
    rw [slotText?] at filled
    split at filled
    next h => exact ⟨.serverName, h.symm, Option.some.inj filled⟩
    next =>
      split at filled
      next h => exact ⟨.serverMode, h.symm, Option.some.inj filled⟩
      next =>
        split at filled
        next h => exact ⟨.envVariables, h.symm, Option.some.inj filled⟩
        next => cases filled
  · rintro ⟨s, rfl, rfl⟩
    cases s <;> rfl

/-- A slot is filled, and what follows it is rendered by itself. -/
theorem renderChars_append_written (s : Slot) (rest : List Char) :
    c.renderChars (s.written ++ rest) = (c.renderChars rest).map ((s.text c).toList ++ ·) := by
  have closed : '}' ∉ s.name.toList := by cases s <;> decide
  have filled : c.slotText? (String.ofList s.name.toList) = some (s.text c) :=
    c.slotText?_eq_some_iff.2 ⟨s, String.ofList_toList.symm, rfl⟩
  rw [Slot.written, List.cons_append, List.cons_append, List.append_assoc]
  exact c.renderChars_slot closed filled rest

/-- A double brace that begins no slot is reported with its line. -/
theorem renderChars_of_noSlot {rest : List Char} (opens : opening <+: rest)
    (noSlot : ∀ s : Slot, ¬s.written <+: rest) : c.renderChars rest = .error (firstLine rest) := by
  obtain ⟨opened, rfl⟩ := opens
  have here : splitAtPair? '{' (opening ++ opened) = some ([], opened) := if_pos ⟨rfl, rfl⟩
  rw [c.renderChars_eq, here]
  simp only [List.length_nil, List.drop_zero]
  cases found : splitAtPair? '}' opened with
  | none => rfl
  | some parts =>
    cases filled : c.slotText? (String.ofList parts.1) with
    | none => simp only [filled]
    | some filling =>
      obtain ⟨s, named, -⟩ := c.slotText?_eq_some_iff.1 filled
      obtain ⟨rfl, -⟩ := splitAtPair?_eq_some_iff.1 found
      refine absurd ⟨parts.2, ?_⟩ (noSlot s)
      rw [Slot.written, named, String.toList_ofList]
      simp [opening]

/-- Pieces are rendered one by one, and what follows them is rendered by itself, unless its first
brace becomes a part of a double one. -/
theorem renderChars_append_pieces {ps : List Piece} {rest : List Char} (h : Grammatical ps)
    (apart : MayOpenAfter ps ∨ rest.head? ≠ some '{') :
    c.renderChars (ps.flatMap Piece.written ++ rest) =
      (c.renderChars rest).map (ps.flatMap (Piece.filled c) ++ ·) := by
  have twice (x : Except String (List Char)) (cs ds : List Char) :
      (x.map (cs ++ ·)).map (ds ++ ·) = x.map (ds ++ cs ++ ·) := by
    cases x with
    | error line => rfl
    | ok es => exact congrArg Except.ok (List.append_assoc ds cs es).symm
  induction ps with
  | nil =>
    rw [List.flatMap_nil, List.flatMap_nil, List.nil_append]
    cases c.renderChars rest <;> rfl
  | cons p ps ih =>
    rw [List.flatMap_cons, List.flatMap_cons, List.append_assoc, ← twice,
      ← ih h.tail (apart.imp_left .tail)]
    cases p with
    | slot s => exact c.renderChars_append_written s _
    | literal text =>
      refine c.renderChars_append (h.isProper _ List.mem_cons_self) ?_
      cases ps with
      | nil => exact apart.imp_left fun mayOpen ↦ mayOpen _ rfl
      | cons q ps =>
        -- What follows a literal is a slot.
        have beside := (List.isChain_cons_cons.1 h.mayPrecede).1
        cases q with
        | literal _ => exact beside.elim nofun
        | slot s => exact .inl beside

/-- Grammatical pieces are rendered one by one. -/
theorem renderChars_of_grammatical {ps : List Piece} (h : Grammatical ps) :
    c.renderChars (ps.flatMap Piece.written) = .ok (ps.flatMap (Piece.filled c)) := by
  have none : c.renderChars [] = .ok [] := c.renderChars_of_not_infix (by decide)
  have rendered : c.renderChars (ps.flatMap Piece.written ++ []) =
      (c.renderChars []).map (ps.flatMap (Piece.filled c) ++ ·) :=
    c.renderChars_append_pieces h (.inr nofun)
  rw [List.append_nil, none] at rendered
  rw [rendered]
  exact congrArg Except.ok (List.append_nil _)

/-- Where pieces offend, the line from there on is told. -/
theorem renderChars_of_offends {ps : List Piece} {line more : List Char}
    (h : Offends ps line more) :
    c.renderChars (ps.flatMap Piece.written ++ line ++ more) = .error (String.ofList line) := by
  have first : (line ++ more).takeWhile (· ≠ '\n') = line := by
    have inside : ∀ d ∈ line, decide (d ≠ '\n') = true := by
      intro d hd
      refine decide_eq_true fun he ↦ h.newline_notMem ?_
      rw [← he]
      exact hd
    rw [List.takeWhile_append_of_pos inside]
    obtain rfl | ⟨later, rfl⟩ := h.ends <;> exact List.append_nil line
  have opens : opening <+: line ++ more := h.opens.trans (List.prefix_append line more)
  rw [List.append_assoc, c.renderChars_append_pieces h.grammatical (.inl h.mayOpen),
    c.renderChars_of_noSlot opens h.noSlot, firstLine, first]
  rfl

variable {c}

/-- A text is rendered if it is made of grammatical pieces, and then to what fills them. -/
theorem renderChars_eq_ok_iff {source text : List Char} :
    c.renderChars source = .ok text ↔
      ∃ ps, Grammatical ps ∧ source = ps.flatMap Piece.written ∧
        text = ps.flatMap (Piece.filled c) := by
  constructor
  · intro rendered
    obtain ⟨ps, grammatical, rfl⟩ | ⟨ps, line, more, offends, rfl⟩ := exists_pieces source
    · rw [c.renderChars_of_grammatical grammatical] at rendered
      exact ⟨ps, grammatical, rfl, (Except.ok.inj rendered).symm⟩
    · rw [c.renderChars_of_offends offends] at rendered
      cases rendered
  · rintro ⟨ps, grammatical, rfl, rfl⟩
    exact c.renderChars_of_grammatical grammatical

/-- A text is refused if it offends, and then for the line that does. -/
theorem renderChars_eq_error_iff {source : List Char} {shown : String} :
    c.renderChars source = .error shown ↔
      ∃ ps line more, Offends ps line more ∧
        source = ps.flatMap Piece.written ++ line ++ more ∧ shown = String.ofList line := by
  constructor
  · intro refused
    obtain ⟨ps, grammatical, rfl⟩ | ⟨ps, line, more, offends, rfl⟩ := exists_pieces source
    · rw [c.renderChars_of_grammatical grammatical] at refused
      cases refused
    · rw [c.renderChars_of_offends offends] at refused
      exact ⟨ps, line, more, offends, rfl, (Except.error.inj refused).symm⟩
  · rintro ⟨ps, line, more, offends, rfl, rfl⟩
    exact c.renderChars_of_offends offends

variable {source text reason : String}

theorem render_eq_ok_iff :
    c.render source = .ok text ↔ c.renderChars source.toList = .ok text.toList := by
  rw [render]
  cases c.renderChars source.toList with
  | error line => simp
  | ok cs => rw [Except.ok.injEq, Except.ok.injEq, ← String.toList_inj, String.toList_ofList]

theorem render_eq_error_iff :
    c.render source = .error reason ↔
      ∃ line, c.renderChars source.toList = .error line ∧
        reason = "unknown placeholder " ++ line := by
  rw [render]
  cases c.renderChars source.toList with
  | error line =>
    rw [Except.error.injEq]
    constructor
    · rintro rfl
      exact ⟨line, rfl, rfl⟩
    · rintro ⟨_, same, rfl⟩
      rw [Except.error.inj same]
  | ok cs => simp

end Context

/-! ### Refused templates -/

section Refused

variable {σ : Type} {w w' : World σ} {c : Context}

/-- An operation on files has nothing to say about templates. -/
theorem operate_ne_template {op : Files.Operation} {name reason : String} :
    (Job.operate op).perform w ≠ (.error (.template name reason), w') := by
  rw [Job.operate, Job.perform_operateFor]
  rcases op.apply w.files with ⟨_ | _, _⟩ <;> exact nofun

/-- A template is refused before anything is written, and only if it does not render. -/
theorem writeTemplate_eq_template_error_iff {t : Template} {directory : Path} {reason : String} :
    (writeTemplate directory c t).perform w = (.error (.template t.file reason), w) ↔
      c.render t.source = .error reason := by
  rw [writeTemplate]
  cases rendered : c.render t.source with
  | error other =>
    rw [Except.error.injEq]
    constructor
    · intro refused
      cases refused
      rfl
    · rintro rfl
      rfl
  | ok text =>
    refine iff_of_false (fun refused ↦ ?_) nofun
    obtain writing | ⟨_, w₁, -, rest⟩ := Job.bind_eq_error refused
    · exact operate_ne_template writing
    · cases executable : t.executable with
      | false =>
        rw [executable] at rest
        cases rest
      | true =>
        rw [executable] at rest
        obtain marking | ⟨_, w₂, -, told⟩ := Job.bind_eq_error rest
        · exact operate_ne_template marking
        · cases told

end Refused

/-- A template renders if and only if it is made of pieces, and then to what the context makes of
the pieces, one after the other: literals stay and slots are filled, whatever braces the fillings
hold. Otherwise its text is made of pieces up to a double brace that begins no slot, and it is
refused with the text from there to the end of the line; so it is when its file is to be written,
and nothing is written then. -/
theorem Context.render_grammar {σ : Type} (c : Context) (source : String) :
    (∀ text, c.render source = .ok text ↔
      ∃ ps, Grammatical ps ∧ source.toList = ps.flatMap Piece.written ∧
        text.toList = ps.flatMap (Piece.filled c)) ∧
    (∀ reason, c.render source = .error reason ↔
      ∃ ps line more, Offends ps line more ∧
        source.toList = ps.flatMap Piece.written ++ line ++ more ∧
        reason = "unknown placeholder " ++ String.ofList line) ∧
    ∀ file executable directory reason (w : World σ),
      (writeTemplate directory c { file, source, executable }).perform w =
          (.error (.template file reason), w) ↔ c.render source = .error reason := by
  refine ⟨fun text ↦ ?_, fun reason ↦ ?_, fun file executable directory reason w ↦ ?_⟩
  · rw [render_eq_ok_iff, renderChars_eq_ok_iff]
  · rw [render_eq_error_iff]
    constructor
    · rintro ⟨shown, refused, rfl⟩
      obtain ⟨ps, line, more, offends, parts, rfl⟩ := renderChars_eq_error_iff.1 refused
      exact ⟨ps, line, more, offends, parts, rfl⟩
    · rintro ⟨ps, line, more, offends, parts, rfl⟩
      exact ⟨_, renderChars_eq_error_iff.2 ⟨ps, line, more, offends, parts, rfl⟩, rfl⟩
  · exact writeTemplate_eq_template_error_iff

end Toolsmith.Generation
