import Toolsmith.Proofs.Tool.Segments

/-!
# Slots of a URL

The slots of a template are listed by cutting it at braces, and filled by passing over its
characters one by one. Both find the same slots, whatever the braces: a text has no slot, or ends
with a slot that nothing closes, or begins with a slot behind some text without braces. So filling
fails exactly where a listed slot has no value, and names the first one. Where all of them have one,
the text is that of the template with each listed slot replaced by its value, whatever braces stand
in the values.

## Main definitions

* `Handler.Cut`: a template cut into its slots, the literals before them and the text behind them.
* `Handler.IsGiven`, `Handler.Resolves`: whether a slot has a value, and the text it is replaced by.

## Main statements

* `Handler.slots_induction`: induction over a text, slot by slot.
* `Handler.fill_eq_error_iff`: the slot that filling fails at.
* `Handler.url_of_fill`, `Handler.url_eq_unresolved_iff`: the URL of a filled text, or of none.
* `Handler.url_visits_slots`: the URL of a request fails at the first listed slot without a value,
  or is read from the template with all listed slots replaced.
-/

namespace Toolsmith.Handler

open Json (Value)

variable {c : Char} {cs before name opened rest acc : List Char}
  {value? : String → Option (List Char)}

/-! ### Texts cut at their slots -/

/-- Nothing is split at a character that does not occur. -/
theorem splitAt?_of_notMem (h : c ∉ cs) : splitAt? c cs = none := by
  induction cs with
  | nil => rfl
  | cons x cs ih =>
    rw [List.mem_cons, not_or] at h
    rw [splitAt?, if_neg (Ne.symm h.1), ih h.2]
    rfl

/-- A text is split where the character occurs first. -/
theorem splitAt?_append (h : c ∉ before) (rest : List Char) :
    splitAt? c (before ++ c :: rest) = some (before, rest) := by
  induction before with
  | nil => exact if_pos rfl
  | cons x before ih =>
    rw [List.mem_cons, not_or] at h
    rw [List.cons_append, splitAt?, if_neg (Ne.symm h.1), ih h.2]
    rfl

/-- Induction over a text, slot by slot. -/
@[elab_as_elim]
theorem slots_induction {motive : List Char → Prop} (plain : ∀ cs, '{' ∉ cs → motive cs)
    (unclosed : ∀ before opened, '{' ∉ before → '}' ∉ opened → motive (before ++ '{' :: opened))
    (slot : ∀ before name rest, '{' ∉ before → '}' ∉ name → motive rest →
      motive (before ++ '{' :: (name ++ '}' :: rest)))
    (cs : List Char) : motive cs := by
  by_cases brace : '{' ∈ cs
  · obtain ⟨before, opened, cut, first⟩ := List.eq_append_cons_of_mem brace
    rw [cut]
    by_cases closed : '}' ∈ opened
    · obtain ⟨name, rest, cut', nearest⟩ := List.eq_append_cons_of_mem closed
      have shorter : rest.length < cs.length := by
        rw [cut, cut', List.length_append, List.length_cons, List.length_append, List.length_cons]
        omega
      rw [cut']
      exact slot before name rest first nearest (slots_induction plain unclosed slot rest)
    · exact unclosed before opened first closed
  · exact plain cs brace
termination_by cs.length

/-! ### The slots that are listed -/

/-- A text without an opening brace has no slots. -/
theorem slotsOf_of_notMem (h : '{' ∉ cs) : slotsOf cs = [] := by
  rw [slotsOf]
  split
  next => rfl
  next cut =>
    rw [splitAt?_of_notMem h] at cut
    cases cut

/-- A brace that is not closed opens no slot. -/
theorem slotsOf_unclosed (h : '{' ∉ before) (h' : '}' ∉ opened) :
    slotsOf (before ++ '{' :: opened) = [] := by
  rw [slotsOf]
  split
  next => rfl
  next cut =>
    cases (splitAt?_append h _).symm.trans cut
    split
    next => rfl
    next cut =>
      rw [splitAt?_of_notMem h'] at cut
      cases cut

/-- A name between braces is a slot, and the slots behind it follow. -/
theorem slotsOf_slot (h : '{' ∉ before) (h' : '}' ∉ name) (rest : List Char) :
    slotsOf (before ++ '{' :: (name ++ '}' :: rest)) = String.ofList name :: slotsOf rest := by
  rw [slotsOf]
  split
  next cut => cases (splitAt?_append h _).symm.trans cut
  next cut =>
    cases (splitAt?_append h _).symm.trans cut
    split
    next cut => cases (splitAt?_append h' _).symm.trans cut
    next cut =>
      cases (splitAt?_append h' _).symm.trans cut
      rfl

/-! ### The slots that are filled -/

/-- What follows a brace that is not closed stays as it is. -/
theorem fillFrom_some_of_notMem (h : '}' ∉ cs) :
    fillFrom value? (some acc) cs = .ok ('{' :: (acc.reverse ++ cs)) := by
  induction cs generalizing acc with
  | nil => rw [fillFrom, List.append_nil]
  | cons c cs ih =>
    rw [List.mem_cons, not_or] at h
    rw [fillFrom, if_neg (Ne.symm h.1), ih h.2, List.reverse_cons, List.append_assoc]
    rfl

/-- A text with a brace that is not closed stays as it is. -/
theorem fillFrom_unclosed (h : '{' ∉ before) (h' : '}' ∉ opened) :
    fillFrom value? none (before ++ '{' :: opened) = .ok (before ++ '{' :: opened) := by
  rw [Fills.literal h, fillFrom, if_pos rfl, fillFrom_some_of_notMem h']
  rfl

/-- A slot without a value is told as an error. -/
theorem fillFrom_some_of_eq_none (h : '}' ∉ cs)
    (missing : value? (String.ofList (acc.reverse ++ cs)) = none) :
    fillFrom value? (some acc) (cs ++ '}' :: rest) =
      .error (String.ofList (acc.reverse ++ cs)) := by
  induction cs generalizing acc with
  | nil =>
    rw [List.append_nil] at missing ⊢
    rw [List.nil_append, fillFrom, if_pos rfl]
    simp only [missing]
  | cons c cs ih =>
    rw [List.mem_cons, not_or] at h
    have next : (c :: acc).reverse ++ cs = acc.reverse ++ c :: cs := by
      rw [List.reverse_cons, List.append_assoc]
      rfl
    rw [List.cons_append, fillFrom, if_neg (Ne.symm h.1), ih h.2 (by rwa [next]), next]

/-- Filling fails at a slot without a value. -/
theorem fillFrom_of_eq_none (h : '{' ∉ before) (h' : '}' ∉ name)
    (missing : value? (String.ofList name) = none) (rest : List Char) :
    fillFrom value? none (before ++ '{' :: (name ++ '}' :: rest)) =
      .error (String.ofList name) := by
  rw [Fills.literal h, fillFrom, if_pos rfl, fillFrom_some_of_eq_none h' missing]
  rfl

/-- A slot with a value is filled, and the text behind it as well. -/
theorem fillFrom_of_eq_some {value : List Char} (h : '{' ∉ before) (h' : '}' ∉ name)
    (given : value? (String.ofList name) = some value) (rest : List Char) :
    fillFrom value? none (before ++ '{' :: (name ++ '}' :: rest)) =
      (fillFrom value? none rest).map (before ++ value ++ ·) := by
  rw [Fills.literal h, fillFrom, if_pos rfl, Fills.fillFrom_some h' given]
  cases fillFrom value? none rest with
  | error e => rfl
  | ok filled => exact congrArg Except.ok (List.append_assoc before value filled).symm

/-! ### The listed slots are those that are filled -/

/-- Filling fails at the first of the listed slots that has no value. -/
theorem fillFrom_eq_error_iff (cs : List Char) (slot : String) :
    fillFrom value? none cs = .error slot ↔
      (slotsOf cs).find? (fun s ↦ (value? s).isNone) = some slot := by
  induction cs using slots_induction with
  | plain cs h =>
    rw [(Fills.literal h).fillFrom_eq, slotsOf_of_notMem h, List.find?_nil]
    exact iff_of_false nofun nofun
  | unclosed before opened h h' =>
    rw [fillFrom_unclosed h h', slotsOf_unclosed h h', List.find?_nil]
    exact iff_of_false nofun nofun
  | slot before name rest h h' ih =>
    rw [slotsOf_slot h h', List.find?_cons]
    cases given : value? (String.ofList name) with
    | none =>
      rw [fillFrom_of_eq_none h h' given, Except.error.injEq]
      exact Option.some_inj.symm
    | some value =>
      rw [fillFrom_of_eq_some h h' given]
      show (fillFrom value? none rest).map _ = _ ↔ (slotsOf rest).find? _ = _
      rw [← ih]
      cases fillFrom value? none rest with
      | error e => exact Iff.rfl
      | ok filled => exact iff_of_false nofun nofun

/-- Filling a URL fails at the first of its slots that has neither a value in the input nor one in
the environment. -/
theorem fill_eq_error_iff (h : Handler) (environment : Table String) (input : Value)
    (slot : String) :
    h.fill environment input = .error slot ↔
      h.slots.find? (fun s ↦ (h.slotText? environment input s).isNone) = some slot :=
  fillFrom_eq_error_iff h.urlTemplate.toList slot

/-- A URL whose slots are filled is read from the text, and the query is appended to it. -/
theorem url_of_fill {h : Handler} {environment : Table String} {input : Value}
    (filled : h.fill environment input = .ok cs) :
    h.url environment input =
      ((Url.ofChars cs).mapError (.invalidUrl (String.ofList cs))).map
        (·.appendQuery (h.queryPairs input)) := by
  rw [url, filled]
  show ((Url.ofChars cs).mapError (Tool.CallError.invalidUrl (String.ofList cs))).bind _ = _
  cases Url.ofChars cs with
  | error e => rfl
  | ok url => rfl

/-- A URL has a slot without a value exactly if it cannot be filled. -/
theorem url_eq_unresolved_iff {h : Handler} {environment : Table String} {input : Value}
    {slot : String} :
    h.url environment input = .error (.unresolvedPlaceholder slot) ↔
      h.fill environment input = .error slot := by
  cases filled : h.fill environment input with
  | error e =>
    rw [url, filled]
    show Except.error (Tool.CallError.unresolvedPlaceholder e) = _ ↔ _
    rw [Except.error.injEq, Except.error.injEq, Tool.CallError.unresolvedPlaceholder.injEq]
  | ok cs =>
    rw [url_of_fill filled]
    refine iff_of_false ?_ fun he ↦ ?_
    · cases Url.ofChars cs with
      | error e =>
        intro he
        cases he
      | ok url =>
        intro he
        cases he
    · cases he

/-! ### Texts put together again -/

/-- Texts one after the other, each behind a literal, and a last text. -/
def interleave (literals texts : List (List Char)) (last : List Char) : List Char :=
  (List.zipWith (· ++ ·) literals texts).flatten ++ last

/-- A slot as it stands in a template. -/
def braced (slot : String) : List Char :=
  '{' :: (slot.toList ++ ['}'])

/-- Whether a template is cut at its slots: a literal ends at the next opening brace and a slot at
the next closing one, until no opening brace is followed by a closing one. -/
structure Cut (template : List Char) (literals : List (List Char)) (slots : List String)
    (last : List Char) : Prop where
  /-- Each slot has a literal before it. -/
  length : literals.length = slots.length
  /-- Literals, slots and the last text make up the template. -/
  text : template = interleave literals (slots.map braced) last
  /-- No literal has an opening brace. -/
  unopened : ∀ literal ∈ literals, '{' ∉ literal
  /-- No slot has a closing brace. -/
  unclosed : ∀ slot ∈ slots, '}' ∉ slot.toList
  /-- No slot is closed in the last text. -/
  rest : ∀ before opened, last = before ++ '{' :: opened → '}' ∉ opened

namespace Cut

variable {literals : List (List Char)} {slots : List String} {last : List Char}

/-- A text without an opening brace is cut into one piece. -/
theorem of_notMem (h : '{' ∉ cs) : Cut cs [] [] cs where
  length := rfl
  text := rfl
  unopened := nofun
  unclosed := nofun
  rest := by
    rintro before opened rfl
    exact absurd (List.mem_append_right _ List.mem_cons_self) h

/-- So is one with a brace that is not closed. -/
theorem of_unclosed (h : '{' ∉ before) (h' : '}' ∉ opened) :
    Cut (before ++ '{' :: opened) [] [] (before ++ '{' :: opened) where
  length := rfl
  text := rfl
  unopened := nofun
  unclosed := nofun
  rest := by
    intro front tail same
    -- What follows any opening brace is a part of what follows the first one.
    rcases List.append_eq_append_iff.1 same with ⟨between, -, cut⟩ | ⟨between, split, cut⟩
    · cases between with
      | nil =>
        cases cut
        exact h'
      | cons c between =>
        cases cut
        exact fun closed ↦ h' (List.mem_append_right _ (List.mem_cons_of_mem _ closed))
    · cases between with
      | nil =>
        cases cut
        exact h'
      | cons c between =>
        cases cut
        exact absurd (split ▸ List.mem_append_right _ List.mem_cons_self) h

/-- A slot is cut off with the text before it. -/
theorem slot (cut : Cut rest literals slots last) (h : '{' ∉ before) (h' : '}' ∉ name) :
    Cut (before ++ '{' :: (name ++ '}' :: rest)) (before :: literals)
      (String.ofList name :: slots) last where
  length := congrArg (· + 1) cut.length
  text := by
    rw [List.map_cons, interleave, List.zipWith_cons_cons, List.flatten_cons, List.append_assoc]
    show _ = _ ++ interleave _ _ _
    rw [← cut.text, braced, String.toList_ofList]
    simp
  unopened := List.forall_mem_cons.2 ⟨h, cut.unopened⟩
  unclosed := by
    refine List.forall_mem_cons.2 ⟨?_, cut.unclosed⟩
    rwa [String.toList_ofList]
  rest := cut.rest

/-- The last text has no slots to fill. -/
theorem fillFrom_last (cut : Cut cs literals slots last) :
    fillFrom value? none last = .ok last := by
  by_cases brace : '{' ∈ last
  · obtain ⟨before, opened, split, first⟩ := List.eq_append_cons_of_mem brace
    rw [split]
    exact fillFrom_unclosed first (cut.rest before opened split)
  · exact (Fills.literal brace).fillFrom_eq

/-- Literals and slots are filled to the same literals and the texts of the slots. -/
theorem fills {texts : List (List Char)} (unopened : ∀ literal ∈ literals, '{' ∉ literal)
    (unclosed : ∀ slot ∈ slots, '}' ∉ slot.toList)
    (given : List.Forall₂ (fun slot text ↦ value? slot = some text) slots texts) :
    Fills value? (List.zipWith (· ++ ·) literals (slots.map braced)).flatten
      (List.zipWith (· ++ ·) literals texts).flatten := by
  induction given generalizing literals with
  | nil =>
    rw [List.map_nil, List.zipWith_nil_right]
    exact .nil
  | cons value _ ih =>
    cases literals with
    | nil => exact .nil
    | cons literal literals =>
      obtain ⟨opens, unopened⟩ := List.forall_mem_cons.1 unopened
      obtain ⟨closes, unclosed⟩ := List.forall_mem_cons.1 unclosed
      exact ((Fills.literal opens).append (.slot closes value)).append (ih unopened unclosed)

/-- A text is filled slot by slot, and what fills a slot is not looked at again. -/
theorem fillFrom_eq (cut : Cut cs literals slots last) {texts : List (List Char)}
    (given : List.Forall₂ (fun slot text ↦ value? slot = some text) slots texts) :
    fillFrom value? none cs = .ok (interleave literals texts last) := by
  rw [cut.text, interleave, fills cut.unopened cut.unclosed given, cut.fillFrom_last]
  rfl

end Cut

/-- Every text can be cut at the slots that are listed. -/
theorem exists_cut (cs : List Char) : ∃ literals last, Cut cs literals (slotsOf cs) last := by
  induction cs using slots_induction with
  | plain cs h =>
    rw [slotsOf_of_notMem h]
    exact ⟨[], cs, .of_notMem h⟩
  | unclosed before opened h h' =>
    rw [slotsOf_unclosed h h']
    exact ⟨[], _, .of_unclosed h h'⟩
  | slot before name rest h h' ih =>
    obtain ⟨literals, last, cut⟩ := ih
    rw [slotsOf_slot h h']
    exact ⟨before :: literals, last, cut.slot h h'⟩

/-! ### Slots of a request -/

/-- Whether a slot takes a value of the input: it is a path parameter with a value other than
null. -/
def TakesInput (h : Handler) (input : Value) (slot : String) : Prop :=
  slot ∈ h.pathParams ∧ ∃ v, input.get? slot = some v ∧ v ≠ .null

/-- Whether a slot has a value, in the input or in the environment. -/
def IsGiven (h : Handler) (environment : Table String) (input : Value) (slot : String) : Prop :=
  h.TakesInput input slot ∨ ∃ text, environment.get? slot = some text

/-- The text that a slot is replaced by. -/
inductive Resolves (h : Handler) (environment : Table String) (input : Value) (slot : String) :
    List Char → Prop
  /-- A value of the input goes first, and is encoded. -/
  | ofInput {v : Value} {text : String} : slot ∈ h.pathParams → input.get? slot = some v →
    v.parameterText? = some text →
      Resolves h environment input slot (Text.encodeComponent text.toList)
  /-- A variable of the environment is taken as it is. -/
  | ofEnvironment {text : String} : ¬ h.TakesInput input slot → environment.get? slot = some text →
    Resolves h environment input slot text.toList

section Request

variable {h : Handler} {environment : Table String} {input : Value} {slot : String}

/-- A slot that takes a value of the input is filled with the encoding of its text. -/
theorem exists_text_of_takesInput (takes : h.TakesInput input slot) :
    ∃ v text, input.get? slot = some v ∧ v.parameterText? = some text ∧
      h.slotText? environment input slot = some (Text.encodeComponent text.toList) := by
  obtain ⟨param, v, hv, other⟩ := takes
  obtain ⟨text, ht⟩ := Value.exists_parameterText other
  refine ⟨v, text, hv, ht, slotText?_of_mem environment param ?_⟩
  rw [hv]
  exact ht

/-- A slot that takes no value of the input is filled with the variable of its name. -/
theorem slotText?_of_not_takesInput (other : ¬ h.TakesInput input slot) :
    h.slotText? environment input slot = (environment.get? slot).map String.toList := by
  by_cases param : slot ∈ h.pathParams
  · have none : (input.get? slot).bind Value.parameterText? = none := by
      cases hv : input.get? slot with
      | none => rfl
      | some v =>
        by_cases null : v = .null
        · rw [null]
          rfl
        · exact absurd ⟨param, v, hv, null⟩ other
    rw [slotText?, none, Option.map_none, ite_self, Option.none_or]
  · exact slotText?_of_notMem param

/-- A slot has a text if it is given. -/
theorem slotText?_eq_none_iff :
    h.slotText? environment input slot = none ↔ ¬ h.IsGiven environment input slot := by
  by_cases takes : h.TakesInput input slot
  · obtain ⟨_, _, -, -, filled⟩ := @exists_text_of_takesInput _ environment _ _ takes
    rw [filled]
    exact iff_of_false nofun fun missing ↦ missing (.inl takes)
  · rw [slotText?_of_not_takesInput takes, Option.map_eq_none_iff,
      Option.eq_none_iff_forall_ne_some]
    exact ⟨fun none ↦ not_or.2 ⟨takes, fun ⟨_, set⟩ ↦ none _ set⟩,
      fun missing text set ↦ missing (.inr ⟨text, set⟩)⟩

/-- The text of a slot is the one that the slot resolves to. -/
theorem resolves_of_slotText? {text : List Char}
    (filled : h.slotText? environment input slot = some text) :
    h.Resolves environment input slot text := by
  by_cases takes : h.TakesInput input slot
  · obtain ⟨v, t, hv, ht, filled'⟩ := @exists_text_of_takesInput _ environment _ _ takes
    cases filled.symm.trans filled'
    exact .ofInput takes.1 hv ht
  · rw [slotText?_of_not_takesInput takes] at filled
    obtain ⟨t, set, rfl⟩ := Option.map_eq_some_iff.1 filled
    exact .ofEnvironment takes set

/-- A URL has no value for a slot exactly if it is the first one without a value. -/
theorem url_eq_unresolved_iff_first :
    h.url environment input = .error (.unresolvedPlaceholder slot) ↔
      ∃ before after, h.slots = before ++ slot :: after ∧
        (∀ s ∈ before, h.IsGiven environment input s) ∧ ¬ h.IsGiven environment input slot := by
  rw [url_eq_unresolved_iff, fill_eq_error_iff, List.find?_eq_some_iff_append]
  simp only [Option.isNone_iff_eq_none, Bool.not_eq_true', ← Bool.not_eq_true,
    slotText?_eq_none_iff, not_not]
  constructor
  · rintro ⟨missing, before, after, split, given⟩
    exact ⟨before, after, split, given, missing⟩
  · rintro ⟨before, after, split, given, missing⟩
    exact ⟨missing, before, after, split, given⟩

/-- All slots with a value are filled. -/
theorem exists_texts (given : ∀ s ∈ h.slots, h.IsGiven environment input s) :
    ∃ texts, List.Forall₂ (fun s text ↦ h.slotText? environment input s = some text) h.slots
      texts := by
  refine ⟨h.slots.map fun s ↦ (h.slotText? environment input s).getD [],
    List.forall₂_map_right_iff.2 (List.forall₂_same.2 fun s hs ↦ ?_)⟩
  cases filled : h.slotText? environment input s with
  | none => exact absurd (given s hs) (slotText?_eq_none_iff.1 filled)
  | some text => rfl

end Request

/-- The URL of a request visits the slots that are listed, and no others. -/
theorem url_visits_slots (h : Handler) :
    ∃ literals last, Cut h.urlTemplate.toList literals h.slots last ∧
      ∀ environment input,
        (∀ slot, h.url environment input = .error (.unresolvedPlaceholder slot) ↔
          ∃ before after, h.slots = before ++ slot :: after ∧
            (∀ s ∈ before, h.IsGiven environment input s) ∧
            ¬ h.IsGiven environment input slot) ∧
        ((∀ s ∈ h.slots, h.IsGiven environment input s) →
          ∃ texts, List.Forall₂ (h.Resolves environment input) h.slots texts ∧
            h.url environment input =
              ((Url.ofChars (interleave literals texts last)).mapError
                (.invalidUrl (String.ofList (interleave literals texts last)))).map
                (·.appendQuery (h.queryPairs input))) := by
  obtain ⟨literals, last, cut⟩ := exists_cut h.urlTemplate.toList
  refine ⟨literals, last, cut, fun environment input ↦
    ⟨fun slot ↦ url_eq_unresolved_iff_first, fun given ↦ ?_⟩⟩
  obtain ⟨texts, filled⟩ := exists_texts given
  exact ⟨texts, filled.imp fun _ _ ↦ resolves_of_slotText?, url_of_fill (cut.fillFrom_eq filled)⟩

/-- A handler with the URL `http://a.test/}{x{y}/{id}{id}/{`, which has braces without partners, a
brace in the name of a slot, and a slot that is there twice. -/
def oddlyBraced : Handler :=
  { method := "GET"
    urlTemplate := "http://a.test/\x7d\x7bx\x7by\x7d/\x7bid\x7d\x7bid\x7d/\x7b"
    pathParams := ["id"] }

/-- Variables of the environment, one of them with a slot in its text. -/
def oddVariables : Table String :=
  [("x\x7by", "\x7bid\x7d"), ("id", "unused")]

/-- An input with a slot in its text. -/
def oddInput : Value :=
  .object [("id", .string "\x7bx\x7by\x7d")]

theorem url_visits_slots_oddlyBraced :
    oddlyBraced.slots = ["x\x7by", "id", "id"] ∧
      oddlyBraced.url [] oddInput = .error (.unresolvedPlaceholder "x\x7by") ∧
      (∀ s ∈ oddlyBraced.slots, oddlyBraced.IsGiven oddVariables oddInput s) ∧
      ∃ literals last texts, Cut oddlyBraced.urlTemplate.toList literals oddlyBraced.slots last ∧
        List.Forall₂ (oddlyBraced.Resolves oddVariables oddInput) oddlyBraced.slots texts ∧
        oddlyBraced.url oddVariables oddInput =
          ((Url.ofChars (interleave literals texts last)).mapError
            (.invalidUrl (String.ofList (interleave literals texts last)))).map
            (·.appendQuery (oddlyBraced.queryPairs oddInput)) := by
  have slots : oddlyBraced.slots = ["x\x7by", "id", "id"] := by decide +kernel
  obtain ⟨literals, last, cut, visits⟩ := url_visits_slots oddlyBraced
  have given : ∀ s ∈ oddlyBraced.slots, oddlyBraced.IsGiven oddVariables oddInput s := by
    have id : oddlyBraced.IsGiven oddVariables oddInput "id" := .inl ⟨by decide, _, rfl, nofun⟩
    simp only [slots, List.forall_mem_cons]
    exact ⟨.inr ⟨_, rfl⟩, id, id, nofun⟩
  have missing : ¬ oddlyBraced.IsGiven [] oddInput "x\x7by" := by
    rintro (⟨param, -⟩ | ⟨_, set⟩)
    · exact absurd param (by decide)
    · cases set
  obtain ⟨texts, resolved, url⟩ := (visits oddVariables oddInput).2 given
  exact ⟨slots, ((visits [] oddInput).1 _).2 ⟨[], ["id", "id"], slots, nofun, missing⟩, given,
    literals, last, texts, cut, resolved, url⟩

end Toolsmith.Handler
