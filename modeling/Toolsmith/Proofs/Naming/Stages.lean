import Mathlib.Data.List.TakeWhile
import Toolsmith.Naming

/-!
# Identifiers in four stages

An identifier is spelled in one pass over a title. It can also be spelled in stages: what may not
stay is dropped, each run of blanks that is left becomes a dash, the text is split at the dashes,
and its segments are put together in camel case.

The words of the pass are not the segments. A character that is dropped between two blanks parts
them for the pass, which then begins a word for each, but not for the stages, where the blanks have
become one run. Yet a word that is begun too often is empty, and an empty word after the first one
spells nothing. So the invariant of the pass is that its words and the segments have the same first
one, and are the same later on but for empty ones.

## Main definitions

* `Text.collapse`, `Naming.joinSegments`: the second and the fourth stage.
* `Naming.segments`: what the first three stages make of a text.
* `Naming.SpellAlike`: lists of words that differ in empty later words only.

## Main statements

* `Naming.spellAlike_words`: the words of the pass and the segments.
* `Naming.spelled_eq_stages`: the pass spells what the stages spell.
-/

namespace Toolsmith

namespace Text

variable (p : Char → Bool) (d : Char)

/-- A text with each run of certain characters, as long as it gets, replaced by one character. -/
def collapse : List Char → List Char
  | [] => []
  | c :: cs => if p c then d :: collapse (cs.dropWhile p) else c :: collapse cs
termination_by cs => cs.length
decreasing_by
  · exact Nat.lt_succ_of_le (List.length_dropWhile_le p cs)
  · exact Nat.lt_succ_self cs.length

variable {p} {c : Char} (cs : List Char)

theorem collapse_nil : collapse p d [] = [] := by
  rw [collapse]

/-- A run of characters becomes one. -/
theorem collapse_cons_of_pos (h : p c = true) :
    collapse p d (c :: cs) = d :: collapse p d (cs.dropWhile p) := by
  rw [collapse, if_pos h]

/-- A character in no run stays. -/
theorem collapse_cons_of_neg (h : ¬p c = true) :
    collapse p d (c :: cs) = c :: collapse p d cs := by
  rw [collapse, if_neg h]

end Text

namespace Naming

/-! ### The stages -/

/-- Whether a character may stay: ASCII letters and digits, blanks and dashes do. -/
def mayStay (c : Char) : Bool :=
  c.isAlphanum || Text.isBlank c || c = '-'

/-- Segments put together: the first one in lower case, and each later one with its first character
in upper case. -/
def joinSegments : List (List Char) → List Char
  | [] => []
  | first :: later =>
    first.map Char.toLower ++
      (later.map fun segment ↦ (segment.take 1).map Char.toUpper ++ segment.drop 1).flatten

/-- The segments of a text: what stays of it, with a dash for each run of blanks, split at the
dashes. -/
def segments (cs : List Char) : List (List Char) :=
  List.splitOn '-' (Text.collapse Text.isBlank '-' (cs.filter mayStay))

/-! ### Empty words -/

/-- The words that are not empty. -/
def nonempty (ws : List (List Char)) : List (List Char) :=
  ws.filter (! ·.isEmpty)

theorem nonempty_nil_cons (ws : List (List Char)) : nonempty ([] :: ws) = nonempty ws := rfl

theorem nonempty_cons (w : List Char) (ws : List (List Char)) :
    nonempty (w :: ws) = nonempty [w] ++ nonempty ws :=
  List.filter_append [w] ws

/-- Whether words have the same first one, and the same later ones but for empty ones. -/
structure SpellAlike (ws ws' : List (List Char)) : Prop where
  /-- The first words are the same. -/
  head?_eq : ws.head? = ws'.head?
  /-- The later words that are not empty are the same. -/
  nonempty_tail : nonempty ws.tail = nonempty ws'.tail

namespace SpellAlike

variable {ws ws' : List (List Char)}

/-- An empty segment makes no difference. -/
theorem nil_cons (h : nonempty ws = nonempty ws') : SpellAlike ([] :: ws) ([] :: ws') :=
  ⟨rfl, h⟩

theorem nonempty_eq (h : SpellAlike ws ws') : nonempty ws = nonempty ws' := by
  obtain ⟨first, later⟩ := h
  match ws, ws' with
  | [], [] => rfl
  | w :: ws, w' :: ws' =>
    obtain rfl := Option.some.inj first
    rw [nonempty_cons w ws, nonempty_cons w ws', show nonempty ws = nonempty ws' from later]

/-- A letter before the first segment keeps two spellings alike. -/
theorem modifyHead (c : Char) (h : SpellAlike ws ws') :
    SpellAlike (ws.modifyHead (List.cons c)) (ws'.modifyHead (List.cons c)) := by
  obtain ⟨first, later⟩ := h
  match ws, ws' with
  | [], [] => exact ⟨rfl, rfl⟩
  | w :: ws, w' :: ws' =>
    obtain rfl := Option.some.inj first
    exact ⟨rfl, later⟩

end SpellAlike

/-! ### Words and segments -/

variable {c : Char} (cs : List Char)

/-- The blanks at the beginning of a text only part empty segments from it. -/
theorem nonempty_splitOn_dropWhile :
    nonempty (List.splitOn '-' (Text.collapse Text.isBlank '-' (cs.dropWhile Text.isBlank))) =
      nonempty (List.splitOn '-' (Text.collapse Text.isBlank '-' cs)) := by
  cases cs with
  | nil => rfl
  | cons c cs =>
    by_cases blank : Text.isBlank c = true
    · rw [List.dropWhile_cons_of_pos blank, Text.collapse_cons_of_pos '-' cs blank,
        List.splitOn_cons_eq_if_modifyHead, if_pos (beq_self_eq_true '-'), nonempty_nil_cons]
    · rw [List.dropWhile_cons_of_neg blank]

theorem segments_nil : segments [] = [[]] := by
  rw [segments, List.filter_nil, Text.collapse_nil, List.splitOn_nil]

/-- A blank begins a new segment, and more of them make no other difference. -/
theorem segments_cons_of_blank (blank : Text.isBlank c = true) :
    ∃ later, segments (c :: cs) = [] :: later ∧ nonempty later = nonempty (segments cs) := by
  have stays : mayStay c = true := by rw [mayStay, blank, Bool.or_true, Bool.true_or]
  refine ⟨_, ?_, nonempty_splitOn_dropWhile (cs.filter mayStay)⟩
  rw [segments, List.filter_cons_of_pos stays, Text.collapse_cons_of_pos '-' _ blank,
    List.splitOn_cons_eq_if_modifyHead, if_pos (beq_self_eq_true '-')]

/-- A dash begins a new segment. -/
theorem segments_cons_dash : segments ('-' :: cs) = [] :: segments cs := by
  have stays : mayStay '-' = true := by decide
  have solid : ¬Text.isBlank '-' = true := by decide
  rw [segments, List.filter_cons_of_pos stays, Text.collapse_cons_of_neg '-' _ solid,
    List.splitOn_cons_eq_if_modifyHead, if_pos (beq_self_eq_true '-'), segments]

/-- A letter or digit belongs to the first segment. -/
theorem segments_cons_of_isAlphanum (kept : c.isAlphanum = true) (solid : ¬Text.isBlank c = true)
    (inside : c ≠ '-') : segments (c :: cs) = (segments cs).modifyHead (List.cons c) := by
  have stays : mayStay c = true := by rw [mayStay, kept, Bool.true_or, Bool.true_or]
  rw [segments, List.filter_cons_of_pos stays, Text.collapse_cons_of_neg '-' _ solid,
    List.splitOn_cons_eq_if_modifyHead, if_neg (mt beq_iff_eq.1 inside), segments]

/-- A character that may not stay is dropped. -/
theorem segments_cons_of_dropped (dropped : ¬mayStay c = true) :
    segments (c :: cs) = segments cs := by
  rw [segments, List.filter_cons_of_neg dropped, segments]

/-- The words of the pass spell like the segments. Right after a blank that parted two words, a
further one parts no words, and the words that are still to come are those of the segments but for
empty ones. -/
theorem spellAlike_words :
    SpellAlike (words false cs) (segments cs) ∧
      nonempty (words true cs) = nonempty (segments cs) := by
  induction cs with
  | nil =>
    rw [segments_nil]
    exact ⟨⟨rfl, rfl⟩, rfl⟩
  | cons c cs ih =>
    obtain ⟨alike, after⟩ := ih
    by_cases blank : Text.isBlank c = true
    · obtain ⟨later, parted, rest⟩ := segments_cons_of_blank cs blank
      have same : nonempty (words true cs) = nonempty later := after.trans rest.symm
      rw [words, words, if_pos blank, if_pos blank, if_pos rfl, if_neg (by decide), parted]
      exact ⟨.nil_cons same, same⟩
    · rw [words, words, if_neg blank, if_neg blank]
      by_cases dash : c = '-'
      · rw [if_pos dash, dash, segments_cons_dash]
        exact ⟨.nil_cons alike.nonempty_eq, alike.nonempty_eq⟩
      · rw [if_neg dash]
        by_cases kept : c.isAlphanum = true
        · rw [if_pos kept, segments_cons_of_isAlphanum cs kept blank dash]
          exact ⟨alike.modifyHead c, (alike.modifyHead c).nonempty_eq⟩
        · have dropped : ¬mayStay c = true := by simp [mayStay, blank, dash, kept]
          rw [if_neg kept, segments_cons_of_dropped cs dropped]
          exact ⟨alike, alike.nonempty_eq⟩

/-! ### Camel case -/

/-- An empty segment adds nothing when it is capitalized. -/
theorem flatMap_capitalize_nonempty (ws : List (List Char)) :
    (nonempty ws).flatMap capitalize = ws.flatMap capitalize := by
  induction ws with
  | nil => rfl
  | cons w ws ih =>
    rw [nonempty_cons, List.flatMap_append, ih, List.flatMap_cons]
    cases w with
    | nil => rfl
    | cons c w =>
      rw [nonempty, List.filter_cons_of_pos rfl, List.filter_nil, List.flatMap_singleton]

/-- Empty later words spell nothing. -/
theorem SpellAlike.camelCase_eq {ws ws' : List (List Char)} (h : SpellAlike ws ws') :
    camelCase ws = camelCase ws' := by
  obtain ⟨first, later⟩ := h
  match ws, ws' with
  | [], [] => rfl
  | w :: ws, w' :: ws' =>
    obtain rfl := Option.some.inj first
    rw [camelCase, camelCase, ← flatMap_capitalize_nonempty ws,
      show nonempty ws = nonempty ws' from later, flatMap_capitalize_nonempty ws']

/-- Segments that are joined are in camel case. -/
theorem joinSegments_eq_camelCase (ws : List (List Char)) : joinSegments ws = camelCase ws := by
  have capitalized (w : List Char) : (w.take 1).map Char.toUpper ++ w.drop 1 = capitalize w := by
    cases w <;> rfl
  cases ws with
  | nil => rfl
  | cons w ws =>
    rw [joinSegments, camelCase, List.map_congr_left fun w _ ↦ capitalized w]
    rfl

/-- What the pass over a title spells is what four stages spell: whatever is no ASCII letter, ASCII
digit, blank or dash is dropped, each run of blanks becomes a dash, the text is split at the dashes,
and the segments are put together in camel case. -/
theorem spelled_eq_stages (title : String) :
    spelled title = String.ofList (joinSegments
      (List.splitOn '-' (Text.collapse Text.isBlank '-' (title.toList.filter mayStay)))) := by
  rw [spelled, (spellAlike_words title.toList).1.camelCase_eq, ← joinSegments_eq_camelCase,
    segments]

end Naming

end Toolsmith
