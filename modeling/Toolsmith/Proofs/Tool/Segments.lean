import Mathlib.Data.List.Forall2
import Toolsmith.Proofs.Url.Web
import Toolsmith.Tool.Call

/-!
# Segments of request URLs

A template of literals and slots, one a segment, is filled slot by slot: what fills a slot does
not depend on what stands around it. A literal of letters and digits is its own encoding, so
that every segment of the filled text is the encoding of a component, and the text is read as a
URL of the template's host.

Encoding keeps a value in its segment unless the value is one dot or two. Dots are not encoded,
and would be dots in any spelling: reading the URL takes them away, together with the segment
before them where there are two.

## Main definitions

* `Handler.Fills`: a text with slots and the text it is filled to.
* `Tool.Piece`: the segments of a template.

## Main statements

* `Handler.url_segments`: the URL of a request has the segments of the template, each with its
  value, if and only if no value is one dot or two.
-/

namespace Toolsmith

open Json (Value)
open Text (encodeComponent percentDecode utf8)

/-! ### Filling -/

/-- Every value but null has a text. -/
theorem Json.Value.exists_parameterText {v : Value} (h : v ≠ .null) :
    ∃ text, v.parameterText? = some text := by
  cases v with
  | null => exact absurd rfl h
  | bool | number | string | array | object => exact ⟨_, rfl⟩

namespace Handler

variable {value? : String → Option (List Char)} {cs ds cs' ds' : List Char}

/-- Whether a text with slots is filled to another, whatever follows it. -/
def Fills (value? : String → Option (List Char)) (cs ds : List Char) : Prop :=
  ∀ rest, fillFrom value? none (cs ++ rest) = (fillFrom value? none rest).map (ds ++ ·)

namespace Fills

/-- Texts are filled piece by piece. -/
theorem append (h : Fills value? cs ds) (h' : Fills value? cs' ds') :
    Fills value? (cs ++ cs') (ds ++ ds') := by
  intro rest
  rw [List.append_assoc, h, h']
  cases fillFrom value? none rest with
  | error e => rfl
  | ok filled => exact congrArg Except.ok (List.append_assoc ds ds' filled).symm

/-- The empty text stays empty. -/
theorem nil : Fills value? [] [] := by
  intro rest
  show fillFrom value? none rest = _
  cases fillFrom value? none rest with
  | error e => rfl
  | ok filled => rfl

/-- A character that opens no slot stays. -/
theorem singleton {c : Char} (h : c ≠ '{') : Fills value? [c] [c] := by
  intro rest
  show fillFrom value? none (c :: rest) = _
  rw [fillFrom, if_neg h]
  rfl

/-- A text without slots is filled to itself. -/
theorem literal (h : '{' ∉ cs) : Fills value? cs cs := by
  induction cs with
  | nil => exact nil
  | cons c cs ih =>
    rw [List.mem_cons, not_or] at h
    exact (singleton (Ne.symm h.1)).append (ih h.2)

/-- A slot that is closed is filled with its value, and the rest follows. -/
theorem fillFrom_some {acc value : List Char} (h : '}' ∉ cs)
    (hv : value? (String.ofList (acc.reverse ++ cs)) = some value) (rest : List Char) :
    fillFrom value? (some acc) (cs ++ '}' :: rest) =
      (fillFrom value? none rest).map (value ++ ·) := by
  induction cs generalizing acc with
  | nil =>
    rw [List.append_nil] at hv
    show fillFrom value? (some acc) ('}' :: rest) = _
    rw [fillFrom, if_pos rfl]
    simp only [hv]
  | cons c cs ih =>
    rw [List.mem_cons, not_or] at h
    have next : value? (String.ofList ((c :: acc).reverse ++ cs)) = some value := by
      rw [List.reverse_cons, List.append_assoc]
      exact hv
    rw [List.cons_append, fillFrom, if_neg (Ne.symm h.1), ih h.2 next]

/-- A slot is filled to the value of its name. -/
theorem slot {name : String} {value : List Char} (h : '}' ∉ name.toList)
    (hv : value? name = some value) : Fills value? ('{' :: (name.toList ++ ['}'])) value := by
  intro rest
  have named : value? (String.ofList ([].reverse ++ name.toList)) = some value := by
    rw [List.reverse_nil, List.nil_append, String.ofList_toList, hv]
  rw [List.cons_append, List.append_assoc, fillFrom, if_pos rfl]
  exact fillFrom_some h named rest

/-- Texts with a separator between them are filled one by one. -/
theorem joined {α : Type} {sep : Char} (hs : sep ≠ '{') {f g : α → List Char} {l : List α}
    (h : ∀ a ∈ l, Fills value? (f a) (g a)) :
    Fills value? ([sep].intercalate (l.map f)) ([sep].intercalate (l.map g)) := by
  match l with
  | [] => exact nil
  | [a] =>
    rw [List.map_singleton, List.map_singleton, List.intercalate_singleton,
      List.intercalate_singleton]
    exact h a List.mem_cons_self
  | a :: b :: l =>
    have rest : Fills value? ([sep].intercalate ((b :: l).map f))
        ([sep].intercalate ((b :: l).map g)) :=
      joined hs fun c hc ↦ h c (List.mem_cons_of_mem _ hc)
    rw [List.map_cons, List.map_cons, List.map_cons, List.map_cons, List.intercalate_cons_cons,
      List.intercalate_cons_cons, List.append_assoc, List.append_assoc]
    exact (h a List.mem_cons_self).append ((singleton hs).append rest)

/-- So are texts that stand side by side. -/
theorem flatMap {α : Type} {f g : α → List Char} {l : List α}
    (h : ∀ a ∈ l, Fills value? (f a) (g a)) : Fills value? (l.flatMap f) (l.flatMap g) := by
  induction l with
  | nil => exact nil
  | cons a l ih =>
    rw [List.flatMap_cons, List.flatMap_cons]
    exact (h a List.mem_cons_self).append (ih fun b hb ↦ h b (List.mem_cons_of_mem _ hb))

/-- What a text is filled to is what filling it gives. -/
theorem fillFrom_eq (h : Fills value? cs ds) : fillFrom value? none cs = .ok ds := by
  have whole := h []
  rw [List.append_nil] at whole
  rw [whole]
  exact congrArg Except.ok (List.append_nil ds)

end Fills

/-- A path parameter is filled with the encoded text of the input. -/
theorem slotText?_of_mem {h : Handler} {input : Value} {name text : String}
    (environment : Table String) (param : name ∈ h.pathParams)
    (given : (input.get? name).bind Value.parameterText? = some text) :
    h.slotText? environment input name = some (encodeComponent text.toList) := by
  have listed : h.pathParams.contains name = true := List.contains_iff_mem.2 param
  rw [slotText?, if_pos listed, given]
  rfl

/-- Any other slot is filled with the variable of its name. -/
theorem slotText?_of_notMem {h : Handler} {environment : Table String} {input : Value}
    {name : String} (other : name ∉ h.pathParams) :
    h.slotText? environment input name = (environment.get? name).map String.toList := by
  rw [slotText?, if_neg (mt List.contains_iff_mem.1 other)]
  rfl

end Handler

/-! ### Templates -/

/-- A segment of a template. -/
inductive Tool.Piece where
  /-- A text that stands for itself. -/
  | literal (text : List Char)
  /-- A slot for a path parameter. -/
  | slot (name : String)

namespace Tool.Piece

variable {value : String → String} {pathParams : List String} {p : Piece}

/-- The segment as it stands in the template. -/
def template : Piece → List Char
  | .literal text => text
  | .slot name => '{' :: (name.toList ++ ['}'])

/-- The text that the segment stands for. -/
def text (value : String → String) : Piece → List Char
  | .literal text => text
  | .slot name => (value name).toList

/-- The segment as it stands in the filled text. -/
def filled (value : String → String) (p : Piece) : List Char :=
  encodeComponent (p.text value)

/-- Whether the segment may stand in a template: a literal has letters and digits only, and a
slot is one of a path parameter. -/
def Fits (pathParams : List String) : Piece → Prop
  | .literal text => ∀ c ∈ text, c.isAlphanum = true
  | .slot name => name ∈ pathParams ∧ '}' ∉ name.toList

instance : DecidablePred (Fits pathParams) := fun p ↦
  match p with
  | .literal text => decidable_of_iff (text.all Char.isAlphanum = true) List.all_eq_true
  | .slot name => inferInstanceAs (Decidable (name ∈ pathParams ∧ '}' ∉ name.toList))

/-- Whether a segment of a URL shows the segment: a literal is unchanged, and a slot decodes to
its value. -/
def ShownBy (value : String → String) : Piece → List Char → Prop
  | .literal text, segment => segment = text
  | .slot name, segment => percentDecode segment = utf8 (value name).toList

/-- Letters and digits are not encoded. -/
theorem encodeComponent_literal {text : List Char} (h : ∀ c ∈ text, c.isAlphanum = true) :
    encodeComponent text = text := by
  refine Text.percentEncode_eq_self fun c hc ↦ ?_
  simp only [Text.isUnreserved, h c hc, Bool.true_or]

/-- A piece is shown by the segment that it is filled to. -/
theorem shownBy_filled (fits : p.Fits pathParams) : p.ShownBy value (p.filled value) := by
  cases p with
  | literal text => exact encodeComponent_literal fits
  | slot name => exact Text.percentDecode_encodeComponent _

/-- The segments of dots, as characters. -/
theorem toList_dots {s : String} :
    s.toList = ['.'] ∨ s.toList = ['.', '.'] ↔ s = "." ∨ s = ".." := by
  have one : s.toList = ".".toList ↔ s = "." := String.toList_inj
  have two : s.toList = "..".toList ↔ s = ".." := String.toList_inj
  exact or_congr one two

/-- The filled segment spells dots only where the value of a slot is dots. -/
theorem isDots_filled (fits : p.Fits pathParams) :
    Url.Path.IsDots (p.filled value) ↔
      ∃ name, p = .slot name ∧ (value name = "." ∨ value name = "..") := by
  rw [filled, Url.Path.isDots_encodeComponent]
  cases p with
  | literal text =>
    -- A dot is no letter and no digit.
    have noDot : '.' ∉ text := fun dot ↦ absurd (fits '.' dot) (by decide)
    constructor
    · intro dots
      have dot : '.' ∈ text := by
        rcases dots with (rfl : text = _) | (rfl : text = _) <;> exact List.mem_cons_self
      exact absurd dot noDot
    · rintro ⟨name, slot, -⟩
      cases slot
  | slot name =>
    show (value name).toList = ['.'] ∨ (value name).toList = ['.', '.'] ↔ _
    rw [toList_dots]
    constructor
    · intro dots
      exact ⟨name, rfl, dots⟩
    · rintro ⟨other, same, dots⟩
      cases same
      exact dots

/-- The filled segments show the segments of the template. -/
theorem forall₂_shownBy {pieces : List Piece} (fits : ∀ p ∈ pieces, p.Fits pathParams) :
    List.Forall₂ (ShownBy value) pieces (pieces.map (filled value)) := by
  rw [List.forall₂_map_right_iff, List.forall₂_same]
  exact fun p hp ↦ shownBy_filled (fits p hp)

/-- Each piece is shown by some segment of the path. -/
theorem exists_shownBy {pieces : List Piece} {path : List (List Char)}
    (h : List.Forall₂ (ShownBy value) pieces path) (hp : p ∈ pieces) :
    ∃ segment ∈ path, p.ShownBy value segment := by
  induction h with
  | nil => exact absurd hp List.not_mem_nil
  | @cons first segment _ _ shown _ ih =>
    rcases List.mem_cons.1 hp with rfl | hp
    · exact ⟨segment, List.mem_cons_self, shown⟩
    · obtain ⟨later, mem, shown⟩ := ih hp
      exact ⟨later, List.mem_cons_of_mem _ mem, shown⟩

end Tool.Piece

namespace Handler

open Tool (Piece)

variable {h : Handler} {input : Value} {pieces : List Piece} {value : String → String}

/-- A template of segments is filled segment by segment. -/
theorem fill_template (environment : Table String)
    (template : h.urlTemplate.toList =
      "http://host/".toList ++ ['/'].intercalate (pieces.map Piece.template))
    (fits : ∀ p ∈ pieces, p.Fits h.pathParams)
    (given : ∀ name, Piece.slot name ∈ pieces → input.get? name = some (.string (value name))) :
    h.fill environment input =
      .ok ("http://host/".toList ++ ['/'].intercalate (pieces.map (Piece.filled value))) := by
  rw [fill, template]
  refine Fills.fillFrom_eq ((Fills.literal (by decide)).append (Fills.joined (by decide) ?_))
  intro p hp
  cases p with
  | literal text =>
    have plain : ∀ c ∈ text, c.isAlphanum = true := fits _ hp
    have noSlot : '{' ∉ text := fun brace ↦ absurd (plain '{' brace) (by decide)
    show Fills _ text (encodeComponent text)
    rw [Piece.encodeComponent_literal plain]
    exact Fills.literal noSlot
  | slot name =>
    obtain ⟨param, closed⟩ := fits _ hp
    have text : (input.get? name).bind Value.parameterText? = some (value name) := by
      rw [given name hp]
      rfl
    exact Fills.slot closed (slotText?_of_mem environment param text)

/-- Values stay in their segments unless one of them is one dot or two. For a template of
literals and slots, the request goes to the template's host, and its path has one segment for
each of the template's, with the literals unchanged and the values encoded, exactly if no value
spells dots. -/
theorem url_segments (environment : Table String) (ne : pieces ≠ [])
    (template : h.urlTemplate.toList =
      "http://host/".toList ++ ['/'].intercalate (pieces.map Piece.template))
    (fits : ∀ p ∈ pieces, p.Fits h.pathParams)
    (given : ∀ name, Piece.slot name ∈ pieces → input.get? name = some (.string (value name))) :
    ∃ path, h.url environment input = .ok ((Url.atHost path).appendQuery (h.queryPairs input)) ∧
      (List.Forall₂ (Piece.ShownBy value) pieces path ↔
        ∀ name, Piece.slot name ∈ pieces → value name ≠ "." ∧ value name ≠ "..") := by
  have encoded : ∀ s ∈ pieces.map (Piece.filled value), ∃ text, encodeComponent text = s := by
    intro s hs
    obtain ⟨p, -, rfl⟩ := List.mem_map.1 hs
    exact ⟨p.text value, rfl⟩
  have read : Url.ofChars
        ("http://host/".toList ++ ['/'].intercalate (pieces.map (Piece.filled value))) =
      .ok (Url.atHost (Url.Path.extend [] (pieces.map (Piece.filled value)))) := by
    refine Url.ofChars_intercalate (by rwa [Ne, List.map_eq_nil_iff]) fun s hs c hc ↦ ?_
    obtain ⟨text, rfl⟩ := encoded s hs
    exact Text.isComponentChar_of_mem_encodeComponent hc
  refine ⟨_, by
    rw [url, fill_template environment template fits given]
    simp only [Except.mapError, bind, Except.bind, read]
    rfl, ?_⟩
  constructor
  · intro shown name hn
    rw [Ne, Ne, ← not_or]
    intro dots
    -- The value would be shown by a segment that decodes to dots, and there is none.
    obtain ⟨segment, mem, decoded⟩ := Piece.exists_shownBy shown hn
    exact Url.Path.percentDecode_ne_of_mem_extend mem encoded (Piece.toList_dots.2 dots) decoded
  · intro plain
    rw [Url.Path.extend_of_forall_not_isDots]
    · exact Piece.forall₂_shownBy fits
    · intro s hs
      obtain ⟨p, hp, rfl⟩ := List.mem_map.1 hs
      rw [Piece.isDots_filled (fits p hp)]
      rintro ⟨name, rfl, dots⟩
      exact not_or.2 (plain name hp) dots

/-- A handler for what the user of an id has posted. -/
def userPosts : Handler :=
  { method := "GET", urlTemplate := "http://host/users/\x7bid\x7d/posts", pathParams := ["id"] }

/-- The segments of its template. -/
def userPostsPieces : List Piece :=
  [.literal "users".toList, .slot "id", .literal "posts".toList]

/-- Slashes, marks and blanks of a value stay in its segment. -/
theorem url_segments_userPosts : ∃ path,
    userPosts.url [] (.object [("id", .string "../ a?#%")]) = .ok (Url.atHost path) ∧
      List.Forall₂ (Piece.ShownBy fun _ ↦ "../ a?#%") userPostsPieces path := by
  have fits : ∀ p ∈ userPostsPieces, p.Fits userPosts.pathParams := by decide
  have given : ∀ name, Piece.slot name ∈ userPostsPieces →
      (Value.object [("id", .string "../ a?#%")]).get? name = some (.string "../ a?#%") := by
    intro name hn
    obtain rfl : name = "id" := by simpa [userPostsPieces] using hn
    rfl
  obtain ⟨path, sent, shown⟩ := url_segments (h := userPosts) []
    (List.cons_ne_nil _ _) (by rfl) fits given
  exact ⟨path, sent, shown.2 fun _ _ ↦ by decide⟩

/-- Two dots take the segment before them away. -/
theorem url_segments_fails :
    userPosts.urlTemplate.toList =
        "http://host/".toList ++ ['/'].intercalate (userPostsPieces.map Piece.template) ∧
      (∀ p ∈ userPostsPieces, p.Fits userPosts.pathParams) ∧
      userPosts.url [] (.object [("id", .string "..")]) = .ok (Url.atHost ["posts".toList]) ∧
      ¬ List.Forall₂ (Piece.ShownBy fun _ ↦ "..") userPostsPieces ["posts".toList] := by
  refine ⟨by rfl, by decide, by rfl, fun shown ↦ ?_⟩
  exact absurd shown.length_eq (by decide)

end Handler

end Toolsmith
