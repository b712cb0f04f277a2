import Toolsmith.Proofs.Text.Split
import Toolsmith.Proofs.Tool.Slots

/-!
# Templates of declared URLs

A declared URL is a text of segments. A segment is a path variable behind a colon, or a mix of
texts and placeholders in double braces. The compiler halves the braces, first the opening ones and
then the closing ones, and turns the path variables into slots. Neither pass looks further than one
placeholder, so that what becomes of a piece does not depend on what stands around it, and each
piece ends up as the slot that filling finds.

## Main definitions

* `Compile.Segment`: the segments of a declared URL.

## Main statements

* `Compile.templateChars_intercalate`: the template of a declared URL, segment by segment.
* `Compile.handler_substitutes`: the slots of the template, and the text with its slots filled.
-/

namespace Toolsmith

open Json (Value)
open Text (Passes encodeComponent)
open Tool (Piece)
open Collection (Payload Request)

/-! ### Pieces -/

namespace Handler

variable {cs : List Char}

/-- A text without slots adds none to those that follow it. -/
theorem passes_slotsOf_literal (h : '{' ∉ cs) : Passes slotsOf cs [] := by
  intro rest
  have front {before : List Char} (h' : '{' ∉ before) : '{' ∉ cs ++ before := by
    rw [List.mem_append, not_or]
    exact ⟨h, h'⟩
  rw [List.nil_append]
  induction rest using slots_induction with
  | plain rest h' => rw [slotsOf_of_notMem (front h'), slotsOf_of_notMem h']
  | unclosed before opened h' closed =>
    rw [← List.append_assoc, slotsOf_unclosed (front h') closed, slotsOf_unclosed h' closed]
  | slot before name rest h' closed ih =>
    rw [← List.append_assoc, slotsOf_slot (front h') closed, slotsOf_slot h' closed]

/-- A slot is passed as one. -/
theorem passes_slotsOf_slot {name : String} (h : '}' ∉ name.toList) :
    Passes slotsOf ('{' :: (name.toList ++ ['}'])) [name] := by
  intro rest
  have first : '{' ∉ ([] : List Char) := List.not_mem_nil
  have slot := slotsOf_slot first h rest
  rw [String.ofList_toList] at slot
  rw [List.cons_append, List.append_assoc]
  exact slot

end Handler

namespace Compile

/-! ### Halving braces -/

variable {c : Char} {cs : List Char}

/-- A text without the character is passed as it is. -/
theorem passes_halvePairs (h : c ∉ cs) : Passes (halvePairs c) cs cs := by
  induction cs with
  | nil => exact Passes.nil
  | cons x cs ih =>
    rw [List.mem_cons, not_or] at h
    have single : Passes (halvePairs c) [x] [x] := by
      intro rest
      cases rest with
      | nil => rfl
      | cons y rest =>
        show halvePairs c (x :: y :: rest) = _
        rw [halvePairs, if_neg fun same ↦ h.1 same.1.symm]
        rfl
    exact single.append (ih h.2)

/-- A pair of the character is passed as one. -/
theorem passes_halvePairs_pair : Passes (halvePairs c) [c, c] [c] := by
  intro rest
  show halvePairs c (c :: c :: rest) = _
  rw [halvePairs, if_pos ⟨rfl, rfl⟩]
  rfl

/-- The text with every pair of braces replaced by one brace. -/
def halveBraces (cs : List Char) : List Char :=
  halvePairs '}' (halvePairs '{' cs)

theorem passes_halveBraces (h : '{' ∉ cs) (h' : '}' ∉ cs) : Passes halveBraces cs cs :=
  (passes_halvePairs h).comp (passes_halvePairs h')

end Compile

/-! ### Pieces of a segment -/

namespace Tool.Piece

variable {p : Piece} {value : String → List Char}

/-- The text of a literal, or the name of a slot. -/
def chars : Piece → List Char
  | .literal text => text
  | .slot name => name.toList

/-- Whether there are no braces and slashes in the piece. -/
def Plain (p : Piece) : Prop :=
  '{' ∉ p.chars ∧ '}' ∉ p.chars ∧ '/' ∉ p.chars

instance : Decidable p.Plain := inferInstanceAs (Decidable (_ ∧ _ ∧ _))

/-- The piece as it is declared: a slot stands in double braces. -/
def declared : Piece → List Char
  | .literal text => text
  | .slot name => ['{', '{'] ++ name.toList ++ ['}', '}']

/-- The name of a slot. -/
def names : Piece → List String
  | .literal _ => []
  | .slot name => [name]

/-- The piece with values in the place of slots. -/
def substituted (value : String → List Char) : Piece → List Char
  | .literal text => text
  | .slot name => value name

/-- Halving the braces of a declared piece makes its template. -/
theorem passes_halveBraces (plain : p.Plain) :
    Passes Compile.halveBraces p.declared p.template := by
  obtain ⟨opens, closes, -⟩ := plain
  cases p with
  | literal text => exact Compile.passes_halveBraces opens closes
  | slot name =>
    have tail : '{' ∉ name.toList ++ ['}', '}'] := by
      rw [List.mem_append, not_or]
      exact ⟨opens, by decide⟩
    have head : '}' ∉ '{' :: name.toList := by
      rw [List.mem_cons, not_or]
      exact ⟨by decide, closes⟩
    -- Each pass halves the braces at one end and leaves the rest.
    have first : Passes (Compile.halvePairs '{') (declared (.slot name))
        ('{' :: name.toList ++ ['}', '}']) := by
      have := Compile.passes_halvePairs_pair.append (Compile.passes_halvePairs tail)
      rwa [← List.append_assoc] at this
    have second : Passes (Compile.halvePairs '}') ('{' :: name.toList ++ ['}', '}'])
        (template (.slot name)) :=
      (Compile.passes_halvePairs head).append Compile.passes_halvePairs_pair
    exact first.comp second

/-- The slots of a piece are its names. -/
theorem passes_slotsOf (plain : p.Plain) : Passes Handler.slotsOf p.template p.names := by
  cases p with
  | literal text => exact Handler.passes_slotsOf_literal plain.1
  | slot name => exact Handler.passes_slotsOf_slot plain.2.1

/-- A piece is filled with the values of its names. -/
theorem fills {value? : String → Option (List Char)} (plain : p.Plain)
    (given : ∀ name ∈ p.names, value? name = some (value name)) :
    Handler.Fills value? p.template (p.substituted value) := by
  cases p with
  | literal text => exact Handler.Fills.literal plain.1
  | slot name => exact Handler.Fills.slot plain.2.1 (given name (List.mem_singleton_self name))

/-- A piece without a brace in the template is a text, and declared as it is. -/
theorem declared_eq_template (h : '{' ∉ p.template) : p.declared = p.template := by
  cases p with
  | literal text => rfl
  | slot name => exact absurd List.mem_cons_self h

theorem slash_notMem_template (plain : p.Plain) : '/' ∉ p.template := by
  obtain ⟨-, -, slash⟩ := plain
  cases p with
  | literal text => exact slash
  | slot name =>
    rw [template, List.mem_cons, List.mem_append, List.mem_singleton]
    rintro (brace | inside | brace)
    · exact absurd brace (by decide)
    · exact slash inside
    · exact absurd brace (by decide)

end Tool.Piece

/-! ### Segments of a declared URL -/

namespace Compile

/-- A segment of a declared URL. -/
inductive Segment where
  /-- A path variable behind a colon. -/
  | key (name : String)
  /-- Texts and placeholders. -/
  | mix (pieces : List Piece)

namespace Segment

variable {keys : List String} {s : Segment} {value : String → List Char}

/-- The pieces that the segment is compiled to. -/
def pieces : Segment → List Piece
  | .key name => [.slot name]
  | .mix pieces => pieces

/-- The segment as it is declared. -/
def declared : Segment → List Char
  | .key name => ':' :: name.toList
  | .mix pieces => pieces.flatMap Piece.declared

/-- The segment in the template. -/
def template (s : Segment) : List Char :=
  s.pieces.flatMap Piece.template

/-- The names of its slots, in order. -/
def slots (s : Segment) : List String :=
  s.pieces.flatMap Piece.names

/-- The segment with values in the place of its slots. -/
def substituted (value : String → List Char) (s : Segment) : List Char :=
  s.pieces.flatMap (Piece.substituted value)

/-- The segment once its braces have been halved. -/
def halved : Segment → List Char
  | .key name => ':' :: name.toList
  | .mix pieces => pieces.flatMap Piece.template

/-- Whether the segment may stand in a URL that declares path variables: it has no slash, and no
braces but those of placeholders; and a mix does not look like a declared path variable. -/
def Fits (keys : List String) : Segment → Prop
  | .key name => name ∈ keys ∧ '/' ∉ name.toList
  | .mix pieces =>
    (∀ p ∈ pieces, p.Plain) ∧ ∀ k ∈ keys, pieces.flatMap Piece.declared ≠ ':' :: k.toList

instance : Decidable (s.Fits keys) :=
  match s with
  | .key name => inferInstanceAs (Decidable (name ∈ keys ∧ '/' ∉ name.toList))
  | .mix pieces =>
    inferInstanceAs (Decidable ((∀ p ∈ pieces, p.Plain) ∧
      ∀ k ∈ keys, pieces.flatMap Piece.declared ≠ ':' :: k.toList))

/-- The pieces of a segment have no slashes and no braces. -/
theorem plain_of_mem_pieces (braces : ∀ k ∈ keys, '{' ∉ k.toList ∧ '}' ∉ k.toList)
    (fits : s.Fits keys) : ∀ p ∈ s.pieces, p.Plain := by
  cases s with
  | key name =>
    obtain ⟨declared, slash⟩ := fits
    obtain ⟨opens, closes⟩ := braces name declared
    exact List.forall_mem_singleton.2 ⟨opens, closes, slash⟩
  | mix pieces => exact fits.1

theorem passes_halveBraces (braces : ∀ k ∈ keys, '{' ∉ k.toList ∧ '}' ∉ k.toList)
    (fits : s.Fits keys) : Passes halveBraces s.declared s.halved := by
  cases s with
  | key name =>
    obtain ⟨opens, closes⟩ := braces name fits.1
    refine Compile.passes_halveBraces ?_ ?_ <;> rw [declared, List.mem_cons, not_or]
    · exact ⟨by decide, opens⟩
    · exact ⟨by decide, closes⟩
  | mix pieces => exact Passes.flatMap fun p hp ↦ Piece.passes_halveBraces (fits.1 p hp)

theorem slash_notMem_halved (fits : s.Fits keys) : '/' ∉ s.halved := by
  cases s with
  | key name =>
    rw [halved, List.mem_cons, not_or]
    exact ⟨by decide, fits.2⟩
  | mix pieces =>
    rw [halved, List.mem_flatMap]
    rintro ⟨p, hp, slash⟩
    exact Piece.slash_notMem_template (fits.1 p hp) slash

/-- A segment that no path variable looks like stays as it is. -/
theorem slotSegment_eq_self {segment : List Char} (h : ∀ k ∈ keys, segment ≠ ':' :: k.toList) :
    slotSegment keys segment = segment := by
  unfold slotSegment
  split
  next key =>
    refine if_neg fun listed ↦ h _ (List.contains_iff_mem.1 listed) ?_
    rw [String.toList_ofList]
  next => rfl

/-- A path variable becomes a slot, and every other segment stays. -/
theorem slotSegment_halved (braces : ∀ k ∈ keys, '{' ∉ k.toList ∧ '}' ∉ k.toList)
    (fits : s.Fits keys) : slotSegment keys s.halved = s.template := by
  cases s with
  | key name =>
    have listed : keys.contains (String.ofList name.toList) = true := by
      rw [String.ofList_toList]
      exact List.contains_iff_mem.2 fits.1
    rw [halved, slotSegment, if_pos listed]
    exact (List.append_nil _).symm
  | mix pieces =>
    refine slotSegment_eq_self fun k hk same ↦ fits.2 k hk ?_
    -- A mix that looks like a path variable once it is halved has no placeholders.
    have open_notMem : '{' ∉ pieces.flatMap Piece.template := by
      rw [show pieces.flatMap Piece.template = _ from same, List.mem_cons, not_or]
      exact ⟨by decide, (braces k hk).1⟩
    have texts : pieces.flatMap Piece.declared = pieces.flatMap Piece.template := by
      refine List.flatMap_congr fun p hp ↦ Piece.declared_eq_template fun brace ↦ ?_
      exact open_notMem (List.mem_flatMap.2 ⟨p, hp, brace⟩)
    exact texts.trans same

/-- The template of a segment lists its slots. -/
theorem passes_slotsOf (plain : ∀ p ∈ s.pieces, p.Plain) :
    Passes Handler.slotsOf s.template s.slots :=
  Passes.flatMap fun p hp ↦ Piece.passes_slotsOf (plain p hp)

/-- The template of a segment is filled slot by slot. -/
theorem fills {value? : String → Option (List Char)} (plain : ∀ p ∈ s.pieces, p.Plain)
    (given : ∀ name ∈ s.slots, value? name = some (value name)) :
    Handler.Fills value? s.template (s.substituted value) :=
  Handler.Fills.flatMap fun p hp ↦
    Piece.fills (plain p hp) fun name hn ↦ given name (List.mem_flatMap.2 ⟨p, hp, hn⟩)

end Segment

/-! ### Declared URLs -/

variable {keys : List String} {segments : List Segment}

/-- Path variables are looked for in every segment, even if none is declared. -/
theorem templateChars_eq (keys : List String) (raw : List Char) :
    templateChars keys raw = ['/'].intercalate ((List.splitOn '/' (halveBraces
      (raw.takeWhile fun c ↦ c ≠ '?' ∧ c ≠ '#'))).map (slotSegment keys)) := by
  cases keys with
  | cons key keys => rfl
  | nil =>
    have same : slotSegment [] = id := funext fun segment ↦
      Segment.slotSegment_eq_self fun k hk ↦ absurd hk List.not_mem_nil
    rw [same, List.map_id, List.intercalate_splitOn]
    rfl

/-- The template of a declared URL, segment by segment. -/
theorem templateChars_intercalate {raw : List Char}
    (declared : raw.takeWhile (fun c ↦ c ≠ '?' ∧ c ≠ '#') =
      ['/'].intercalate (segments.map Segment.declared))
    (braces : ∀ k ∈ keys, '{' ∉ k.toList ∧ '}' ∉ k.toList)
    (fits : ∀ s ∈ segments, s.Fits keys) :
    templateChars keys raw = ['/'].intercalate (segments.map Segment.template) := by
  have slash : Passes halveBraces ['/'] ['/'] := passes_halveBraces (by decide) (by decide)
  have halved : halveBraces (['/'].intercalate (segments.map Segment.declared)) =
      ['/'].intercalate (segments.map Segment.halved) := by
    refine (Passes.joined slash fun s hs ↦ ?_).eq rfl
    exact Segment.passes_halveBraces braces (fits s hs)
  rw [templateChars_eq, declared, halved]
  cases segments with
  | nil => rfl
  | cons s segments =>
    have ne : (s :: segments).map Segment.halved ≠ [] := List.cons_ne_nil _ _
    rw [List.splitOn_intercalate '/' ?_ ne, List.map_map]
    · refine congrArg (['/'].intercalate) (List.map_congr_left fun t ht ↦ ?_)
      exact Segment.slotSegment_halved braces (fits t ht)
    · intro cs hcs
      obtain ⟨t, ht, rfl⟩ := List.mem_map.1 hcs
      exact Segment.slash_notMem_halved (fits t ht)

/-- What is put in the place of a slot: the encoded text of a path parameter, or a variable as it
is. -/
def slotValue (keys : List String) (environment : Table String) (input : Value) (name : String) :
    List Char :=
  if name ∈ keys then
    encodeComponent (((input.get? name).bind Value.parameterText?).getD "").toList
  else ((environment.get? name).getD "").toList

/-- A slot of a handler has a value where its path parameter is given, or its variable set. -/
theorem slotText?_eq_slotValue {h : Handler} {environment : Table String} {input : Value}
    {name : String}
    (given : name ∈ h.pathParams → ∃ v, input.get? name = some v ∧ v ≠ .null)
    (set : name ∉ h.pathParams → environment.get? name ≠ none) :
    h.slotText? environment input name = some (slotValue h.pathParams environment input name) := by
  by_cases param : name ∈ h.pathParams
  · obtain ⟨v, hv, ne⟩ := given param
    obtain ⟨text, ht⟩ := Value.exists_parameterText ne
    have bound : (input.get? name).bind Value.parameterText? = some text := by
      rw [hv]
      exact ht
    rw [Handler.slotText?_of_mem environment param bound, slotValue, if_pos param, bound]
    rfl
  · obtain ⟨text, ht⟩ := Option.ne_none_iff_exists'.1 (set param)
    rw [Handler.slotText?_of_notMem param, slotValue, if_neg param, ht]
    rfl

/-- What is compiled is filled in as declared. The slots of the template are the path variables
and placeholders of the declared URL, in order; and where each path variable has a value in the
input that is not null and all other placeholders are set, the text that is read as a URL is the
declared one up to its query or fragment, with the encoded value in the place of each path
variable, be it declared with a colon or as a placeholder, and with the variables as they are in
the place of the other placeholders. -/
theorem handler_substitutes (r : Request) (p : Payload) {segments : List Segment}
    (declared : p.address.raw.toList.takeWhile (fun c ↦ c ≠ '?' ∧ c ≠ '#') =
      ['/'].intercalate (segments.map Segment.declared))
    (braces : ∀ k ∈ p.address.pathKeys, '{' ∉ k.toList ∧ '}' ∉ k.toList)
    (fits : ∀ s ∈ segments, s.Fits p.address.pathKeys) :
    let h := handler r p
    h.slots = segments.flatMap Segment.slots ∧
      ∀ (environment : Table String) (input : Value),
        (∀ k ∈ p.address.pathKeys, ∃ v, input.get? k = some v ∧ v ≠ .null) →
        (∀ name ∈ segments.flatMap Segment.slots,
          name ∉ p.address.pathKeys → environment.get? name ≠ none) →
        let filled := ['/'].intercalate (segments.map
          (Segment.substituted (slotValue p.address.pathKeys environment input)))
        h.fill environment input = .ok filled ∧
          h.url environment input =
            ((Url.ofChars filled).mapError (.invalidUrl (String.ofList filled))).map
              (·.appendQuery (h.queryPairs input)) := by
  intro h
  have template : h.urlTemplate.toList = ['/'].intercalate (segments.map Segment.template) := by
    show (String.ofList _).toList = _
    rw [String.toList_ofList, templateChars_intercalate declared braces fits]
  have plain (s : Segment) (hs : s ∈ segments) := Segment.plain_of_mem_pieces braces (fits s hs)
  constructor
  · have slash : Passes Handler.slotsOf ['/'] [] := Handler.passes_slotsOf_literal (by decide)
    have listed := Passes.joined slash fun s hs ↦ Segment.passes_slotsOf (plain s hs)
    rw [Handler.slots, template, listed.eq (Handler.slotsOf_of_notMem List.not_mem_nil),
      Text.intercalate_nil_eq_flatten, List.flatMap_def]
  · intro environment input given set filled
    have fill : h.fill environment input = .ok filled := by
      rw [Handler.fill, template]
      refine Handler.Fills.fillFrom_eq (Handler.Fills.joined (by decide) fun s hs ↦ ?_)
      refine Segment.fills (plain s hs) fun name hn ↦ ?_
      exact slotText?_eq_slotValue (given name) (set name (List.mem_flatMap.2 ⟨s, hs, hn⟩))
    exact ⟨fill, Handler.url_of_fill fill⟩

/-- A request for a URL with placeholders side by side, a port, a path variable that is declared
and one that is not. -/
def mixedPayload : Payload :=
  { address :=
      { raw := "\x7b\x7bbase\x7d\x7d\x7b\x7bkind\x7d\x7d:80/:id/:other/\x7b\x7bid\x7d\x7d.txt?page"
        pathVariables := [{ key := "id" }] } }

/-- The segments of its URL. -/
def mixedSegments : List Segment :=
  [.mix [.slot "base", .slot "kind", .literal ":80".toList], .key "id",
    .mix [.literal ":other".toList], .mix [.slot "id", .literal ".txt".toList]]

/-- A value with braces is not looked at again, and an encoded one stays in its segment. -/
theorem handler_substitutes_mixed :
    let h := handler {} mixedPayload
    h.slots = ["base", "kind", "id", "id"] ∧
      h.fill [("base", "http://pets"), ("kind", "\x7bid\x7d")] (.object [("id", .string "a/b")]) =
        .ok "http://pets\x7bid\x7d:80/a%2Fb/:other/a%2Fb.txt".toList := by
  have declared : mixedPayload.address.raw.toList.takeWhile (fun c ↦ c ≠ '?' ∧ c ≠ '#') =
      ['/'].intercalate (mixedSegments.map Segment.declared) := by decide +kernel
  have keys : mixedPayload.address.pathKeys = ["id"] := rfl
  have braces : ∀ k ∈ mixedPayload.address.pathKeys, '{' ∉ k.toList ∧ '}' ∉ k.toList := by
    decide
  have fits : ∀ s ∈ mixedSegments, s.Fits mixedPayload.address.pathKeys := by decide +kernel
  obtain ⟨slots, filled⟩ := handler_substitutes {} mixedPayload declared braces fits
  refine ⟨slots, ?_⟩
  refine (filled _ _ ?_ ?_).1.trans (by decide +kernel)
  · rw [keys]
    exact List.forall_mem_singleton.2 ⟨_, rfl, nofun⟩
  · rw [keys]
    decide +kernel

end Compile

end Toolsmith
