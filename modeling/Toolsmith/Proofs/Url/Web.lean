import Mathlib.Data.List.TakeWhile
import Toolsmith.Proofs.Text.Split
import Toolsmith.Proofs.Url.Path
import Toolsmith.Url.Basic

/-!
# URLs of encoded segments

A text of encoded components with slashes between them, put after the scheme and the host, is
read as a URL of that host. The host, the query and the fragment do not depend on the
components, whatever they encode; the path does, through its dots.

## Main definitions

* `Url.atHost`: the URLs of the host that have a path only.

## Main statements

* `Url.ofChars_intercalate`: the URL of encoded segments.
-/

namespace Toolsmith.Url

open Text (isComponentChar)

variable {segments : List (List Char)} {text : List Char}

/-- A URL of the host `host` that has nothing but a path. -/
def atHost (path : List (List Char)) : Url :=
  { scheme := "http".toList, host := some (.domain "host".toList), path := .segments path }

/-! ### Characters of the path -/

/-- Whether a character may stand in encoded components with slashes between them. -/
def isSegmentsChar (c : Char) : Bool :=
  isComponentChar c || c = '/'

theorem isSegmentsChar_of_mem_intercalate {c : Char}
    (h : ∀ s ∈ segments, ∀ c ∈ s, isComponentChar c = true) (hc : c ∈ ['/'].intercalate segments) :
    isSegmentsChar c = true := by
  rw [isSegmentsChar, Bool.or_eq_true, decide_eq_true_eq]
  rcases Text.mem_intercalate hc with ⟨s, hs, hc⟩ | slash
  · exact Or.inl (h s hs c hc)
  · exact Or.inr (List.mem_singleton.1 slash)

theorem toNat_of_isSegmentsChar {c : Char} (h : isSegmentsChar c = true) :
    0x20 < c.toNat ∧ c.toNat < 0x7F := by
  rw [isSegmentsChar, Bool.or_eq_true, decide_eq_true_eq] at h
  rcases h with h | rfl
  · exact Text.toNat_of_isComponentChar h
  · decide

theorem not_endsPath_of_isSegmentsChar {c : Char} (h : isSegmentsChar c = true) :
    endsPath c = false := by
  have query : c ≠ '?' := ne_of_apply_ne isSegmentsChar (by rw [h]; decide)
  have fragment : c ≠ '#' := ne_of_apply_ne isSegmentsChar (by rw [h]; decide)
  simp only [endsPath, query, fragment, decide_false, Bool.or_false]

/-- Characters of encoded components stand for themselves in a path. -/
theorem isPlain_of_isComponentChar {c : Char} (h : isComponentChar c = true) :
    Path.isPlain c = true := by
  obtain ⟨visible, ascii⟩ := Text.toNat_of_isComponentChar h
  have noControl : Host.isNoControl c = true := by
    rw [Host.isNoControl, Bool.and_eq_true, decide_eq_true_eq, decide_eq_true_eq]
    omega
  have notIn {l : List Char} (hl : l.any isComponentChar = false) : l.contains c = false := by
    rw [← Bool.not_eq_true, List.contains_iff_mem]
    intro hc
    exact List.any_eq_false.1 hl c hc h
  rw [Path.isPlain, Path.isFragmentPlain, noControl, notIn (by decide), notIn (by decide)]
  rfl

/-! ### Reading -/

theorem dropWhile_isMargin {cs : List Char} (h : ∀ c ∈ cs, 0x20 < c.toNat) :
    cs.dropWhile isMargin = cs := by
  refine List.dropWhile_eq_self_iff.2 fun hl ↦ ?_
  have first : 0x20 < cs[0].toNat := h _ (List.getElem_mem hl)
  rw [isMargin, decide_eq_true_eq]
  omega

/-- A text without blanks and controls counts as a whole. -/
theorem cleaned_eq_self (h : ∀ c ∈ text, 0x20 < c.toNat) : cleaned text = text := by
  have back : ∀ c ∈ text.reverse, 0x20 < c.toNat := fun c hc ↦ h c (List.mem_reverse.1 hc)
  have kept : text.filter (!isDropped ·) = text := by
    refine List.filter_eq_self.2 fun c hc ↦ ?_
    have visible := h c hc
    have tab : c ≠ '\t' := by rintro rfl; exact absurd visible (by decide)
    have newline : c ≠ '\n' := by rintro rfl; exact absurd visible (by decide)
    have carriage : c ≠ '\r' := by rintro rfl; exact absurd visible (by decide)
    simp only [isDropped, tab, newline, carriage, decide_false, Bool.or_false, Bool.not_false]
  rw [cleaned, dropWhile_isMargin h]
  show (text.reverse.dropWhile isMargin).reverse.filter (!isDropped ·) = text
  rw [dropWhile_isMargin back, List.reverse_reverse, kept]

theorem takeAuthority_host (text : List Char) :
    takeAuthority .web "http".toList ("host/".toList ++ text) =
      .ok (⟨[], [], .domain "host".toList, none⟩, '/' :: text) :=
  rfl

/-- The path of encoded segments is put together from them as they are. -/
theorem pathAfterHost_intercalate (ne : segments ≠ [])
    (h : ∀ s ∈ segments, ∀ c ∈ s, isComponentChar c = true) :
    pathAfterHost .web ('/' :: ['/'].intercalate segments) = Path.extend [] segments := by
  have forward : ∀ c ∈ ['/'].intercalate segments, (if isSlash .web c then '/' else c) = c := by
    intro c hc
    have backslash : c ≠ '\\' :=
      ne_of_apply_ne isSegmentsChar (by rw [isSegmentsChar_of_mem_intercalate h hc]; decide)
    split
    next slash =>
      simp only [isSlash, backslash, decide_false, Bool.and_false, Bool.or_false,
        decide_eq_true_eq] at slash
      exact slash.symm
    next => rfl
  have noSlash : ∀ s ∈ segments, '/' ∉ s := by
    intro s hs hc
    exact absurd (h s hs '/' hc) (by decide)
  have pieces : segmentsOf .web (['/'].intercalate segments) = segments := by
    rw [segmentsOf, List.map_congr_left forward, List.map_id',
      List.splitOn_intercalate '/' noSlash ne]
  have encoded : segments.map (Text.percentEncode Path.isPlain) = segments := by
    rw [List.map_congr_left fun s hs ↦ Text.percentEncode_eq_self fun c hc ↦
      isPlain_of_isComponentChar (h s hs c hc), List.map_id']
  show Path.ofSegments (segmentsOf .web (['/'].intercalate segments)) = _
  rw [pieces, Path.ofSegments, encoded]

/-- Encoded segments after the host spell a URL of the host. -/
theorem ofChars_intercalate (ne : segments ≠ [])
    (h : ∀ s ∈ segments, ∀ c ∈ s, isComponentChar c = true) :
    ofChars ("http://host/".toList ++ ['/'].intercalate segments) =
      .ok (atHost (Path.extend [] segments)) := by
  have inside : ∀ c ∈ ['/'].intercalate segments, isSegmentsChar c = true :=
    fun c hc ↦ isSegmentsChar_of_mem_intercalate h hc
  have whole : cleaned ("http://host/".toList ++ ['/'].intercalate segments) =
      "http://host/".toList ++ ['/'].intercalate segments := by
    refine cleaned_eq_self fun c hc ↦ ?_
    rcases List.mem_append.1 hc with hc | hc
    · have host : "http://host/".toList.all (0x20 < ·.toNat) = true := by decide
      exact of_decide_eq_true (List.all_eq_true.1 host c hc)
    · exact (toNat_of_isSegmentsChar (inside c hc)).1
  have scheme : scheme? ("http://host/".toList ++ ['/'].intercalate segments) =
      some ("http".toList, "//host/".toList ++ ['/'].intercalate segments) := rfl
  have slashes : ("//host/".toList ++ ['/'].intercalate segments).dropWhile (isSlash .web) =
      "host/".toList ++ ['/'].intercalate segments := rfl
  have noEnd : ∀ c ∈ '/' :: ['/'].intercalate segments, (!endsPath c) = true := by
    intro c hc
    rw [Bool.not_eq_true']
    rcases List.mem_cons.1 hc with rfl | hc
    · decide
    · exact not_endsPath_of_isSegmentsChar (inside c hc)
  have before : ('/' :: ['/'].intercalate segments).takeWhile (!endsPath ·) =
      '/' :: ['/'].intercalate segments := List.takeWhile_eq_self_iff.2 noEnd
  have after : ('/' :: ['/'].intercalate segments).dropWhile (!endsPath ·) = [] :=
    List.dropWhile_eq_nil_iff.2 noEnd
  have kind : schemeKind "http".toList = .web := rfl
  rw [ofChars, whole, scheme]
  simp only [kind, slashes, takeAuthority_host, bind, Except.bind, before, after,
    pathAfterHost_intercalate ne h]
  rfl

end Toolsmith.Url
