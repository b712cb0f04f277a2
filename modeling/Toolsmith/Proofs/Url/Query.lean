import Mathlib.Data.List.TakeWhile
import Toolsmith.Proofs.Outcome
import Toolsmith.Proofs.Text.Form
import Toolsmith.Proofs.Text.Split
import Toolsmith.Url.Basic

/-!
# Queries

The query of a URL is a form. A reader splits it at the ampersands, passes over empty pieces, and
splits each piece at the first equals sign. The pairs that are added to an empty query are those
that are read from it, whatever characters they hold.

What is read as the query or fragment of a URL follows a question mark or a number sign in its text.
No part of the reader makes such a character where there is none, so that a text without them is
read as a URL without a query and without a fragment.

## Main definitions

* `Url.pair?`, `Url.pairs?`: the name and value in a piece, and those in a query.
* `Url.parameters?`: the names and values in the query of a URL.

## Main statements

* `Url.pairs?_foldl_addPair`: a query is read as the pairs that were added to it.
* `Url.query_eq_none_of_ofChars`: a text without question marks and number signs.
* `Url.parameters?_appendQuery`: a URL without a query, with pairs appended.
-/

namespace Toolsmith.Url

open Text (encodeForm formText?)

/-! ### Pairs -/

/-- The name and value in a piece of a query. -/
def pair? (cs : List Char) : Option (String × String) := do
  let name ← formText? (cs.takeWhile (· ≠ '='))
  let value ← formText? ((cs.dropWhile (· ≠ '=')).drop 1)
  return (name, value)

/-- The names and values in a query. -/
def pairs? (cs : List Char) : Option (List (String × String)) :=
  ((List.splitOn '&' cs).filter (· ≠ [])).mapM pair?

/-- The names and values in the query of a URL. -/
def parameters? (u : Url) : Option (List (String × String)) :=
  pairs? (u.query.getD [])

/-- A name and its value are read as such, whatever they are. -/
theorem pair?_encodePair (p : String × String) : pair? (encodePair p) = some p := by
  have inside : ∀ c ∈ encodeForm p.1.toList, decide (c ≠ '=') = true := by
    intro c hc
    rw [decide_eq_true_eq]
    rintro rfl
    exact Text.notMem_encodeForm (by decide) _ hc
  rw [pair?, encodePair, List.takeWhile_append_of_pos inside, List.dropWhile_append_of_pos inside]
  simp [Text.formText?_encodeForm]

/-- An encoded pair has no separator of pairs inside. -/
theorem ampersand_notMem_encodePair (p : String × String) : '&' ∉ encodePair p := by
  rw [encodePair, List.mem_append, List.mem_cons, not_or, not_or]
  exact ⟨Text.notMem_encodeForm (by decide) _, by decide, Text.notMem_encodeForm (by decide) _⟩

theorem encodePair_ne_nil (p : String × String) : encodePair p ≠ [] :=
  List.append_ne_nil_of_right_ne_nil _ (List.cons_ne_nil _ _)

/-- Pairs with ampersands between them are read as they are, in their order. -/
theorem pairs?_intercalate (ps : List (String × String)) :
    pairs? (['&'].intercalate (ps.map encodePair)) = some ps := by
  by_cases empty : ps = []
  · subst empty
    rfl
  have ampersand : ∀ piece ∈ ps.map encodePair, '&' ∉ piece :=
    List.forall_mem_map.2 fun p _ ↦ ampersand_notMem_encodePair p
  have kept : (ps.map encodePair).filter (· ≠ []) = ps.map encodePair :=
    List.filter_eq_self.2 (List.forall_mem_map.2 fun p _ ↦ decide_eq_true (encodePair_ne_nil p))
  have read : pair? ∘ encodePair = some := funext pair?_encodePair
  rw [pairs?, List.splitOn_intercalate '&' ampersand (mt List.map_eq_nil_iff.1 empty), kept,
    List.mapM_map, read]
  exact List.mapM_pure.trans (congrArg some (List.map_id ps))

/-- Pairs that are added to a query are separated from those before them. -/
theorem foldl_addPair (ps : List (String × String)) (p : String × String) (query : List Char) :
    ps.foldl addPair (query ++ encodePair p) =
      query ++ ['&'].intercalate ((p :: ps).map encodePair) := by
  induction ps generalizing p query with
  | nil => rw [List.foldl_nil, List.map_singleton, List.intercalate_singleton]
  | cons q ps ih =>
    have ne : query ++ encodePair p ≠ [] :=
      List.append_ne_nil_of_right_ne_nil _ (encodePair_ne_nil p)
    have next : addPair (query ++ encodePair p) q =
        query ++ encodePair p ++ ['&'] ++ encodePair q := by
      rw [addPair, if_neg (mt List.isEmpty_iff.1 ne), List.append_assoc _ ['&']]
      rfl
    have parted : ['&'].intercalate ((p :: q :: ps).map encodePair) =
        encodePair p ++ ['&'] ++ ['&'].intercalate ((q :: ps).map encodePair) :=
      List.intercalate_cons_cons
    rw [List.foldl_cons, next, ih, parted, List.append_assoc, List.append_assoc,
      List.append_assoc]

/-- A query is read as the pairs that were added to it. -/
theorem pairs?_foldl_addPair (ps : List (String × String)) :
    pairs? (ps.foldl addPair []) = some ps := by
  have joined : ps.foldl addPair [] = ['&'].intercalate (ps.map encodePair) := by
    cases ps with
    | nil => rfl
    | cons p ps => exact foldl_addPair ps p []
  rw [joined, pairs?_intercalate]

/-- Pairs that are appended to a URL without a query are what is read from it. -/
theorem parameters?_appendQuery {u : Url} (bare : u.query = none) (ps : List (String × String)) :
    (u.appendQuery ps).parameters? = some ps ∧ ((u.appendQuery ps).query = none ↔ ps = []) ∧
      (u.appendQuery ps).fragment = u.fragment := by
  by_cases empty : ps = []
  · subst empty
    refine ⟨?_, iff_of_true bare rfl, rfl⟩
    show pairs? (u.query.getD []) = some []
    rw [bare]
    rfl
  · rw [appendQuery, if_neg (mt List.isEmpty_iff.1 empty), bare]
    exact ⟨pairs?_foldl_addPair ps, iff_of_false nofun empty, rfl⟩

/-! ### Texts without a query -/

section Bare

variable {cs rest : List Char}

theorem takeHost_subset (inside : Bool) (cs : List Char) : (takeHost inside cs).2 ⊆ cs := by
  induction cs generalizing inside with
  | nil => exact List.Subset.refl _
  | cons c cs ih =>
    rw [takeHost]
    split
    · exact List.Subset.refl _
    · exact List.subset_cons_of_subset c (ih _)

theorem splitLast?_subset {c : Char} {before after : List Char}
    (h : splitLast? c cs = some (before, after)) : after ⊆ cs := by
  rw [splitLast?] at h
  split at h
  · cases h
    intro d hd
    exact List.mem_reverse.1 ((List.takeWhile_prefix _).subset (List.mem_reverse.1 hd))
  · cases h

/-- What follows a host that is read, and what belongs to it. -/
theorem exists_of_takeAuthority {kind : SchemeKind} {scheme : List Char} {a : Authority}
    (h : takeAuthority kind scheme cs = .ok (a, rest)) :
    ∃ hostPort, hostPort ⊆ cs.takeWhile (!endsAuthority kind ·) ∧
      rest = (takeHost false hostPort).2.dropWhile (· ≠ '\\') ++
        cs.dropWhile (!endsAuthority kind ·) := by
  simp only [takeAuthority, bind, Except.bind, pure, Except.pure, throw, throwThe,
    MonadExceptOf.throw] at h
  -- The ways to succeed differ in whether there is an at sign before the host.
  repeat' split at h
  all_goals cases h
  all_goals
    first
    | exact ⟨_, List.Subset.refl _, rfl⟩
    | exact ⟨_, splitLast?_subset ‹_›, rfl⟩

/-- What follows an authority is part of the text. -/
theorem takeAuthority_subset {kind : SchemeKind} {scheme : List Char} {a : Authority}
    (h : takeAuthority kind scheme cs = .ok (a, rest)) : rest ⊆ cs := by
  obtain ⟨hostPort, inside, rfl⟩ := exists_of_takeAuthority h
  refine List.append_subset.2 ⟨fun c hc ↦ ?_, (List.dropWhile_suffix _).subset⟩
  have host : c ∈ hostPort := takeHost_subset false _ ((List.dropWhile_suffix _).subset hc)
  exact (List.takeWhile_prefix _).subset (inside host)

theorem cleaned_subset (cs : List Char) : cleaned cs ⊆ cs := by
  intro c hc
  have kept := List.mem_reverse.1 (List.mem_filter.1 hc).1
  exact (List.dropWhile_suffix _).subset
    (List.mem_reverse.1 ((List.dropWhile_suffix _).subset kept))

theorem scheme?_subset {scheme : List Char} (h : scheme? cs = some (scheme, rest)) :
    rest ⊆ cs := by
  rw [scheme?] at h
  split at h
  next colon =>
    cases h
    have suffix : ':' :: rest <:+ cs := colon ▸ List.dropWhile_suffix _
    exact fun c hc ↦ suffix.subset (List.mem_cons_of_mem _ hc)
  next => cases h

/-- Where nothing ends a path, neither a query nor a fragment follows. -/
theorem takeQuery_bare {kind : SchemeKind} (h : ∀ c ∈ cs, endsPath c = false) :
    takeQuery kind (cs.dropWhile (!endsPath ·)) = (none, none) := by
  have none : cs.dropWhile (!endsPath ·) = [] :=
    List.dropWhile_eq_nil_iff.2 fun c hc ↦ by rw [h c hc]; rfl
  rw [none]
  rfl

/-- A text without question marks and number signs spells a URL without a query and without a
fragment. -/
theorem query_eq_none_of_ofChars {u : Url} (h : ∀ c ∈ cs, endsPath c = false)
    (read : ofChars cs = .ok u) : u.query = none ∧ u.fragment = none := by
  have bare {kind : SchemeKind} {ds : List Char} (part : ds ⊆ cs) :
      takeQuery kind (ds.dropWhile (!endsPath ·)) = (none, none) :=
    takeQuery_bare fun c hc ↦ h c (part hc)
  rw [ofChars] at read
  cases begun : scheme? (cleaned cs) with
  | none =>
    rw [begun] at read
    cases read
  | some parts =>
    obtain ⟨scheme, rest⟩ := parts
    have inside : rest ⊆ cs := fun c hc ↦ cleaned_subset cs (scheme?_subset begun hc)
    rw [begun] at read
    cases kind : schemeKind scheme with
    | web =>
      simp only [kind] at read
      obtain ⟨⟨a, after⟩, authority, read⟩ := bind_eq_ok.1 read
      have part : after ⊆ cs := fun c hc ↦
        inside ((List.dropWhile_suffix _).subset (takeAuthority_subset authority hc))
      cases read
      simp only [bare part, and_self]
    | file =>
      simp only [kind, bare inside] at read
      obtain ⟨⟨host, path⟩, -, read⟩ := bind_eq_ok.1 read
      cases read
      exact ⟨rfl, rfl⟩
    | other =>
      simp only [kind] at read
      split at read
      next after =>
        obtain ⟨⟨a, after'⟩, authority, read⟩ := bind_eq_ok.1 read
        have part : after' ⊆ cs := fun c hc ↦ inside
          (List.mem_cons_of_mem _ (List.mem_cons_of_mem _ (takeAuthority_subset authority hc)))
        cases read
        simp only [bare part, and_self]
      next =>
        cases read
        simp only [bare inside, and_self]

end Bare

end Toolsmith.Url
