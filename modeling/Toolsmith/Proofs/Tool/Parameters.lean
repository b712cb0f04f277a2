import Mathlib.Algebra.Field.Rat
import Toolsmith.Proofs.Compile.Contract
import Toolsmith.Proofs.Compile.Substitution
import Toolsmith.Proofs.Url.Query

/-!
# Query parameters of a call

The template of a compiled URL ends before the query and the fragment of the declared one. What is
put into its slots is a value of the input, which is encoded, or a variable. So the text that is
read as a URL has neither a question mark nor a number sign, unless a variable has, and all that is
in the query of the URL are the parameters that are appended to it.

## Main definitions

* `Json.Number.value`: the rational number that a JSON number stands for.
* `Json.Value.IsFalsy`: the values that leave a parameter out.
* `Handler.parametersOf`: the names and texts of the parameters that an input gives.

## Main statements

* `Compile.not_endsPath_of_fill`: the text that is read as a URL.
* `Compile.parameters_of_url`: the query is read as the parameters that the input gives, and no
  value has a say in the others.
-/

namespace Toolsmith

open Json (Value)
open Url (endsPath)

/-! ### Values that are left out -/

/-- The rational number that a binary64 number stands for. -/
def Binary64.value (x : Binary64) : ℚ :=
  (if x.negative then -1 else 1) * x.num / x.den

/-- The rational number that a JSON number stands for. -/
def Json.Number.value : Json.Number → ℚ
  | .integer n => n
  | .double x => x.value

namespace Json.Value

/-- Whether a value leaves a parameter out: null, false, a number equal to zero, and the empty
text. -/
def IsFalsy : Value → Prop
  | .null => True
  | .bool b => b = false
  | .number n => n.value = 0
  | .string s => s = ""
  | .array _ => False
  | .object _ => False

instance : DecidablePred IsFalsy := fun v ↦
  match v with
  | .null => inferInstanceAs (Decidable True)
  | .bool b => inferInstanceAs (Decidable (b = false))
  | .number n => inferInstanceAs (Decidable (n.value = 0))
  | .string s => inferInstanceAs (Decidable (s = ""))
  | .array _ => inferInstanceAs (Decidable False)
  | .object _ => inferInstanceAs (Decidable False)

/-- A text as it is, and the JSON text of any other value. -/
def plainText : Value → String
  | .string s => s
  | v => v.compact

end Json.Value

theorem Binary64.isZero_iff (x : Binary64) : x.isZero = true ↔ x.value = 0 := by
  have sign : (if x.negative then -1 else 1 : ℚ) ≠ 0 := by split <;> decide
  have den : (x.den : ℚ) ≠ 0 := Nat.cast_ne_zero.2 (Nat.pow_pos Nat.two_pos).ne'
  have num : x.num = 0 ↔ x.significand = 0 :=
    (Nat.mul_eq_zero).trans (or_iff_left (Nat.pow_pos Nat.two_pos).ne')
  rw [isZero, beq_iff_eq, value, div_eq_zero_iff, or_iff_left den, mul_eq_zero, or_iff_right sign,
    Nat.cast_eq_zero, num]

theorem Json.Number.isZero_iff (n : Json.Number) : n.isZero = true ↔ n.value = 0 := by
  cases n with
  | integer n => exact beq_iff_eq.trans Int.cast_eq_zero.symm
  | double x => exact x.isZero_iff

theorem Json.Value.isTruthy_eq (v : Value) : v.isTruthy = decide (¬ v.IsFalsy) := by
  rw [Bool.eq_iff_iff, decide_eq_true_iff]
  cases v <;> simp [isTruthy, IsFalsy, ← Number.isZero_iff]

theorem Json.Value.parameterText?_of_not_isFalsy {v : Value} (h : ¬ v.IsFalsy) :
    v.parameterText? = some v.plainText := by
  cases v with
  | null => exact absurd trivial h
  | bool | number | string | array | object => rfl

namespace Handler

/-- The names and texts of the query parameters that an input gives, in the order in which they are
declared. -/
def parametersOf (h : Handler) (input : Value) : List (String × String) :=
  h.queryParams.filterMap fun key ↦
    ((input.get? key).filter fun v ↦ ¬ v.IsFalsy).map fun v ↦ (key, v.plainText)

variable {h : Handler} {environment : Table String} {input input' : Value}

theorem queryPairs_eq (h : Handler) (input : Value) :
    h.queryPairs input = h.parametersOf input := by
  refine List.filterMap_congr fun key _ ↦ ?_
  cases input.get? key with
  | none => rfl
  | some v =>
    rw [Option.filter_some, Option.filter_some, Value.isTruthy_eq]
    by_cases falsy : v.IsFalsy
    · rw [if_neg (by simpa using falsy)]
      rfl
    · rw [if_pos (decide_eq_true falsy), Option.bind_some,
        Value.parameterText?_of_not_isFalsy falsy]
      rfl

/-- The parameters other than one go by the values under the other names. -/
theorem filter_parametersOf {key : String}
    (same : ∀ name, name ≠ key → input.get? name = input'.get? name) :
    (h.parametersOf input).filter (·.1 ≠ key) = (h.parametersOf input').filter (·.1 ≠ key) := by
  rw [parametersOf, parametersOf, List.filter_filterMap, List.filter_filterMap]
  refine List.filterMap_congr fun name _ ↦ ?_
  by_cases other : name = key
  · have none (v? : Option Value) :
        (v?.map fun v ↦ (name, v.plainText)).filter (·.1 ≠ key) = none := by
      cases v? with
      | none => rfl
      | some v => exact if_neg (by simp [other])
    rw [none, none]
  · rw [same name other]

/-! ### Filled texts -/

variable {value? : String → Option (List Char)} {cs ds : List Char} {p : Char → Prop}

/-- The characters of a filled text are those of the template and of the values. -/
theorem forall_mem_fillFrom (values : ∀ slot text, value? slot = some text → ∀ c ∈ text, p c)
    (template : ∀ c ∈ cs, p c) (filled : fillFrom value? none cs = .ok ds) : ∀ c ∈ ds, p c := by
  induction cs using slots_induction generalizing ds with
  | plain cs h =>
    rw [(Fills.literal h).fillFrom_eq] at filled
    cases filled
    exact template
  | unclosed before opened h h' =>
    rw [fillFrom_unclosed h h'] at filled
    cases filled
    exact template
  | slot before name rest h h' ih =>
    cases given : value? (String.ofList name) with
    | none =>
      rw [fillFrom_of_eq_none h h' given] at filled
      cases filled
    | some value =>
      rw [fillFrom_of_eq_some h h' given] at filled
      obtain ⟨after, behind, rfl⟩ := map_eq_ok.1 filled
      have later : ∀ c ∈ after, p c := ih (fun c hc ↦ template c (by simp [hc])) behind
      have here : ∀ c ∈ before, p c := fun c hc ↦ template c (by simp [hc])
      intro c hc
      rcases List.mem_append.1 hc with hc | hc
      · rcases List.mem_append.1 hc with hc | hc
        · exact here c hc
        · exact values _ _ given c hc
      · exact later c hc

end Handler

/-! ### Compiled templates -/

namespace Compile

open Collection (Request)

variable {cs segment : List Char} {keys : List String}

theorem halvePairs_subset (c : Char) (cs : List Char) : halvePairs c cs ⊆ cs := by
  induction cs using halvePairs.induct c with
  | case1 x y rest same ih =>
    rw [halvePairs, if_pos same]
    intro d hd
    rcases List.mem_cons.1 hd with rfl | hd
    · rw [same.1]
      exact List.mem_cons_self
    · exact List.mem_cons_of_mem _ (List.mem_cons_of_mem _ (ih hd))
  | case2 x y rest other ih =>
    rw [halvePairs, if_neg other]
    exact List.cons_subset_cons x ih
  | case3 short h =>
    rw [halvePairs]
    · exact List.Subset.refl _
    · exact h

theorem mem_slotSegment {c : Char} (h : c ∈ slotSegment keys segment) :
    c ∈ segment ∨ c = '{' ∨ c = '}' := by
  unfold slotSegment at h
  split at h
  next key =>
    split at h
    · rcases List.mem_cons.1 h with rfl | h
      · exact .inr (.inl rfl)
      rcases List.mem_append.1 h with h | h
      · exact .inl (List.mem_cons_of_mem _ h)
      · exact .inr (.inr (List.mem_singleton.1 h))
    · exact .inl h
  next => exact .inl h

/-- The template of a URL ends before its query and its fragment. -/
theorem not_endsPath_of_mem_templateChars {raw : List Char} {c : Char}
    (h : c ∈ templateChars keys raw) : endsPath c = false := by
  have base {d : Char} (hd : d ∈ halveBraces (raw.takeWhile fun c ↦ c ≠ '?' ∧ c ≠ '#')) :
      endsPath d = false := by
    have kept := List.mem_takeWhile_imp (halvePairs_subset _ _ (halvePairs_subset _ _ hd))
    rw [decide_eq_true_eq] at kept
    simp only [endsPath, kept.1, kept.2, decide_false, Bool.or_self]
  rw [templateChars_eq] at h
  rcases Text.mem_intercalate h with ⟨_, mapped, hc⟩ | slash
  · obtain ⟨segment, hs, rfl⟩ := List.mem_map.1 mapped
    rcases mem_slotSegment hc with hc | rfl | rfl
    · exact base (Text.mem_of_mem_splitOn hs hc)
    · decide
    · decide
  · rw [List.mem_singleton.1 slash]
    decide

section

variable {r : Request} {n : Naming} {a : Artifact} {environment : Table String} {input : Value}
  {u : Url} (compiled : artifact? r n = some a)
  (plain : ∀ name text, environment.get? name = some text →
    '?' ∉ text.toList ∧ '#' ∉ text.toList)
include compiled plain

/-- The text that is read as a URL has no query and no fragment. -/
theorem not_endsPath_of_fill (filled : a.handler.fill environment input = .ok cs) :
    ∀ c ∈ cs, endsPath c = false := by
  obtain ⟨p, -, rfl⟩ := artifact?_eq_some compiled
  refine Handler.forall_mem_fillFrom (fun slot text value c hc ↦ ?_) (fun c hc ↦ ?_) filled
  · cases Handler.resolves_of_slotText? value with
    | ofInput =>
      apply Url.not_endsPath_of_isSegmentsChar
      rw [Url.isSegmentsChar, Text.isComponentChar_of_mem_encodeComponent hc, Bool.true_or]
    | ofEnvironment _ set =>
      obtain ⟨query, fragment⟩ := plain _ _ set
      rw [endsPath, Bool.or_eq_false_iff, decide_eq_false_iff_not, decide_eq_false_iff_not]
      exact ⟨fun mark ↦ query (mark ▸ hc), fun mark ↦ fragment (mark ▸ hc)⟩
  · have template : (handler r p).urlTemplate.toList =
        templateChars p.address.pathKeys p.address.raw.toList := String.toList_ofList
    exact not_endsPath_of_mem_templateChars (template ▸ hc)

/-- The URL of a call has the parameters that the input gives, and nothing else in its query. -/
theorem parameters_of_built (built : a.handler.url environment input = .ok u) :
    u.parameters? = some (a.handler.parametersOf input) ∧
      (u.query = none ↔ a.handler.parametersOf input = []) ∧ u.fragment = none := by
  cases filled : a.handler.fill environment input with
  | error slot =>
    rw [Handler.url_eq_unresolved_iff.2 filled] at built
    cases built
  | ok cs =>
    rw [Handler.url_of_fill filled] at built
    obtain ⟨v, read, rfl⟩ := map_eq_ok.1 built
    obtain ⟨query, fragment⟩ := Url.query_eq_none_of_ofChars
      (not_endsPath_of_fill compiled plain filled) (mapError_eq_ok.1 read)
    rw [Handler.queryPairs_eq]
    obtain ⟨parameters, empty, kept⟩ := Url.parameters?_appendQuery query
      (a.handler.parametersOf input)
    exact ⟨parameters, empty, kept.trans fragment⟩

/-- Parameters survive their encoding. The query of the URL of a call is read as the names and texts
of the parameters that the input gives, in the order in which they are declared, and there is no
query if there are none, as long as no variable has a question mark or a number sign. So whatever
value is put under a name, the other parameters stay as they are, and there is no fragment. -/
theorem parameters_of_url (built : a.handler.url environment input = .ok u) :
    u.parameters? = some (a.handler.parametersOf input) ∧
      (u.query = none ↔ a.handler.parametersOf input = []) ∧ u.fragment = none ∧
      ∀ key input' u', (∀ name, name ≠ key → input.get? name = input'.get? name) →
        a.handler.url environment input' = .ok u' →
        u'.parameters?.map (List.filter (·.1 ≠ key)) =
          u.parameters?.map (List.filter (·.1 ≠ key)) ∧ u'.fragment = u.fragment := by
  obtain ⟨parameters, query, fragment⟩ := parameters_of_built compiled plain built
  refine ⟨parameters, query, fragment, fun key input' u' same built' ↦ ?_⟩
  obtain ⟨parameters', -, fragment'⟩ := parameters_of_built compiled plain built'
  rw [parameters, parameters', fragment, fragment', Option.map_some, Option.map_some,
    Handler.filter_parametersOf same]
  exact ⟨rfl, rfl⟩

end

/-- A request for what is found under an id, with parameters of odd names. -/
def odd : Request :=
  { payload := some
      { method := "GET"
        address :=
          { raw := "http://\x7b\x7bhost\x7d\x7d/found/:id?stale=1#top"
            pathVariables := [{ key := some "id" }]
            query := [{ key := some "a&b=c" }, { key := some "q" }, { key := some "n" }] } } }

/-- An input with separators, a sign that leads in bytes, and a zero. -/
def oddValues : Value :=
  .object
    [("id", .string "7?x=1#y"), ("q", .string "1&n=2+%26#é"), ("n", .number (.double (.zero true))),
      ("a&b=c", .array [.bool false])]

theorem parameters_of_url_odd :
    let environment : Table String := [("host", "api.test")]
    ∃ a u, artifact? odd ⟨"odd", "", ""⟩ = some a ∧ a.handler.url environment oddValues = .ok u ∧
      u.parameters? = some [("a&b=c", "[false]"), ("q", "1&n=2+%26#é")] ∧ u.query ≠ none ∧
      u.fragment = none := by
  intro environment
  have plain (name text : String) (set : environment.get? name = some text) :
      '?' ∉ text.toList ∧ '#' ∉ text.toList := by
    cases List.mem_singleton.1 (Table.mem_of_get? set)
    decide
  obtain ⟨a, compiled, u, built, given⟩ : ∃ a, artifact? odd ⟨"odd", "", ""⟩ = some a ∧
      ∃ u, a.handler.url environment oddValues = .ok u ∧
        a.handler.parametersOf oddValues = [("a&b=c", "[false]"), ("q", "1&n=2+%26#é")] :=
    ⟨_, rfl, _, rfl, by decide +kernel⟩
  obtain ⟨parameters, query, fragment, -⟩ := parameters_of_url compiled plain built
  refine ⟨a, u, compiled, built, parameters.trans (congrArg some given), fun empty ↦ ?_, fragment⟩
  cases given.symm.trans (query.1 empty)

end Compile

end Toolsmith
