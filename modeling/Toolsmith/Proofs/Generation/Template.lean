import Mathlib.Data.List.Infix
import Toolsmith.Generation.Template

/-!
# Templates that always render

What fills a slot is not looked at again, so whether a template renders does not depend on what
fills its slots but only on their names. The templates of a server have known slots only.

## Main definitions

* `Generation.slotsKnown`: the slots of a template all have known names.

## Main statements

* `Generation.splitAtPair?_eq_some_iff`: a text is split at the first pair of a character.
* `Generation.Context.renderChars_append`, `Generation.Context.renderChars_slot`: how a text stays,
  and how a slot is filled.
* `Generation.renderChars_of_slotsKnown`: such a template renders in every context.
* `Generation.render_eq_ok`: the templates of a server do.
-/

namespace Toolsmith.Generation

/-! ### Pairs of a character -/

section Pairs

variable {c : Char} {cs before after : List Char}

theorem pair_infix_iff {x y : Char} {rest : List Char} :
    [c, c] <:+: x :: y :: rest ↔ (x = c ∧ y = c) ∨ [c, c] <:+: y :: rest := by
  rw [List.infix_cons_iff, List.cons_prefix_cons, List.cons_prefix_cons]
  simp only [List.nil_prefix, and_true, eq_comm (a := c)]

theorem not_pair_infix_of_length_lt (short : cs.length < 2) : ¬[c, c] <:+: cs :=
  fun pair ↦ Nat.not_lt.2 pair.length_le short

/-- There is no split where there is no pair. -/
theorem splitAtPair?_eq_none_iff : splitAtPair? c cs = none ↔ ¬[c, c] <:+: cs := by
  fun_induction splitAtPair? c cs with
  | case1 x y rest hc =>
    exact iff_of_false (Option.some_ne_none _) (not_not_intro (pair_infix_iff.2 (.inl hc)))
  | case2 x y rest hc ih => rw [Option.map_eq_none_iff, ih, pair_infix_iff, or_iff_right hc]
  | case3 cs short =>
    refine iff_of_true rfl (not_pair_infix_of_length_lt ?_)
    cases cs with
    | nil => exact Nat.zero_lt_two
    | cons x cs =>
      cases cs with
      | nil => exact Nat.one_lt_two
      | cons y rest => exact absurd rfl (short x y rest)

/-- No pair is found in a text without one, nor where the text meets the next one, unless both bring
one of its characters. -/
theorem splitAtPair?_append {text rest : List Char} (without : ¬[c, c] <:+: text)
    (apart : text.getLast? ≠ some c ∨ rest.head? ≠ some c) :
    splitAtPair? c (text ++ rest) =
      (splitAtPair? c rest).map fun parts ↦ (text ++ parts.1, parts.2) := by
  induction text with
  | nil => exact Option.map_id'.symm
  | cons x text ih =>
    have later (apart : text.getLast? ≠ some c ∨ rest.head? ≠ some c) :
        (splitAtPair? c (text ++ rest)).map (fun parts ↦ (x :: parts.1, parts.2)) =
          (splitAtPair? c rest).map fun parts ↦ (x :: text ++ parts.1, parts.2) := by
      rw [ih (mt List.infix_cons without) apart, Option.map_map]
      rfl
    cases text with
    | cons y text =>
      rw [pair_infix_iff, not_or] at without
      rw [List.cons_append, List.cons_append, splitAtPair?, if_neg without.1]
      exact later apart
    | nil =>
      cases rest with
      | nil => rfl
      | cons y rest =>
        have other : ¬(x = c ∧ y = c) := by
          rintro ⟨rfl, rfl⟩
          exact apart.elim (· rfl) (· rfl)
        rw [List.cons_append, List.nil_append, splitAtPair?, if_neg other]
        exact later (.inl nofun)

/-- A text is split at the first pair: none begins before it. -/
theorem splitAtPair?_eq_some_iff :
    splitAtPair? c cs = some (before, after) ↔
      cs = before ++ c :: c :: after ∧ ¬[c, c] <:+: before ∧ before.getLast? ≠ some c := by
  constructor
  · intro h
    fun_induction splitAtPair? c cs generalizing before with
    | case1 x y rest hc =>
      obtain ⟨rfl, rfl⟩ := Prod.mk.inj (Option.some.inj h)
      rw [hc.1, hc.2]
      exact ⟨rfl, not_pair_infix_of_length_lt Nat.two_pos, (Option.some_ne_none c).symm⟩
    | case2 x y rest hc ih =>
      obtain ⟨⟨before, _⟩, later, he⟩ := Option.map_eq_some_iff.1 h
      obtain ⟨rfl, rfl⟩ := Prod.mk.inj he
      obtain ⟨parts, without, apart⟩ := ih later
      refine ⟨congrArg (x :: ·) parts, ?_⟩
      cases before with
      | nil =>
        obtain rfl := (List.cons.inj parts).1
        exact ⟨not_pair_infix_of_length_lt Nat.one_lt_two,
          fun last ↦ hc ⟨Option.some.inj last, rfl⟩⟩
      | cons z before =>
        obtain rfl := (List.cons.inj parts).1
        rw [pair_infix_iff]
        exact ⟨not_or.2 ⟨hc, without⟩, apart⟩
    | case3 => cases h
  · rintro ⟨rfl, without, apart⟩
    rw [splitAtPair?_append without (.inl apart), splitAtPair?, if_pos ⟨rfl, rfl⟩, Option.map_some,
      List.append_nil]

end Pairs

/-! ### Slots -/

namespace Context

variable (c : Context)

/-- A template is rendered up to its first slot, and the rest by itself. -/
theorem renderChars_eq (source : List Char) : c.renderChars source =
    match splitAtPair? '{' source with
    | none => .ok source
    | some (before, opened) =>
      match splitAtPair? '}' opened with
      | none => .error (firstLine (source.drop before.length))
      | some (slot, rest) =>
        match c.slotText? (String.ofList slot) with
        | none => .error (firstLine (source.drop before.length))
        | some text => (c.renderChars rest).map fun cs ↦ before ++ text.toList ++ cs := by
  rw [renderChars]
  split
  next none => rw [none]
  next opened =>
    simp only [opened]
    split
    next none => rw [none]
    next closed =>
      simp only [closed]
      rfl

theorem renderChars_of_not_infix {cs : List Char} (h : ¬['{', '{'] <:+: cs) :
    c.renderChars cs = .ok cs := by
  rw [renderChars_eq, splitAtPair?_eq_none_iff.2 h]

/-- A text without a double brace stays, and what follows it is rendered by itself, unless one of
its braces becomes a part of a double one. -/
theorem renderChars_append {text rest : List Char} (without : ¬['{', '{'] <:+: text)
    (apart : text.getLast? ≠ some '{' ∨ rest.head? ≠ some '{') :
    c.renderChars (text ++ rest) = (c.renderChars rest).map (text ++ ·) := by
  rw [c.renderChars_eq, c.renderChars_eq rest, splitAtPair?_append without apart]
  cases splitAtPair? '{' rest with
  | none => rfl
  | some parts =>
    have refused : (text ++ rest).drop (text ++ parts.1).length = rest.drop parts.1.length := by
      rw [List.length_append, ← List.drop_drop, List.drop_left]
    simp only [Option.map_some, refused]
    cases splitAtPair? '}' parts.2 with
    | none => rfl
    | some inner =>
      simp only
      cases c.slotText? (String.ofList inner.1) with
      | none => rfl
      | some filling =>
        simp only
        cases c.renderChars inner.2 with
        | error line => rfl
        | ok cs => simp only [Except.map, List.append_assoc]

/-- A slot is filled, and what follows it is rendered by itself. -/
theorem renderChars_slot {slot : List Char} (h : '}' ∉ slot) {text : String}
    (filled : c.slotText? (String.ofList slot) = some text) (rest : List Char) :
    c.renderChars ('{' :: '{' :: (slot ++ '}' :: '}' :: rest)) =
      (c.renderChars rest).map (text.toList ++ ·) := by
  have closed : splitAtPair? '}' (slot ++ '}' :: '}' :: rest) = some (slot, rest) :=
    splitAtPair?_eq_some_iff.2 ⟨rfl, fun pair ↦ h (pair.subset List.mem_cons_self),
      fun last ↦ h (List.mem_of_getLast? last)⟩
  rw [renderChars_eq, splitAtPair?, if_pos ⟨rfl, rfl⟩]
  simp only [closed, filled, List.nil_append]

end Context

/-! ### Templates with known slots -/

/-- The names that slots may have. -/
def slotNames : List String :=
  ["serverName", "serverMode", "envVariables"]

theorem slotText?_of_mem {slot : String} (h : slot ∈ slotNames) (c : Context) :
    ∃ text, c.slotText? slot = some text := by
  simp only [slotNames, List.mem_cons, List.not_mem_nil, or_false] at h
  rcases h with rfl | rfl | rfl
  · exact ⟨_, rfl⟩
  · exact ⟨_, rfl⟩
  · exact ⟨_, rfl⟩

/-- Whether the slots of a template, which are fewer than a bound, all have known names. -/
def slotsKnown : Nat → List Char → Bool
  | 0, _ => false
  | bound + 1, source =>
    match splitAtPair? '{' source with
    | none => true
    | some (_, opened) =>
      match splitAtPair? '}' opened with
      | none => false
      | some (slot, rest) => slotNames.contains (String.ofList slot) && slotsKnown bound rest

/-- A template whose slots have known names renders in every context. -/
theorem renderChars_of_slotsKnown (c : Context) {bound : Nat} {source : List Char}
    (h : slotsKnown bound source = true) : ∃ text, c.renderChars source = .ok text := by
  induction bound generalizing source with
  | zero => cases h
  | succ bound ih =>
    rw [slotsKnown] at h
    rw [Context.renderChars_eq]
    cases hb : splitAtPair? '{' source with
    | none => exact ⟨source, rfl⟩
    | some parts =>
      cases hs : splitAtPair? '}' parts.2 with
      | none => simp [hb, hs] at h
      | some inner =>
        simp only [hb, hs, Bool.and_eq_true] at h
        obtain ⟨filling, filled⟩ := slotText?_of_mem (List.contains_iff_mem.1 h.1) c
        obtain ⟨after, rendered⟩ := ih h.2
        simp only [hs, filled, rendered]
        exact ⟨_, rfl⟩

set_option maxRecDepth 4000 in
/-- The templates of a server have known slots only. -/
theorem slotsKnown_all : ∀ t ∈ Template.all,
    ∃ cs, t.source = String.ofList cs ∧ slotsKnown 5 cs = true := by
  -- the characters of a literal are found by matching it with the text of a list
  rw [Template.all, List.forall_mem_cons, List.forall_mem_cons, List.forall_mem_singleton]
  exact ⟨⟨_, rfl, by decide +kernel⟩, ⟨_, rfl, by decide +kernel⟩, ⟨_, rfl, by decide +kernel⟩⟩

/-- The templates of a server render in every context. -/
theorem render_eq_ok (c : Context) {t : Template} (ht : t ∈ Template.all) :
    ∃ text, c.render t.source = .ok text := by
  obtain ⟨cs, source, known⟩ := slotsKnown_all t ht
  obtain ⟨text, rendered⟩ := renderChars_of_slotsKnown c known
  rw [Context.render, source, String.toList_ofList, rendered]
  exact ⟨_, rfl⟩

end Toolsmith.Generation
