import Toolsmith.Json.Reader
import Toolsmith.Proofs.Json.Lexeme
import Toolsmith.Proofs.Json.Place
import Toolsmith.Proofs.Json.Value

/-!
# Written values read back

The text of a plain value, in either layout, is read as the nodes of that value, up to the places
that the reader adds, as long as the value is not nested deeper than the reader goes.

## Main definitions

* `ReadsNode`, `ReadsItems`, `ReadsMembers`: what the three readers make of a text, up to places.

## Main statements

* `readsNode_write`: the nodes of a written value.
* `decode_ofText`: a steady decoder reads from the text of a value what it reads from the value.
-/

namespace Toolsmith.Json

namespace Value

/-- The text of a value begins with a character that is neither blank nor a closing bracket. -/
theorem write_eq_cons (layout : Layout) (level : Nat) {v : Value} (h : v.Plain) :
    ∃ c cs, v.write layout level = c :: cs ∧ isSpace c = false ∧ c ≠ ']' := by
  cases v with
  | null => exact ⟨_, _, by rw [write], rfl, by decide⟩
  | bool b => cases b <;> exact ⟨_, _, by rw [write], rfl, by decide⟩
  | number n => exact h.elim
  | string s => exact ⟨_, _, by rw [write, writeString], rfl, by decide⟩
  | array items => cases items <;> exact ⟨_, _, by rw [write], rfl, by decide⟩
  | object members => cases members <;> exact ⟨_, _, by rw [write], rfl, by decide⟩

end Value

/-! ### What the readers make of a text -/

/-- The text is read as the node of a value, up to the rest. -/
def ReadsNode (fuel depth : Nat) (cs rest : List Char) (v : Value) : Prop :=
  ∀ p, ∃ n q, readNode fuel depth ⟨cs, p⟩ = (n, some ⟨rest, q⟩) ∧ n.bare = .ofValue v

/-- The text after an item is read as further items, up to the rest. -/
def ReadsItems (fuel depth : Nat) (cs rest : List Char) (vs : List Value) : Prop :=
  ∀ p, ∃ items q, readItems fuel depth false (skipBlanks cs p) = (items, some ⟨rest, q⟩) ∧
    Item.bareAll items = Node.itemsOfValues vs

/-- The text after a member is read as further members, up to the rest. -/
def ReadsMembers (fuel depth : Nat) (cs rest : List Char) (ms : List (String × Value)) : Prop :=
  ∀ p, ∃ members q, readMembers fuel depth false (skipBlanks cs p) = (members, some ⟨rest, q⟩) ∧
    Member.bareAll members = Node.membersOfValues ms

section Step

variable {fuel depth : Nat} {rest tail : List Char} {layout : Layout} {level : Nat}

/-! ### Items -/

/-- A closing bracket ends the items. -/
theorem readsItems_close :
    ReadsItems (fuel + 1) depth (layout.lineBreak level ++ ']' :: rest) rest [] := by
  intro p
  have bracket : StartsPlain (']' :: rest) := ⟨_, _, rfl, rfl⟩
  obtain ⟨q, hq⟩ := skipBlanks_lineBreak layout level bracket p
  exact ⟨[], q.plus 1, by rw [hq, readItems]; rfl, rfl⟩

/-- An item is read, and then those after it. -/
theorem readItemsFrom_cons {cs : List Char} {v : Value} {vs : List Value}
    (hv : ReadsNode fuel depth cs tail v) (hvs : ReadsItems fuel depth tail rest vs)
    (p : Position) :
    ∃ items q, readItemsFrom (fuel + 1) depth ⟨cs, p⟩ = (items, some ⟨rest, q⟩) ∧
      Item.bareAll items = Node.itemsOfValues (v :: vs) := by
  obtain ⟨n, q, hn, bare⟩ := hv p
  obtain ⟨items, q', hi, bares⟩ := hvs q
  refine ⟨.mk (some (p.ahead cs)) n (some (resumeItem (skipBlanks tail q))) :: items, q', ?_, ?_⟩
  · rw [readItemsFrom, hn]
    simp only [hi]
  · rw [Item.bareAll, bare, bares, Node.itemsOfValues]

/-- A further item is read behind a comma and a line break. -/
theorem readsItems_comma {c : Char} {cs : List Char} {v : Value} {vs : List Value}
    (hc : isSpace c = false) (hb : c ≠ ']') (hv : ReadsNode fuel depth (c :: cs) tail v)
    (hvs : ReadsItems fuel depth tail rest vs) :
    ReadsItems (fuel + 2) depth (',' :: (layout.lineBreak level ++ c :: cs)) rest (v :: vs) := by
  intro p
  have plain : StartsPlain (c :: cs) := ⟨c, cs, rfl, hc⟩
  obtain ⟨q, hq⟩ := skipBlanks_lineBreak layout level plain (p.plus 1)
  obtain ⟨items, q', hi, bares⟩ := readItemsFrom_cons hv hvs q
  refine ⟨items, q', ?_, bares⟩
  rw [skipBlanks_of_startsPlain ⟨_, _, rfl, rfl⟩, readItems]
  simp [hq, hb, hi]

/-! ### Members -/

/-- A closing brace ends the members. -/
theorem readsMembers_close :
    ReadsMembers (fuel + 1) depth (layout.lineBreak level ++ '}' :: rest) rest [] := by
  intro p
  have brace : StartsPlain ('}' :: rest) := ⟨_, _, rfl, rfl⟩
  obtain ⟨q, hq⟩ := skipBlanks_lineBreak layout level brace p
  exact ⟨[], q.plus 1, by rw [hq, readMembers]; rfl, rfl⟩

/-- The colon after a name, with the space that one layout puts behind it. -/
theorem skipBlanks_colon (layout : Layout) {cs : List Char} (h : StartsPlain cs) :
    ∃ r, layout.colon ++ cs = ':' :: r ∧ ∀ p, ∃ q, skipBlanks r p = ⟨cs, q⟩ := by
  cases layout with
  | compact => exact ⟨cs, rfl, fun p ↦ ⟨p, skipBlanks_of_startsPlain h p⟩⟩
  | pretty =>
    refine ⟨' ' :: cs, rfl, fun p ↦ ⟨p.after ' ', ?_⟩⟩
    have blank : isSpace ' ' = true := rfl
    rw [skipBlanks, if_pos blank, skipBlanks_of_startsPlain h]

/-- A member is read after the opening quote of its name, and then those after it. -/
theorem readMembersFrom_cons (layout : Layout) (k : String) {cs : List Char} {v : Value}
    {ms : List (String × Value)} (h : StartsPlain cs) (hv : ReadsNode fuel depth cs tail v)
    (hms : ReadsMembers fuel depth tail rest ms) (p : Position) :
    ∃ members q,
      readMembersFrom (fuel + 1) depth
          ⟨k.toList.flatMap escape ++ '"' :: (layout.colon ++ cs), p⟩ =
        (members, some ⟨rest, q⟩) ∧
      Member.bareAll members = Node.membersOfValues ((k, v) :: ms) := by
  obtain ⟨r, hcolon, hskip⟩ := skipBlanks_colon layout h
  obtain ⟨keyStop, hkey⟩ := readString_writeString k (':' :: r) p
  have next : skipBlanks (':' :: r) keyStop = ⟨':' :: r, keyStop⟩ :=
    skipBlanks_of_startsPlain ⟨_, _, rfl, rfl⟩ keyStop
  obtain ⟨start, hstart⟩ := hskip (keyStop.plus 1)
  obtain ⟨n, stop, hn, bare⟩ := hv start
  obtain ⟨members, q, hmembers, bares⟩ := hms stop
  refine ⟨.mk (.ok k) (some keyStop) (some (resumeMember ⟨':' :: r, keyStop⟩)) n
    (some (resumeMember (skipBlanks tail stop))) :: members, q, ?_, ?_⟩
  · rw [hcolon, readMembersFrom]
    simp only [hkey, next, hstart, hn, hmembers]
  · rw [Member.bareAll, bare, bares, Node.membersOfValues]

/-- A further member is read behind a comma and a line break. -/
theorem readsMembers_comma (layout : Layout) (level : Nat) (k : String) {cs : List Char}
    {v : Value} {ms : List (String × Value)} (h : StartsPlain cs)
    (hv : ReadsNode fuel depth cs tail v) (hms : ReadsMembers fuel depth tail rest ms) :
    ReadsMembers (fuel + 2) depth
      (',' :: (layout.lineBreak level ++ (writeString k ++ (layout.colon ++ cs)))) rest
      ((k, v) :: ms) := by
  intro p
  have quote := writeString_append k (layout.colon ++ cs)
  have plain := startsPlain_writeString k (layout.colon ++ cs)
  obtain ⟨q, hq⟩ := skipBlanks_lineBreak layout level plain (p.plus 1)
  obtain ⟨members, q', hm, bares⟩ := readMembersFrom_cons layout k h hv hms (q.plus 1)
  refine ⟨members, q', ?_, bares⟩
  rw [skipBlanks_of_startsPlain ⟨_, _, rfl, rfl⟩, readMembers]
  simp only [quote] at hq
  simp [quote, hq, hm]

/-! ### Nodes -/

theorem readsNode_null :
    ReadsNode (fuel + 1) depth ('n' :: 'u' :: 'l' :: 'l' :: rest) rest .null := by
  intro p
  obtain ⟨q, hq⟩ := readWord_append () ['u', 'l', 'l'] rest (p.plus 1)
  refine ⟨.scalar .null (some p) (some q), q, ?_, rfl⟩
  rw [readNode]
  simp only [List.cons_append, List.nil_append] at hq
  simp [hq, Lexed.toNode]

/-- A truth value is read back. -/
theorem readsNode_bool (layout : Layout) (level : Nat) (b : Bool) :
    ReadsNode (fuel + 1) depth ((Value.bool b).write layout level ++ rest) rest (.bool b) := by
  intro p
  cases b with
  | true =>
    obtain ⟨q, hq⟩ := readWord_append true ['r', 'u', 'e'] rest (p.plus 1)
    refine ⟨.scalar (.bool true) (some p) (some q), q, ?_, rfl⟩
    rw [readNode]
    simp only [List.cons_append, List.nil_append] at hq
    simp [Value.write, hq, Lexed.toNode]
  | false =>
    obtain ⟨q, hq⟩ := readWord_append false ['a', 'l', 's', 'e'] rest (p.plus 1)
    refine ⟨.scalar (.bool false) (some p) (some q), q, ?_, rfl⟩
    rw [readNode]
    simp only [List.cons_append, List.nil_append] at hq
    simp [Value.write, hq, Lexed.toNode]

/-- A string is read back. -/
theorem readsNode_string (s : String) :
    ReadsNode (fuel + 1) depth (writeString s ++ rest) rest (.string s) := by
  intro p
  obtain ⟨q, hq⟩ := readString_writeString s rest (p.plus 1)
  refine ⟨.scalar (.string s) (some p) (some q), q, ?_, rfl⟩
  rw [readNode]
  simp [writeString, hq, Lexed.toNode]

/-- An empty array is read back. -/
theorem readsNode_array_nil : ReadsNode (fuel + 2) (depth + 1) ('[' :: ']' :: rest) rest
    (.array []) := by
  intro p
  refine ⟨.array (some p) [] (some ((p.plus 1).plus 1)), (p.plus 1).plus 1, ?_, rfl⟩
  rw [readNode]
  simp [isDigit, skipBlanks, isSpace, readItems]

/-- An array is read from its first item and those after it. -/
theorem readsNode_array_cons {c : Char} {cs : List Char} {v : Value} {vs : List Value}
    (hc : isSpace c = false) (hb : c ≠ ']') (hv : ReadsNode fuel depth (c :: cs) tail v)
    (hvs : ReadsItems fuel depth tail rest vs) :
    ReadsNode (fuel + 3) (depth + 1) ('[' :: (layout.lineBreak level ++ c :: cs)) rest
      (.array (v :: vs)) := by
  intro p
  have plain : StartsPlain (c :: cs) := ⟨c, cs, rfl, hc⟩
  obtain ⟨q, hq⟩ := skipBlanks_lineBreak layout level plain (p.plus 1)
  obtain ⟨items, q', hi, bares⟩ := readItemsFrom_cons hv hvs q
  refine ⟨.array (some p) items (some q'), q', ?_, by rw [Node.bare, bares, Node.ofValue]⟩
  have first : readItems (fuel + 2) depth true ⟨c :: cs, q⟩ = (items, some ⟨rest, q'⟩) := by
    rw [readItems]
    simp [hi]
  rw [readNode]
  simp [isDigit, hq, first]

/-- An empty object is read back. -/
theorem readsNode_object_nil : ReadsNode (fuel + 2) (depth + 1) ('{' :: '}' :: rest) rest
    (.object []) := by
  intro p
  refine ⟨.object (some p) [] (some ((p.plus 1).plus 1)), (p.plus 1).plus 1, ?_, rfl⟩
  rw [readNode]
  simp [isDigit, skipBlanks, isSpace, readMembers]

/-- An object is read from its first member and those after it. -/
theorem readsNode_object_cons (layout : Layout) (level : Nat) (k : String) {cs : List Char}
    {v : Value} {ms : List (String × Value)} (h : StartsPlain cs)
    (hv : ReadsNode fuel depth cs tail v) (hms : ReadsMembers fuel depth tail rest ms) :
    ReadsNode (fuel + 3) (depth + 1)
      ('{' :: (layout.lineBreak level ++ (writeString k ++ (layout.colon ++ cs)))) rest
      (.object ((k, v) :: ms)) := by
  intro p
  have quote := writeString_append k (layout.colon ++ cs)
  have plain := startsPlain_writeString k (layout.colon ++ cs)
  obtain ⟨q, hq⟩ := skipBlanks_lineBreak layout level plain (p.plus 1)
  obtain ⟨members, q', hm, bares⟩ := readMembersFrom_cons layout k h hv hms (q.plus 1)
  refine ⟨.object (some p) members (some q'), q', ?_, by rw [Node.bare, bares, Node.ofValue]⟩
  have first : readMembers (fuel + 2) depth true
      ⟨writeString k ++ (layout.colon ++ cs), q⟩ = (members, some ⟨rest, q'⟩) := by
    rw [quote, readMembers]
    simp [hm]
  rw [readNode]
  simp [isDigit, hq, first]

end Step

/-! ### Whole values -/

-- A value takes as many calls as three times the length of its text. A node, the list of its parts
-- and each part take one call apiece, and each has a character of its own: a bracket, a comma or
-- the first character of the part.
mutual
/-- The text of a value is read as the nodes of that value. -/
theorem readsNode_write (layout : Layout) : ∀ (v : Value) (level fuel depth : Nat)
    (rest : List Char), v.Plain → v.depth ≤ depth →
    3 * (v.write layout level).length ≤ fuel →
    ReadsNode fuel depth (v.write layout level ++ rest) rest v
  | .null, level, fuel, depth, rest, _, _, long => by
    simp only [Value.write, List.length_cons] at long
    obtain ⟨f, rfl⟩ := Nat.exists_eq_add_of_le' (show 1 ≤ fuel by omega)
    rw [Value.write]
    exact readsNode_null
  | .bool b, level, fuel, depth, rest, _, _, long => by
    have : 1 ≤ fuel := by cases b <;> simp only [Value.write, List.length_cons] at long <;> omega
    obtain ⟨f, rfl⟩ := Nat.exists_eq_add_of_le' this
    exact readsNode_bool layout level b
  | .string s, level, fuel, depth, rest, _, _, long => by
    simp only [Value.write, writeString, List.length_cons] at long
    obtain ⟨f, rfl⟩ := Nat.exists_eq_add_of_le' (show 1 ≤ fuel by omega)
    rw [Value.write]
    exact readsNode_string s
  | .array items, level, fuel, depth, rest, plain, deep, long => by
    obtain ⟨d, rfl⟩ := Nat.exists_eq_add_of_le' (show 1 ≤ depth by rw [Value.depth] at deep; omega)
    match items with
    | [] =>
      simp only [Value.write, List.length_cons] at long
      obtain ⟨f, rfl⟩ := Nat.exists_eq_add_of_le' (show 2 ≤ fuel by omega)
      rw [Value.write]
      exact readsNode_array_nil
    | x :: xs =>
      -- The first character decides that there is an item, and not the end of the array.
      obtain ⟨c, cs, hx, hc, hb⟩ := Value.write_eq_cons layout (level + 1) plain.1
      simp only [Value.depth, Value.depthItems] at deep
      simp only [Value.write, List.length_cons, List.length_append] at long
      obtain ⟨f, rfl⟩ := Nat.exists_eq_add_of_le' (show 3 ≤ fuel by omega)
      have head := readsNode_write layout x (level + 1) f d
        (Value.writeItems layout level xs ++ rest) plain.1 (by omega) (by omega)
      have items := readsItems_write layout xs level f d rest plain.2 (by omega) (by omega)
      rw [hx] at head
      simp only [Value.write, hx, List.cons_append, List.append_assoc]
      exact readsNode_array_cons hc hb head items
  | .object members, level, fuel, depth, rest, plain, deep, long => by
    obtain ⟨d, rfl⟩ := Nat.exists_eq_add_of_le' (show 1 ≤ depth by rw [Value.depth] at deep; omega)
    match members with
    | [] =>
      simp only [Value.write, List.length_cons] at long
      obtain ⟨f, rfl⟩ := Nat.exists_eq_add_of_le' (show 2 ≤ fuel by omega)
      rw [Value.write]
      exact readsNode_object_nil
    | (k, x) :: ms =>
      obtain ⟨c, cs, hx, hc, -⟩ := Value.write_eq_cons layout (level + 1) plain.2.1
      simp only [Value.depth, Value.depthMembers] at deep
      simp only [Value.write, List.length_cons, List.length_append] at long
      obtain ⟨f, rfl⟩ := Nat.exists_eq_add_of_le' (show 3 ≤ fuel by omega)
      have head := readsNode_write layout x (level + 1) f d
        (Value.writeMembers layout level ms ++ rest) plain.2.1 (by omega) (by omega)
      have members := readsMembers_write layout ms level f d rest plain.2.2 (by omega) (by omega)
      simp only [Value.write, List.cons_append, List.append_assoc]
      exact readsNode_object_cons layout (level + 1) k ⟨c, cs ++ _, by rw [hx]; rfl, hc⟩ head
        members

/-- Items are read back. -/
theorem readsItems_write (layout : Layout) : ∀ (vs : List Value) (level fuel depth : Nat)
    (rest : List Char), Value.PlainItems vs → Value.depthItems vs ≤ depth →
    3 * (Value.writeItems layout level vs).length ≤ fuel →
    ReadsItems fuel depth (Value.writeItems layout level vs ++ rest) rest vs
  | [], level, fuel, depth, rest, _, _, long => by
    simp only [Value.writeItems, List.length_append, List.length_cons] at long
    obtain ⟨f, rfl⟩ := Nat.exists_eq_add_of_le' (show 1 ≤ fuel by omega)
    rw [Value.writeItems, List.append_assoc]
    exact readsItems_close
  | x :: xs, level, fuel, depth, rest, plain, deep, long => by
    obtain ⟨c, cs, hx, hc, hb⟩ := Value.write_eq_cons layout (level + 1) plain.1
    simp only [Value.depthItems] at deep
    simp only [Value.writeItems, List.length_cons, List.length_append] at long
    obtain ⟨f, rfl⟩ := Nat.exists_eq_add_of_le' (show 2 ≤ fuel by omega)
    have head := readsNode_write layout x (level + 1) f depth
      (Value.writeItems layout level xs ++ rest) plain.1 (by omega) (by omega)
    have items := readsItems_write layout xs level f depth rest plain.2 (by omega) (by omega)
    rw [hx] at head
    simp only [Value.writeItems, hx, List.cons_append, List.append_assoc]
    exact readsItems_comma hc hb head items

/-- Members are read back. -/
theorem readsMembers_write (layout : Layout) : ∀ (ms : List (String × Value))
    (level fuel depth : Nat) (rest : List Char), Value.PlainMembers ms →
    Value.depthMembers ms ≤ depth → 3 * (Value.writeMembers layout level ms).length ≤ fuel →
    ReadsMembers fuel depth (Value.writeMembers layout level ms ++ rest) rest ms
  | [], level, fuel, depth, rest, _, _, long => by
    simp only [Value.writeMembers, List.length_append, List.length_cons] at long
    obtain ⟨f, rfl⟩ := Nat.exists_eq_add_of_le' (show 1 ≤ fuel by omega)
    rw [Value.writeMembers, List.append_assoc]
    exact readsMembers_close
  | (k, x) :: ms, level, fuel, depth, rest, plain, deep, long => by
    obtain ⟨c, cs, hx, hc, -⟩ := Value.write_eq_cons layout (level + 1) plain.1
    simp only [Value.depthMembers] at deep
    simp only [Value.writeMembers, List.length_cons, List.length_append] at long
    obtain ⟨f, rfl⟩ := Nat.exists_eq_add_of_le' (show 2 ≤ fuel by omega)
    have head := readsNode_write layout x (level + 1) f depth
      (Value.writeMembers layout level ms ++ rest) plain.1 (by omega) (by omega)
    have members := readsMembers_write layout ms level f depth rest plain.2 (by omega) (by omega)
    simp only [Value.writeMembers, List.cons_append, List.append_assoc]
    exact readsMembers_comma layout (level + 1) k ⟨c, cs ++ _, by rw [hx]; rfl, hc⟩ head members
end

/-! ### Documents -/

/-- The document of a written value with blanks after it. -/
theorem ofText_write (layout : Layout) {v : Value} {s : String} {blanks : List Char}
    (hs : s.toList = v.write layout 0 ++ blanks) (plain : v.Plain)
    (deep : v.depth ≤ maxDepth) (hb : ∀ c ∈ blanks, isSpace c = true) :
    (Document.ofText s).trailing = .ok () ∧ (Document.ofText s).root.bare = .ofValue v := by
  obtain ⟨c, cs, hw, hc, -⟩ := Value.write_eq_cons layout 0 plain
  have start : skipBlanks s.toList .start = ⟨s.toList, .start⟩ :=
    skipBlanks_of_startsPlain ⟨c, cs ++ blanks, by rw [hs, hw]; rfl, hc⟩ _
  have long : 3 * (v.write layout 0).length ≤ 3 * s.toList.length + 3 := by
    rw [hs, List.length_append]; omega
  -- The reader of documents goes on for three calls a character, which is enough.
  obtain ⟨n, q, hn, bare⟩ := readsNode_write layout v 0 _ maxDepth blanks plain deep long .start
  rw [← hs] at hn
  obtain ⟨q', hq⟩ := skipBlanks_append hb [] q
  rw [List.append_nil] at hq
  have doc : Document.ofText s = ⟨n, .ok ()⟩ := by
    simp only [Document.ofText, start, hn, hq, skipBlanks]
  rw [doc]
  exact ⟨rfl, bare⟩

/-- A steady decoder reads from a text of a value what it reads from the value. -/
theorem decode_ofText {α : Type} {read : Decoder α} (steady : read.Steady) (layout : Layout)
    {v : Value} {s : String} {blanks : List Char} (hs : s.toList = v.write layout 0 ++ blanks)
    (plain : v.Plain) (deep : v.depth ≤ maxDepth) (hb : ∀ c ∈ blanks, isSpace c = true)
    {a : α} (ha : read (.ofValue v) = .ok a) :
    (Document.ofText s).decode read = .ok a := by
  obtain ⟨trailing, bare⟩ := ofText_write layout hs plain deep hb
  have root : read (Document.ofText s).root = .ok a := steady.read_of_bare (by rw [bare, ha])
  rw [Document.decode, root, trailing]
  rfl

/-- A steady decoder reads from the lines of a value what it reads from the value. -/
theorem decode_ofText_pretty {α : Type} {read : Decoder α} (steady : read.Steady) {v : Value}
    (plain : v.Plain) (deep : v.depth ≤ maxDepth) {a : α} (ha : read (.ofValue v) = .ok a) :
    (Document.ofText (v.pretty ++ "\n")).decode read = .ok a := by
  have text : (v.pretty ++ "\n").toList = v.write .pretty 0 ++ ['\n'] := by
    simp [Value.pretty]
  have blank : ∀ c ∈ ['\n'], isSpace c = true := by
    intro c hc
    rw [List.mem_singleton.1 hc]
    rfl
  exact decode_ofText steady .pretty text plain deep blank ha

/-- A plain value is read back from its text. -/
theorem parse_compact {v : Value} (plain : v.Plain) (deep : v.depth ≤ maxDepth) :
    parse v.compact = .ok v := by
  have text : v.compact.toList = v.write .compact 0 ++ [] := by
    simp [Value.compact]
  exact decode_ofText Decoder.any_steady .compact text plain deep
    (fun _ h ↦ absurd h List.not_mem_nil) (Node.value_ofValue v plain)

end Toolsmith.Json
