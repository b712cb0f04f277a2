import Toolsmith.Json.Form
import Toolsmith.Proofs.Json.Distinct

/-!
# Values read from their own nodes

A value without numbers, whose objects have distinct member names, is plain: nothing is lost when
it is written and read. A number may be rounded when it is read from a text, and of two members of
one name only the last entry is kept.

## Main definitions

* `Value.Plain`: a value without numbers and without repeated member names.

## Main statements

* `Node.value_ofValue`: the value of the node of a plain value.
* `Decoder.list_text_ofStrings`, `Decoder.table_text_ofValue`: lists and tables of texts.
-/

namespace Toolsmith.Json

namespace Value

mutual
/-- No number stands in the value, and no object in it has two members of one name. -/
def Plain : Value → Prop
  | .number _ => False
  | .array items => PlainItems items
  | .object members => (Table.names members).Nodup ∧ PlainMembers members
  | _ => True

/-- The items are plain. -/
def PlainItems : List Value → Prop
  | [] => True
  | v :: vs => v.Plain ∧ PlainItems vs

/-- The values of the members are plain. -/
def PlainMembers : List (String × Value) → Prop
  | [] => True
  | (_, v) :: ms => v.Plain ∧ PlainMembers ms
end

theorem plainMembers_append {ms ns : List (String × Value)} :
    PlainMembers (ms ++ ns) ↔ PlainMembers ms ∧ PlainMembers ns := by
  induction ms with
  | nil => simp [PlainMembers]
  | cons m ms ih => simp only [List.cons_append, PlainMembers, ih, and_assoc]

/-- An array of strings is made of what JSON texts can hold. -/
theorem plain_ofStrings (ss : List String) : (ofStrings ss).Plain := by
  have h : PlainItems (ss.map .string) := by
    induction ss with
    | nil => trivial
    | cons s ss ih => exact ⟨trivial, ih⟩
  exact h

/-- So is an object of strings with distinct names. -/
theorem plain_table {ss : Table String} (h : ss.names.Nodup) :
    (Value.object (ss.map fun e ↦ (e.1, .string e.2))).Plain := by
  have names : Table.names (ss.map fun e ↦ (e.1, Value.string e.2)) = ss.names := by
    rw [Table.names, List.map_map]
    rfl
  refine ⟨names ▸ h, ?_⟩
  clear h names
  induction ss with
  | nil => trivial
  | cons e ss ih => exact ⟨trivial, ih⟩

/-! ### Depth -/

/-- Members are as deep as the deepest of them. -/
theorem depthMembers_le {ms : List (String × Value)} {bound : Nat}
    (h : ∀ m ∈ ms, m.2.depth ≤ bound) : depthMembers ms ≤ bound := by
  induction ms with
  | nil => exact Nat.zero_le _
  | cons m ms ih =>
    exact Nat.max_le.2 ⟨h m List.mem_cons_self, ih fun n hn ↦ h n (List.mem_cons_of_mem _ hn)⟩

theorem depthMembers_append (ms ns : List (String × Value)) :
    depthMembers (ms ++ ns) = max (depthMembers ms) (depthMembers ns) := by
  induction ms with
  | nil => simp [depthMembers]
  | cons m ms ih => simp only [List.cons_append, depthMembers, ih, Nat.max_assoc]

/-- An array of strings has the depth of one level. -/
theorem depth_ofStrings (ss : List String) : (ofStrings ss).depth = 1 := by
  have h : depthItems (ss.map .string) = 0 := by
    induction ss with
    | nil => rfl
    | cons s ss ih => simp [depthItems, depth, ih]
  rw [ofStrings, depth, h]

/-- So has an object of strings. -/
theorem depth_table (ss : Table String) :
    (Value.object (ss.map fun e ↦ (e.1, .string e.2))).depth = 1 := by
  have h : depthMembers (ss.map fun e ↦ (e.1, .string e.2)) ≤ 0 :=
    depthMembers_le fun m hm ↦ by
      obtain ⟨e, -, rfl⟩ := List.mem_map.1 hm
      exact Nat.le_refl _
  rw [depth, Nat.le_zero.1 h]

/-! ### Plain values and their nodes -/

mutual
/-- A plain value is well-formed. -/
theorem Plain.wellFormed : ∀ {v : Value}, v.Plain → v.WellFormed
  | .null, _ | .bool _, _ | .string _, _ => trivial
  | .number _, h => h.elim
  | .array _, h => wellFormedItems_of_plain h
  | .object _, h => ⟨h.1, wellFormedMembers_of_plain h.2⟩

theorem wellFormedItems_of_plain : ∀ {vs : List Value}, PlainItems vs → WellFormedItems vs
  | [], _ => trivial
  | _ :: _, h => ⟨Plain.wellFormed h.1, wellFormedItems_of_plain h.2⟩

theorem wellFormedMembers_of_plain : ∀ {ms : List (String × Value)}, PlainMembers ms →
    WellFormedMembers ms
  | [], _ => trivial
  | _ :: _, h => ⟨Plain.wellFormed h.1, wellFormedMembers_of_plain h.2⟩
end

end Value

/-- The value of the node of a plain value. -/
theorem Node.value_ofValue (v : Value) (h : v.Plain) : (ofValue v).value = .ok v :=
  value_of_wellFormed v h.wellFormed

namespace Decoder

/-- A list of texts is read back. -/
theorem list_text_ofStrings (ss : List String) :
    list text (.ofValue (.ofStrings ss)) = .ok ss := by
  have h : items text (Node.itemsOfValues (ss.map .string)) = .ok ss := by
    induction ss with
    | nil => rfl
    | cons s ss ih =>
      rw [List.map_cons, Node.itemsOfValues, items, ih]
      rfl
  exact h

/-- A table of strings is read back entry by entry. -/
theorem entries_text_membersOfValues (ss t : Table String) (h : (Table.names (t ++ ss)).Nodup) :
    entries text (Node.membersOfValues (ss.map fun e ↦ (e.1, .string e.2))) t =
      .ok (t ++ ss) := by
  induction ss generalizing t with
  | nil => rw [List.append_nil]; rfl
  | cons e ss ih =>
    have fresh : e.1 ∉ t.names := Table.notMem_names_of_nodup h
    rw [List.append_cons] at h
    rw [List.append_cons t e ss, ← ih _ h, ← Table.insert_of_notMem fresh]
    rfl

/-- A table of texts with distinct names is read back. -/
theorem table_text_ofValue {ss : Table String} (h : ss.names.Nodup) :
    table text (.ofValue (.object (ss.map fun e ↦ (e.1, .string e.2)))) = .ok ss :=
  entries_text_membersOfValues ss [] h

end Decoder

end Toolsmith.Json
