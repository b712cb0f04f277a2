import Toolsmith.Json.Reader
import Toolsmith.Proofs.Outcome
import Toolsmith.Proofs.Table

/-!
# Distinct member names

A reader puts the members of an object into a table one after the other, where an entry takes the
place of an earlier one of its name. So whatever the text repeats, no object in the value that is
read has two members of one name.

## Main definitions

* `Value.WellFormed`: no object in a value has two members of one name.

## Main statements

* `Node.value_of_wellFormed`: nothing is lost when a well-formed value is read from its node.
* `wellFormed_of_parse`: every value that is read from a text is well-formed.
-/

namespace Toolsmith.Json

namespace Value

mutual
/-- No object in the value has two members of one name. -/
def WellFormed : Value → Prop
  | .array items => WellFormedItems items
  | .object members => (Table.names members).Nodup ∧ WellFormedMembers members
  | _ => True

/-- No object in the items has two members of one name. -/
def WellFormedItems : List Value → Prop
  | [] => True
  | v :: vs => v.WellFormed ∧ WellFormedItems vs

/-- No object in the members has two members of one name. -/
def WellFormedMembers : List (String × Value) → Prop
  | [] => True
  | (_, v) :: ms => v.WellFormed ∧ WellFormedMembers ms
end

theorem wellFormedMembers_iff {ms : List (String × Value)} :
    WellFormedMembers ms ↔ ∀ m ∈ ms, m.2.WellFormed := by
  induction ms with
  | nil => simp [WellFormedMembers]
  | cons m ms ih => simp only [WellFormedMembers, ih, List.forall_mem_cons]

/-- The members of a well-formed object are well-formed. -/
theorem WellFormed.of_get? {members : Table Value} (h : (Value.object members).WellFormed)
    {name : String} {v : Value} (hv : members.get? name = some v) : v.WellFormed :=
  wellFormedMembers_iff.1 h.2 _ (Table.mem_of_get? hv)

end Value

/-! ### Values of nodes -/

namespace Node

mutual
/-- The value of a node is well-formed. -/
theorem wellFormed_of_value : ∀ {n : Node} {v : Value}, n.value = .ok v → v.WellFormed
  | .scalar s _ _, v, h => by
    rw [value] at h
    cases h
    cases s <;> trivial
  | .array _ items _, v, h => by
    obtain ⟨vs, hvs, hv⟩ := bind_eq_ok.1 h
    cases hv
    exact wellFormedItems_of_values hvs
  | .object _ members _, v, h => by
    obtain ⟨t, ht, hv⟩ := bind_eq_ok.1 h
    cases hv
    exact wellFormed_of_table (t := []) ⟨List.nodup_nil, trivial⟩ ht
  | .unreadable _ _, _, h => nomatch h
  | .broken _ _ _, _, h => nomatch h

theorem wellFormedItems_of_values : ∀ {items : List Item} {vs : List Value},
    values items = .ok vs → Value.WellFormedItems vs
  | [], _, h => by
    cases h
    trivial
  | .mk _ n _ :: rest, _, h => by
    obtain ⟨v, hv, h⟩ := bind_eq_ok.1 h
    obtain ⟨vs, hvs, h⟩ := bind_eq_ok.1 h
    cases h
    exact ⟨wellFormed_of_value hv, wellFormedItems_of_values hvs⟩

/-- A well-formed table stays so when the values of members are put into it. -/
theorem wellFormed_of_table : ∀ {members : List Member} {t u : Table Value},
    (Value.object t).WellFormed → table members t = .ok u → (Value.object u).WellFormed
  | [], _, _, ht, h => by
    cases h
    exact ht
  | .mk _ _ _ n _ :: rest, t, u, ht, h => by
    obtain ⟨k, -, h⟩ := bind_eq_ok.1 h
    obtain ⟨v, hv, h⟩ := bind_eq_ok.1 h
    refine wellFormed_of_table ⟨Table.nodup_names_insert ht.1 k v, ?_⟩ h
    rw [Value.wellFormedMembers_iff]
    intro m hm
    rcases Table.mem_insert hm with rfl | hm
    · exact wellFormed_of_value hv
    · exact Value.wellFormedMembers_iff.1 ht.2 m hm
  | .broken _ _ _ :: _, _, _, _, h => nomatch h
end

mutual
/-- A well-formed value is the value of its node. -/
theorem value_of_wellFormed : ∀ v : Value, v.WellFormed → (ofValue v).value = .ok v
  | .null, _ | .bool _, _ | .number _, _ | .string _, _ => rfl
  | .array items, h => by
    rw [ofValue, value, values_of_wellFormed items h]
    rfl
  | .object members, h => by
    rw [ofValue, value, table_of_wellFormed members [] h.1 h.2]
    rfl

theorem values_of_wellFormed : ∀ vs : List Value, Value.WellFormedItems vs →
    values (itemsOfValues vs) = .ok vs
  | [], _ => rfl
  | v :: vs, h => by
    rw [itemsOfValues, values, value_of_wellFormed v h.1, values_of_wellFormed vs h.2]
    rfl

theorem table_of_wellFormed : ∀ (ms : List (String × Value)) (t : Table Value),
    (Table.names (t ++ ms)).Nodup → Value.WellFormedMembers ms →
    table (membersOfValues ms) t = .ok (t ++ ms)
  | [], t, _, _ => by rw [membersOfValues, table, List.append_nil]
  | (k, v) :: ms, t, distinct, h => by
    -- The table read so far takes the member at its end, as the name is new to it.
    have fresh : k ∉ t.names := Table.notMem_names_of_nodup distinct
    rw [List.append_cons] at distinct
    rw [membersOfValues, table]
    simp only [bind, Except.bind, value_of_wellFormed v h.1, Table.insert_of_notMem fresh,
      table_of_wellFormed ms _ distinct h.2]
    rw [List.append_cons t (k, v) ms]
end

end Node

/-- Every value that is read from a text is well-formed. -/
theorem wellFormed_of_parse {s : String} {v : Value} (h : parse s = .ok v) : v.WellFormed := by
  obtain ⟨w, hw, h⟩ := bind_eq_ok.1 h
  obtain ⟨_, -, h⟩ := bind_eq_ok.1 h
  cases h
  exact Node.wellFormed_of_value hw

end Toolsmith.Json
