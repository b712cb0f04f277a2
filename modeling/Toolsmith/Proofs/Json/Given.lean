import Toolsmith.Proofs.Json.Members

/-!
# Records read from values

Nothing is broken in the node of a value, so a form of optional fields reads each field from the
values that stand under its name, whatever the other members are. A record may be spelled as an
array, and is then read like the object that has the items under the names of the fields.

## Main definitions

* `Value.under`: the values that members give to a name.
* `Value.memberOf`: the member of an optional field.
* `Value.record?`: the members of a record, spelled in either way.
* `Form.given?`: what an optional field is read from the values under its name.
* `Form.GoesBy`: what a form reads from members is told by their values.

## Main statements

* `Form.optional_goesBy`, `Form.GoesBy.seq`: a record goes by its fields.
* `Form.GoesBy.toOption_decode`: what the decoder of a form reads from a value.
* `toOption_oneOf_ofValue`: of two decoders the first one that fits a value reads it.
-/

namespace Toolsmith.Json

/-! ### Members of values -/

namespace Value

/-- The values that members give to a name, in order. -/
def under (name : String) (ms : List (String × Value)) : List Value :=
  (ms.filter (·.1 = name)).map (·.2)

@[simp] theorem under_nil (name : String) : under name [] = [] := rfl

/-- The values under a name among members are those among the first ones, and then those among the
others. -/
@[simp] theorem under_append (name : String) (ms ns : List (String × Value)) :
    under name (ms ++ ns) = under name ms ++ under name ns := by
  rw [under, List.filter_append, List.map_append]
  rfl

theorem under_cons (name k : String) (v : Value) (ms : List (String × Value)) :
    under name ((k, v) :: ms) = if k = name then v :: under name ms else under name ms := by
  by_cases h : k = name <;> simp [under, h]

/-- There is no value under a name that no member has. -/
theorem under_eq_nil {name : String} {ms : List (String × Value)}
    (h : name ∉ Table.names ms) : under name ms = [] := by
  rw [under, List.map_eq_nil_iff, List.filter_eq_nil_iff]
  intro m hm he
  exact h (List.mem_map.2 ⟨m, hm, of_decide_eq_true he⟩)

/-- A value under a name is that of a member. -/
theorem mem_of_mem_under {name : String} {ms : List (String × Value)} {v : Value}
    (h : v ∈ under name ms) : (name, v) ∈ ms := by
  obtain ⟨m, hm, rfl⟩ := List.mem_map.1 h
  obtain ⟨hm, named⟩ := List.mem_filter.1 hm
  rw [← of_decide_eq_true named]
  exact hm

/-- The member of a name, left out where there is nothing to hold. -/
def memberOf (name : String) (v : Option Value) : List (String × Value) :=
  (v.map (name, ·)).toList

@[simp] theorem under_memberOf (name k : String) (v : Option Value) :
    under name (memberOf k v) = if k = name then v.toList else [] := by
  cases v with
  | none => simp [memberOf]
  | some v => simp [memberOf, under_cons]

/-- The members of a record with fields of these names: those of an object, or the items of an
array that has one for each field. -/
def record? (names : List String) : Value → Option (List (String × Value))
  | .object ms => some ms
  | .array vs => if vs.length = names.length then some (names.zip vs) else none
  | _ => none

/-- Only an object or an array is a record. -/
theorem string?_of_record? {names : List String} {v : Value} {ms : List (String × Value)}
    (h : v.record? names = some ms) : v.string? = none := by
  cases v with
  | array | object => rfl
  | null | bool | number | string => cases h

/-- A member of an object is not as deep as the object. -/
theorem depth_lt_of_mem_object {ms : List (String × Value)} {name : String} {v : Value}
    (h : (name, v) ∈ ms) : v.depth < (Value.object ms).depth := by
  rw [depth, Nat.lt_succ_iff]
  induction ms with
  | nil => cases h
  | cons m ms ih =>
    rw [depthMembers]
    rcases List.mem_cons.1 h with rfl | h
    · exact Nat.le_max_left _ _
    · exact Nat.le_trans (ih h) (Nat.le_max_right _ _)

/-- An item of an array is not as deep as the array. -/
theorem depth_lt_of_mem_array {vs : List Value} {v : Value} (h : v ∈ vs) :
    v.depth < (Value.array vs).depth := by
  rw [depth, Nat.lt_succ_iff]
  induction vs with
  | nil => cases h
  | cons w vs ih =>
    rw [depthItems]
    rcases List.mem_cons.1 h with rfl | h
    · exact Nat.le_max_left _ _
    · exact Nat.le_trans (ih h) (Nat.le_max_right _ _)

/-- A member of a record is not as deep as the record. -/
theorem depth_lt_of_record? {names : List String} {v w : Value} {ms : List (String × Value)}
    (h : v.record? names = some ms) {name : String} (hw : (name, w) ∈ ms) :
    w.depth < v.depth := by
  cases v with
  | object ns =>
    cases h
    exact depth_lt_of_mem_object hw
  | array vs =>
    rw [record?] at h
    split at h
    · cases h
      exact depth_lt_of_mem_array (List.of_mem_zip hw).2
    · cases h
  | null | bool | number | string => cases h

end Value

/-! ### Nodes of values -/

namespace Node

mutual
/-- The node of a value can be read, though repeated members are lost. -/
theorem exists_value : ∀ v : Value, ∃ w, (ofValue v).value = .ok w
  | .null | .bool _ | .number _ | .string _ => ⟨_, rfl⟩
  | .array vs => by
    obtain ⟨ws, h⟩ := exists_values vs
    exact ⟨.array ws, by rw [ofValue, value, h]; rfl⟩
  | .object ms => by
    obtain ⟨u, h⟩ := exists_table ms []
    exact ⟨.object u, by rw [ofValue, value, h]; rfl⟩

theorem exists_values : ∀ vs : List Value, ∃ ws, values (itemsOfValues vs) = .ok ws
  | [] => ⟨[], rfl⟩
  | v :: vs => by
    obtain ⟨w, hw⟩ := exists_value v
    obtain ⟨ws, hws⟩ := exists_values vs
    exact ⟨w :: ws, by rw [itemsOfValues, values, hw, hws]; rfl⟩

theorem exists_table : ∀ (ms : List (String × Value)) (t : Table Value),
    ∃ u, table (membersOfValues ms) t = .ok u
  | [], t => ⟨t, rfl⟩
  | (k, v) :: ms, t => by
    obtain ⟨w, hw⟩ := exists_value v
    obtain ⟨u, hu⟩ := exists_table ms (t.insert k w)
    exact ⟨u, by simp only [membersOfValues, table, bind, Except.bind, hw, hu]⟩
end

/-- The members that stand for values can be read. -/
theorem readable_membersOfValues (ms : List (String × Value)) :
    ∀ m ∈ membersOfValues ms, m.Readable := by
  obtain ⟨u, h⟩ := exists_table ms []
  exact (readable_of_table h).1

/-- Their values under a name are the ones that they stand for. -/
theorem under_membersOfValues (name : String) (ms : List (String × Value)) :
    Member.under name (membersOfValues ms) = (Value.under name ms).map ofValue := by
  induction ms with
  | nil => rfl
  | cons m ms ih =>
    obtain ⟨k, v⟩ := m
    rw [membersOfValues, Value.under_cons]
    split
    next h => rw [h, Member.under_cons_self, ih, List.map_cons]
    next h => rw [Member.under_cons_of_ne h, ih]

end Node

/-! ### Decoders of values -/

variable {α β : Type}

theorem toOption_text (v : Value) : (Decoder.text (.ofValue v)).toOption = v.string? := by
  cases v <;> rfl

/-- A list is read from an array, item by item. -/
theorem toOption_list_array (read : Decoder α) (vs : List Value) :
    (Decoder.list read (.ofValue (.array vs))).toOption =
      vs.mapM fun v ↦ (read (.ofValue v)).toOption := by
  rw [Node.ofValue, Decoder.list]
  induction vs with
  | nil => rfl
  | cons v vs ih =>
    rw [Node.itemsOfValues, Decoder.items, toOption_bind, toOption_placed, List.mapM_cons]
    simp only [toOption_bind, ih]
    rfl

/-- A list is read from nothing but an array, item by item. -/
theorem toOption_list (read : Decoder α) (v : Value) :
    (Decoder.list read (.ofValue v)).toOption =
      v.array?.bind (·.mapM fun v ↦ (read (.ofValue v)).toOption) := by
  cases v with
  | array vs => exact toOption_list_array read vs
  | null | bool | number | string | object => rfl

/-- A list is read whose items are read from their spellings. -/
theorem toOption_list_map {read : Decoder α} {spell : α → Value} {l : List α}
    (h : ∀ a ∈ l, (read (.ofValue (spell a))).toOption = some a) :
    (Decoder.list read (.ofValue (.array (l.map spell)))).toOption = some l := by
  rw [toOption_list_array, List.mapM_map]
  induction l with
  | nil => rfl
  | cons a l ih =>
    obtain ⟨first, rest⟩ := List.forall_mem_cons.1 h
    rw [List.mapM_cons, ih rest]
    show ((read (.ofValue (spell a))).toOption.bind fun b ↦ some (b :: l)) = _
    rw [first, Option.bind_some]

/-- Lists are read alike whose items are, one by one. -/
theorem toOption_list_congr {read read' : Decoder α} {vs vs' : List Value}
    (h : (vs.map fun v ↦ (read (.ofValue v)).toOption) =
      vs'.map fun v ↦ (read' (.ofValue v)).toOption) :
    (Decoder.list read (.ofValue (.array vs))).toOption =
      (Decoder.list read' (.ofValue (.array vs'))).toOption := by
  have collected (read : Decoder α) (vs : List Value) :
      (Decoder.list read (.ofValue (.array vs))).toOption =
        (vs.map fun v ↦ (read (.ofValue v)).toOption).mapM id := by
    rw [toOption_list_array, List.mapM_map]
    rfl
  rw [collected, collected, h]

/-- Of two decoders the first one that fits reads a value. -/
theorem toOption_oneOf_ofValue (type : String) (first second : Decoder α) (v : Value) :
    (oneOf type [first, second] (.ofValue v)).toOption =
      (first (.ofValue v)).toOption.or (second (.ofValue v)).toOption := by
  obtain ⟨w, hw⟩ := Node.exists_value v
  rw [oneOf, hw, toOption_bind, toOption_ok, Option.bind_some]
  cases h : first (.ofValue v) <;> cases h' : second (.ofValue v) <;>
    simp [List.findSome?, h, h']

/-! ### Forms of values -/

namespace Form

variable {form : Form α} {ms : List (String × Value)}

/-- What a field that may be missing or null is read from the values under its name. -/
def given? (read : Decoder α) : List Value → Option (Option α)
  | [] => some none
  | [v] => (Decoder.nullable read (.ofValue v)).toOption
  | _ => none

@[simp] theorem given?_nil (read : Decoder α) : given? read [] = some none := rfl

@[simp] theorem given?_null (read : Decoder α) : given? read [.null] = some none := rfl

/-- A field that is given once, and not null, has the value that is read there. -/
theorem given?_singleton {read : Decoder α} {v : Value} (h : v.kind ≠ .null) :
    given? read [v] = (read (.ofValue v)).toOption.map some := by
  rw [given?, ← toOption_map]
  cases v with
  | null => exact absurd rfl h
  | bool | number | string | array | object => rfl

/-- An optional field is read from its member. -/
theorem given?_toList {read : Decoder α} {spell : α → Value} {a? : Option α}
    (h : ∀ a, a? = some a →
      (spell a).kind ≠ .null ∧ (read (.ofValue (spell a))).toOption = some a) :
    given? read (a?.map spell).toList = some a? := by
  cases a? with
  | none => rfl
  | some a =>
    obtain ⟨other, reads⟩ := h a rfl
    exact (given?_singleton other).trans (congrArg (Option.map some) reads)

/-- A text is read from its member. -/
theorem given?_text_toList (s? : Option String) :
    given? .text (s?.map Value.string).toList = some s? :=
  given?_toList fun _ _ ↦ ⟨nofun, rfl⟩

/-- What is made of a value that is given may be made after reading it. -/
theorem given?_map (read : Decoder α) (f : α → β) (vs : List Value) :
    given? (fun n ↦ (read n).map f) vs = (given? read vs).map (Option.map f) := by
  match vs with
  | [] | _ :: _ :: _ => rfl
  | [v] =>
    by_cases null : v.kind = .null
    · cases v <;> cases null
      rfl
    · rw [given?_singleton null, given?_singleton null, toOption_map, Option.map_map,
        Option.map_map]
      rfl

/-- A field is given alike by decoders that read its values alike. -/
theorem given?_congr {read read' : Decoder α} {vs : List Value}
    (h : ∀ v ∈ vs, (read (.ofValue v)).toOption = (read' (.ofValue v)).toOption) :
    given? read vs = given? read' vs := by
  match vs with
  | [] | _ :: _ :: _ => rfl
  | [v] =>
    by_cases null : v.kind = .null
    · cases v with
      | null => rfl
      | bool | number | string | array | object => cases null
    · rw [given?_singleton null, given?_singleton null, h v (List.mem_singleton_self v)]

/-- What the form reads from the members of an object is told by their values. -/
def GoesBy (form : Form α) (ofMembers? : List (String × Value) → Option α) : Prop :=
  ∀ ms, form.read? (Node.membersOfValues ms) = ofMembers? ms

/-- An optional field goes by the values under its name. -/
theorem optional_goesBy (name : String) (read : Decoder α) :
    (optional name read).GoesBy fun ms ↦ given? read (Value.under name ms) := by
  intro ms
  show _ = given? read (Value.under name ms)
  rw [optional, read?_single (Node.readable_membersOfValues ms), Node.under_membersOfValues]
  match Value.under name ms with
  | [] | [_] | _ :: _ :: _ => rfl

namespace GoesBy

/-- A form that goes by its members does so when something is made of its value. -/
theorem map {ofMembers? : List (String × Value) → Option α} (h : form.GoesBy ofMembers?)
    (g : α → β) : (g <$> form).GoesBy fun ms ↦ g <$> ofMembers? ms := by
  intro ms
  rw [read?_map (Node.readable_membersOfValues ms), h ms]
  rfl

/-- Two forms go by their own parts of a record where the fields of the second one are new. -/
theorem seq {f : Form (α → β)} {x : Form α} {function? : List (String × Value) → Option (α → β)}
    {argument? : List (String × Value) → Option α} (hf : f.GoesBy function?)
    (hx : x.GoesBy argument?) (fresh : (x.fields.any fun field ↦ f.has field.name) = false) :
    (f <*> x).GoesBy fun ms ↦ function? ms <*> argument? ms := by
  intro ms
  show _ = function? ms <*> argument? ms
  have apart : ∀ field ∈ f.fields, x.has field.name = false := by
    intro field hf
    rw [has, List.any_eq_false]
    intro field' hf' same
    rw [List.any_eq_false] at fresh
    refine fresh field' hf' (List.any_eq_true.2 ⟨field, hf, ?_⟩)
    exact decide_eq_true (of_decide_eq_true same).symm
  rw [read?_seq apart (Node.readable_membersOfValues ms), hf ms, hx ms]
  cases function? ms <;> rfl

end GoesBy

/-- Items are filled in like members under the names of the fields. -/
theorem toOption_fillItems {type : String} {length i : Nat} {names seen : List String}
    {vs : List Value} (known : ∀ name ∈ names, form.has name = true) (distinct : names.Nodup)
    (fresh : ∀ name ∈ names, name ∉ seen) (d : form.Draft) :
    (form.fillItems type length (names.map (⟨·, false⟩)) (Node.itemsOfValues vs) i d).toOption =
      if vs.length = names.length then
        (form.fillMembers seen (Node.membersOfValues (names.zip vs)) d).toOption
      else none := by
  induction names generalizing seen vs i d with
  | nil =>
    cases vs with
    | nil => rfl
    | cons v vs => rfl
  | cons name names ih =>
    obtain ⟨has, known⟩ := List.forall_mem_cons.1 known
    obtain ⟨new, distinct⟩ := List.nodup_cons.1 distinct
    obtain ⟨unseen, fresh⟩ := List.forall_mem_cons.1 fresh
    cases vs with
    | nil => rfl
    | cons v vs =>
      obtain ⟨w, hw⟩ := Node.exists_value v
      -- The name of the item is seen from here on, and no later field has it.
      have later (d : form.Draft) := @ih (i + 1) (name :: seen) vs known distinct
        (fun k hk ↦ List.not_mem_cons_of_ne_of_not_mem (ne_of_mem_of_not_mem hk new) (fresh k hk))
        d
      rw [List.map_cons, Node.itemsOfValues, fillItems, toOption_bind, toOption_placed,
        List.zip_cons_cons, Node.membersOfValues, toOption_fillMembers_cons hw, if_pos has,
        if_neg unseen]
      simp only [later, List.length_cons, Nat.add_right_cancel_iff]
      split <;> simp

namespace GoesBy

variable {ofMembers? : List (String × Value) → Option α}

/-- What the decoder of a form without omissible fields reads from a value. -/
theorem toOption_decode (h : form.GoesBy ofMembers?) (names : List String)
    (fields : form.fields = names.map (⟨·, false⟩)) (distinct : names.Nodup) (type : String)
    (v : Value) : (form.decode type (.ofValue v)).toOption = (v.record? names).bind ofMembers? := by
  cases v with
  | object ms => exact (toOption_decode_object type none none).trans (h ms)
  | array vs =>
    have known (name : String) (hn : name ∈ names) : form.has name = true := by
      rw [has, fields]
      exact List.any_eq_true.2 ⟨⟨name, false⟩, List.mem_map_of_mem hn, decide_eq_true rfl⟩
    rw [Node.ofValue, decode, toOption_placed, toOption_bind, fields,
      @toOption_fillItems α form _ _ _ names [] vs known distinct fun _ _ ↦ List.not_mem_nil,
      Value.record?]
    split
    · exact h (names.zip vs)
    · rfl
  | null | bool | number | string => rfl

/-- What the decoder of a form reads from a value that may be no array. -/
theorem toOption_decodeObject (h : form.GoesBy ofMembers?) (type : String) (v : Value) :
    (form.decodeObject type (.ofValue v)).toOption = v.object?.bind ofMembers? := by
  cases v with
  | object ms => exact (toOption_decode_object type none none).trans (h ms)
  | array | null | bool | number | string => rfl

end GoesBy

end Form

end Toolsmith.Json
