import Toolsmith.Proofs.Json.Place
import Toolsmith.Proofs.Json.Record
import Toolsmith.Proofs.Outcome
import Toolsmith.Proofs.Table

/-!
# Records read from objects with any members

A text may repeat a member and hold members that a form does not know. A form skips what it does not
know, and minds a repetition only of a field of its own. So each field is read by itself, from the
nodes that stand under its name, whatever the other fields and the other members are; and where a
decoder goes by the value of a node, it is read from the value of the object.

Reading fails or succeeds here without regard to faults, as the first fault on the way does depend
on the order of the members.

## Main definitions

* `Member.names`, `Member.under`: the names of members, and the nodes under a name.
* `namesIn`: the names of the members in a text, each as often as it is spelled.
* `Form.read?`: the record that a form reads from members.
* `Decoder.GoesBy`: what a decoder reads is told by the value of the node.

## Main statements

* `Form.read?_seq`: the parts of a record are read apart.
* `Form.read?_required`, `Form.read?_omissible`: a field is read from the value of the object,
  unless its name is repeated.
-/

namespace Toolsmith.Json

/-! ### Members by name -/

namespace Member

/-- The name and the node of a member, if the name can be read. -/
def entry? : Member → Option (String × Node)
  | .mk (.ok k) _ _ n _ => some (k, n)
  | _ => none

/-- The names of members, each as often as it is spelled. -/
def names (ms : List Member) : List String :=
  (ms.filterMap entry?).map (·.1)

/-- The nodes under a name, in order. -/
def under (name : String) (ms : List Member) : List Node :=
  ((ms.filterMap entry?).filter (·.1 = name)).map (·.2)

/-- Whether the name and the value of a member can be read. -/
def Readable (m : Member) : Prop :=
  ∃ k keyStop keyResume n resume v, m = .mk (.ok k) keyStop keyResume n resume ∧ n.value = .ok v

/-- A name occurs as often as there are values under it. -/
theorem count_names (name : String) (ms : List Member) :
    (names ms).count name = (under name ms).length := by
  rw [names, under, List.length_map, List.count, List.countP_map, List.countP_eq_length_filter]
  congr 1

/-- The members that stand for a table have the names of the table. -/
theorem names_membersOfValues (t : Table Value) : names (Node.membersOfValues t) = t.names := by
  induction t with
  | nil => rfl
  | cons e t ih => exact congrArg (e.1 :: ·) ih

variable {k name : String} {keyStop keyResume resume : Option Position} {n : Node}
  {ms : List Member}

theorem under_cons_self : under k (.mk (.ok k) keyStop keyResume n resume :: ms) =
    n :: under k ms := by
  simp [under, entry?]

theorem under_cons_of_ne (h : k ≠ name) :
    under name (.mk (.ok k) keyStop keyResume n resume :: ms) = under name ms := by
  simp [under, entry?, h]

/-- The nodes under a name can be read where the members can. -/
theorem exists_value_of_mem_under (readable : ∀ m ∈ ms, m.Readable) (h : n ∈ under name ms) :
    ∃ v, n.value = .ok v := by
  obtain ⟨e, he, rfl⟩ := List.mem_map.1 h
  obtain ⟨m, hm, entry⟩ := List.mem_filterMap.1 (List.mem_filter.1 he).1
  obtain ⟨_, _, _, _, _, v, rfl, hv⟩ := readable m hm
  cases entry
  exact ⟨v, hv⟩

end Member

open Member (under)

/-! ### The members of a readable object -/

namespace Node

mutual
/-- What can be read can be skipped. -/
theorem skip_of_value : ∀ {n : Node} {v : Value}, n.value = .ok v → n.skip = .ok ()
  | .scalar _ _ _, _, _ => rfl
  | .array _ items _, _, h => by
    obtain ⟨vs, hvs, -⟩ := bind_eq_ok.1 h
    rw [skip]
    exact skipItems_of_values hvs
  | .object _ members _, _, h => by
    obtain ⟨t, ht, -⟩ := bind_eq_ok.1 h
    rw [skip]
    exact skipMembers_of_table ht
  | .unreadable _ _, _, _ => rfl
  | .broken _ _ _, _, h => nomatch h

/-- Items that are read as values can be passed over. -/
theorem skipItems_of_values : ∀ {items : List Item} {vs : List Value},
    values items = .ok vs → skipItems items = .ok ()
  | [], _, _ => rfl
  | .mk _ n _ :: rest, _, h => by
    obtain ⟨v, hv, h⟩ := bind_eq_ok.1 h
    obtain ⟨vs, hvs, -⟩ := bind_eq_ok.1 h
    rw [skipItems, check_bind_eq_ok]
    exact ⟨skip_of_value hv, skipItems_of_values hvs⟩

/-- Members that are read as a table can be passed over. -/
theorem skipMembers_of_table : ∀ {members : List Member} {t u : Table Value},
    table members t = .ok u → skipMembers members = .ok ()
  | [], _, _, _ => rfl
  | .mk _ _ _ n _ :: rest, _, _, h => by
    obtain ⟨k, -, h⟩ := bind_eq_ok.1 h
    obtain ⟨v, hv, h⟩ := bind_eq_ok.1 h
    rw [skipMembers, check_bind_eq_ok]
    exact ⟨skip_of_value hv, skipMembers_of_table h⟩
  | .broken _ _ _ :: _, _, _, h => nomatch h
end

/-- The members of an object that can be read are readable, and an entry of its table is the value
of the last node under its name. -/
theorem readable_of_table : ∀ {ms : List Member} {t u : Table Value}, table ms t = .ok u →
    (∀ m ∈ ms, m.Readable) ∧ ∀ name, u.get? name =
      match (under name ms).getLast? with
      | some n => n.value.toOption
      | none => t.get? name
  | [], _, _, h => by
    cases h
    exact ⟨fun _ hm ↦ absurd hm List.not_mem_nil, fun _ ↦ rfl⟩
  | .mk _ keyStop keyResume n resume :: rest, t, u, h => by
    obtain ⟨k, rfl, body⟩ := bind_eq_ok.1 h
    obtain ⟨v, hv, later⟩ := bind_eq_ok.1 body
    obtain ⟨readable, entry⟩ := readable_of_table later
    refine ⟨List.forall_mem_cons.2 ⟨⟨k, _, _, n, _, v, rfl, hv⟩, readable⟩, fun name ↦ ?_⟩
    rw [entry name, Table.get?_insert]
    by_cases hk : k = name
    · subst hk
      rw [Member.under_cons_self, List.getLast?_cons]
      cases (under k rest).getLast? <;> simp [hv]
    · rw [Member.under_cons_of_ne hk]
      simp [hk]
  | .broken _ _ _ :: _, _, _, h => nomatch h

end Node

/-! ### Decoders that go by the value -/

namespace Decoder

/-- What the decoder reads from a node that can be read is told by the value of the node. -/
def GoesBy {α : Type} (read : Decoder α) (ofValue? : Value → Option α) : Prop :=
  ∀ ⦃n : Node⦄ ⦃v : Value⦄, n.value = .ok v → (read n).toOption = ofValue? v

variable {α : Type} {read : Decoder α} {ofValue? : Value → Option α}

/-- A node that can be read is a scalar, an array or an object, and so is its value. -/
theorem goesBy_of_cases
    (scalar : ∀ s start stop, (read (.scalar s start stop)).toOption = ofValue? s.value)
    (array : ∀ {start items stop vs}, (Node.array start items stop).value = .ok (.array vs) →
      (read (.array start items stop)).toOption = ofValue? (.array vs))
    (object : ∀ {start ms stop u}, (Node.object start ms stop).value = .ok (.object u) →
      (read (.object start ms stop)).toOption = ofValue? (.object u)) : read.GoesBy ofValue? := by
  intro n v h
  cases n with
  | scalar s start stop =>
    cases h
    exact scalar s start stop
  | array =>
    obtain ⟨_, -, made⟩ := bind_eq_ok.1 h
    cases made
    exact array h
  | object =>
    obtain ⟨_, -, made⟩ := bind_eq_ok.1 h
    cases made
    exact object h
  | unreadable | broken => cases h

/-- Any value is read as itself. -/
theorem any_goesBy : GoesBy any some := fun _ _ h ↦ by rw [any, h, toOption_ok]

/-- A text is read from a string. -/
theorem text_goesBy : GoesBy text Value.string? :=
  goesBy_of_cases (fun s _ _ ↦ by cases s <;> rfl) (fun _ ↦ rfl) fun _ ↦ rfl

/-- An integer is read from one that lies between the bounds. -/
theorem integer_goesBy (type : String) (low high : Int) :
    GoesBy (integer type low high) fun v ↦
      match v with
      | .number (.integer n) => if low ≤ n ∧ n ≤ high then some n else none
      | _ => none := by
  refine goesBy_of_cases (fun s _ _ ↦ ?_) (fun _ ↦ rfl) fun _ ↦ rfl
  cases s with
  | number n =>
    cases n with
    | integer n =>
      simp only [integer, Scalar.value]
      split <;> rfl
    | double => rfl
  | null | bool | string => rfl

/-- A value that may be null goes by the value if it is not. -/
theorem GoesBy.nullable (h : read.GoesBy ofValue?) :
    GoesBy (nullable read) fun v ↦
      if v.kind = .null then some none else (ofValue? v).map some := by
  have other {n : Node} {v : Value} (hv : n.value = .ok v) :
      ((read n).map some).toOption = (ofValue? v).map some := by rw [toOption_map, h hv]
  refine goesBy_of_cases (fun s start stop ↦ ?_) other other
  cases s with
  | null => rfl
  | bool | number | string => exact other (n := .scalar _ start stop) rfl

end Decoder

/-! ### Fields by themselves -/

namespace Form

variable {α β : Type} {form : Form α} {ms : List Member} {seen : List String}

/-- What is filled in hangs on the names seen only as far as the form has them. -/
theorem fillMembers_congr {seen' : List String} (d : form.Draft)
    (h : ∀ k, form.has k = true → (k ∈ seen ↔ k ∈ seen')) :
    form.fillMembers seen ms d = form.fillMembers seen' ms d := by
  induction ms generalizing seen seen' d with
  | nil => rfl
  | cons m ms ih =>
    cases m with
    | broken => rfl
    | mk key _ keyResume n resume =>
      rw [fillMembers, fillMembers]
      congr 1
      funext k
      by_cases has : form.has k = true
      · have contains : seen.contains k = seen'.contains k := by
          rw [Bool.eq_iff_iff, List.contains_iff_mem, List.contains_iff_mem]
          exact h k has
        have later (d : form.Draft) :
            form.fillMembers (k :: seen) ms d = form.fillMembers (k :: seen') ms d :=
          ih d fun j hj ↦ by rw [List.mem_cons, List.mem_cons, h j hj]
        rw [if_pos has, if_pos has]
        simp only [contains, later]
      · rw [if_neg has, if_neg has, ih d h]

/-- A form does not mind that a name was seen that it does not have. -/
theorem fillMembers_cons_seen {k : String} (h : form.has k = false) (d : form.Draft) :
    form.fillMembers (k :: seen) ms d = form.fillMembers seen ms d :=
  fillMembers_congr d fun j hj ↦ by
    rw [List.mem_cons, or_iff_right]
    rintro rfl
    cases h.symm.trans hj

/-- A readable member is filled in where the form has it and has not seen it, and skipped where the
form does not have it. -/
theorem toOption_fillMembers_cons {k : String} {keyStop keyResume resume : Option Position}
    {n : Node} {v : Value} (hv : n.value = .ok v) (d : form.Draft) :
    (form.fillMembers seen (.mk (.ok k) keyStop keyResume n resume :: ms) d).toOption =
      if form.has k then
        if k ∈ seen then none
        else (form.fill k n d).toOption.bind fun d ↦ (form.fillMembers (k :: seen) ms d).toOption
      else (form.fillMembers seen ms d).toOption := by
  rw [fillMembers]
  simp only [bind, Except.bind, List.contains_iff_mem]
  split
  · split
    · rfl
    · rw [← toOption_placed resume (form.fill k n d)]
      cases placed resume (form.fill k n d) <;> rfl
  · rw [Node.skip_of_value hv]

section Seq

variable {f : Form (α → β)} {x : Form α}

/-- Two forms without a field in common are filled in apart. -/
theorem toOption_fillMembers_seq (apart : ∀ name, f.has name = true → x.has name = false)
    (readable : ∀ m ∈ ms, m.Readable) (d : f.Draft) (e : x.Draft) :
    ((f <*> x).fillMembers seen ms (d, e)).toOption =
      (f.fillMembers seen ms d).toOption.bind fun d ↦
        (x.fillMembers seen ms e).toOption.map fun e ↦ (d, e) := by
  induction ms generalizing seen d e with
  | nil => rfl
  | cons m ms ih =>
    obtain ⟨⟨k, _, _, n, _, v, rfl, hv⟩, rest⟩ := List.forall_mem_cons.1 readable
    have later (seen : List String) := @ih seen rest
    simp only [toOption_fillMembers_cons hv, has_seq]
    cases left : f.has k with
    | true =>
      have right : x.has k = false := apart k left
      have filled : (f <*> x).fill k n (d, e) = (f.fill k n d).map (·, e) := by
        simp only [Seq.seq, left, if_true]
      rw [filled, right]
      by_cases met : k ∈ seen
      · simp [met]
      rcases f.fill k n d with _ | d'
      · simp [met, Except.map]
      · simp [met, Except.map, later, fillMembers_cons_seen right]
    | false =>
      have filled : (f <*> x).fill k n (d, e) = (x.fill k n e).map (d, ·) := by
        simp only [Seq.seq, left, Bool.false_eq_true, if_false]
      cases right : x.has k with
      | true =>
        rw [filled]
        by_cases met : k ∈ seen
        · simp [met]
        rcases x.fill k n e with _ | e'
        · simp [met, Except.map]
        · simp [met, Except.map, later, fillMembers_cons_seen left]
      | false => simp [later]

end Seq

/-- The record that the form reads from members, if it reads one. -/
def read? (form : Form α) (ms : List Member) : Option α :=
  (form.fillMembers [] ms form.blank).toOption.bind fun d ↦ (form.finish d).toOption

/-- A record is read from an object by way of its members. -/
theorem toOption_decode_object (type : String) (start stop : Option Position) :
    (form.decode type (.object start ms stop)).toOption = form.read? ms := by
  rw [decode, toOption_placed, toOption_bind, read?]

/-- A form without fields skips everything. -/
theorem read?_pure (readable : ∀ m ∈ ms, m.Readable) (a : α) :
    (pure a : Form α).read? ms = some a := by
  have skipped (seen : List String) :
      ((pure a : Form α).fillMembers seen ms ()).toOption = some () := by
    induction ms with
    | nil => rfl
    | cons m ms ih =>
      obtain ⟨⟨k, _, _, n, _, v, rfl, hv⟩, rest⟩ := List.forall_mem_cons.1 readable
      rw [toOption_fillMembers_cons hv, if_neg (by simp [has, pure]), ih rest]
  rw [read?, show (pure a : Form α).blank = () from rfl, skipped]
  rfl

/-- Two forms without a field in common read their parts of the record apart. -/
theorem read?_seq {f : Form (α → β)} {x : Form α}
    (apart : ∀ field ∈ f.fields, x.has field.name = false) (readable : ∀ m ∈ ms, m.Readable) :
    (f <*> x).read? ms = (f.read? ms).bind fun g ↦ (x.read? ms).map g := by
  have fresh (name : String) (h : f.has name = true) : x.has name = false := by
    obtain ⟨field, hf, hname⟩ := List.any_eq_true.1 h
    exact of_decide_eq_true hname ▸ apart field hf
  rw [read?, show (f <*> x).blank = (f.blank, x.blank) from rfl,
    toOption_fillMembers_seq fresh readable, read?, read?]
  cases (f.fillMembers [] ms f.blank).toOption with
  | none => rfl
  | some d =>
    cases (x.fillMembers [] ms x.blank).toOption with
    | none => cases h : (f.finish d).toOption <;> simp [h]
    | some e =>
      simp only [Option.bind_some, Option.map_some, Seq.seq, toOption_bind]
      cases (f.finish d).toOption with
      | none => rfl
      | some g => cases (x.finish e).toOption <;> rfl

/-- What is made of a record may be made after reading its members. -/
theorem read?_map (readable : ∀ m ∈ ms, m.Readable) (g : α → β) :
    (g <$> form).read? ms = (form.read? ms).map g := by
  have split := read?_seq (f := pure g) (x := form) (fun _ h ↦ absurd h List.not_mem_nil) readable
  rw [read?_pure readable] at split
  exact split

/-! ### A field and the nodes under its name -/

/-- What a field is read from the nodes under its name. -/
def fieldOf (absent : Except Fault α) (read : Decoder α) : List Node → Option α
  | [] => absent.toOption
  | [n] => (read n).toOption
  | _ => none

section Single

variable {name : String} {omissible : Bool} {absent : Except Fault α} {read : Decoder α}

theorem has_single (k : String) :
    (single name omissible absent read).has k = decide (name = k) := by
  simp [has, single]

/-- A field that has been seen may not come again. -/
theorem toOption_fillMembers_single_of_mem (readable : ∀ m ∈ ms, m.Readable)
    (met : name ∈ seen) (d : (single name omissible absent read).Draft) :
    ((single name omissible absent read).fillMembers seen ms d).toOption =
      if under name ms = [] then some d else none := by
  induction ms with
  | nil => rfl
  | cons m ms ih =>
    obtain ⟨⟨k, _, _, n, _, v, rfl, hv⟩, rest⟩ := List.forall_mem_cons.1 readable
    rw [toOption_fillMembers_cons hv, has_single]
    by_cases hk : name = k
    · subst hk
      simp [met, Member.under_cons_self]
    · rw [Member.under_cons_of_ne (Ne.symm hk), ← ih rest]
      simp [hk]

/-- A field is read from the nodes under its name alone. -/
theorem read?_single (readable : ∀ m ∈ ms, m.Readable) :
    (single name omissible absent read).read? ms = fieldOf absent read (under name ms) := by
  rw [read?]
  induction ms with
  | nil => rfl
  | cons m ms ih =>
    obtain ⟨⟨k, _, _, n, _, v, rfl, hv⟩, rest⟩ := List.forall_mem_cons.1 readable
    rw [toOption_fillMembers_cons hv, has_single]
    by_cases hk : name = k
    · subst hk
      rw [Member.under_cons_self, if_pos (decide_eq_true rfl), if_neg List.not_mem_nil]
      rcases hn : read n with f | a
      · have filled : (single name omissible absent read).fill name n
            (single name omissible absent read).blank = .error f := congrArg (Except.map some) hn
        rw [filled]
        cases under name ms <;> simp [fieldOf, hn]
      · obtain ⟨d, filled, finish⟩ : ∃ d, (single name omissible absent read).fill name n
            (single name omissible absent read).blank = .ok d ∧
            (single name omissible absent read).finish d = .ok a :=
          ⟨some a, congrArg (Except.map some) hn, rfl⟩
        have again := toOption_fillMembers_single_of_mem rest (List.mem_singleton_self name) d
        rw [filled, toOption_ok, Option.bind_some, again]
        cases under name ms <;> simp [fieldOf, finish, hn]
    · rw [Member.under_cons_of_ne (Ne.symm hk), ← ih rest]
      simp [hk]

end Single

section Table

variable {u : Table Value} {read : Decoder α} {ofValue? : Value → Option α}

/-- A field is read from the value of the object, as long as its name is not repeated. -/
theorem fieldOf_under (h : Node.table ms [] = .ok u) (goes : read.GoesBy ofValue?)
    (absent : Except Fault α) (name : String) :
    fieldOf absent read (under name ms) =
      if (Member.names ms).count name ≤ 1 then
        match u.get? name with
        | some v => ofValue? v
        | none => absent.toOption
      else none := by
  obtain ⟨readable, entry⟩ := Node.readable_of_table h
  rw [Member.count_names, entry name]
  match hn : under name ms with
  | [] => rfl
  | [n] =>
    obtain ⟨v, hv⟩ := Member.exists_value_of_mem_under readable (hn ▸ List.mem_singleton_self n)
    simp [fieldOf, hv, goes hv]
  | _ :: _ :: _ => simp [fieldOf]

/-- A field that is required has to be there once. -/
theorem read?_required (h : Node.table ms [] = .ok u) (goes : read.GoesBy ofValue?)
    (name : String) :
    (required name read).read? ms =
      if (Member.names ms).count name ≤ 1 then (u.get? name).bind ofValue? else none := by
  rw [required, read?_single (Node.readable_of_table h).1, fieldOf_under h goes]
  cases u.get? name <;> rfl

/-- A field that may be missing may be null as well, but not there twice. -/
theorem read?_omissible (h : Node.table ms [] = .ok u) (goes : read.GoesBy ofValue?)
    (name : String) :
    (omissible name read).read? ms =
      if (Member.names ms).count name ≤ 1 then
        match (u.get? name).filter (·.kind ≠ .null) with
        | some v => (ofValue? v).map some
        | none => some none
      else none := by
  rw [omissible, read?_single (Node.readable_of_table h).1, fieldOf_under h goes.nullable]
  cases u.get? name with
  | none => rfl
  | some v => by_cases null : v.kind = .null <;> simp [null, Option.filter]

/-- A field with a fallback has that if it is missing. -/
theorem read?_defaulted (h : Node.table ms [] = .ok u) (goes : read.GoesBy ofValue?)
    (name : String) (fallback : α) :
    (defaulted name fallback read).read? ms =
      if (Member.names ms).count name ≤ 1 then
        match u.get? name with
        | some v => ofValue? v
        | none => some fallback
      else none := by
  rw [defaulted, read?_single (Node.readable_of_table h).1, fieldOf_under h goes]
  cases u.get? name <;> rfl

/-- Any value is read where it is not null. -/
theorem read?_omissible_any (h : Node.table ms [] = .ok u) (name : String) :
    (omissible name .any).read? ms =
      if (Member.names ms).count name ≤ 1 then some ((u.get? name).filter (·.kind ≠ .null))
      else none := by
  rw [read?_omissible h Decoder.any_goesBy]
  cases (u.get? name).filter (·.kind ≠ .null) <;> rfl

end Table

end Form

/-! ### Objects in texts -/

/-- The names of the members of the object that a text spells, each as often as it is spelled. -/
def namesIn (text : String) : List String :=
  match (Document.ofText text).root with
  | .object _ ms _ => Member.names ms
  | _ => []

/-- The document of a text that spells an object. -/
theorem exists_object_of_parse {text : String} {u : Table Value}
    (h : parse text = .ok (.object u)) :
    ∃ start ms stop, (Document.ofText text).root = .object start ms stop ∧
      Node.table ms [] = .ok u ∧ (Document.ofText text).trailing = .ok () := by
  obtain ⟨v, read, h⟩ := bind_eq_ok.1 h
  obtain ⟨trailing, made⟩ := check_bind_eq_ok.1 h
  cases made
  cases root : (Document.ofText text).root with
  | object start ms stop =>
    rw [root] at read
    obtain ⟨_, table, made⟩ := bind_eq_ok.1 read
    cases made
    exact ⟨start, ms, stop, rfl, table, trailing⟩
  | scalar s =>
    rw [root] at read
    cases s <;> cases read
  | array =>
    rw [root] at read
    obtain ⟨_, -, made⟩ := bind_eq_ok.1 read
    cases made
  | unreadable | broken =>
    rw [root] at read
    cases read

end Toolsmith.Json
