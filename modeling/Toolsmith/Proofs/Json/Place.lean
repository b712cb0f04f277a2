import Toolsmith.Json.Form

/-!
# Reading apart from places

The nodes of a document carry the places of their parts, and a value read from a text has the same
nodes as the value itself but for those places. What a decoder reads does not depend on them:
places show only in faults. So a round trip through a text can be checked on the value alone, where
every decoder is evaluated on nodes without places.

## Main definitions

* `Node.bare`: a node without its places.
* `Decoder.Steady`: a decoder reads the same from a node with its places and without them.

## Main statements

* `Form.Steady.decode`: the decoder of a record is steady when those of its fields are.
* `Decoder.Steady.read_of_bare`: what is read from the bare node is read from the node.
-/

namespace Toolsmith.Json

/-! ### Bare nodes -/

mutual
/-- The node without the places of its parts. -/
def Node.bare : Node → Node
  | .scalar s _ _ => .scalar s none none
  | .array _ items _ => .array none (Item.bareAll items) none
  | .object _ members _ => .object none (Member.bareAll members) none
  | .unreadable _ f => .unreadable none f
  | .broken _ f g => .broken none f g

/-- Items without places. -/
def Item.bareAll : List Item → List Item
  | [] => []
  | .mk _ n _ :: rest => .mk none n.bare none :: Item.bareAll rest

/-- Members without places. -/
def Member.bareAll : List Member → List Member
  | [] => []
  | .mk key _ _ n _ :: rest => .mk key none none n.bare none :: Member.bareAll rest
  | .broken found f g :: rest => .broken found f g :: Member.bareAll rest
end

/-! ### What is left of a result without its fault -/

section Outcome

variable {ε α β : Type}

/-- Whether two steps succeed, and with what, is told by each of them. -/
theorem toOption_bind (x : Except ε α) (f : α → Except ε β) :
    (x >>= f).toOption = x.toOption.bind fun a ↦ (f a).toOption := by
  cases x <;> rfl

@[simp] theorem toOption_pure (a : α) : (pure a : Except ε α).toOption = some a := rfl

@[simp] theorem toOption_ok (a : α) : (Except.ok a : Except ε α).toOption = some a := rfl

@[simp] theorem toOption_error (e : ε) : (Except.error e : Except ε α).toOption = none := rfl

@[simp] theorem toOption_throw (e : ε) : (throw e : Except ε α).toOption = none := rfl

theorem toOption_map (f : α → β) (x : Except ε α) :
    (x.map f).toOption = x.toOption.map f := by
  cases x <;> rfl

theorem toOption_mapError {ε' : Type} (f : ε → ε') (x : Except ε α) :
    (x.mapError f).toOption = x.toOption := by
  cases x <;> rfl

@[simp] theorem toOption_placed (mark : Option Position) (x : Except Fault α) :
    (placed mark x).toOption = x.toOption := by
  cases x <;> rfl

theorem toOption_eq_some {x : Except ε α} {a : α} : x.toOption = some a ↔ x = .ok a := by
  cases x <;> simp

end Outcome

/-! ### Skipping and plain values -/

mutual
/-- Whether a node can be passed over does not depend on its position. -/
theorem Node.toOption_skip_bare : ∀ n : Node, n.bare.skip.toOption = n.skip.toOption
  | .scalar _ _ _ => rfl
  | .array _ items _ => by
    rw [Node.bare, Node.skip, Node.skip]; exact Item.toOption_skip_bareAll items
  | .object _ members _ => by
    rw [Node.bare, Node.skip, Node.skip]; exact Member.toOption_skip_bareAll members
  | .unreadable _ _ => rfl
  | .broken _ _ _ => rfl

theorem Item.toOption_skip_bareAll : ∀ items : List Item,
    (Node.skipItems (Item.bareAll items)).toOption = (Node.skipItems items).toOption
  | [] => rfl
  | .mk _ n _ :: rest => by
    rw [Item.bareAll, Node.skipItems, Node.skipItems, toOption_bind, toOption_bind,
      Node.toOption_skip_bare n, Item.toOption_skip_bareAll rest]

theorem Member.toOption_skip_bareAll : ∀ members : List Member,
    (Node.skipMembers (Member.bareAll members)).toOption = (Node.skipMembers members).toOption
  | [] => rfl
  | .mk _ _ _ n _ :: rest => by
    rw [Member.bareAll, Node.skipMembers, Node.skipMembers, toOption_bind, toOption_bind,
      Node.toOption_skip_bare n, Member.toOption_skip_bareAll rest]
  | .broken _ _ _ :: _ => rfl
end

mutual
/-- Nor does the value that it is read as. -/
theorem Node.toOption_value_bare : ∀ n : Node, n.bare.value.toOption = n.value.toOption
  | .scalar _ _ _ => rfl
  | .array _ items _ => by
    rw [Node.bare, Node.value, Node.value, toOption_bind, toOption_bind,
      Item.toOption_values_bareAll items]
  | .object _ members _ => by
    rw [Node.bare, Node.value, Node.value, toOption_bind, toOption_bind,
      Member.toOption_table_bareAll members]
  | .unreadable _ _ => rfl
  | .broken _ _ _ => rfl

theorem Item.toOption_values_bareAll : ∀ items : List Item,
    (Node.values (Item.bareAll items)).toOption = (Node.values items).toOption
  | [] => rfl
  | .mk _ n _ :: rest => by
    simp only [Item.bareAll, Node.values, toOption_bind, Node.toOption_value_bare n,
      Item.toOption_values_bareAll rest]

theorem Member.toOption_table_bareAll : ∀ (members : List Member) (t : Table Value),
    (Node.table (Member.bareAll members) t).toOption = (Node.table members t).toOption
  | [], _ => rfl
  | .mk _ _ _ n _ :: rest, t => by
    simp only [Member.bareAll, Node.table, toOption_bind, Node.toOption_value_bare n,
      Member.toOption_table_bareAll rest]
  | .broken _ _ _ :: _, _ => rfl
end

/-! ### Steady decoders -/

namespace Decoder

variable {α : Type} {read : Decoder α}

/-- Whether a decoder reads the same from a node with its places and without them. -/
def Steady (read : Decoder α) : Prop :=
  ∀ n : Node, (read n.bare).toOption = (read n).toOption

/-- What is read from the bare node is read from the node. -/
theorem Steady.read_of_bare (h : Steady read) {n : Node} {a : α}
    (hn : read n.bare = .ok a) : read n = .ok a := by
  rw [← toOption_eq_some, ← h n, hn, toOption_ok]

theorem text_steady : Steady text := by
  intro n
  cases n with
  | scalar s start stop => cases s <;> rfl
  | array | object | unreadable | broken => rfl

theorem bool_steady : Steady bool := by
  intro n
  cases n with
  | scalar s start stop => cases s <;> rfl
  | array | object | unreadable | broken => rfl

theorem unit_steady : Steady unit := by
  intro n
  cases n with
  | scalar s start stop => cases s <;> rfl
  | array | object | unreadable | broken => rfl

theorem any_steady : Steady any := Node.toOption_value_bare

theorem Steady.items (h : Steady read) : ∀ xs : List Item,
    (items read (Item.bareAll xs)).toOption = (Decoder.items read xs).toOption
  | [] => rfl
  | .mk _ n _ :: rest => by
    simp only [Item.bareAll, Decoder.items, toOption_bind, toOption_placed, h n, h.items rest]

/-- A list is read alike everywhere if its items are. -/
theorem Steady.list (h : Steady read) : Steady (list read) := by
  intro n
  cases n with
  | array start items stop => exact h.items items
  | scalar | object | unreadable | broken => rfl

theorem Steady.entries (h : Steady read) : ∀ (ms : List Member) (t : Table α),
    (entries read (Member.bareAll ms) t).toOption = (Decoder.entries read ms t).toOption
  | [], _ => rfl
  | .mk _ _ _ n _ :: rest, t => by
    simp only [Member.bareAll, Decoder.entries, toOption_bind, toOption_placed, h n,
      h.entries rest]
  | .broken _ _ _ :: _, _ => rfl

/-- So is a table. -/
theorem Steady.table (h : Steady read) : Steady (table read) := by
  intro n
  cases n with
  | object start members stop => exact h.entries members []
  | scalar | array | unreadable | broken => rfl

/-- What is made of a value is the same everywhere if the value is. -/
theorem Steady.map {β : Type} (h : Steady read) (f : α → β) :
    Steady fun n ↦ (read n).map f := by
  intro n
  simp only [toOption_map, h n]

end Decoder

/-- A variant is found by its name alone; the mark only places the fault. -/
theorem toOption_variant {α : Type} (variants : Table α) (name : String)
    (mark : Option Position) :
    (variant variants name mark).toOption = variants.get? name := by
  unfold variant
  split
  next a h => rw [h, toOption_ok]
  next h => rw [h, toOption_error]

/-- Named variants are steady: an object with more than one member is refused with its places as
without them, though by another fault. -/
theorem named_steady {α : Type} (variants : Table α) : Decoder.Steady (named variants) := by
  intro n
  cases n with
  | scalar s start stop =>
    cases s with
    | string s => simp only [Node.bare, named, toOption_variant]
    | null | bool | number => cases start <;> rfl
  | array start items stop => cases start <;> rfl
  | unreadable start f => rfl
  | broken start f g => rfl
  | object start members stop =>
    match members with
    | [] => cases start <;> rfl
    | .broken _ _ _ :: _ => cases start <;> rfl
    | [.mk key _ _ n _] =>
      cases start <;>
        simp only [Node.bare, Member.bareAll, named, toOption_bind, toOption_variant,
          Decoder.unit_steady n]
    | .mk key keyStop keyResume n resume :: m :: rest =>
      -- Without places the number of members is looked at first, with them the first member is
      -- read before it. Nothing is read either way.
      have bare : named variants
          (Node.object start (.mk key keyStop keyResume n resume :: m :: rest) stop).bare =
          .error (.unplaced (.invalidValue .map "map with a single key")) := by
        cases m <;> rfl
      rw [bare, toOption_error]
      cases start with
      | none => rfl
      | some p =>
        simp only [named, toOption_bind]
        refine (Option.bind_eq_none_iff.2 fun k _ ↦ Option.bind_eq_none_iff.2 fun a _ ↦
          Option.bind_eq_none_iff.2 fun u _ ↦ ?_).symm
        split
        next h => cases h
        next => rfl
        next => rfl

/-! ### Steady forms -/

namespace Form

variable {α β : Type}

/-- Whether a form fills in the same from a node with its places and without them. -/
def Steady (form : Form α) : Prop :=
  ∀ name n d, (form.fill name n.bare d).toOption = (form.fill name n d).toOption

/-- A field is read alike everywhere if its value is. -/
theorem single_steady {name : String} {omissible : Bool} {absent : Except Fault α}
    {read : Decoder α} (h : read.Steady) : (single name omissible absent read).Steady := by
  intro field n d
  simp only [single, toOption_map, h n]

theorem required_steady {name : String} {read : Decoder α} (h : read.Steady) :
    (required name read).Steady :=
  single_steady h

theorem defaulted_steady {name : String} {fallback : α} {read : Decoder α} (h : read.Steady) :
    (defaulted name fallback read).Steady :=
  single_steady h

/-- Fields that are read after others are read alike everywhere if each of them is. -/
theorem Steady.seq {f : Form (α → β)} {x : Form α} (hf : f.Steady) (hx : x.Steady) :
    (f <*> x).Steady := by
  intro name n d
  simp only [Seq.seq]
  split
  · simp only [toOption_map, hf name n d.1]
  · simp only [toOption_map, hx name n d.2]

theorem Steady.map {x : Form α} (hx : x.Steady) (f : α → β) : (f <$> x).Steady :=
  Steady.seq (f := pure f) (fun _ _ _ ↦ rfl) hx

/-- The members of an object fill a draft alike, wherever they stand. -/
theorem Steady.fillMembers {form : Form α} (h : form.Steady) :
    ∀ (seen : List String) (ms : List Member) (d : form.Draft),
      (form.fillMembers seen (Member.bareAll ms) d).toOption =
        (form.fillMembers seen ms d).toOption
  | _, [], _ => rfl
  | _, .broken _ _ _ :: _, _ => rfl
  | seen, .mk key _ keyResume n resume :: rest, d => by
    rw [Member.bareAll, Form.fillMembers, Form.fillMembers, toOption_bind, toOption_bind]
    congr 1
    funext k
    split
    · split
      · rfl
      · simp only [toOption_bind, toOption_placed, h k n d, h.fillMembers _ rest]
    · simp only [toOption_bind, n.toOption_skip_bare, h.fillMembers _ rest]

/-- So do the items of an array. -/
theorem Steady.fillItems {form : Form α} (h : form.Steady) (type : String) (length : Nat) :
    ∀ (fields : List Field) (items : List Item) (i : Nat) (d : form.Draft),
      (form.fillItems type length fields (Item.bareAll items) i d).toOption =
        (form.fillItems type length fields items i d).toOption
  | [], [], _, _ => rfl
  | [], .mk _ _ _ :: _, _, _ => rfl
  | field :: fields, [], i, d => rfl
  | field :: fields, .mk _ n resume :: items, i, d => by
    simp only [Item.bareAll, Form.fillItems, toOption_bind, toOption_placed, h field.name n d,
      h.fillItems type length fields items]

theorem length_bareAll : ∀ items : List Item, (Item.bareAll items).length = items.length
  | [] => rfl
  | .mk _ _ _ :: rest => by rw [Item.bareAll, List.length_cons, List.length_cons, length_bareAll]

/-- The decoder of a record is steady when its form is. -/
theorem Steady.decode {form : Form α} (h : form.Steady) (type : String) :
    Decoder.Steady (form.decode type) := by
  intro n
  cases n with
  | array start items stop =>
    simp only [Node.bare, Form.decode, toOption_placed, toOption_bind, length_bareAll,
      h.fillItems]
  | object start members stop =>
    simp only [Node.bare, Form.decode, toOption_placed, toOption_bind, h.fillMembers]
  | scalar | unreadable | broken => rfl

end Form

end Toolsmith.Json
