import Toolsmith.Json.Form
import Toolsmith.Proofs.Outcome

/-!
# Records read from objects

A form reads a record from an object member by member. Where the members are those of the form, one
for each field that is given, reading them comes down to reading each value by the decoder of its
field: the statements here put the record together in the way in which the form was put together.

## Main definitions

* `Form.Fills`: the members of an object take a draft to another one.
* `Form.Reads`: the members of an object make up a record.
* `Form.Yields`: all records of the form have a property.

## Main statements

* `Form.Reads.field`, `Form.Reads.required`, `Form.Reads.defaulted`: records field by field.
* `Form.Reads.decode`: the record is what the decoder of the form reads from the object.
* `Form.Yields.decode`: what is read by the decoder of the form has the property.
-/

namespace Toolsmith.Json.Form

variable {α β : Type}

/-- The members take one draft to the other, each into a field of the form. -/
def Fills (form : Form α) : List (String × Value) → form.Draft → form.Draft → Prop
  | [], d, e => d = e
  | (k, v) :: ms, d, e =>
    form.has k = true ∧ ∃ d', form.fill k (.ofValue v) d = .ok d' ∧ Fills form ms d' e

/-- Members that fill in a draft are read in order, as long as no name comes twice. -/
theorem fillMembers_eq_ok {form : Form α} {ms : List (String × Value)} {d e : form.Draft}
    (h : form.Fills ms d e) (distinct : (ms.map (·.1)).Nodup) (seen : List String)
    (fresh : ∀ m ∈ ms, m.1 ∉ seen) :
    form.fillMembers seen (Node.membersOfValues ms) d = .ok e := by
  induction ms generalizing seen d with
  | nil => rw [Node.membersOfValues, Form.fillMembers, show d = e from h]
  | cons m ms ih =>
    obtain ⟨k, v⟩ := m
    obtain ⟨has, d', hd, rest⟩ := h
    rw [List.map_cons, List.nodup_cons] at distinct
    have unseen : seen.contains k = false := by
      simpa using fresh (k, v) List.mem_cons_self
    -- The names seen grow by the name of the member, which no later member has.
    have tail := ih rest distinct.2 (k :: seen) fun m hm ↦ by
      rw [List.mem_cons, not_or]
      exact ⟨fun he ↦ distinct.1 (List.mem_map.2 ⟨m, hm, he⟩),
        fresh m (List.mem_cons_of_mem _ hm)⟩
    rw [Node.membersOfValues, Form.fillMembers]
    simp only [bind, Except.bind, has, if_true, unseen, Bool.false_eq_true, if_false, hd, placed,
      tail]

/-- Members that come after others fill a draft further. -/
theorem Fills.append {form : Form α} {ms ns : List (String × Value)} {c d e : form.Draft}
    (h : form.Fills ms c d) (h' : form.Fills ns d e) : form.Fills (ms ++ ns) c e := by
  induction ms generalizing c with
  | nil => rw [List.nil_append, show c = d from h]; exact h'
  | cons m ms ih =>
    obtain ⟨has, d', hd, rest⟩ := h
    exact ⟨has, d', hd, ih rest⟩

section Seq

variable {f : Form (α → β)} {x : Form α} {ms : List (String × Value)}

theorem has_seq (name : String) : (f <*> x).has name = (f.has name || x.has name) :=
  List.any_append

/-- The members of the first form fill in the first draft. -/
theorem Fills.seq_left {c d : f.Draft} (h : f.Fills ms c d) (e : x.Draft) :
    (f <*> x).Fills ms (c, e) (d, e) := by
  induction ms generalizing c with
  | nil => exact congrArg (·, e) h
  | cons m ms ih =>
    obtain ⟨has, d', hd, rest⟩ := h
    refine ⟨by rw [has_seq, has, Bool.true_or], (d', e), ?_, ih rest⟩
    simp only [Seq.seq, has, if_true, hd, Except.map]

/-- The members that belong to the second form only fill in the second draft. -/
theorem Fills.seq_right {d e : x.Draft} (h : x.Fills ms d e)
    (apart : ∀ m ∈ ms, f.has m.1 = false) (c : f.Draft) :
    (f <*> x).Fills ms (c, d) (c, e) := by
  induction ms generalizing d with
  | nil => exact congrArg (c, ·) h
  | cons m ms ih =>
    obtain ⟨has, d', hd, rest⟩ := h
    -- A name that the first form has would not get to the second one.
    have other := apart m List.mem_cons_self
    refine ⟨by rw [has_seq, has, Bool.or_true], (c, d'), ?_,
      ih rest fun m hm ↦ apart m (List.mem_cons_of_mem _ hm)⟩
    simp only [Seq.seq, other, Bool.false_eq_true, if_false, hd, Except.map]

end Seq

/-- The members make up a record. -/
def Reads (form : Form α) (ms : List (String × Value)) (a : α) : Prop :=
  ∃ d, form.Fills ms form.blank d ∧ form.finish d = .ok a

namespace Reads

theorem pure (a : α) : Reads (Pure.pure a) [] a :=
  ⟨(), rfl, rfl⟩

/-- Members of one form followed by members of another one, which are none of the first. -/
theorem seq {f : Form (α → β)} {x : Form α} {ms ns : List (String × Value)} {g : α → β} {a : α}
    (hf : f.Reads ms g) (hx : x.Reads ns a) (apart : ∀ m ∈ ns, f.has m.1 = false) :
    (f <*> x).Reads (ms ++ ns) (g a) := by
  obtain ⟨d, fills, finish⟩ := hf
  obtain ⟨e, fills', finish'⟩ := hx
  refine ⟨(d, e), (fills.seq_left x.blank).append (fills'.seq_right apart d), ?_⟩
  simp only [Seq.seq, finish, finish', bind, Except.bind, Pure.pure, Except.pure]

/-- Members of one form followed by the member of a field that the form does not have. -/
theorem field {f : Form (α → β)} {x : Form α} {ms : List (String × Value)} {g : α → β} {a : α}
    {name : String} {v : Value} (hf : f.Reads ms g) (hx : x.Reads [(name, v)] a)
    (fresh : f.has name = false) : (f <*> x).Reads (ms ++ [(name, v)]) (g a) :=
  hf.seq hx fun m hm ↦ by
    rw [List.eq_of_mem_singleton hm]
    exact fresh

/-- What is made of a value that is read may be made after reading it. -/
theorem map {x : Form α} {ms : List (String × Value)} {a : α} (h : x.Reads ms a) (g : α → β) :
    (g <$> x).Reads ms (g a) :=
  seq (pure g) h fun _ _ ↦ rfl

/-- A field is read from the member of its name. -/
theorem single {name : String} {omissible : Bool} {absent : Except Fault α} {read : Decoder α}
    {v : Value} {a : α} (h : read (.ofValue v) = .ok a) :
    (Form.single name omissible absent read).Reads [(name, v)] a := by
  refine ⟨some a, ⟨?_, some a, ?_, rfl⟩, rfl⟩
  · simp [has, Form.single]
  · simp only [Form.single, h, Except.map]

/-- A field that must be there, and is. -/
theorem required {name : String} {read : Decoder α} {v : Value} {a : α}
    (h : read (.ofValue v) = .ok a) : (Form.required name read).Reads [(name, v)] a :=
  single h

/-- A field with a value of its own that has another one. -/
theorem defaulted {name : String} {fallback : α} {read : Decoder α} {v : Value} {a : α}
    (h : read (.ofValue v) = .ok a) : (Form.defaulted name fallback read).Reads [(name, v)] a :=
  single h

/-- The record is read from the object with these members. -/
theorem decode {form : Form α} {ms : List (String × Value)} {a : α} (h : form.Reads ms a)
    (distinct : (ms.map (·.1)).Nodup) (type : String) :
    form.decode type (.ofValue (.object ms)) = .ok a := by
  obtain ⟨d, fills, finish⟩ := h
  have filled := fillMembers_eq_ok fills distinct [] fun _ _ ↦ List.not_mem_nil
  simp only [Node.ofValue, Form.decode, filled, bind, Except.bind, finish, placed]

end Reads

/-! ### What is known of every record -/

/-- Whether every record that the form can be finished to has a property, whatever nodes it is
filled in from. Some invariant of the drafts tells. -/
def Yields (form : Form α) (P : α → Prop) : Prop :=
  ∃ I : form.Draft → Prop, I form.blank ∧
    (∀ ⦃name n d e⦄, I d → form.fill name n d = .ok e → I e) ∧
    ∀ ⦃d a⦄, I d → form.finish d = .ok a → P a

/-- What succeeds at a position succeeds. -/
theorem eq_ok_of_placed {mark : Option Position} {x : Except Fault α} {a : α}
    (h : placed mark x = .ok a) : x = .ok a := by
  cases x with
  | error f => cases h
  | ok b => exact h

namespace Yields

variable {P : α → Prop} {Q : β → Prop}

theorem trivial (form : Form α) : form.Yields fun _ ↦ True :=
  ⟨fun _ ↦ True, True.intro, fun _ _ _ _ _ _ ↦ True.intro, fun _ _ _ _ ↦ True.intro⟩

theorem pure {a : α} (h : P a) : Yields (Pure.pure a) P :=
  ⟨fun _ ↦ True, True.intro, fun _ _ _ _ _ _ ↦ True.intro, fun _ _ _ made ↦ Except.ok.inj made ▸ h⟩

theorem single {name : String} {omissible : Bool} {absent : Except Fault α} {read : Decoder α}
    (missing : ∀ a, absent = .ok a → P a) (there : ∀ n a, read n = .ok a → P a) :
    (Form.single name omissible absent read).Yields P := by
  refine ⟨fun d : Option α ↦ ∀ a, d = some a → P a, fun _ h ↦ (nomatch h),
    fun _ n _ e _ filled a ha ↦ ?_, fun d a hd finished ↦ ?_⟩
  · obtain ⟨b, hb, made⟩ := map_eq_ok.1 filled
    cases made.trans ha
    exact there n a hb
  · match d with
    | none => exact missing a finished
    | some b => exact hd a (congrArg some (Except.ok.inj finished))

/-- A record is put together from parts that have properties of their own. -/
theorem seq {f : Form (α → β)} {x : Form α} (hf : f.Yields fun g ↦ ∀ a, P a → Q (g a))
    (hx : x.Yields P) : (f <*> x).Yields Q := by
  obtain ⟨I, blankI, fillI, finishI⟩ := hf
  obtain ⟨J, blankJ, fillJ, finishJ⟩ := hx
  refine ⟨fun d ↦ I d.1 ∧ J d.2, ⟨blankI, blankJ⟩, fun name n d e hd filled ↦ ?_,
    fun d b hd finished ↦ ?_⟩
  · simp only [Seq.seq] at filled
    split at filled
    · obtain ⟨c, hc, rfl⟩ := map_eq_ok.1 filled
      exact ⟨fillI hd.1 hc, hd.2⟩
    · obtain ⟨c, hc, rfl⟩ := map_eq_ok.1 filled
      exact ⟨hd.1, fillJ hd.2 hc⟩
  · obtain ⟨g, hg, finished⟩ := bind_eq_ok.1 finished
    obtain ⟨a, ha, made⟩ := bind_eq_ok.1 finished
    exact Except.ok.inj made ▸ finishI hd.1 hg a (finishJ hd.2 ha)

/-- What is made of a value has a property if that is made of every value which is read. -/
theorem map {x : Form α} {g : α → β} (h : ∀ a, P a → Q (g a)) (hx : x.Yields P) :
    (g <$> x).Yields Q :=
  seq (pure h) hx

section Invariant

variable {form : Form α} {I : form.Draft → Prop}

/-- What each filled field keeps of a draft, all members of an object keep. -/
theorem fillMembers (step : ∀ ⦃name n d e⦄, I d → form.fill name n d = .ok e → I e)
    {ms : List Member} {seen : List String} {d e : form.Draft} (hd : I d)
    (filled : form.fillMembers seen ms d = .ok e) : I e := by
  induction ms generalizing seen d with
  | nil => exact Except.ok.inj filled ▸ hd
  | cons m ms ih =>
    match m with
    | .broken .. => cases filled
    | .mk key _ keyResume n resume =>
      obtain ⟨k, -, filled⟩ := bind_eq_ok.1 filled
      split at filled
      · split at filled
        · cases filled
        · obtain ⟨d', hd', rest⟩ := bind_eq_ok.1 filled
          exact ih (step hd (eq_ok_of_placed hd')) rest
      · obtain ⟨-, rest⟩ := check_bind_eq_ok.1 filled
        exact ih hd rest

/-- So do all items of an array. -/
theorem fillItems (step : ∀ ⦃name n d e⦄, I d → form.fill name n d = .ok e → I e)
    {type : String} {length i : Nat} {fields : List Field} {items : List Item} {d e : form.Draft}
    (hd : I d) (filled : form.fillItems type length fields items i d = .ok e) : I e := by
  induction fields generalizing items i d with
  | nil =>
    match items with
    | [] => exact Except.ok.inj filled ▸ hd
    | item :: _ => cases filled
  | cons field fields ih =>
    match items with
    | [] =>
      rw [Form.fillItems] at filled
      split at filled
      · exact ih hd filled
      · cases filled
    | .mk _ n resume :: items =>
      obtain ⟨d', hd', rest⟩ := bind_eq_ok.1 filled
      exact ih (step hd (eq_ok_of_placed hd')) rest

end Invariant

/-- What the decoder of the form reads has the property, be it spelled as an object or as an
array. -/
theorem decode {form : Form α} (h : form.Yields P) {type : String} {n : Node} {a : α}
    (read : form.decode type n = .ok a) : P a := by
  obtain ⟨I, blank, step, finish⟩ := h
  match n with
  | .array _ items stop =>
    obtain ⟨d, filled, finished⟩ := bind_eq_ok.1 (eq_ok_of_placed read)
    exact finish (fillItems step blank filled) finished
  | .object _ ms stop =>
    obtain ⟨d, filled, finished⟩ := bind_eq_ok.1 (eq_ok_of_placed read)
    exact finish (fillMembers step blank filled) finished
  | .scalar .. | .unreadable .. | .broken .. => cases read

end Yields

end Toolsmith.Json.Form
