import Mathlib.Data.List.Induction
import Mathlib.Data.List.Nodup
import Toolsmith.Table

/-!
# Laws of ordered tables

Insertion either replaces an entry in place or appends one, so it keeps the names distinct and
changes what is found under its own name only. In a table with distinct names each entry is new
to those before it, so that a reader that inserts them one by one appends each.
-/

namespace Toolsmith.Table

variable {α β : Type}

@[simp] theorem names_nil : names ([] : Table α) = [] := rfl

@[simp] theorem names_cons (e : String × α) (t : Table α) : names (e :: t) = e.1 :: names t := rfl

@[simp] theorem names_append (t u : Table α) : names (t ++ u) = names t ++ names u :=
  List.map_append

/-! ### Lookup -/

/-- Nothing is found under a name that no entry has. -/
theorem get?_eq_none_iff {t : Table α} {name : String} : t.get? name = none ↔ name ∉ t.names := by
  induction t with
  | nil => simp
  | cons e t ih =>
    obtain ⟨k, v⟩ := e
    rw [get?_cons, names_cons, List.mem_cons, not_or]
    by_cases h : k = name
    · simp [h]
    · rw [if_neg h, ih]
      exact ⟨fun ht ↦ ⟨fun he ↦ h he.symm, ht⟩, And.right⟩

/-- Entries that are changed one by one, each by way of its name. -/
theorem get?_map {β : Type} (f : String → α → β) (t : Table α) (name : String) :
    get? (t.map fun e ↦ (e.1, f e.1 e.2)) name = (t.get? name).map (f name) := by
  induction t with
  | nil => rfl
  | cons e t ih =>
    rw [List.map_cons, get?_cons, get?_cons, ih]
    split
    next same => rw [same, Option.map_some]
    next => rfl

/-- What is found among several entries is found among the first ones, or else among the others. -/
theorem get?_append (t u : Table α) (name : String) :
    get? (t ++ u) name = (t.get? name).or (u.get? name) := by
  induction t with
  | nil => rfl
  | cons e t ih =>
    obtain ⟨k, v⟩ := e
    rw [List.cons_append, get?_cons, get?_cons, ih]
    split <;> rfl

/-- What is found is the value of an entry. -/
theorem mem_of_get? {t : Table α} {name : String} {v : α} (h : t.get? name = some v) :
    (name, v) ∈ t := by
  induction t with
  | nil => cases h
  | cons e t ih =>
    obtain ⟨k, w⟩ := e
    rw [get?_cons] at h
    split at h
    next hk =>
      rw [hk, Option.some.inj h]
      exact List.mem_cons_self
    next => exact List.mem_cons_of_mem _ (ih h)

/-! ### Insertion -/

/-- An inserted value is found under its name, and nothing else is different. -/
theorem get?_insert (t : Table α) (k name : String) (v : α) :
    (t.insert k v).get? name = if k = name then some v else t.get? name := by
  induction t with
  | nil => rfl
  | cons e t ih =>
    obtain ⟨k', w⟩ := e
    rw [insert]
    by_cases hk : k' = k
    · rw [if_pos hk, get?_cons, get?_cons, hk]
      split <;> rfl
    · rw [if_neg hk, get?_cons, get?_cons, ih]
      by_cases hn : k' = name
      · rw [if_pos hn, if_neg fun h ↦ hk (hn.trans h.symm), if_pos hn]
      · rw [if_neg hn, if_neg hn]

/-- An inserted name keeps its place if it is there, and comes last if it is not. -/
theorem names_insert (t : Table α) (k : String) (v : α) :
    (t.insert k v).names = if k ∈ t.names then t.names else t.names ++ [k] := by
  induction t with
  | nil => rfl
  | cons e t ih =>
    obtain ⟨k', w⟩ := e
    rw [insert]
    by_cases hk : k' = k
    · simp [hk]
    · have hk' : ¬ k = k' := fun h ↦ hk h.symm
      rw [if_neg hk, names_cons, names_cons, ih]
      by_cases ht : k ∈ names t <;> simp [hk', ht]

theorem mem_names_insert {t : Table α} {k name : String} {v : α} :
    name ∈ (t.insert k v).names ↔ name = k ∨ name ∈ t.names := by
  rw [names_insert]
  split
  next h => exact ⟨.inr, fun hn ↦ hn.elim (fun he ↦ he ▸ h) id⟩
  next => rw [List.mem_append, List.mem_singleton, or_comm]

/-- Insertion keeps the names distinct. -/
theorem nodup_names_insert {t : Table α} (h : t.names.Nodup) (k : String) (v : α) :
    (t.insert k v).names.Nodup := by
  rw [names_insert]
  split
  next => exact h
  next hk =>
    refine List.nodup_append.2 ⟨h, List.nodup_singleton k, fun a ha b hb hab ↦ hk ?_⟩
    rw [← List.eq_of_mem_singleton hb, ← hab]
    exact ha

/-- An entry under a new name comes last. -/
theorem insert_of_notMem {t : Table α} {k : String} (h : k ∉ t.names) (v : α) :
    t.insert k v = t ++ [(k, v)] := by
  induction t with
  | nil => rfl
  | cons e t ih =>
    obtain ⟨k', w⟩ := e
    rw [names_cons, List.mem_cons, not_or] at h
    rw [insert, if_neg fun he ↦ h.1 he.symm, ih h.2, List.cons_append]

/-- An entry of a table after insertion is the inserted one or was there. -/
theorem mem_insert {t : Table α} {k : String} {v : α} {e : String × α} (h : e ∈ t.insert k v) :
    e = (k, v) ∨ e ∈ t := by
  induction t with
  | nil => exact .inl (List.eq_of_mem_singleton h)
  | cons d t ih =>
    obtain ⟨k', w⟩ := d
    rw [insert] at h
    split at h
    next hk =>
      rcases List.mem_cons.1 h with he | ht
      · exact .inl (hk ▸ he)
      · exact .inr (List.mem_cons_of_mem _ ht)
    next =>
      rcases List.mem_cons.1 h with he | ht
      · exact .inr (he ▸ List.mem_cons_self)
      · exact (ih ht).imp_right (List.mem_cons_of_mem _)

/-! ### Entries under distinct names -/

theorem mem_names_of_mem {t : Table α} {name : String} {v : α} (h : (name, v) ∈ t) :
    name ∈ t.names :=
  List.mem_map.2 ⟨(name, v), h, rfl⟩

/-- A name is that of an entry. -/
theorem exists_of_mem_names {t : Table α} {name : String} (h : name ∈ t.names) :
    ∃ v, (name, v) ∈ t := by
  obtain ⟨⟨k, v⟩, he, rfl⟩ := List.mem_map.1 h
  exact ⟨v, he⟩

/-- Where names are distinct, lookup finds every entry. -/
theorem get?_eq_some_iff {t : Table α} (h : t.names.Nodup) {name : String} {v : α} :
    t.get? name = some v ↔ (name, v) ∈ t := by
  refine ⟨mem_of_get?, fun he ↦ ?_⟩
  induction t with
  | nil => cases he
  | cons e t ih =>
    obtain ⟨k, w⟩ := e
    obtain ⟨new, distinct⟩ := List.nodup_cons.1 h
    rw [get?_cons]
    rcases List.mem_cons.1 he with he | he
    · cases he
      exact if_pos rfl
    · rw [if_neg, ih distinct he]
      rintro rfl
      exact new (mem_names_of_mem he)

/-- Where names are distinct, the order of the entries makes no difference to lookup. -/
theorem get?_of_perm {t u : Table α} (h : t.names.Nodup) (same : t.Perm u) (name : String) :
    t.get? name = u.get? name := by
  refine Option.ext fun v ↦ ?_
  rw [get?_eq_some_iff h, get?_eq_some_iff ((same.map _).nodup_iff.1 h), same.mem_iff]

/-- Where names are distinct, insertion replaces the entry under its name and keeps the others. -/
theorem mem_insert_iff {t : Table α} (h : t.names.Nodup) {k : String} {v : α} {e : String × α} :
    e ∈ t.insert k v ↔ e = (k, v) ∨ e ∈ t ∧ e.1 ≠ k := by
  obtain ⟨name, w⟩ := e
  rw [← get?_eq_some_iff (nodup_names_insert h k v), ← get?_eq_some_iff h, get?_insert]
  by_cases hk : k = name
  · subst hk
    rw [if_pos rfl, Option.some.injEq, Prod.mk.injEq]
    constructor
    · intro hv
      exact .inl ⟨rfl, hv.symm⟩
    · rintro (⟨-, hv⟩ | ⟨-, other⟩)
      · exact hv.symm
      · exact absurd rfl other
  · rw [if_neg hk, Prod.mk.injEq]
    constructor
    · intro he
      exact .inr ⟨he, fun hn ↦ hk hn.symm⟩
    · rintro (⟨hn, -⟩ | ⟨he, -⟩)
      · exact absurd hn.symm hk
      · exact he

/-- Erasing a name removes the entries of that name, and no others. -/
theorem mem_erase {t : Table α} {name : String} {e : String × α} :
    e ∈ t.erase name ↔ e ∈ t ∧ e.1 ≠ name := by
  rw [erase, List.mem_filter, bne_iff_ne]

/-- An erased name is not found, and all others are as before. -/
theorem get?_erase (t : Table α) (k name : String) :
    (t.erase k).get? name = if name = k then none else t.get? name := by
  induction t with
  | nil => exact (ite_self _).symm
  | cons e t ih =>
    obtain ⟨k', v⟩ := e
    have step : erase ((k', v) :: t) k = if k' != k then (k', v) :: erase t k else erase t k :=
      List.filter_cons
    rw [step]
    by_cases hk : k' = k
    · subst hk
      rw [bne_self_eq_false, if_neg Bool.false_ne_true, ih, get?_cons]
      split
      next => rfl
      next other => rw [if_neg (Ne.symm other)]
    · rw [bne_iff_ne.2 hk, if_pos rfl, get?_cons, get?_cons, ih]
      by_cases hn : k' = name
      · rw [if_pos hn, if_pos hn, if_neg fun he ↦ hk (hn.trans he)]
      · rw [if_neg hn, if_neg hn]

/-- Some entries of distinct names have distinct names. -/
theorem nodup_names_filter {t : Table α} (h : t.names.Nodup) (keep : String × α → Bool) :
    (names (t.filter keep)).Nodup :=
  (List.filter_sublist.map _).nodup h

/-- Inserting a name that is new makes one entry more. -/
theorem length_insert (t : Table α) (k : String) (v : α) :
    (t.insert k v).length = if k ∈ t.names then t.length else t.length + 1 := by
  have length (u : Table α) : u.names.length = u.length := List.length_map _
  rw [← length, names_insert]
  split
  next => exact length t
  next => rw [List.length_append, length, List.length_singleton]

/-- Where names are distinct, the name of a later entry is none of the earlier ones. -/
theorem notMem_names_of_nodup {t u : Table α} {e : String × α}
    (h : (names (t ++ e :: u)).Nodup) : e.1 ∉ t.names := by
  intro he
  rw [names_append, names_cons] at h
  exact (List.nodup_append.1 h).2.2 e.1 he e.1 List.mem_cons_self rfl

/-! ### Entries inserted one by one -/

/-- Among first occurrences, an item that comes last stays if it is new. -/
theorem eraseDups_append_singleton {β : Type} [BEq β] [LawfulBEq β] (l : List β) (x : β) :
    (l ++ [x]).eraseDups = if x ∈ l then l.eraseDups else l.eraseDups ++ [x] := by
  rw [List.eraseDups_append, List.removeAll, List.filter_cons, List.filter_nil]
  by_cases known : x ∈ l <;> simp [known, List.eraseDups_cons]

section Insertions

variable {γ : Type} (key : γ → String) (entry : γ → α) (l : List γ) (t : Table α)

/-- The names that are there keep their places. The new ones stand behind them, in order of first
insertion. -/
theorem names_foldl_insert :
    names (l.foldl (fun t x ↦ t.insert (key x) (entry x)) t) =
      t.names ++ ((l.map key).filter (· ∉ t.names)).eraseDups := by
  induction l using List.reverseRecOn with
  | nil => exact (List.append_nil _).symm
  | append_singleton l x ih =>
    rw [List.foldl_append, List.foldl_cons, List.foldl_nil, names_insert, ih, List.map_append,
      List.filter_append, List.map_singleton]
    by_cases old : key x ∈ t.names
    · simp [old]
    · have new : [key x].filter (· ∉ t.names) = [key x] := by simp [old]
      rw [new, eraseDups_append_singleton]
      by_cases before : key x ∈ (l.map key).filter (· ∉ t.names)
      · rw [if_pos before, if_pos (List.mem_append_right _ (List.mem_eraseDups.2 before))]
      · rw [if_neg before, if_neg, List.append_assoc]
        rw [List.mem_append, List.mem_eraseDups]
        exact not_or.2 ⟨old, before⟩

/-- Under a name stands what was inserted there last. -/
theorem get?_foldl_insert (name : String) :
    get? (l.foldl (fun t x ↦ t.insert (key x) (entry x)) t) name =
      ((l.filter (key · = name)).getLast?.map entry).or (t.get? name) := by
  induction l using List.reverseRecOn with
  | nil => rfl
  | append_singleton l x ih =>
    rw [List.foldl_append, List.foldl_cons, List.foldl_nil, get?_insert, ih, List.filter_append]
    by_cases named : key x = name
    · have last : [x].filter (key · = name) = [x] := by simp [named]
      rw [if_pos named, last, List.getLast?_concat]
      rfl
    · have none : [x].filter (key · = name) = [] := by simp [named]
      rw [if_neg named, none, List.append_nil]

end Insertions

end Toolsmith.Table
