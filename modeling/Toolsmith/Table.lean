/-!
# Ordered tables

A table lists named entries in order of their first insertion, each name once. Inserting under
a name that is there replaces the entry and keeps its place.

## Main definitions

* `Table`: a list of names with entries.
* `Table.get?`, `Table.insert`, `Table.ofList`: lookup, insertion, and insertion one by one.
* `Table.erase`: a table without one name.
-/

namespace Toolsmith

/-- Named entries in order of first insertion. -/
abbrev Table (α : Type) := List (String × α)

namespace Table

variable {α β : Type}

/-- The entry under a name. -/
def get? : Table α → String → Option α
  | [], _ => none
  | (k, v) :: rest, name => if k = name then some v else get? rest name

/-- Whether a name has an entry. -/
def has (t : Table α) (name : String) : Bool :=
  (t.get? name).isSome

/-- The names, in order. -/
def names (t : Table α) : List String :=
  t.map (·.1)

/-- The table with an entry put under a name: in place where the name is there, else at the
end. -/
def insert : Table α → String → α → Table α
  | [], name, entry => [(name, entry)]
  | (k, v) :: rest, name, entry =>
    if k = name then (k, entry) :: rest else (k, v) :: insert rest name entry

/-- The table of entries inserted one by one. -/
def ofList (entries : List (String × α)) : Table α :=
  entries.foldl (fun t entry ↦ t.insert entry.1 entry.2) []

/-- The table without a name. -/
def erase (t : Table α) (name : String) : Table α :=
  t.filter fun entry ↦ entry.1 != name

@[simp] theorem get?_nil (name : String) : get? ([] : Table α) name = none := rfl

theorem get?_cons (k : String) (v : α) (rest : Table α) (name : String) :
    get? ((k, v) :: rest) name = if k = name then some v else get? rest name := rfl

end Table

end Toolsmith
