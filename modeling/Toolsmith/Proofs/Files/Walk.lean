import Toolsmith.Proofs.Files.Operation

/-!
# What a walk finds

A walk from a directory finds what stands below it, and nothing else: it goes no deeper than the
deepest entry, and that is deep enough.

## Main statements

* `Files.get?_of_mem_walkFrom`: what is found is there.
* `Files.mem_walkFrom`: what is there, and can be reached, is found.
* `Files.walk_eq_ok`: a walk from a path that leads somewhere.
-/

namespace Toolsmith

theorem Text.mem_insertSorted (s t : String) (ts : List String) :
    s ∈ insertSorted t ts ↔ s = t ∨ s ∈ ts := by
  induction ts with
  | nil => simp [insertSorted]
  | cons u ts ih =>
    rw [insertSorted]
    split
    · exact List.mem_cons
    · split
      next h => simp [h]
      next => simp only [List.mem_cons, ih, or_left_comm]

/-- Sorting keeps every text. -/
theorem Text.mem_sortDistinct {s : String} {texts : List String} :
    s ∈ sortDistinct texts ↔ s ∈ texts := by
  rw [sortDistinct]
  induction texts with
  | nil => simp
  | cons t texts ih => rw [List.foldr_cons, mem_insertSorted, ih, List.mem_cons]

namespace Files

variable {fs : Files} {names : List String} {n : Node}

/-! ### Directories listed -/

theorem nameBelow_eq_some {e : List String × Node} {name : String} :
    nameBelow names e = some name ↔ e.1 = names ++ [name] := by
  rw [nameBelow]
  constructor
  · intro h
    split at h
    · split at h
      next he => rwa [← Option.some.inj h]
      next => cases h
    · cases h
  · intro h
    rw [h]
    simp

/-- The names in a directory are those of the nodes directly below it. -/
theorem mem_list {name : String} : name ∈ fs.list names ↔ fs.get? (names ++ [name]) ≠ none := by
  have ne : names ++ [name] ≠ [] := by simp
  rw [list, Text.mem_sortDistinct, List.mem_filterMap, get?, if_neg ne]
  constructor
  · rintro ⟨e, he, hn⟩
    rw [← nameBelow_eq_some.1 hn]
    exact Entries.get?_ne_none he
  · intro h
    obtain ⟨n, hn⟩ := Option.ne_none_iff_exists'.1 h
    exact ⟨_, Entries.mem_of_get? hn, nameBelow_eq_some.2 rfl⟩

/-! ### Walks -/

/-- What is found stands below, where it was found. -/
theorem get?_of_mem_walkFrom {depth : Nat} {p : Path} (start : fs.get? (fs.locate p) = some n)
    {e : Path × Node} (h : e ∈ fs.walkFrom depth p n) :
    ∃ below, e.1 = p.descend below ∧ fs.get? (fs.locate e.1) = some e.2 := by
  induction depth generalizing p n with
  | zero => cases h
  | succ depth ih =>
    cases n with
    | file c x =>
      cases List.eq_of_mem_singleton h
      exact ⟨[], p.descend_nil.symm, start⟩
    | directory =>
      rw [walkFrom, List.mem_cons, List.mem_flatMap] at h
      rcases h with rfl | ⟨name, -, h⟩
      · exact ⟨[], p.descend_nil.symm, start⟩
      · split at h
        next m hm =>
          obtain ⟨below, he, hg⟩ := ih hm h
          exact ⟨name :: below, by rw [he, Path.child_descend], hg⟩
        next => cases h

/-- What stands below and can be reached is found, unless it stands too deep. -/
theorem mem_walkFrom {depth : Nat} {p : Path} (start : fs.get? (fs.locate p) = some n)
    {below : List String} (deep : below.length < depth) {m : Node}
    (there : fs.get? (fs.locate p ++ below) = some m) (reach : fs.Reach (fs.locate p ++ below)) :
    (p.descend below, m) ∈ fs.walkFrom depth p n := by
  induction below generalizing depth p n with
  | nil =>
    obtain ⟨d, rfl⟩ := Nat.exists_eq_succ_of_ne_zero (Nat.ne_of_gt deep)
    rw [List.append_nil, start] at there
    cases there
    rw [Path.descend_nil]
    cases m with
    | file c x => exact List.mem_singleton_self _
    | directory => exact List.mem_cons_self
  | cons name below ih =>
    obtain ⟨d, rfl⟩ := Nat.exists_eq_succ_of_ne_zero (Nat.ne_of_gt (Nat.zero_lt_of_lt deep))
    rw [reach.directory] at start
    cases start
    rw [List.append_cons, ← locate_child] at there reach
    -- the node of the name is a directory, unless the walk ends there
    obtain ⟨k, hk⟩ : ∃ k, fs.get? (fs.locate (p.child name)) = some k := by
      cases below with
      | nil =>
        rw [List.append_nil] at there
        exact ⟨m, there⟩
      | cons next below => exact ⟨.directory, reach.directory⟩
    have listed : name ∈ fs.list (fs.locate p) := by
      rw [mem_list, ← locate_child, hk]
      exact Option.some_ne_none k
    have found := ih hk (Nat.lt_of_succ_lt_succ deep) there reach
    rw [Path.child_descend] at found
    refine List.mem_cons_of_mem _ (List.mem_flatMap.2 ⟨name, listed, ?_⟩)
    simpa only [hk] using found

theorem le_foldl_max (entries : Entries) (start : Nat) :
    start ≤ entries.foldl (fun d e ↦ max d e.1.length) start ∧
      ∀ e ∈ entries, e.1.length ≤ entries.foldl (fun d e ↦ max d e.1.length) start := by
  induction entries generalizing start with
  | nil => simp
  | cons d entries ih =>
    obtain ⟨first, rest⟩ := ih (max start d.1.length)
    refine ⟨Nat.le_trans (Nat.le_max_left _ _) first, fun e he ↦ ?_⟩
    rcases List.mem_cons.1 he with rfl | he
    · exact Nat.le_trans (Nat.le_max_right _ _) first
    · exact rest e he

/-- Nothing stands deeper than the depth of the files. -/
theorem length_le_depth (h : fs.get? names = some n) : names.length ≤ fs.depth := by
  by_cases root : names = []
  · rw [root]
    exact Nat.zero_le _
  · rw [get?, if_neg root] at h
    exact (le_foldl_max fs.entries 0).2 _ (Entries.mem_of_get? h)

/-- A walk from a node finds it and what stands below it. -/
theorem walk_eq_ok {p : Path} (leads : fs.Leads p)
    (h : fs.get? (fs.locate p) = some n) :
    fs.walk p = .ok (fs.walkFrom (fs.depth + 1) p n) := by
  rw [walk, lookup_of_get? leads h]
  rfl

/-- What is found has nothing to do with what happens to operations. -/
theorem walk_withFaults (faults : List (Option Fault)) (p : Path) :
    (fs.withFaults faults).walk p = fs.walk p := by
  have found (depth : Nat) (p : Path) (n : Node) :
      (fs.withFaults faults).walkFrom depth p n = fs.walkFrom depth p n := by
    induction depth generalizing p n with
    | zero => rfl
    | succ depth ih =>
      cases n with
      | file c x => rfl
      | directory =>
        have list : (fs.withFaults faults).list = fs.list := rfl
        simp only [walkFrom, list, locate_withFaults, get?_withFaults, ih]
  have depth : (fs.withFaults faults).depth = fs.depth := rfl
  rw [walk, walk, lookup_withFaults]
  simp only [found, depth]

end Files

end Toolsmith
