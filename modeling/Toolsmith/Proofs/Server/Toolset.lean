import Mathlib.Data.List.Nodup
import Toolsmith.Proofs.History
import Toolsmith.Proofs.Table
import Toolsmith.Server.Toolset

/-!
# Tools loaded and registered

A toolset holds what the files of a directory hold, in the order in which they are found. A server
keeps its tools by name: of several tools of one name it lists the last one, and no name is lost.

## Main statements

* `Server.Toolset.loadFiles_eq_ok`: the tools in files that can all be loaded.
* `Server.mem_listing_register_iff`: what is listed is told of the last tool of its name.
-/

namespace Toolsmith.Server

namespace Toolset

/-- A file named after a tool that has a name is taken for that of a tool. -/
theorem isArtifactName_fileName {a : Artifact} (h : a.name ≠ "") :
    isArtifactName a.fileName = true := by
  have suffix : a.fileName.endsWith ("." ++ Artifact.extension) = true := by
    rw [Artifact.fileName, String.append_assoc, String.endsWith_eq_endsWith_toSlice,
      String.Slice.endsWith_string_iff]
    simp
  have longer : a.fileName ≠ "." ++ Artifact.extension := by
    intro he
    have chars := congrArg String.toList he
    rw [Artifact.fileName, String.append_assoc, String.toList_append] at chars
    exact h (String.toList_inj.1 (List.append_left_eq_self.1 chars))
  rw [isArtifactName, suffix, Bool.true_and, bne_iff_ne]
  exact longer

/-- Files that are all those of tools, and can all be loaded, are loaded in the order in which they
were found. -/
theorem loadFiles_eq_ok {files : Files} {found : List (Path × Files.Node)}
    (h : ∀ e ∈ found, e.2.isDirectory = false →
      isArtifactPath e.1 = true ∧ ∃ a, loadFile files e.1 = .ok a) :
    ∃ loaded : List (Path × Artifact), loadFiles files found = .ok (loaded.map (·.2)) ∧
      (loaded.map (·.1)).Sublist (found.map (·.1)) ∧
      ∀ e, e ∈ loaded ↔ (∃ d ∈ found, d.1 = e.1 ∧ d.2.isDirectory = false) ∧
        loadFile files e.1 = .ok e.2 := by
  induction found with
  | nil => exact ⟨[], rfl, .slnil, by simp⟩
  | cons d found ih =>
    obtain ⟨p, node⟩ := d
    obtain ⟨first, rest⟩ := List.forall_mem_cons.1 h
    obtain ⟨loaded, all, order, mem⟩ := ih rest
    -- Directories are passed over, and every file is loaded.
    cases kind : node.isDirectory with
    | true =>
      refine ⟨loaded, by rw [loadFiles, kind]; exact all, order.cons p, fun e ↦ ?_⟩
      rw [mem, List.exists_mem_cons_iff]
      simp only [kind, Bool.true_eq_false, and_false, false_or]
    | false =>
      obtain ⟨name, a, here⟩ := first kind
      refine ⟨(p, a) :: loaded, ?_, order.cons_cons p, fun e ↦ ?_⟩
      · rw [loadFiles, kind, name]
        simp [here, all, bind, Except.bind, pure, Except.pure]
      · have head : e = (p, a) ↔ p = e.1 ∧ loadFile files e.1 = .ok e.2 := by
          constructor
          · rintro rfl
            exact ⟨rfl, here⟩
          · rintro ⟨rfl, load⟩
            exact Prod.ext rfl (Except.ok.inj (load.symm.trans here))
        rw [List.mem_cons, head, mem, List.exists_mem_cons_iff, or_and_right]
        simp only [kind, and_true]

end Toolset

/-! ### Registration -/

section Add

variable {σ : Type} {s : Server σ} {ts : List (Tool σ)}

theorem mem_names_addAll {name : String} : name ∈ (s.addAll ts).tools.names ↔
    name ∈ s.tools.names ∨ ∃ t ∈ ts, t.definition.name = name := by
  induction ts generalizing s with
  | nil => simp [addAll]
  | cons t ts ih =>
    have step : name ∈ (s.add t).tools.names ↔ name = t.definition.name ∨ name ∈ s.tools.names :=
      Table.mem_names_insert
    have all : s.addAll (t :: ts) = (s.add t).addAll ts := rfl
    rw [all, ih, step, List.exists_mem_cons_iff, eq_comm]
    tauto

theorem nodup_names_addAll (h : s.tools.names.Nodup) : (s.addAll ts).tools.names.Nodup := by
  induction ts generalizing s with
  | nil => exact h
  | cons t ts ih => exact ih (Table.nodup_names_insert h _ _)

/-- The tool under a name is the one that was added last under it, or it was there before and none
was added under it. -/
theorem mem_tools_addAll (h : s.tools.names.Nodup) {e : String × Tool σ} :
    e ∈ (s.addAll ts).tools ↔
      Stands (fun t ↦ (t.definition.name, t) = e) (·.definition.name = e.1) ts ∨
        e ∈ s.tools ∧ ∀ t ∈ ts, t.definition.name ≠ e.1 := by
  induction ts using List.reverseRecOn with
  | nil => simp [addAll, not_stands_nil]
  | append_singleton ts t ih =>
    have last : (s.addAll (ts ++ [t])).tools = (s.addAll ts).tools.insert t.definition.name t := by
      rw [addAll, List.foldl_append]
      rfl
    rw [last, Table.mem_insert_iff (nodup_names_addAll h), ih, stands_append_singleton,
      eq_comm (a := e), ne_comm (a := e.1), List.forall_mem_append, List.forall_mem_singleton]
    tauto

end Add

section Register

variable (identity : Identity) (environment : Table String) (artifacts : List Artifact)

/-- What is listed is told of the last of the artifacts of its name. -/
theorem mem_listing_register_iff {d : Definition} :
    d ∈ (Toolset.register { identity } environment artifacts).listing.tools ↔
      Stands (Definition.ofArtifact · = d) (·.name = d.name) artifacts := by
  have none : ({ identity } : Server Http.Network).tools.names.Nodup := List.nodup_nil
  rw [listing, List.mem_map]
  constructor
  · rintro ⟨e, he, rfl⟩
    rw [Toolset.register, mem_tools_addAll none, stands_map] at he
    obtain ⟨before, a, after, rfl, rfl, later⟩ := he.resolve_right fun old ↦
      List.not_mem_nil old.1
    exact ⟨before, a, after, rfl, rfl, later⟩
  · rintro ⟨before, a, after, rfl, rfl, later⟩
    refine ⟨(a.name, .ofArtifact environment a), ?_, rfl⟩
    rw [Toolset.register, mem_tools_addAll none, stands_map]
    exact .inl ⟨before, a, after, rfl, rfl, later⟩

/-- Whatever is listed is told of one of the artifacts. -/
theorem mem_listing_register {d : Definition}
    (h : d ∈ (Toolset.register { identity } environment artifacts).listing.tools) :
    ∃ a ∈ artifacts, d = .ofArtifact a := by
  obtain ⟨a, ha, rfl⟩ := ((mem_listing_register_iff _ _ _).1 h).exists_begins
  exact ⟨a, ha, rfl⟩

/-- A tool stands under its name. -/
theorem names_listing_register :
    ((Toolset.register { identity } environment artifacts).listing.tools.map (·.name)) =
      (Toolset.register { identity } environment artifacts).tools.names := by
  rw [listing, List.map_map]
  refine List.map_congr_left fun e he ↦ ?_
  have none : ({ identity } : Server Http.Network).tools.names.Nodup := List.nodup_nil
  rw [Toolset.register, mem_tools_addAll none] at he
  obtain ⟨t, -, rfl⟩ := (he.resolve_right fun old ↦ List.not_mem_nil old.1).exists_begins
  rfl

/-- The listed names are those of the artifacts. -/
theorem mem_names_register {name : String} :
    name ∈ (Toolset.register { identity } environment artifacts).tools.names ↔
      ∃ a ∈ artifacts, a.name = name := by
  have none : name ∉ ({ identity } : Server Http.Network).tools.names := List.not_mem_nil
  rw [Toolset.register, mem_names_addAll, or_iff_right none]
  constructor
  · rintro ⟨t, ht, name⟩
    obtain ⟨a, ha, rfl⟩ := List.mem_map.1 ht
    exact ⟨a, ha, name⟩
  · rintro ⟨a, ha, name⟩
    exact ⟨_, List.mem_map.2 ⟨a, ha, rfl⟩, name⟩

/-- No name is listed twice. -/
theorem nodup_names_register :
    (Toolset.register { identity } environment artifacts).tools.names.Nodup :=
  nodup_names_addAll List.nodup_nil

end Register

end Toolsmith.Server
