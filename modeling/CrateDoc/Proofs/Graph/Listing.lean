import CrateDoc.Proofs.Analysis.InMemory
import CrateDoc.Proofs.Graph.Outcome
import CrateDoc.Proofs.Graph.WellFormed

/-!
# Which documents a graph has

`build_lists_breadthFirst`: a graph that is built from a finite source has one document for the
crate and one for each definition that is reached through kinds with documents, and no others. They
stand in breadth-first order, and no two of them have the same id.

Completeness and exactness of the list are those of the walk (`AnalysisSource.mem_below_iff_shown`),
once it is known to have come to its end: a build that returns has met nothing twice, so by
`level_eq_nil_of_distinct` there is nothing below the levels that it was allowed.
-/

namespace CrateDoc.Graph

/-- A graph lists what is reached from a root, down to some depth below which there is nothing. -/
structure ListsBreadthFirst (source : AnalysisSource Id) (crate : String) (root : Definition)
    (depth : ℕ) (graph : Documentation) : Prop where
  /-- The first document is that of the crate, with the text of its root. -/
  data : graph.data.type = "crate" ∧ graph.data.id = crate ∧
    graph.data.attributes = [("docs", root.docs)]
  /-- There is nothing below the levels that are listed. -/
  exhausted : source.level (depth + 1) [root] = []
  /-- The other documents describe the definitions of these levels, one each and in their order. -/
  described : List.Forall₂ Describes (source.below depth root) graph.included
  /-- The definitions listed are those that are reached through kinds with documents. -/
  mem_iff_shown : ∀ d, d ∈ source.below depth root ↔ source.Shown root d
  /-- None of them is of a kind without documents. -/
  kinds : ∀ d ∈ source.below depth root,
    d.kind ∉ [.union, .macroRule, .tuple, .method, .localVariable]
  /-- None is listed twice, and the root is not listed. -/
  ids : (root.id.key :: (source.below depth root).map (·.id.key)).Nodup
  /-- No two documents have the same id. -/
  documents : (graph.documents.map (·.id)).Nodup

variable {source : AnalysisSource Id} {size : ℕ} {workers : Option Int} {crate : String}

/-- The ids of documents are the qualified names of the definitions that they describe. -/
theorem map_id_of_describes {ds : List Definition} {documents : List Document}
    (h : List.Forall₂ Describes ds documents) :
    documents.map (·.id) = ds.map (·.qualifiedName) := by
  induction h with
  | nil => rfl
  | cons hd _ ih => rw [List.map_cons, List.map_cons, hd.id, ih]

/-- A build that returns has found a root and workers, and nothing wrong on its walk. -/
theorem exists_root_of_build_eq_ok {graph : Documentation}
    (h : (Graph.build source size workers crate).1 = .ok graph) :
    ∃ id root, source.resolveRoot crate = .ok id ∧ source.definition id = .ok root ∧
      workers.any (· < 1) = false ∧
      faults source id crate [] (source.rounds (size + 1) [root]) = [] ∧
      graph = ⟨finished source id (root, rootDocument crate root),
        finishedRounds source id size (nodesBelow source id root)⟩ := by
  rcases hid : source.resolveRoot crate with e | id
  · rw [build_of_unresolved hid] at h
    cases h
  rcases hroot : source.definition id with e | root
  · rw [build_of_rootless hid hroot] at h
    cases h
  rcases hworkers : workers.any (· < 1) with - | -
  · rw [build_of_root hid hroot hworkers, firstFault_eq_ok_iff] at h
    exact ⟨id, root, rfl, hroot, hworkers, h.1, h.2.symm⟩
  · rw [build_of_noWorkers hid hroot hworkers] at h
    cases h

variable (source) in
/-- The crate's document is not changed by what is attached to it, its relations apart. -/
theorem finished_rootDocument (id : DefId) (crate : String) (root : Definition) :
    ∃ relationships, finished source id (root, rootDocument crate root) =
      { rootDocument crate root with relationships := relationships } :=
  foldl_addChild_spec (root.id == id) (nodesBelow source id root) (onlyParentSingular_of_nil rfl)

/-- **A graph lists what is reached, in breadth-first order.** -/
theorem build_lists_breadthFirst (hfin : source.Finite size) {graph : Documentation}
    (h : (Graph.build source size workers crate).1 = .ok graph) :
    ∃ id root depth, source.resolveRoot crate = .ok id ∧ source.definition id = .ok root ∧
      ListsBreadthFirst source crate root depth graph := by
  obtain ⟨id, root, hid, hroot, -, hfaults, rfl⟩ := exists_root_of_build_eq_ok h
  obtain ⟨-, hdistinct⟩ := faults_rounds_eq_nil_iff.1 hfaults
  have hplain := hasPlainSummary_of_mem_below hfaults
  rw [AnalysisSource.below_succ] at hdistinct
  replace hdistinct := hdistinct.sublist (List.sublist_append_left _ _)
  -- distinct ids fit into the size of the source, so the levels run out
  have hlevel := level_eq_nil_of_distinct hfin (Nat.le_refl size) hroot hdistinct
  have hdescribed : List.Forall₂ Describes (source.below size root)
      (finishedRounds source id size (nodesBelow source id root)) := by
    have hrounds := forall₂_outlines_finishedRounds source id size
      fun node (hnode : node ∈ nodesBelow source id root) ↦ nodesBelow_spec hnode
    rw [map_fst_nodesBelow, ← List.flatMap_singleton source.shownChildren root,
      AnalysisSource.rounds_flatMap_shownChildren, AnalysisSource.flatMap_shownChildren_rounds]
      at hrounds
    exact forall₂_describes hrounds fun d hd ↦ hplain d
      (AnalysisSource.below_succ .. ▸ List.mem_append_left _ hd)
  obtain ⟨relationships, hdata⟩ := finished_rootDocument source id crate root
  refine ⟨id, root, size, hid, hroot, ?_⟩
  exact {
    data := by
      rw [hdata]
      exact ⟨rfl, rfl, rfl⟩
    exhausted := AnalysisSource.level_eq_nil_of_le hlevel (Nat.le_succ size)
    described := hdescribed
    mem_iff_shown := fun d ↦ AnalysisSource.mem_below_iff_shown hlevel
    kinds := fun d hd ↦ by
      obtain ⟨p, -, hchild⟩ :=
        AnalysisSource.shown_iff_exists_reached.1 (AnalysisSource.Shown.of_mem_below hd)
      exact hchild.kind_not_mem_dropped
    ids := by
      rw [DefId.beq_iff_key_eq.1 (hfin.id_beq hroot)]
      exact hdistinct.ids
    documents := by
      rw [Documentation.documents, List.map_cons, map_id_of_describes hdescribed, hdata]
      exact hdistinct.names }

/-! ### A small crate -/

/-- A crate with a module and a union; the module holds a struct, and the union a field. -/
def sampleDefinitions : List Definition :=
  [⟨.int 1, .module, "c", "c", "", none⟩, ⟨.int 2, .union, "c::U", "U", "", some (.int 1)⟩,
    ⟨.int 3, .module, "c::m", "m", "", some (.int 1)⟩,
    ⟨.int 4, .field, "c::U::f", "f", "", some (.int 2)⟩,
    ⟨.int 5, .struct, "c::m::S", "S", "", some (.int 3)⟩,
    ⟨.int 6, .function, "c::f", "f", "", some (.int 1)⟩]

/-- The source of the small crate. -/
def sampleSource : InMemorySource where
  definitions := sampleDefinitions.map fun d ↦ (d.id, d)
  children := [(.int 1, [.int 2, .int 3, .int 6]), (.int 2, [.int 4]), (.int 3, [.int 5]),
    (.int 4, []), (.int 5, []), (.int 6, [])]
  roots := [("c", .int 1)]

theorem ofDefinitions_sampleDefinitions :
    InMemorySource.ofDefinitions sampleDefinitions none = .ok sampleSource := rfl

theorem finite_sampleSource : sampleSource.toSource.Finite 6 :=
  InMemorySource.finite_toSource ofDefinitions_sampleDefinitions []

/-- The union and its field have no documents, and the function comes before the struct. -/
theorem build_sampleSource_lists_breadthFirst :
    ∃ graph, (Graph.build sampleSource.toSource 6 none "c").1 = .ok graph ∧
      graph.included.map (·.id) = ["c::m", "c::f", "c::m::S"] ∧
      ∃ id root depth, sampleSource.toSource.resolveRoot "c" = .ok id ∧
        sampleSource.toSource.definition id = .ok root ∧
        ListsBreadthFirst sampleSource.toSource "c" root depth graph :=
  ⟨_, rfl, rfl, build_lists_breadthFirst finite_sampleSource
    (show (Graph.build sampleSource.toSource 6 none "c").1 = .ok _ from rfl)⟩

end CrateDoc.Graph
