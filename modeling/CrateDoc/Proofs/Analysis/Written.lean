import CrateDoc.Proofs.Analysis.Loading
import CrateDoc.Proofs.Analysis.Snapshot
import CrateDoc.Proofs.Graph.Parents
import CrateDoc.Proofs.JsonApi.RoundTrip

/-!
# Graphs that are built can be written

No document of a graph has an attribute or a relation twice: the attributes are those of the
document of a crate, or of a definition, and relations are added under names that are new
(`hasDistinctKeys_of_build`). That is what it takes for the text of a graph to be read back, and it
holds of all graphs of snapshots that were found in a project (`hasDistinctKeys_of_discover`).

The number of workers says whether there is a graph, and not which (`building_of_workers`).
-/

namespace CrateDoc

namespace Graph

/-! ### Distinct keys -/

section

variable {source : AnalysisSource Id} {d : Definition} {document : Document}

theorem hasDistinctKeys_of_describes {top : Bool} (h : Describes d document)
    (hpoints : PointsAtChildren source top d document) : document.HasDistinctKeys where
  attributes := by
    obtain ⟨plain, -, hattributes⟩ := h.attributes
    rw [hattributes]
    show ["name", "docs", "summary", "plainSummary"].Nodup
    decide
  relationships := hpoints.keys

/-- No document of a graph has an attribute or a relation twice. -/
theorem hasDistinctKeys_of_build {size : ℕ} (hfin : source.Finite size) {workers : Option Int}
    {crate : String} {graph : Documentation}
    (hbuild : (Graph.build source size workers crate).1 = .ok graph) :
    ∀ document ∈ graph.documents, document.HasDistinctKeys := by
  have hrun : Runs source workers crate (Graph.build source size workers crate).1 := runs_build hfin
  rw [hbuild] at hrun
  obtain ⟨id, root, n, -, hroot, hfaults, hlevel, rfl⟩ := exists_rounds_of_runs hrun
  have hedges := hasExactEdges_of_faults_eq_nil (hfin.id_beq hroot) hfaults hlevel
  intro document hdocument
  rcases List.mem_cons.1 hdocument with rfl | hdocument
  · obtain ⟨relationships, hdata⟩ := finished_rootDocument source id crate root
    refine ⟨?_, hedges.data.keys⟩
    dsimp only
    rw [hdata]
    exact List.nodup_singleton "docs"
  · obtain ⟨d, -, hdescribes, hpoints, -⟩ := hedges.exists_shown hedges.described hdocument
    exact hasDistinctKeys_of_describes hdescribes hpoints

end

/-! ### Workers -/

/-- All numbers of workers that there can be build the same. -/
theorem building_of_workers {m : Type → Type} [Monad m] {source : AnalysisSource m} {size : ℕ}
    {workers : Option Int} (h : workers.any (· < 1) = false) (crate : String) :
    building source size workers crate = building source size none crate := by
  simp only [building, h, Option.any_none]

end Graph

namespace SnapshotSource

variable {tree : FileTree} {root : Path} {records : List LogRecord} {source : SnapshotSource}

/-- What is found in a project was loaded from snapshots. -/
theorem exists_payloads_of_discover (h : discover tree root = (records, .ok source)) :
    ∃ payloads : List Json.Value, payloads.foldlM addSnapshot {} = .ok source := by
  rw [discover] at h
  split at h
  · exact exists_payloads_of_addFiles (congrArg Prod.snd h)
  · cases h

/-- The graph of a source that was found is one of the source that remembers nothing. -/
theorem build_uncached_of_discover (h : discover tree root = (records, .ok source)) {size : ℕ}
    {workers : Option Int} {crate : String} {graph : Documentation}
    (hbuild : ((Graph.build toSource size workers crate).run source).1.1 = .ok graph) :
    (Graph.build source.uncached size workers crate).1 = .ok graph := by
  obtain ⟨payloads, hload⟩ := exists_payloads_of_discover h
  exact source.build_uncached_of_build_toSource (cache_of_load hload ▸ source.coherent_nil) hbuild

/-- No document of a graph of snapshots has an attribute or a relation twice. -/
theorem hasDistinctKeys_of_discover (h : discover tree root = (records, .ok source))
    {workers : Option Int} {crate : String} {graph : Documentation}
    (hbuild : ((Graph.build toSource source.records.length workers crate).run source).1.1 =
      .ok graph) : ∀ document ∈ graph.documents, document.HasDistinctKeys :=
  Graph.hasDistinctKeys_of_build (Graph.finite_uncached source)
    (build_uncached_of_discover h hbuild)

/-- Where there is a graph there were workers. -/
theorem workers_of_discover (h : discover tree root = (records, .ok source)) {size : ℕ}
    {workers : Option Int} {crate : String} {graph : Documentation}
    (hbuild : ((Graph.build toSource size workers crate).run source).1.1 = .ok graph) :
    workers.any (· < 1) = false := by
  obtain ⟨_, _, _, _, hworkers, -⟩ :=
    Graph.exists_root_of_build_eq_ok (build_uncached_of_discover h hbuild)
  exact hworkers

end SnapshotSource

end CrateDoc
