import CrateDoc.Proofs.Analysis.Agreement
import CrateDoc.Proofs.Concurrency.Schedules
import CrateDoc.Proofs.Graph.References

/-!
# References in graphs of snapshots

The compiler's records say of a definition which children it has and which parent, and nothing makes
the two agree. A record may name a module as its parent that nobody lists, as in `strayingSnapshot`:
then the graph is built, and its reference to the parent leads nowhere. All other references lead to
included documents, whatever the snapshots say.
-/

namespace CrateDoc.SnapshotSource

open CrateDoc.Json

/-- **The references in a graph of snapshots resolve exactly if the parents of its modules list
them.** References to children lead to included documents in every graph; all references do, and the
document that a module names as its parent lists the module, exactly if no record of a module names
a parent that has a document but does not list it. -/
theorem references_resolve_iff_parents_list_modules {payloads : List Value}
    {source : SnapshotSource}
    (hload : payloads.foldlM addSnapshot {} = .ok source) {workers : Option Int} {crate : String}
    {graph : Documentation}
    (hbuild : ((Graph.build toSource source.records.length workers crate).run source).1.1 =
      .ok graph) :
    ∃ id root, source.uncached.resolveRoot crate = .ok id ∧
      source.uncached.definition id = .ok root ∧
      (∀ document ∈ graph.documents, ∀ reference ∈ document.entries,
        ∃ other ∈ graph.included, other.reference = reference) ∧
      (graph.ReferencesResolve ↔ source.uncached.ParentsListModules id root) := by
  have hplain := source.build_uncached_of_build_toSource
    (cache_of_load hload ▸ source.coherent_nil) hbuild
  exact Graph.build_referencesResolve_iff (Graph.finite_uncached source) hplain

/-- Two modules, one in the other. -/
def nestedSnapshot : Value :=
  sampleSnapshot "c" [sampleRecord 1 "Mod" "::" [2], linkedRecord 1 2 "Mod" "::m" [3],
    linkedRecord 2 3 "Mod" "::m::n" []]

/-- The inner module names the outer one, which lists it. -/
theorem references_of_nestedSnapshot_resolve :
    ∃ source graph, [nestedSnapshot].foldlM addSnapshot {} = .ok source ∧
      ((Graph.build toSource source.records.length none "c").run source).1.1 = .ok graph ∧
      graph.included.map (·.relationships) =
        [[("child_modules", .toMany [⟨"module", "c::m::n"⟩])],
          [("parent", .toOne ⟨"module", "c::m"⟩)]] ∧
      graph.ReferencesResolve ∧
      ∃ id root, source.uncached.definition id = .ok root ∧
        source.uncached.ParentsListModules id root := by
  have hload : [nestedSnapshot].foldlM addSnapshot {} = .ok _ := rfl
  obtain ⟨id, root, -, hroot, -, hiff⟩ :=
    @references_resolve_iff_parents_list_modules _ _ hload none "c" _ rfl
  exact ⟨_, _, hload, rfl, rfl, by decide, id, root, hroot, hiff.1 (by decide)⟩

/-- A module that names another one as its parent, and that one is listed by nobody. -/
def strayingSnapshot : Value :=
  sampleSnapshot "c" [sampleRecord 1 "Mod" "::" [2], linkedRecord 3 2 "Mod" "::m" [],
    linkedRecord 1 3 "Mod" "::n" []]

/-- The graph is built, and the reference of the module to its parent leads nowhere. -/
theorem not_references_resolve :
    ¬ ∀ (payloads : List Value) (source : SnapshotSource) (crate : String) (graph : Documentation),
      payloads.foldlM addSnapshot {} = .ok source →
      ((Graph.build toSource source.records.length none crate).run source).1.1 = .ok graph →
        graph.ReferencesResolve := by
  intro h
  have hresolve := h [strayingSnapshot] _ "c" _ rfl rfl
  revert hresolve
  decide

end CrateDoc.SnapshotSource
