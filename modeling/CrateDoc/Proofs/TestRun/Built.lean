import CrateDoc.Proofs.Analysis.Written
import CrateDoc.Proofs.TestRun.Project

/-!
# What a build leaves

A build prepares the documentation of a project as a run of tests does (`prepare_of_document`); how
many workers it is given makes no difference to the documentation. Then it makes a directory, writes
the text of the documentation into it, and logs that (`Delivers`).

After that the text stands in the file (`Delivers.read`), and everything else that was there stays
(`Delivers.at?_eq`), as long as the log is not written to it.
-/

namespace CrateDoc

open CrateDoc.Action FileTree

variable {s : Surroundings} {before between after : Session}

/-! ### The documentation -/

/-- A graph is built over the snapshots that are found. -/
theorem exists_discover_of_buildGraph {root : Path} {crate : String} {workers : Option Int}
    {graph : Documentation} (h : Runs (buildGraph root crate workers) s before (.ok graph) after) :
    ∃ records source, SnapshotSource.discover before.tree root = (records, .ok source) ∧
      ((Graph.build SnapshotSource.toSource source.records.length workers crate).run source).1.1 =
        .ok graph := by
  rw [buildGraph] at h
  have hload := h.of_get_bind
  rcases hdiscover : SnapshotSource.discover before.tree root with ⟨records, loaded⟩
  rw [hdiscover] at hload
  rcases hload.of_bind with ⟨_, -, hresult⟩ | ⟨_, _, -, hbuild⟩
  · cases hresult
  rcases hbuild.of_ofExcept_bind with ⟨_, -, hresult, -⟩ | ⟨source, hsource, hreport⟩
  · cases hresult
  subst hsource
  rcases hrun : (Graph.build SnapshotSource.toSource source.records.length workers crate).run source
    with ⟨⟨built, reports⟩, last⟩
  rw [hrun] at hreport
  rcases hreport.of_bind with ⟨_, -, hresult⟩ | ⟨_, _, -, hending⟩
  · cases hresult
  have hbuilt := (runs_ofExcept_iff.1 hending).1
  rcases built with e | graph'
  · cases hbuilt
  · cases hbuilt
    exact ⟨records, source, rfl, by rw [hrun]⟩

theorem buildGraph_of_workers {workers : Option Int} (h : workers.any (· < 1) = false) (root : Path)
    (crate : String) : buildGraph root crate workers = buildGraph root crate none := by
  simp only [buildGraph, Graph.build, Graph.building_of_workers h]

/-- The graph is the same with any number of workers that there can be. -/
theorem runs_buildGraph_of_workers {root : Path} {crate : String} {workers workers' : Option Int}
    {graph : Documentation} (hworkers : workers'.any (· < 1) = false)
    (h : Runs (buildGraph root crate workers) s before (.ok graph) after) :
    Runs (buildGraph root crate workers') s before (.ok graph) after := by
  obtain ⟨records, source, hdiscover, hbuild⟩ := exists_discover_of_buildGraph h
  have hvalid := SnapshotSource.workers_of_discover hdiscover hbuild
  rwa [buildGraph_of_workers hworkers, ← buildGraph_of_workers hvalid]

variable {manifest file : Path} {output : Option Path} {workers : Option Int} {verbose : Bool}
  {documented : Documented}

/-- A project is documented by opening it, making the compiler write its analysis, and building a
graph over what is found then. -/
theorem exists_parts_of_document
    (h : Runs (document manifest workers verbose) s before (.ok documented) after) :
    ∃ path opened analysed,
      Returns (openProject manifest) s before (path, documented.config, documented.target) opened ∧
      Returns (Cargo.analyse documented.config.cargo path verbose) s
        (opened.record s.time ⟨.info, "orchestrator",
          "Generating save-analysis data for " ++ documented.target.crateName⟩) () analysed ∧
      Runs (buildGraph documented.config.root documented.target.crateName
        ((workers.filter (· ≠ 0)).or documented.config.workers)) s analysed
        (.ok documented.documentation) after := by
  rcases h.of_bind with ⟨_, -, hresult⟩ | ⟨⟨path, config, target⟩, opened, hopen, h⟩
  · cases hresult
  rcases h.of_log_bind.of_bind with ⟨_, -, hresult⟩ | ⟨_, analysed, hanalyse, h⟩
  · cases hresult
  obtain ⟨ending, hgraph, hending⟩ := h.of_bind_pure
  rcases ending with e | graph
  · cases hending
  · cases hending
    exact ⟨path, opened, analysed, hopen, hanalyse, hgraph⟩

/-- What is documented for a build is what is documented for a run of tests. -/
theorem TestRun.prepare_of_document
    (h : Runs (document manifest workers verbose) s before (.ok documented) after) :
    Returns (TestRun.prepare manifest none verbose) s before
      (documented.config.root / manifestName, documented) after := by
  obtain ⟨path, opened, analysed, hopen, hanalyse, hgraph⟩ := exists_parts_of_document h
  have hsettings := (returns_openProject_iff.1 hopen).2.1
  have hdocumentation : Returns
      (TestRun.documentationOf path documented.config documented.target none verbose) s opened
      documented.documentation after := by
    have hlog : Returns (log ⟨.info, "orchestrator",
        "Generating save-analysis data for " ++ documented.target.crateName⟩) s opened () _ := rfl
    refine hlog.bind (hanalyse.bind ?_)
    obtain ⟨_, -, hconfig⟩ := Config.isFor_of_load hsettings
    exact runs_buildGraph_of_workers hconfig.workers hgraph
  exact hopen.bind (hdocumentation.bind (returns_pure _ _))

/-- No record of what is documented has an attribute or a relation twice. -/
theorem hasDistinctKeys_of_document
    (h : Runs (document manifest workers verbose) s before (.ok documented) after) :
    ∀ document ∈ documented.documentation.documents, document.HasDistinctKeys := by
  obtain ⟨_, _, _, -, -, hgraph⟩ := exists_parts_of_document h
  obtain ⟨records, source, hdiscover, hbuild⟩ := exists_discover_of_buildGraph hgraph
  exact SnapshotSource.hasDistinctKeys_of_discover hdiscover hbuild

/-! ### The file -/

theorem isComponent_dataFileName : Path.IsComponent dataFileName :=
  ⟨by decide, by decide, by decide, by decide⟩

/-- The end of a build: a directory is made at a place, the text of a documentation is written into
it, and that is logged. -/
structure Delivers (s : Surroundings) (before : Session) (directory : Path)
    (documentation : Documentation) (place : List String) (made : FileTree) (after : Session) :
    Prop where
  makes : before.tree.makeDirectory directory = .ok made
  isAt : made.IsAt directory place
  writes : ∃ written r, made.write (directory / dataFileName)
      (Text.Utf8.encode documentation.toText.toList) = .ok written ∧
    after = ({ before with tree := written } : Session).record s.time r

/-- A build delivers what it has documented. -/
theorem exists_delivers_of_build
    (h : Runs (build manifest output workers verbose) s before (.ok file) after) :
    ∃ documented between place made,
      Runs (document manifest workers verbose) s before (.ok documented) between ∧
      file = output.getD documented.config.outputDir / dataFileName ∧
      Delivers s between (s.directory.join (output.getD documented.config.outputDir))
        documented.documentation place made after := by
  rcases h.of_bind with ⟨_, -, hresult⟩ | ⟨documented, between, hdocument, h⟩
  · cases hresult
  rcases h.of_absolute_bind.of_changeTree_bind with ⟨_, -, hresult, -⟩ | ⟨made, hmake, h⟩
  · cases hresult
  rcases h.of_changeTree_bind with ⟨_, -, hresult, -⟩ | ⟨written, hwrite, h⟩
  · cases hresult
  obtain ⟨hfile, hafter⟩ := runs_pure_iff.1 h.of_log_bind
  cases hfile
  obtain ⟨place, hplace⟩ := isAt_of_makeDirectory hmake
  exact ⟨documented, between, place, made, hdocument, rfl, hmake, hplace, written, _, hwrite,
    hafter⟩

namespace Delivers

variable {directory : Path} {documentation : Documentation} {place other : List String}
  {made : FileTree} (h : Delivers s before directory documentation place made after)
  (hlog : before.LogApart (place ++ [dataFileName]))

include h hlog in
/-- Where the log is not written, nothing is changed but by making the directory and by writing the
file. -/
theorem exists_passes (hother : before.LogApart other) :
    ∃ written, made.write (directory / dataFileName)
        (Text.Utf8.encode documentation.toText.toList) = .ok written ∧
      ({ before with tree := written } : Session).Passes other [] after := by
  obtain ⟨written, r, hwrite, rfl⟩ := h.writes
  have hlocate := h.isAt.locate_component isComponent_dataFileName
  have hkeep := keepsEntries_makeDirectory h.makes
  have hapart : Session.LogApart other { before with tree := written } := fun level file hfile ↦
    ((hother level file hfile).keepEntries hkeep).write_other
      ((hlog level file hfile).keepEntries hkeep) hlocate hwrite
  exact ⟨written, hwrite, hapart.passes_record s.time r⟩

include h in
/-- All directories stay. -/
theorem keepsDirectories : made.KeepsDirectories after.tree := by
  obtain ⟨written, r, hwrite, rfl⟩ := h.writes
  have hrecord := Session.keepsDirectories_record s.time { before with tree := written } r
  exact (keepsDirectories_write hwrite).trans hrecord

include h in
theorem keepsDirectories_before : before.tree.KeepsDirectories after.tree :=
  (keepsEntries_makeDirectory h.makes).directories.trans h.keepsDirectories

include h hlog in
/-- The text of the documentation stands in the file, and can be read as long as nothing is done
there. -/
theorem read {calls : List Child.Call} {later : Session}
    (hlater : after.Passes (place ++ [dataFileName]) calls later) :
    later.tree.read (directory / dataFileName) =
      .ok (Text.Utf8.encode documentation.toText.toList) := by
  obtain ⟨written, hwrite, hpasses⟩ := h.exists_passes hlog hlog
  obtain ⟨-, -, rfl⟩ := write_eq_ok (h.isAt.locate_component isComponent_dataFileName) hwrite
  have hat := (h.isAt.keep h.keepsDirectories).keep hlater.tree.directories
  refine hat.read_component isComponent_dataFileName ?_
  exact ((hpasses.trans hlater).tree.below _ List.prefix_rfl).trans (at?_putAt_self ..)

include h hlog in
/-- Elsewhere there is what was there when the directory had been made. -/
theorem at?_eq (hother : before.LogApart other) (hne : other ≠ place ++ [dataFileName]) :
    after.tree.at? other = made.at? other := by
  obtain ⟨written, hwrite, hpasses⟩ := h.exists_passes hlog hother
  exact (hpasses.tree.below _ List.prefix_rfl).trans
    (at?_write_of_ne (h.isAt.locate_component isComponent_dataFileName) hwrite hne)

include h hlog in
/-- Elsewhere what was there is still there. -/
theorem at?_of_some (hother : before.LogApart other) (hne : other ≠ place ++ [dataFileName])
    {entry : Entry} (hthere : before.tree.at? other = some entry) :
    after.tree.at? other = some entry :=
  (h.at?_eq hlog hother hne).trans (keepsEntries_makeDirectory h.makes other entry hthere)

section

variable {path : Path} {at_ : List String} {config : Config}

include h hlog in
/-- The manifest stays. -/
theorem isManifest (hmanifest : IsManifest before.tree path at_)
    (hapart : before.LogApart (at_ ++ [manifestName])) : IsManifest after.tree path at_ := by
  obtain ⟨bytes, hfile⟩ := hmanifest.file
  have hne : at_ ++ [manifestName] ≠ place ++ [dataFileName] := fun heq ↦
    absurd (List.append_inj' heq rfl).2 (by decide)
  exact
    { hmanifest with
      isAt := hmanifest.isAt.keep h.keepsDirectories_before
      file := ⟨bytes, h.at?_of_some hlog hapart hne hfile⟩ }

include h hlog in
/-- The file of the settings stays, and if there is none, none is made. -/
theorem at?_config (hmanifest : IsManifest before.tree path at_)
    (hload : Config.load before.tree s.toStandpoint path.parent = .ok config)
    (hapart : before.LogApart (at_ ++ [configName]))
    (hoff : after.tree.at? (at_ ++ [configName]) ≠ some .directory ∨
      directory = s.directory.join config.outputDir) :
    after.tree.at? (at_ ++ [configName]) = before.tree.at? (at_ ++ [configName]) := by
  have hne : at_ ++ [configName] ≠ place ++ [dataFileName] := fun heq ↦
    absurd (List.append_inj' heq rfl).2 (by decide)
  rcases hthere : before.tree.at? (at_ ++ [configName]) with - | entry
  swap
  · exact h.at?_of_some hlog hapart hne hthere
  have hsame := h.at?_eq hlog hapart hne
  rcases hoff with hoff | hdirectory
  · rw [hsame] at hoff
    have hcases := at?_makeDirectory_go_cases h.makes (at_ ++ [configName])
    rw [hsame, hcases.resolve_right hoff, hthere]
  -- Without settings the directory is below the project, and not on the way to their file.
  · rw [Config.load_of_at?_eq_none hmanifest.absolute_parent hmanifest.down_parent hmanifest.isAt
      hthere] at hload
    cases hload
    have hway : directory.parts = at_ ++ ["target", "doc"] := by
      have habsolute : (Config.default path.parent).outputDir.isAbsolute = true := by
        rw [Config.outputDir_default]
        exact hmanifest.absolute_parent
      rw [hdirectory, Path.join_eq_self _ habsolute, Config.outputDir_default,
        hmanifest.parts_parent]
    have hdown : ".." ∉ directory.parts := by
      rw [hway, List.mem_append, ← hmanifest.parts_parent]
      exact not_or.2 ⟨hmanifest.down_parent, by decide⟩
    have hbeside : ¬ at_ ++ [configName] <+: directory.parts := by
      rw [hway, List.prefix_append_right_inj]
      decide
    rw [hsame, at?_makeDirectory_of_off_way h.makes hdown hbeside, hthere]

include h hlog in
/-- The settings stay, if nothing is made in the place of their file. -/
theorem load (hmanifest : IsManifest before.tree path at_)
    (hload : Config.load before.tree s.toStandpoint path.parent = .ok config)
    (hmanifestLog : before.LogApart (at_ ++ [manifestName]))
    (hconfigLog : before.LogApart (at_ ++ [configName]))
    (hoff : after.tree.isDirectory (path.parent / configName) = false ∨
      directory = s.directory.join config.outputDir) :
    Config.load after.tree s.toStandpoint path.parent = .ok config := by
  have hlater := h.isManifest hlog hmanifest hmanifestLog
  have hsame : after.tree.at? (at_ ++ [configName]) = before.tree.at? (at_ ++ [configName]) := by
    refine h.at?_config hlog hmanifest hload hconfigLog (hoff.imp_left fun hnone hthere ↦ ?_)
    rw [FileTree.isDirectory, FileTree.entry?,
      hlater.isAt.locate_component Config.isComponent_configName] at hnone
    simp only [hthere, reduceCtorEq] at hnone
  exact (hmanifest.load_congr hlater hsame s.toStandpoint).trans hload

end

end Delivers

end CrateDoc
