import CrateDoc.Proofs.FileTree.SameFile
import CrateDoc.Proofs.TestRun.FromFile

/-!
# The files of documentations

Which files a run leaves as they were. A part of a run *spares* the file at a place
(`Session.Spares`) if the same file stands there afterwards, or still none; what makes a plan of
calls does so (`Action.Makes.spares`), and parts that do so are put together in their order.

A build spares all files until it writes its own, so it writes the documentation as a whole or
spares them all. The tests write sources only, whose names are not that of a documentation
(`spares_inScratch`), and remove no directory but one that they made.

Main statement: `build_all_or_nothing`.
-/

namespace CrateDoc

open CrateDoc.Action FileTree

/-! ### Sparing a file -/

/-- A part of a run leaves the file at a place, and the log is still written elsewhere. -/
structure Session.Spares (place : List String) (before after : Session) : Prop where
  file : SameFile place before.tree after.tree
  apart : after.LogApart place

namespace Session

variable {place : List String} {before between after : Session}

theorem LogApart.spares (h : before.LogApart place) : before.Spares place before :=
  ⟨.refl place before.tree, h⟩

theorem Passes.spares {calls : List Child.Call} (h : before.Passes place calls after) :
    before.Spares place after := ⟨h.tree.sameFile, h.apart⟩

theorem Spares.trans (h : before.Spares place between) (h' : between.Spares place after) :
    before.Spares place after := ⟨h.file.trans h'.file, h'.apart⟩

end Session

namespace Action

variable {α β : Type} {s : Surroundings} {place : List String}

/-- Work spares the file at a place, however it ends. -/
def Spares (work : Action α) (s : Surroundings) (place : List String) : Prop :=
  ∀ ⦃before : Session⦄ ⦃result : Except Failure α⦄ ⦃after : Session⦄, before.LogApart place →
    Runs work s before result after → before.Spares place after

theorem Makes.spares {work : Action α} {plan : List Child.Call} (h : Makes work s place plan) :
    Spares work s place := by
  intro before result after hlog hruns
  obtain ⟨_, hpasses, -⟩ := h hlog hruns
  exact hpasses.spares

theorem Spares.bind {x : Action α} {f : α → Action β} (hx : Spares x s place)
    (hf : ∀ a, Spares (f a) s place) : Spares (x >>= f) s place := by
  intro before result after hlog hruns
  rcases hruns.of_bind with ⟨_, hfirst, -⟩ | ⟨a, between, hfirst, hsecond⟩
  · exact hx hlog hfirst
  · have hspares := hx hlog hfirst
    exact hspares.trans (hf a hspares.apart hsecond)

theorem Spares.tryCatch {x : Action α} {recover : Failure → Action α} (hx : Spares x s place)
    (hrecover : ∀ failure, Spares (recover failure) s place) :
    Spares (tryCatch x recover) s place := by
  intro before result after hlog hruns
  rcases hruns.of_tryCatch with ⟨a, hwork, -⟩ | ⟨failure, between, hwork, hrest⟩
  · exact hx hlog hwork
  · have hspares := hx hlog hwork
    exact hspares.trans (hrecover failure hspares.apart hrest)

/-- Work on items one after the other spares a file if the work on each does. -/
theorem spares_forM {f : α → Action Unit} {items : List α}
    (h : ∀ item ∈ items, Spares (f item) s place) : Spares (items.forM f) s place := by
  induction items with
  | nil => exact (makes_pure ()).spares
  | cons item items ih =>
    exact (h item List.mem_cons_self).bind fun _ ↦ ih fun x hx ↦ h x (List.mem_cons_of_mem item hx)

/-- Work that looks at the surroundings sees those that it is done in. -/
theorem Spares.of_read {f : Surroundings → Action α} (h : Spares (f s) s place) :
    Spares (read >>= f) s place := fun _ _ _ hlog hruns ↦ h hlog hruns.of_read_bind

theorem spares_absolute (path : Path) : Spares (absolute path) s place :=
  .of_read (makes_pure _).spares

theorem spares_log (r : LogRecord) : Spares (log r) s place := (makes_log r).spares

/-- A change of the files spares one that it leaves, if it leaves the log where it is. -/
theorem spares_changeTree {change : FileTree → Except FileError FileTree}
    (hfile : ∀ {tree later}, change tree = .ok later → SameFile place tree later)
    (hlog : ∀ {tree later log}, change tree = .ok later → FileApart place log tree →
      FileApart place log later) : Spares (changeTree change) s place := by
  intro before result after hbefore hruns
  rw [← bind_pure (changeTree change)] at hruns
  rcases hruns.of_changeTree_bind with ⟨_, -, -, rfl⟩ | ⟨tree, hchange, hrest⟩
  · exact hbefore.spares
  · obtain ⟨-, rfl⟩ := runs_pure_iff.1 hrest
    exact ⟨hfile hchange, fun level file hgoes ↦ hlog hchange (hbefore level file hgoes)⟩

/-- To make directories takes no file away. -/
theorem spares_makeDirectory (path : Path) :
    Spares (changeTree (·.makeDirectory path)) s place :=
  spares_changeTree (fun hmake ↦ sameFile_makeDirectory hmake place)
    fun hmake hlog ↦ hlog.keepEntries (keepsEntries_makeDirectory hmake)

/-- A file of another name is written. -/
theorem spares_write (path : Path) {name : String} (hname : Path.IsComponent name)
    (hplace : place.getLast? ≠ some name) (bytes : List UInt8) :
    Spares (changeTree (·.write (path / name) bytes)) s place :=
  spares_changeTree (sameFile_write hname hplace) fun hwrite hlog ↦ hlog.of_write hwrite

end Action

variable {s : Surroundings} {place : List String} {before between after : Session}

/-! ### Builds -/

theorem Cargo.spares_checkManifest (path : Path) : Spares (checkManifest path) s place :=
  (makes_nil_of_same fun h ↦ (runs_checkManifest h).1).spares

/-- A project is opened without a change to its files. -/
theorem spares_openProject (manifest : Path) : Spares (openProject manifest) s place := by
  have hcanonical : Spares (canonical manifest) s place :=
    (makes_nil_of_same fun h ↦ (runs_canonical_iff.1 h).2).spares
  refine hcanonical.bind fun path ↦ (Cargo.spares_checkManifest path).bind fun path ↦ .of_read ?_
  refine Spares.bind ?_ fun config ↦ (makes_resolveTarget path config).spares.bind fun _ ↦
    (makes_pure _).spares
  exact makes_get.spares.bind fun _ ↦ (makes_ofExcept _ _).spares

/-- A project that was opened is analysed without a change to a file. -/
theorem spares_analysed {manifest path : Path} {config : Config} {target : Cargo.Target}
    {cargo : String} {verbose : Bool} {r : LogRecord} {opened analysed : Session} {u : Unit}
    (hlog : before.LogApart place)
    (hopen : Returns (openProject manifest) s before (path, config, target) opened)
    (hanalyse : Returns (Cargo.analyse cargo path verbose) s (opened.record s.time r) u analysed) :
    before.Spares place analysed := by
  have hopened := spares_openProject manifest hlog hopen
  have hlogged := (hopened.apart.passes_record s.time r).spares
  have hanalysed := (Cargo.makes_analyse cargo path verbose).spares hlogged.apart hanalyse
  exact (hopened.trans hlogged).trans hanalysed

/-- Until a documentation is there, all files are left alone. -/
theorem spares_document (manifest : Path) (workers : Option Int) (verbose : Bool) :
    Spares (document manifest workers verbose) s place := by
  refine (spares_openProject manifest).bind fun (path, config, target) ↦ ?_
  refine (spares_log _).bind fun _ ↦ ?_
  refine (Cargo.makes_analyse config.cargo path verbose).spares.bind fun _ ↦ ?_
  exact (makes_buildGraph _ _ _).spares.bind fun _ ↦ (makes_pure _).spares

/-- A build that fails has written nothing. -/
theorem spares_of_build_error {manifest : Path} {output : Option Path} {workers : Option Int}
    {verbose : Bool} {failure : Failure} (hlog : before.LogApart place)
    (h : Runs (build manifest output workers verbose) s before (.error failure) after) :
    before.Spares place after := by
  rcases h.of_bind with ⟨_, hdocument, -⟩ | ⟨documented, between, hdocument, h⟩
  · exact spares_document manifest workers verbose hlog hdocument
  have hspares := spares_document manifest workers verbose hlog hdocument
  refine hspares.trans ?_
  rcases h.of_absolute_bind.of_bind with ⟨_, hmake, -⟩ | ⟨_, made, hmake, h⟩
  · exact spares_makeDirectory _ hspares.apart hmake
  have hmade := spares_makeDirectory _ hspares.apart hmake
  rcases h.of_changeTree_bind with ⟨_, -, -, rfl⟩ | ⟨_, -, h⟩
  · exact hmade
  -- Behind the file nothing fails.
  · cases (runs_pure_iff.1 h.of_log_bind).1

/-- What a build has done that named a file: a graph was built over the snapshots that were found
for the project, and the text of the graph is what the file holds. -/
structure HoldsGraph (s : Surroundings) (manifest : Path) (output : Option Path)
    (workers : Option Int) (before after : Session) (file : Path) (documented : Documented)
    (analysed : Session) (source : SnapshotSource) : Prop where
  /-- The settings and the target are those of the project. -/
  project : ∃ path opened,
    Returns (openProject manifest) s before (path, documented.config, documented.target) opened
  /-- The snapshots are found among the files that were there before. -/
  files : ∀ place, before.LogApart place → SameFile place before.tree analysed.tree
  loads : ∃ records,
    SnapshotSource.discover analysed.tree documented.config.root = (records, .ok source)
  graph : ((Graph.build SnapshotSource.toSource source.records.length
      ((workers.filter (· ≠ 0)).or documented.config.workers) documented.target.crateName).run
    source).1.1 = .ok documented.documentation
  name : file = output.getD documented.config.outputDir / dataFileName
  /-- Reading the file gives back the graph, unless the log was written to it. -/
  content : ∃ place, after.tree.locate (s.directory.join file) = .ok place ∧
    (before.LogApart place → ∃ bytes, after.tree.read (s.directory.join file) = .ok bytes ∧
      Documentation.ofBytes bytes = .ok documented.documentation)

/-- A documentation is read back from the bytes of its text. -/
theorem ofBytes_encode_toText {d : Documentation}
    (h : ∀ document ∈ d.documents, document.HasDistinctKeys) :
    Documentation.ofBytes (Text.Utf8.encode d.toText.toList) = .ok d := by
  rw [Documentation.ofBytes, Text.Utf8.decode_encode]
  dsimp only
  rw [Documentation.ofText, Documentation.read_toText h (by decide) none]
  exact d.ofJson_toJson

/-- A build that named a file has written the graph into it. -/
theorem exists_holdsGraph_of_build {manifest file : Path} {output : Option Path}
    {workers : Option Int} {verbose : Bool}
    (h : Runs (build manifest output workers verbose) s before (.ok file) after) :
    ∃ documented analysed source,
      HoldsGraph s manifest output workers before after file documented analysed source := by
  obtain ⟨documented, between, place, made, hdocument, rfl, hdelivers⟩ := exists_delivers_of_build h
  obtain ⟨path, opened, analysed, hopen, hanalyse, hgraph⟩ := exists_parts_of_document hdocument
  obtain ⟨records, source, hloads, hbuilt⟩ := exists_discover_of_buildGraph hgraph
  have hfile := Path.join_div s.directory (output.getD documented.config.outputDir)
    isComponent_dataFileName
  refine ⟨documented, analysed, source, ⟨path, opened, hopen⟩,
    fun other hlog ↦ (spares_analysed hlog hopen hanalyse).file, ⟨records, hloads⟩, hbuilt, rfl,
    place ++ [dataFileName], ?_, fun hlog ↦ ?_⟩
  · rw [hfile]
    exact (hdelivers.isAt.keep hdelivers.keepsDirectories).locate_component isComponent_dataFileName
  · have hbetween := (spares_document manifest workers verbose hlog hdocument).apart
    obtain ⟨_, -, hwritten⟩ := hdelivers.exists_passes hbetween hbetween
    exact ⟨_, hfile ▸ hdelivers.read hbetween hwritten.apart.passes,
      ofBytes_encode_toText (hasDistinctKeys_of_document hdocument)⟩

/-! ### Tests -/

namespace Doctest

/-- The files of a suite are sources. -/
theorem ne_dataFileName {programs : List Program} {directory : Path} {crate : String}
    {f : String × String} (hf : f ∈ (Suite.ofPrograms programs directory crate).files) :
    f.1 ≠ dataFileName := by
  have hname : f.1 ∈ (Suite.ofPrograms programs directory crate).files.map Prod.fst :=
    List.mem_map_of_mem hf
  rw [map_fst_files_ofPrograms] at hname
  obtain ⟨name, -, hname⟩ := List.mem_map.1 hname
  intro hsame
  have htext := congrArg String.toList (hname.trans hsame)
  rw [toList_fileOf] at htext
  have hlast := congrArg List.getLast? htext
  rw [List.getLast?_append] at hlast
  simp [dataFileName] at hlast

variable {documentation : Documentation} {crate : String}

/-- The sources of tests have names of their own, so they replace no documentation. -/
theorem spares_write_suiteOf (hplace : place.getLast? = some dataFileName) :
    Spares (suiteOf documentation s.scratch crate).write s place := by
  have hcomponents := (nodup_files s.scratch crate
    (map_name_programsOf documentation hostLanguage none)).2
  refine (spares_absolute _).bind fun directory ↦
    (spares_makeDirectory directory).bind fun _ ↦ spares_forM fun f hf ↦ ?_
  refine spares_write directory (hcomponents f hf) ?_ _
  rw [hplace]
  exact fun hsame ↦ ne_dataFileName hf (Option.some.inj hsame).symm

/-- A suite is compiled and run by calls. -/
theorem Suite.spares_run (suite : Suite) (config : DoctestConfig)
    (artifacts : List Cargo.Artifact) : Spares (suite.run config artifacts) s place := by
  intro before result after hlog h
  obtain ⟨_, hpasses, -⟩ := suite.runs_run hlog h
  exact hpasses.spares

end Doctest

namespace TestRun

open Doctest

variable {documentation : Documentation} {crate : String}

/-- In the scratch directory no documentation is written. -/
theorem spares_inScratch (hplace : place.getLast? = some dataFileName) (config : DoctestConfig)
    (artifacts : List Cargo.Artifact) :
    Spares (inScratch (programsOf documentation hostLanguage none) crate config artifacts) s
      place := by
  refine .of_read ((spares_makeDirectory _).bind fun _ ↦ (spares_log _).bind fun _ ↦ ?_)
  have hsuite : Spares (do
      (suiteOf documentation s.scratch crate).write
      (suiteOf documentation s.scratch crate).run config artifacts) s place :=
    (spares_write_suiteOf hplace).bind fun _ ↦ Suite.spares_run _ config artifacts
  refine (hsuite.tryCatch fun failure ↦ ?_).bind fun _ ↦ (makes_pure _).spares
  exact (spares_log _).bind fun _ ↦ (makes_throw failure).spares

/-- The directory of the tests is that of the surroundings. -/
theorem eq_scratch_of_inScratch {programs : List Program} {config : DoctestConfig}
    {artifacts : List Cargo.Artifact} {scratch : Path}
    (h : Runs (inScratch programs crate config artifacts) s before (.ok scratch) after) :
    scratch = s.scratch := by
  rcases h.of_read_bind.of_bind with ⟨_, -, hresult⟩ | ⟨_, _, -, h⟩
  · cases hresult
  obtain ⟨ending, -, hending⟩ := h.of_log_bind.of_bind_pure
  rcases ending with _ | _ <;> cases hending
  rfl

/-- Before the tests are looked for, all files are left alone. -/
theorem spares_prepare (manifest : Path) (fromFile : Option Path) (verbose : Bool) :
    Spares (prepare manifest fromFile verbose) s place := by
  refine (spares_openProject manifest).bind fun (path, config, target) ↦ ?_
  exact (makes_documentationOf path config target fromFile verbose).spares.bind fun _ ↦
    (makes_pure _).spares

variable {manifest : Path} {config : Config} {keepScratch : Bool}
  {result : Except Failure TestOutcome}

/-- The tests leave the files of documentations, also when the scratch directory is removed: it was
not there before. -/
theorem sameFile_run {at_ : List String} {name : String}
    (hfree : before.ScratchFree s at_ name) (hplace : place.getLast? = some dataFileName)
    (hlog : before.LogApart place)
    (h : Runs (run documentation crate manifest config keepScratch) s before result after) :
    SameFile place before.tree after.tree := by
  rw [run] at h
  obtain ⟨made, hmade, h⟩ := (gives_programs documentation).of_bind hlog h
  dsimp only at h
  split at h
  · have hnoted := (spares_log _).bind (fun _ ↦ (makes_pure _).spares) hmade.apart h
    exact (hmade.spares.trans hnoted).file
  rcases h.of_bind with ⟨_, hbuild, -⟩ | ⟨artifacts, built, hbuild, h⟩
  · exact (hmade.trans (Cargo.passes_artifacts hmade.apart hbuild)).spares.file
  have hbuilt := (hmade.trans (Cargo.passes_artifacts hmade.apart hbuild)).spares
  rcases h.of_bind with ⟨_, hscratch, -⟩ | ⟨scratch, ran, hscratch, h⟩
  · have htested := spares_inScratch hplace config.doctest artifacts hbuilt.apart hscratch
    exact (hbuilt.trans htested).file
  have hran := hbuilt.trans (spares_inScratch hplace config.doctest artifacts hbuilt.apart hscratch)
  split at h
  · exact (hran.trans ((spares_log _).bind (fun _ ↦ (makes_pure _).spares) hran.apart h)).file
  · obtain ⟨-, rfl⟩ := runs_pure_iff.1 h.of_modify_bind
    obtain rfl := eq_scratch_of_inScratch hscratch
    dsimp only
    rw [hfree.path]
    exact hran.file.remove hfree.parent hfree.isComponent hfree.free

/-- A run of the tests leaves the files of documentations. -/
theorem sameFile_test {fromFile : Option Path} {keepScratch : Option Bool} {verbose : Bool}
    (hfree : ScratchIsFree s before) (hplace : place.getLast? = some dataFileName)
    (hlog : before.LogApart place)
    (h : Runs (test manifest fromFile keepScratch verbose) s before result after) :
    SameFile place before.tree after.tree := by
  rw [test_eq] at h
  rcases h.of_bind with ⟨_, hprepare, -⟩ | ⟨⟨path, documented⟩, between, hprepare, hrun⟩
  · exact (spares_prepare manifest fromFile verbose hlog hprepare).file
  · obtain ⟨at_, hscratch⟩ := hfree.exists_place
    have hspares := spares_prepare manifest fromFile verbose hlog hprepare
    have hfree := hscratch.passes (passes_of_prepare hscratch.log hprepare)
    exact hspares.file.trans (sameFile_run hfree hplace hspares.apart hrun)

end TestRun

/-! ### Builds and tests -/

/-- **Builds are all or nothing, and tests leave no trace in a documentation.** A build either names
a file that holds the graph of the snapshots that were loaded, or it leaves every file as it was; a
run of the tests leaves every file of a documentation as it was, however it ends. The log is a file
of its own. -/
theorem build_all_or_nothing (s : Surroundings) (before : Session) (manifest : Path)
    (verbose : Bool) :
    (∀ output workers, ∃ result after,
      Runs (build manifest output workers verbose) s before result after ∧
      match result with
      | .ok file => ∃ documented analysed source,
        HoldsGraph s manifest output workers before after file documented analysed source
      | .error _ => ∀ place, before.LogApart place → SameFile place before.tree after.tree) ∧
    (ScratchIsFree s before → ∀ fromFile keepScratch, ∃ result after,
      Runs (test manifest fromFile keepScratch verbose) s before result after ∧
      ∀ place, place.getLast? = some dataFileName → before.LogApart place →
        SameFile place before.tree after.tree) := by
  refine ⟨fun output workers ↦ ?_, fun hfree fromFile keepScratch ↦ ?_⟩
  · obtain ⟨result, after, hruns⟩ := exists_runs (build manifest output workers verbose) s before
    refine ⟨result, after, hruns, ?_⟩
    rcases result with failure | file
    · exact fun place hlog ↦ (spares_of_build_error hlog hruns).file
    · exact exists_holdsGraph_of_build hruns
  · obtain ⟨result, after, hruns⟩ :=
      exists_runs (test manifest fromFile keepScratch verbose) s before
    exact ⟨result, after, hruns, fun place hplace hlog ↦
      TestRun.sameFile_test hfree hplace hlog hruns⟩

/-- A project that was analysed, with the file of an earlier build, and a log. -/
def rebuiltProject : Session where
  tree := ⟨TestRun.analysedProject.tree.entries ++
    [(["p", "target", "doc", "data.json"], .file [111]), (["log"], .file [])]⟩
  logging := some ⟨.debug, some ⟨.single, ["log"]⟩⟩

/-- Surroundings in which every program fails. -/
def refusing : Surroundings where
  directory := ⟨.single, ["p"]⟩
  scratch := ⟨.single, ["t"]⟩
  time := ""
  runner := fun _ ↦ .ok { returnCode := 1 }

/-- Where the programs succeed, the file is written anew; where they fail it stays, and so it does
when the tests are run. -/
theorem rebuiltProject_all_or_nothing :
    ScratchIsFree (TestRun.answering ⟨.single, ["t"]⟩) rebuiltProject ∧
    rebuiltProject.LogApart ["p", "target", "doc", "data.json"] ∧
    (∃ file after documented analysed source,
      Runs (build ⟨.none, ["Cargo.toml"]⟩ none none false) (TestRun.answering ⟨.single, ["t"]⟩)
        rebuiltProject (.ok file) after ∧
      HoldsGraph (TestRun.answering ⟨.single, ["t"]⟩) ⟨.none, ["Cargo.toml"]⟩ none none
        rebuiltProject
        after file documented analysed source) ∧
    (∃ failure after,
      Runs (build ⟨.none, ["Cargo.toml"]⟩ none none false) refusing rebuiltProject (.error failure)
        after ∧
      after.tree.at? ["p", "target", "doc", "data.json"] = some (.file [111])) ∧
    ∃ result after,
      Runs (test ⟨.none, ["Cargo.toml"]⟩ none none false) (TestRun.answering ⟨.single, ["t"]⟩)
        rebuiltProject result after ∧
      after.tree.at? ["p", "target", "doc", "data.json"] = some (.file [111]) := by
  have hfree : ScratchIsFree (TestRun.answering ⟨.single, ["t"]⟩) rebuiltProject :=
    scratchIsFree_in_root rfl ⟨by decide, by decide, by decide, by decide⟩ rfl rfl
      fun _ _ hfile ↦ by
        cases hfile
        rfl
  have hlog : rebuiltProject.LogApart ["p", "target", "doc", "data.json"] := by
    rintro level file hfile
    cases hfile
    exact ⟨["log"], [], rfl, rfl, by decide⟩
  have hthere : rebuiltProject.tree.at? ["p", "target", "doc", "data.json"] = some (.file [111]) :=
    rfl
  obtain ⟨hbuild, htest⟩ := build_all_or_nothing (TestRun.answering ⟨.single, ["t"]⟩) rebuiltProject
    ⟨.none, ["Cargo.toml"]⟩ false
  obtain ⟨hrefused, -⟩ := build_all_or_nothing refusing rebuiltProject ⟨.none, ["Cargo.toml"]⟩ false
  refine ⟨hfree, hlog, ?_, ?_, ?_⟩
  · obtain ⟨result, after, hruns, hresult⟩ := hbuild none none
    have hnamed : (((build ⟨.none, ["Cargo.toml"]⟩ none none false).run
        (TestRun.answering ⟨.single, ["t"]⟩)).run.run rebuiltProject).1.isOk = true := by
      decide +kernel
    rw [Runs] at hruns
    rw [hruns] at hnamed
    rcases result with failure | file
    · cases hnamed
    · obtain ⟨documented, analysed, source, hholds⟩ := hresult
      exact ⟨file, after, documented, analysed, source, hruns, hholds⟩
  · obtain ⟨result, after, hruns, hresult⟩ := hrefused none none
    have hfailed : (((build ⟨.none, ["Cargo.toml"]⟩ none none false).run refusing).run.run
        rebuiltProject).1.isOk = false := by
      decide +kernel
    rw [Runs] at hruns
    rw [hruns] at hfailed
    rcases result with failure | file
    · exact ⟨failure, after, hruns, (hresult _ hlog _).2 hthere⟩
    · cases hfailed
  · obtain ⟨result, after, hruns, hkept⟩ := htest hfree none none
    exact ⟨result, after, hruns, (hkept _ rfl hlog _).2 hthere⟩

end CrateDoc
