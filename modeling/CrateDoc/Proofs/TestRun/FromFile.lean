import CrateDoc.Proofs.Json.Controls
import CrateDoc.Proofs.JsonApi.RoundTrip
import CrateDoc.Proofs.Text.Utf8
import CrateDoc.Proofs.TestRun.Alike
import CrateDoc.Proofs.TestRun.Built

/-!
# Tests from the file of a build

The documentation that a build writes is read back from its file, although line ends are translated
on the way: none stands in the text (`returns_readDocumentation`). Where a build succeeded, a run of
the tests from its file therefore prepares the same project, with the same settings and the same
documentation, as a run without it; it only leaves the analysis out (`returns_prepare_fromFile`).
From there on both make the same tests (`test_fromFile_agrees`).
-/

namespace CrateDoc

open CrateDoc.Action CrateDoc.Text

/-- On one line, the text of a documentation holds no carriage return. -/
theorem Documentation.notMem_toText {d : Documentation}
    (h : ∀ document ∈ d.documents, document.HasDistinctKeys) : '\r' ∉ d.toText.toList := by
  rw [toText, Json.Value.compact, String.toList_ofList]
  intro hmem
  exact absurd (Json.forall_mem_write (nested_toJson h) 0 '\r' hmem) (by decide)

theorem Documentation.ofText_toText {d : Documentation}
    (h : ∀ document ∈ d.documents, document.HasDistinctKeys) :
    Documentation.ofText (unifyNewlines d.toText.toList) = .ok d := by
  rw [unifyNewlines_eq_self (notMem_toText h), ofText, read_toText h (by decide) none]
  exact d.ofJson_toJson

namespace TestRun

variable {s t : Surroundings} {before after : Session} {manifest file : Path} {verbose : Bool}

/-- A documentation is read from the file that holds its text. -/
theorem returns_readDocumentation {d : Documentation}
    (hkeys : ∀ document ∈ d.documents, document.HasDistinctKeys)
    (hread : before.tree.read (s.directory.join file) = .ok (Utf8.encode d.toText.toList)) :
    Returns (readDocumentation file) s before d before := by
  have hbytes : Returns (withTree .file (·.read (s.directory.join file))) s before _ before :=
    runs_ofExcept_iff.2 ⟨by dsimp only; rw [hread]; rfl, rfl⟩
  have htext : Returns (ofExcept .encoding (Utf8.decode (Utf8.encode d.toText.toList))) s before _
      before := runs_ofExcept_iff.2 ⟨by rw [Utf8.decode_encode]; rfl, rfl⟩
  have hdocumentation : Returns (ofExcept .documentation
      (Documentation.ofText (unifyNewlines d.toText.toList))) s before d before :=
    runs_ofExcept_iff.2 ⟨by rw [Documentation.ofText_toText hkeys]; rfl, rfl⟩
  exact (returns_absolute file before).bind (hbytes.bind (htext.bind hdocumentation))

/-- A preparation that ends well has made all its calls. -/
theorem passes_of_prepare {place : List String} {fromFile : Option Path} {path : Path}
    {documented : Documented} (hlog : before.LogApart place)
    (h : Returns (prepare manifest fromFile verbose) s before (path, documented) after) :
    before.Passes place
      (preparation (s.canonical manifest) documented.config fromFile verbose) after := by
  rcases runs_prepare hlog h with
    ⟨_, hresult, -⟩ | ⟨config, -, ⟨calls, hpasses, hfollows⟩, hprepared⟩
  · cases hresult
  obtain ⟨-, rfl⟩ := hprepared _ rfl
  rwa [(hfollows.finished _ rfl).1] at hpasses

/-- What cargo is asked for the target of a project it answers alike, in whatever session. -/
theorem exists_returns_resolveTarget (h : s.Alike t) {path : Path} {config : Config}
    {target : Cargo.Target} (htarget : Returns (resolveTarget path config) s before target after)
    (before' : Session) :
    ∃ after', Returns (resolveTarget path config) t before' target after' := by
  obtain ⟨result, after', hruns⟩ := exists_runs (resolveTarget path config) t before'
  have hsame := sameResult_resolveTarget (h.elsewhere (Cargo.metadataCall config.cargo path) rfl)
  obtain rfl := hsame htarget hruns
  exact ⟨after', hruns⟩

/-- Where a documentation was delivered for a project that can still be opened, the project is
prepared for tests with that documentation. -/
theorem exists_returns_prepare_of_delivers {built opened : Session} {directory : Path}
    {place at_ : List String} {made : FileTree} {documented : Documented} (h : s.Alike t)
    (hdelivers : Delivers s before directory documented.documentation place made built)
    (hfile : s.directory.join file = directory / dataFileName)
    (hkeys : ∀ document ∈ documented.documentation.documents, document.HasDistinctKeys)
    (hlog : before.LogApart (place ++ [dataFileName]))
    (hfollow : s.fault? manifest = none)
    (hmanifest : IsManifest built.tree (s.canonical manifest) at_)
    (hload : Config.load built.tree s.toStandpoint (s.canonical manifest).parent =
      .ok documented.config)
    (htarget : Returns (resolveTarget (s.canonical manifest) documented.config) s after
      documented.target opened) :
    ∃ between', Returns (prepare manifest (some file) verbose) t built
      (s.canonical manifest, documented) between' := by
  obtain ⟨opened', htarget'⟩ := exists_returns_resolveTarget h htarget built
  have hbase := h.standpoint
  have hopen : Returns (openProject manifest) t built
      (s.canonical manifest, documented.config, documented.target) opened' :=
    returns_openProject_iff.2 ⟨⟨by rw [hbase, hfollow], by rw [hbase], hmanifest.name,
      hmanifest.isFile t.directory⟩, by rw [hbase, hload], htarget'⟩
  -- What cargo is asked does not touch the file.
  obtain ⟨_, -, hbuilt⟩ := hdelivers.exists_passes hlog hlog
  obtain ⟨_, hpasses, -⟩ := makes_resolveTarget _ _ hbuilt.apart htarget'
  have hread : opened'.tree.read (t.directory.join file) =
      .ok (Utf8.encode documented.documentation.toText.toList) := by
    rw [hbase, hfile]
    exact hdelivers.read hlog hpasses
  exact ⟨opened', hopen.bind ((returns_readDocumentation hkeys hread).bind (returns_pure _ _))⟩

/-- A build keeps clear of what the tests look at afterwards. -/
structure KeepsClear (s : Surroundings) (manifest file : Path) (output : Option Path)
    (before built : Session) : Prop where
  /-- The log is not written to the manifest. -/
  project : ∀ place, built.tree.locate (s.canonical manifest) = .ok place →
    before.LogApart place
  /-- The log is not written to the file of the settings. -/
  settings : ∀ place,
    built.tree.locate ((s.canonical manifest).parent / configName) = .ok place →
    before.LogApart place
  /-- The log is not written to the file of the documentation. -/
  data : ∀ place, built.tree.locate (s.directory.join file) = .ok place → before.LogApart place
  /-- A directory that is asked for is not made in the place of the settings. -/
  free : output.isSome = true →
    built.tree.isDirectory ((s.canonical manifest).parent / configName) = false

/-- Before a build that keeps clear of the tests writes its file, the files that they look at are
left alone. -/
theorem KeepsClear.passes {between built : Session} {output : Option Path} {directory : Path}
    {d : Documentation} {place at_ elsewhere : List String} {made : FileTree}
    {calls : List Child.Call} (h : KeepsClear s manifest file output before built)
    (hpasses : ∀ place, before.LogApart place → before.Passes place calls between)
    (helsewhere : before.LogApart elsewhere)
    (hdelivers : Delivers s between directory d place made built)
    (hfile : s.directory.join file = directory / dataFileName)
    (hmanifest : IsManifest before.tree (s.canonical manifest) at_) :
    before.Passes (at_ ++ [manifestName]) calls between ∧
      before.Passes (at_ ++ [configName]) calls between ∧
      before.Passes (place ++ [dataFileName]) calls between := by
  have hat : built.tree.IsAt (s.canonical manifest).parent at_ :=
    hmanifest.isAt.keep
      ((hpasses _ helsewhere).tree.directories.trans hdelivers.keepsDirectories_before)
  have hplace : built.tree.IsAt directory place := hdelivers.isAt.keep hdelivers.keepsDirectories
  refine ⟨hpasses _ (h.project _ ?_), hpasses _ (h.settings _ ?_), hpasses _ (h.data _ ?_)⟩
  · rw [eq_parent_div_manifestName hmanifest.name]
    exact hat.locate_component isComponent_manifestName
  · exact hat.locate_component Config.isComponent_configName
  · rw [hfile]
    exact hplace.locate_component isComponent_dataFileName

/-- Where a build succeeded, the project is prepared for tests with its documentation, and with the
file of the build it is prepared in the same way. -/
theorem returns_prepare_fromFile {built : Session} {output : Option Path} {workers : Option Int}
    (h : s.Alike t) (hbase : s.directory.isAbsolute = true)
    (hbuild : Runs (build manifest output workers verbose) s before (.ok file) built)
    (hfree : ScratchIsFree s before) (hclear : KeepsClear s manifest file output before built) :
    ∃ documented between between',
    Returns (prepare manifest none verbose) s before (s.canonical manifest, documented)
      between ∧
    Returns (prepare manifest (some file) verbose) t built
      (s.canonical manifest, documented) between' := by
  obtain ⟨documented, between, place, made, hdocument, hfile, hdelivers⟩ :=
    exists_delivers_of_build hbuild
  obtain ⟨path, opened, -, hopen, -, -⟩ := exists_parts_of_document hdocument
  have hprepare := prepare_of_document hdocument
  obtain ⟨⟨hfollow, rfl, hname, hisFile⟩, hload, htarget⟩ := returns_openProject_iff.1 hopen
  obtain ⟨at_, hmanifest⟩ := exists_isManifest hbase rfl hname hisFile
  rw [hmanifest.root_of_load hload, ← eq_parent_div_manifestName hname] at hprepare
  have hfile' : s.directory.join file =
      s.directory.join (output.getD documented.config.outputDir) / dataFileName := by
    rw [hfile, Path.join_div _ _ isComponent_dataFileName]
  obtain ⟨_, hscratch⟩ := hfree.exists_place
  obtain ⟨hmanifestPasses, hconfigPasses, hdataPasses⟩ := hclear.passes
    (fun _ hlog ↦ passes_of_prepare hlog hprepare) hscratch.log hdelivers hfile' hmanifest
  -- After the preparation the project is as it was, and so it is after the build.
  have hmanifest' := hmanifest.keep hmanifestPasses
  have hload' : Config.load between.tree s.toStandpoint (s.canonical manifest).parent =
      .ok documented.config :=
    (hmanifest.load_congr hmanifest' (hconfigPasses.tree.below _ List.prefix_rfl)
      s.toStandpoint).trans hload
  have hoff : built.tree.isDirectory ((s.canonical manifest).parent / configName) = false ∨
      s.directory.join (output.getD documented.config.outputDir) =
        s.directory.join documented.config.outputDir := by
    rcases output with - | path
    · exact .inr rfl
    · exact .inl (hclear.free rfl)
  obtain ⟨between', hprepare'⟩ := exists_returns_prepare_of_delivers h hdelivers hfile'
    (hasDistinctKeys_of_document hdocument) hdataPasses.apart hfollow
    (hdelivers.isManifest hdataPasses.apart hmanifest' hmanifestPasses.apart)
    (hdelivers.load hdataPasses.apart hmanifest' hload' hmanifestPasses.apart hconfigPasses.apart
      hoff) htarget
  exact ⟨documented, between, between', hprepare, hprepare'⟩

/-- **Tests from the file of a build are the tests of the project.** Where a build succeeded and
wrote its file, the tests of the project can be prepared without that file, from the session before
the build, and with it, from the session after the build: both find the same documentation and the
same settings, and the only call that is left out is the one for the analysis. However the two runs
go on then, they make the same tests: the same modules and files, the same calls, and the same
outcome or failure, up to the name of the scratch directory. -/
theorem test_fromFile_agrees {built : Session} {output : Option Path} {workers : Option Int}
    (h : s.Alike t) (hbase : s.directory.isAbsolute = true)
    (hbuild : Runs (build manifest output workers verbose) s before (.ok file) built)
    (hfree : ScratchIsFree s before) (hclear : KeepsClear s manifest file output before built)
    (hfree' : ScratchIsFree t built) (keepScratch : Option Bool) :
    ∃ documented between between' result result' after after',
      Returns (prepare manifest none verbose) s before (s.canonical manifest, documented)
        between ∧
      Returns (prepare manifest (some file) verbose) t built
        (s.canonical manifest, documented) between' ∧
      between.calls = before.calls ++
        [Cargo.metadataCall documented.config.cargo (s.canonical manifest),
          Cargo.checkCall documented.config.cargo (s.canonical manifest) verbose] ∧
      between'.calls = built.calls ++
        [Cargo.metadataCall documented.config.cargo (s.canonical manifest)] ∧
      Runs (test manifest none keepScratch verbose) s before result after ∧
      Runs (test manifest (some file) keepScratch verbose) t built result' after' ∧
      SameTests s t documented
        (Cargo.Artifact.buildCall documented.config.cargo (s.canonical manifest)) between
        after between' after' result result' := by
  obtain ⟨documented, between, between', hprepare, hprepare'⟩ :=
    returns_prepare_fromFile h hbase hbuild hfree hclear
  obtain ⟨_, hscratch⟩ := hfree.exists_place
  obtain ⟨_, hscratch'⟩ := hfree'.exists_place
  have hpasses := passes_of_prepare hscratch.log hprepare
  have hpasses' := passes_of_prepare hscratch'.log hprepare'
  rw [h.standpoint] at hpasses'
  -- behind the preparations both runs are of the same tests in alike surroundings
  obtain ⟨result, after, hrun⟩ := exists_runs
    (run documented.documentation documented.target.crateName (s.canonical manifest)
      documented.config (keepScratch.getD documented.config.doctest.keepScratch)) s between
  obtain ⟨result', after', hrun'⟩ := exists_runs
    (run documented.documentation documented.target.crateName (s.canonical manifest)
      documented.config (keepScratch.getD documented.config.doctest.keepScratch)) t between'
  refine ⟨documented, between, between', result, result', after, after', hprepare, hprepare',
    hpasses.calls, hpasses'.calls, ?_, ?_,
    runs_run_alike h (hscratch.passes hpasses) (hscratch'.passes hpasses') hrun hrun'⟩
  · rw [test_eq]
    exact hprepare.bind_runs hrun
  · rw [test_eq]
    exact hprepare'.bind_runs hrun'

/-- A build of the project into another directory, and the session that it leaves. -/
def sampleBuild : Except Failure Path × Session :=
  ((build ⟨.none, ["Cargo.toml"]⟩ (some ⟨.none, ["out"]⟩) none false).run
    (answering ⟨.single, ["t"]⟩)).run.run analysedProject

theorem test_sampleBuild_agrees :
    (answering ⟨.single, ["t"]⟩).Alike (answering ⟨.single, ["u"]⟩) ∧
    Runs (build ⟨.none, ["Cargo.toml"]⟩ (some ⟨.none, ["out"]⟩) none false)
      (answering ⟨.single, ["t"]⟩) analysedProject (.ok ⟨.none, ["out", "data.json"]⟩)
      sampleBuild.2 ∧
    ∃ documented between between' result result' after after',
      Runs (test ⟨.none, ["Cargo.toml"]⟩ none none false) (answering ⟨.single, ["t"]⟩)
        analysedProject result after ∧
      Runs (test ⟨.none, ["Cargo.toml"]⟩ (some ⟨.none, ["out", "data.json"]⟩) none false)
        (answering ⟨.single, ["u"]⟩) sampleBuild.2 result' after' ∧
      SameTests (answering ⟨.single, ["t"]⟩) (answering ⟨.single, ["u"]⟩) documented
        (Cargo.Artifact.buildCall documented.config.cargo ⟨.single, ["p", "Cargo.toml"]⟩) between
        after between' after' result result' := by
  have halike : (answering ⟨.single, ["t"]⟩).Alike (answering ⟨.single, ["u"]⟩) :=
    ⟨rfl, fun _ _ ↦ rfl, fun _ ↦ rfl, fun _ ↦ rfl⟩
  -- the build is run once, and everything that is asked of its outcome is read off together
  obtain ⟨hfile, hlogging, hroot, hscratch, hsettings⟩ :
      sampleBuild.1.toOption = some ⟨.none, ["out", "data.json"]⟩ ∧
        sampleBuild.2.logging.isNone = true ∧
        sampleBuild.2.tree.isDirectory ⟨.single, []⟩ = true ∧
        sampleBuild.2.tree.has ⟨.single, ["u"]⟩ = false ∧
        sampleBuild.2.tree.isDirectory ⟨.single, ["p", ".rsdoc.yml"]⟩ = false := by
    decide +kernel
  have hbuild : Runs (build ⟨.none, ["Cargo.toml"]⟩ (some ⟨.none, ["out"]⟩) none false)
      (answering ⟨.single, ["t"]⟩) analysedProject (.ok ⟨.none, ["out", "data.json"]⟩)
      sampleBuild.2 := returns_of_toOption hfile
  have hsilent : ∀ place, analysedProject.LogApart place := by
    rintro place level file hfile
    cases hfile
  have hfree : ScratchIsFree (answering ⟨.single, ["t"]⟩) analysedProject :=
    scratchIsFree_in_root rfl ⟨by decide, by decide, by decide, by decide⟩ rfl rfl nofun
  have hfree' : ScratchIsFree (answering ⟨.single, ["u"]⟩) sampleBuild.2 :=
    scratchIsFree_in_root rfl ⟨by decide, by decide, by decide, by decide⟩ hroot hscratch
      fun _ _ hfile ↦ by
        rw [hfile] at hlogging
        cases hlogging
  have hclear : KeepsClear (answering ⟨.single, ["t"]⟩) ⟨.none, ["Cargo.toml"]⟩
      ⟨.none, ["out", "data.json"]⟩ (some ⟨.none, ["out"]⟩) analysedProject sampleBuild.2 :=
    { project := fun place _ ↦ hsilent place
      settings := fun place _ ↦ hsilent place
      data := fun place _ ↦ hsilent place
      free := fun _ ↦ hsettings }
  obtain ⟨documented, between, between', result, result', after, after', -, -, -, -, hruns, hruns',
    hsame⟩ := test_fromFile_agrees halike rfl hbuild hfree hclear hfree' none
  exact ⟨halike, hbuild, documented, between, between', result, result', after, after', hruns,
    hruns', hsame⟩

end TestRun

end CrateDoc
