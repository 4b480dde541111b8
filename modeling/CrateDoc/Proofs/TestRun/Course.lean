import CrateDoc.Proofs.TestRun.Scratch

/-!
# The tests of a documentation, run

`Course` lists the ways in which the tests of a documentation are run, from the programs to the end
of the scratch directory: there may be none, the project may fail to be built, and their suite may
fail or pass. They are run in one of these ways (`runs_run`).
-/

namespace CrateDoc.TestRun

open CrateDoc.Action CrateDoc.Doctest CrateDoc.Cargo.Artifact

/-- The suite of the tests of a documented project. -/
def suiteFor (documented : Documented) (scratch : Path) : Suite :=
  suiteOf documented.documentation scratch documented.target.crateName

/-- The outcome of the tests of a documented project that pass. -/
def outcomeOf (documented : Documented) (scratch : Option Path) : TestOutcome where
  crate := documented.target.crateName
  tests := (programsOf documented.documentation hostLanguage none).length
  verbatim := (programsOf documented.documentation hostLanguage none).countP (!·.structured)
  scratch := scratch

/-- How the tests of a documentation are run: which calls are made, with which result, and what is
in the scratch directory then. -/
inductive Course (surroundings : Surroundings) (documented : Documented) (build : Child.Call)
    (keepScratch : Bool) : List Child.Call → Except Failure TestOutcome → FileTree → Prop
  /-- There are no tests. -/
  | noTests {tree : FileTree}
      (hnone : Snippet.ofDocumentation documented.documentation = [])
      (hscratch : tree.isDirectory surroundings.scratch = false) :
      Course surroundings documented build keepScratch [] (.ok (outcomeOf documented none)) tree
  /-- The project gives no artifacts that they could use. -/
  | notBuilt {tree : FileTree} {failure : Failure}
      (hsome : Snippet.ofDocumentation documented.documentation ≠ [])
      (hbuild : ofAnswer (surroundings.runner build) = .error failure)
      (hscratch : tree.isDirectory surroundings.scratch = false) :
      Course surroundings documented build keepScratch [build] (.error failure) tree
  /-- Their suite fails. -/
  | failed {tree : FileTree} {artifacts : List Cargo.Artifact} {calls : List Child.Call}
      {failure : Failure} {place : List String}
      (hsome : Snippet.ofDocumentation documented.documentation ≠ [])
      (hbuild : ofAnswer (surroundings.runner build) = .ok artifacts)
      (hrun : SuiteRun surroundings documented.config.doctest artifacts surroundings.scratch calls
        (.error failure))
      (hscratch : (suiteFor documented surroundings.scratch).StandsAt surroundings.scratch place
        tree) :
      Course surroundings documented build keepScratch (build :: calls) (.error failure) tree
  /-- Their suite passes. -/
  | passed {tree : FileTree} {artifacts : List Cargo.Artifact} {calls : List Child.Call}
      {place : List String}
      (hsome : Snippet.ofDocumentation documented.documentation ≠ [])
      (hbuild : ofAnswer (surroundings.runner build) = .ok artifacts)
      (hrun : SuiteRun surroundings documented.config.doctest artifacts surroundings.scratch calls
        (.ok ()))
      (hscratch : if keepScratch then
          (suiteFor documented surroundings.scratch).StandsAt surroundings.scratch place tree
        else tree.isDirectory surroundings.scratch = false) :
      Course surroundings documented build keepScratch (build :: calls)
        (.ok (outcomeOf documented (if keepScratch then some surroundings.scratch else none))) tree

/-! ### Every run is one of these -/

variable {surroundings : Surroundings} {place : List String} {name crate : String}
  {documented : Documented} {manifest : Path} {keepScratch : Bool} {before after : Session}
  {result : Except Failure TestOutcome}

/-- The programs of a documentation are made without a failure and without a call. -/
theorem gives_programs (documentation : Documentation) :
    Gives (programs documentation) surroundings place
      (programsOf documentation hostLanguage none) := by
  refine Gives.bind (gives_mapM _ fun snippet ↦ ?_) ((gives_log _).bind (gives_pure _))
  rcases Program.ofSnippet snippet with ⟨program, records⟩
  exact (gives_logAll records).bind (gives_pure program)

theorem isEmpty_programsOf {documentation : Documentation} :
    (programsOf documentation hostLanguage none).isEmpty = true ↔
      Snippet.ofDocumentation documentation = [] := by
  rw [List.isEmpty_iff, programsOf, List.map_eq_nil_iff]

/-- After a suite that passed its directory is removed, unless it is to be kept. -/
theorem runs_ending {suite : Suite} {tests verbatim : ℕ}
    (hstands : suite.StandsAt surroundings.scratch (place ++ [name]) before.tree)
    (hlog : before.LogApart (place ++ [name]))
    (h : Runs (do
        if keepScratch then
          log ⟨.info, "orchestrator", "Doctest sources kept in " ++ surroundings.scratch.toString⟩
          return ⟨crate, tests, verbatim, some surroundings.scratch⟩
        modify fun s ↦ { s with tree := s.tree.remove surroundings.scratch }
        return ⟨crate, tests, verbatim, none⟩ : Action TestOutcome)
      surroundings before result after) :
    result = .ok ⟨crate, tests, verbatim, if keepScratch then some surroundings.scratch else none⟩ ∧
      after.started = before.started ∧
      if keepScratch then suite.StandsAt surroundings.scratch (place ++ [name]) after.tree
      else after.tree.isDirectory surroundings.scratch = false := by
  rcases keepScratch with - | -
  · obtain ⟨rfl, rfl⟩ := runs_pure_iff.1 h.of_modify_bind
    exact ⟨rfl, rfl, FileTree.isDirectory_remove hstands.isAt (by simp)⟩
  · obtain ⟨rfl, rfl⟩ := runs_pure_iff.1 h.of_log_bind
    have hlogged := hlog.passes_record surroundings.time
      ⟨.info, "orchestrator", "Doctest sources kept in " ++ surroundings.scratch.toString⟩
    exact ⟨rfl, rfl, hstands.keep hlogged.tree⟩

/-- The tests of a documentation are run in one of these ways, and what is called in the scratch
directory finds their suite there. -/
theorem runs_run (hfree : before.ScratchFree surroundings place name)
    (h : Runs (run documented.documentation documented.target.crateName manifest documented.config
      keepScratch) surroundings before result after) :
    ∃ calls,
      (suiteFor documented surroundings.scratch).FoundBy surroundings.scratch before calls after ∧
      Course surroundings documented (buildCall documented.config.cargo manifest) keepScratch calls
        result after.tree := by
  rw [run] at h
  obtain ⟨made, hmade, hrest⟩ := (gives_programs documented.documentation).of_bind hfree.log h
  have hfree := hfree.passes hmade
  dsimp only at hrest
  by_cases hsnippets : Snippet.ofDocumentation documented.documentation = []
  · rw [if_pos (isEmpty_programsOf.2 hsnippets)] at hrest
    obtain ⟨rfl, rfl⟩ := runs_pure_iff.1 hrest.of_log_bind
    have hlogged := hfree.log.passes_record surroundings.time
      ⟨.info, "orchestrator", "No documentation tests found for " ++ documented.target.crateName⟩
    have hnone : programsOf documented.documentation hostLanguage none = [] :=
      List.isEmpty_iff.1 (isEmpty_programsOf.2 hsnippets)
    have houtcome : outcomeOf documented none = ⟨documented.target.crateName, 0, 0, none⟩ := by
      rw [outcomeOf, hnone]
      rfl
    exact ⟨[], (hmade.trans hlogged).foundBy nofun,
      houtcome ▸ .noTests hsnippets (hfree.passes hlogged).isDirectory⟩
  rw [if_neg (mt isEmpty_programsOf.1 hsnippets)] at hrest
  -- The project is built for the tests, and not in the scratch directory.
  have helsewhere : ∀ call ∈ [buildCall documented.config.cargo manifest],
      call.workingDirectory ≠ some surroundings.scratch := by
    intro call hcall
    rw [List.mem_singleton.1 hcall]
    exact nofun
  rcases hrest.of_bind with ⟨failure, hbuild, rfl⟩ | ⟨artifacts, built, hbuild, hrest⟩
  -- Without artifacts the scratch directory is never made.
  · have hbuilt := Cargo.passes_artifacts hfree.log hbuild
    exact ⟨_, (hmade.trans hbuilt).foundBy helsewhere,
      .notBuilt hsnippets (runs_artifacts hbuild).symm (hfree.passes hbuilt).isDirectory⟩
  have hbuilt := Cargo.passes_artifacts hfree.log hbuild
  have hfree := hfree.passes hbuilt
  have hbefore := (hmade.trans hbuilt).foundBy (s := suiteFor documented surroundings.scratch)
    helsewhere
  rcases hrest.of_bind with ⟨failure, hscratch, rfl⟩ | ⟨scratch, ran, hscratch, hrest⟩
  · obtain ⟨calls, ending, hfound, hrun, hending, hstands, -⟩ := runs_inScratch hfree hscratch
    rcases ending with e | u
    · cases hending
      exact ⟨_, hbefore.trans hfound, .failed hsnippets (runs_artifacts hbuild).symm hrun hstands⟩
    · cases hending
  · obtain ⟨calls, ending, hfound, hrun, hending, hstands, hapart⟩ := runs_inScratch hfree hscratch
    rcases ending with e | u
    · cases hending
    · cases hending
      obtain ⟨rfl, hsame, htree⟩ := runs_ending hstands hapart hrest
      exact ⟨_, hbefore.trans (hfound.congr rfl hsame),
        .passed hsnippets (runs_artifacts hbuild).symm hrun htree⟩

end CrateDoc.TestRun
