import CrateDoc.Proofs.TestRun.Course

/-!
# The discipline of a run

A run of documentation tests has a plan: the calls that prepare it, the build of the project, the
compiler, and the tests. `Discipline` is what a run keeps to, whatever those programs answer: the
calls are a beginning of the plan, each made after the earlier ones succeeded; how far it gets, and
whether it passes, is decided by the tests that are found and by the answers; failures of the
compiler and of the tests are reported in their own words; the scratch directory stays after a
failure, or if that is asked for, and holds all files of the suite as long as it is there.

* `test_eq`: a run is its preparation, and the run of the tests that were prepared.
* `runs_prepare`, `Course.exists_discipline`: what the two parts keep to.
* `test_keeps_discipline`: what the whole run keeps to, from any session in which there is room for
  the scratch directory.
-/

namespace CrateDoc.TestRun

open CrateDoc.Action CrateDoc.Doctest CrateDoc.Cargo.Artifact

variable {surroundings : Surroundings} {place : List String} {before after : Session}

/-! ### Before the tests -/

/-- The documentation of a project: built anew, or read from a file. -/
def documentationOf (manifest : Path) (config : Config) (target : Cargo.Target)
    (fromFile : Option Path) (verbose : Bool) : Action Documentation :=
  match fromFile with
  | none => do
    log ⟨.info, "orchestrator", "Generating save-analysis data for " ++ target.crateName⟩
    Cargo.analyse config.cargo manifest verbose
    buildGraph config.root target.crateName config.workers
  | some file => readDocumentation file

/-- The manifest of the project that is built for the tests. -/
def builtManifest (manifest : Path) (config : Config) : Option Path → Path
  | none => config.root / manifestName
  | some _ => manifest

/-- What is done before the tests are looked for. -/
def prepare (manifest : Path) (fromFile : Option Path) (verbose : Bool) :
    Action (Path × Documented) := do
  let (manifest, config, target) ← openProject manifest
  let documentation ← documentationOf manifest config target fromFile verbose
  return (builtManifest manifest config fromFile, ⟨config, target, documentation⟩)

/-- A run of the tests is the preparation and what is done with its result. -/
theorem test_eq (manifest : Path) (fromFile : Option Path) (keepScratch : Option Bool)
    (verbose : Bool) :
    test manifest fromFile keepScratch verbose =
      (prepare manifest fromFile verbose >>= fun (manifest, documented) ↦
        run documented.documentation documented.target.crateName manifest documented.config
          (keepScratch.getD documented.config.doctest.keepScratch)) := by
  rcases fromFile with - | file
  · simp only [test, prepare, document, documentationOf, builtManifest, bind_assoc, pure_bind,
      Option.filter_none, Option.none_or]
  · simp only [test, prepare, documentationOf, builtManifest, bind_assoc, pure_bind]

/-- The calls before the tests are looked for: for the metadata of the project, and for its analysis
unless the documentation is read from a file. -/
def preparation (manifest : Path) (config : Config) (fromFile : Option Path) (verbose : Bool) :
    List Child.Call :=
  Cargo.metadataCall config.cargo manifest ::
    if fromFile.isNone then [Cargo.checkCall config.cargo manifest verbose] else []

theorem makes_readDocumentation (file : Path) :
    Makes (readDocumentation file) surroundings place [] := by
  refine makes_nil_of_same fun {before result after} h ↦ ?_
  rcases h.of_absolute_bind.of_withTree_bind with ⟨-, -, -, hsame⟩ | ⟨bytes, -, h⟩
  · exact hsame
  rcases h.of_ofExcept_bind with ⟨-, -, -, hsame⟩ | ⟨text, -, h⟩
  · exact hsame
  · exact (runs_ofExcept_iff.1 h).2

theorem makes_documentationOf (manifest : Path) (config : Config) (target : Cargo.Target)
    (fromFile : Option Path) (verbose : Bool) :
    Makes (documentationOf manifest config target fromFile verbose) surroundings place
      (if fromFile.isNone then [Cargo.checkCall config.cargo manifest verbose] else []) := by
  rcases fromFile with - | file
  · exact (makes_log _).bind_of_nil fun _ ↦
      (Cargo.makes_analyse config.cargo manifest verbose).bind_nil fun _ ↦ makes_buildGraph _ _ _
  · exact makes_readDocumentation file

/-- The preparation ends before any call, or with the settings of the project, whose calls are made
in their order as far as they succeed. -/
theorem runs_prepare {manifest : Path} {fromFile : Option Path} {verbose : Bool}
    {result : Except Failure (Path × Documented)} (hlog : before.LogApart place)
    (h : Runs (prepare manifest fromFile verbose) surroundings before result after) :
    (∃ failure, result = .error failure ∧ after = before) ∨
      ∃ config, Config.load before.tree surroundings.toStandpoint
          (surroundings.canonical manifest).parent = .ok config ∧
        (∃ calls, before.Passes place calls after ∧ Follows surroundings
          (preparation (surroundings.canonical manifest) config fromFile verbose) result
          calls) ∧
        ∀ prepared, result = .ok prepared →
          prepared.1 = builtManifest (surroundings.canonical manifest) config fromFile ∧
            prepared.2.config = config := by
  simp only [prepare, openProject, bind_assoc, pure_bind] at h
  -- The manifest and the settings are looked up without a call, in the session that was there.
  rcases h.of_canonical_bind with ⟨_, -, rfl, rfl⟩ | ⟨-, h⟩
  · exact .inl ⟨_, rfl, rfl⟩
  rcases h.of_bind with ⟨failure, hcheck, rfl⟩ | ⟨path, between, hcheck, h⟩
  · exact .inl ⟨failure, rfl, (Cargo.runs_checkManifest hcheck).1⟩
  obtain ⟨rfl, hpath⟩ := Cargo.runs_checkManifest hcheck
  obtain rfl := hpath path rfl
  rcases h.of_read_bind.of_withTree_bind with ⟨e, -, rfl, rfl⟩ | ⟨config, hconfig, h⟩
  · exact .inl ⟨_, rfl, rfl⟩
  refine .inr ⟨config, hconfig, ?_, fun prepared hprepared ↦ ?_⟩
  · have hbehind : ∀ target, Makes
        (documentationOf (surroundings.canonical manifest) config target fromFile
          verbose >>= fun documentation ↦ pure
            (builtManifest (surroundings.canonical manifest) config fromFile,
              (⟨config, target, documentation⟩ : Documented))) surroundings place _ :=
      fun target ↦ (makes_documentationOf _ _ _ _ _).bind_nil fun _ ↦ makes_pure _
    exact (makes_resolveTarget _ _).bind hbehind hlog h
  · subst hprepared
    rcases h.of_bind with ⟨failure, -, hfailure⟩ | ⟨target, resolved, -, h⟩
    · cases hfailure
    obtain ⟨ending, -, hending⟩ := h.of_bind_pure
    rcases ending with failure | documentation
    · cases hending
    · cases hending
      exact ⟨rfl, rfl⟩

/-! ### What a run keeps to -/

/-- The calls of a run: those that prepare it, and then of cargo for the artifacts, of the compiler
and of the tests. -/
structure Plan where
  preparation : List Child.Call
  build : Child.Call
  compiler : Child.Call
  tests : Child.Call

namespace Plan

/-- The calls up to the build. -/
def toBuild (p : Plan) : List Child.Call := p.preparation ++ [p.build]

/-- The calls up to that of the compiler. -/
def toCompiler (p : Plan) : List Child.Call := p.preparation ++ [p.build, p.compiler]

/-- All calls. -/
def calls (p : Plan) : List Child.Call := p.preparation ++ [p.build, p.compiler, p.tests]

/-- The plan for a suite that is compiled by a command and run in a directory. -/
def ofSuite (preparation : List Child.Call) (build : Child.Call) (config : DoctestConfig)
    (command : List String) (scratch : Path) : Plan where
  preparation := preparation
  build := build
  compiler := compilerCall command scratch
  tests := testsCall config scratch

end Plan

/-- What a run keeps to, whatever the programs that it calls answer. It may fail before it has
prepared the documentation of a project. -/
structure Discipline (surroundings : Surroundings) (plan : Plan) (keepScratch : Option Bool)
    (prepared : Option Documented) (calls : List Child.Call) (result : Except Failure TestOutcome)
    (tree : FileTree) : Prop where
  /-- The calls are a beginning of the plan, each made after the earlier ones succeeded. -/
  inOrder : InOrder surroundings plan.calls calls
  /-- A project is built if its documentation has tests. -/
  build : plan.toBuild <+: calls ↔
    ∃ documented ∈ prepared, Snippet.ofDocumentation documented.documentation ≠ []
  /-- The compiler is called if the build has given the artifacts for its command. -/
  compiler : plan.toCompiler <+: calls ↔ plan.toBuild <+: calls ∧
    ∃ documented ∈ prepared, ∃ artifacts,
      ofAnswer (surroundings.runner plan.build) = .ok artifacts ∧
        compileCommand documented.config.doctest artifacts = .ok plan.compiler.args
  /-- The tests are called if the compiler succeeded. -/
  tests : plan.calls <+: calls ↔ plan.toCompiler <+: calls ∧ Succeeds surroundings plan.compiler
  /-- A run passes if the tests do, or if there are none. -/
  passed : (∃ outcome, result = .ok outcome) ↔
    (plan.calls <+: calls ∧ Succeeds surroundings plan.tests) ∨
      ∃ documented ∈ prepared, Snippet.ofDocumentation documented.documentation = []
  /-- A failure of the compiler is reported in its own words. -/
  notCompiled : ∀ response, plan.toCompiler <+: calls →
    surroundings.runner plan.compiler = .ok response → response.ok = false →
    result = .error (.doctest (.compile response.stderr))
  /-- A failure of the tests is reported in their own words. -/
  notPassed : ∀ response, plan.calls <+: calls →
    surroundings.runner plan.tests = .ok response → response.ok = false →
    result = .error (.doctest (.execution response.stderr))
  /-- The scratch directory is made when the build has given its artifacts, and stays if the run
  fails or if it is to be kept. -/
  scratch : tree.isDirectory surroundings.scratch = true ↔
    (plan.toBuild <+: calls ∧
      ∃ artifacts, ofAnswer (surroundings.runner plan.build) = .ok artifacts) ∧
    ((∃ failure, result = .error failure) ∨
      ∃ documented ∈ prepared,
        keepScratch.getD documented.config.doctest.keepScratch = true)
  /-- If it is there, all files of the suite are. -/
  files : tree.isDirectory surroundings.scratch = true → ∃ documented ∈ prepared,
    (suiteFor documented surroundings.scratch).Keeps
      (Snippet.ofDocumentation documented.documentation)
      (programsOf documented.documentation hostLanguage none) surroundings.scratch tree

section

variable {documented : Documented} {build : Child.Call} {config : DoctestConfig}
  {command : List String} {keepScratch : Option Bool} {prepared : Option Documented}
  {calls preparation : List Child.Call} {result : Except Failure TestOutcome} {tree : FileTree}

/-- A run that does not get to the build keeps to everything, if it passes where a documentation
without tests was prepared. -/
theorem Discipline.of_unbuilt (h : InOrder surroundings preparation calls)
    (htests : ¬ ∃ documented ∈ prepared, Snippet.ofDocumentation documented.documentation ≠ [])
    (hpassed : (∃ outcome, result = .ok outcome) ↔
      ∃ documented ∈ prepared, Snippet.ofDocumentation documented.documentation = [])
    (hscratch : tree.isDirectory surroundings.scratch = false) :
    Discipline surroundings (.ofSuite preparation build config command surroundings.scratch)
      keepScratch prepared calls result tree := by
  have hunmade : ¬ tree.isDirectory surroundings.scratch = true := Bool.eq_false_iff.1 hscratch
  exact
    { inOrder := ⟨h.order.trans (List.prefix_append _ _), h.checked⟩
      build := iff_of_false (h.not_reached _ _) htests
      compiler := iff_of_false (h.not_reached _ _) fun hreached ↦ h.not_reached _ _ hreached.1
      tests := iff_of_false (h.not_reached _ _) fun hreached ↦ h.not_reached _ _ hreached.1
      passed := hpassed.trans (or_iff_right fun hreached ↦ h.not_reached _ _ hreached.1).symm
      notCompiled := fun _ hreached ↦ absurd hreached (h.not_reached _ _)
      notPassed := fun _ hreached ↦ absurd hreached (h.not_reached _ _)
      scratch := iff_of_false hunmade fun hmade ↦ h.not_reached _ _ hmade.1.1
      files := fun hmade ↦ absurd hmade hunmade }

/-- A run that fails in its preparation keeps to everything. -/
theorem Discipline.of_preparation {failure : Failure} (h : InOrder surroundings preparation calls)
    (hscratch : tree.isDirectory surroundings.scratch = false) :
    Discipline surroundings (.ofSuite preparation build config command surroundings.scratch)
      keepScratch none calls (.error failure) tree := by
  have hunprepared : ∀ {p : Documented → Prop}, ¬ ∃ documented ∈ none, p documented := by
    rintro p ⟨documented, hdocumented, -⟩
    cases hdocumented
  have hfailed : ¬ ∃ outcome, (.error failure : Except Failure TestOutcome) = .ok outcome := by
    rintro ⟨outcome, houtcome⟩
    cases houtcome
  exact .of_unbuilt h hunprepared (iff_of_false hfailed hunprepared) hscratch

/-- Without tests nothing is built, and the run passes. -/
theorem Discipline.of_noTests {outcome : TestOutcome}
    (hnone : Snippet.ofDocumentation documented.documentation = [])
    (hscratch : tree.isDirectory surroundings.scratch = false) :
    Discipline surroundings (.ofSuite [] build config command surroundings.scratch) keepScratch
      (some documented) [] (.ok outcome) tree := by
  have htests : ¬ ∃ other ∈ some documented,
      Snippet.ofDocumentation other.documentation ≠ [] := by
    simpa using hnone
  exact .of_unbuilt inOrder_nil htests (iff_of_true ⟨outcome, rfl⟩ ⟨documented, rfl, hnone⟩)
    hscratch

/-- After a preparation that succeeded a run keeps to what it keeps to without one. -/
theorem Discipline.prepend (hpreparation : ∀ call ∈ preparation, Succeeds surroundings call)
    (h : Discipline surroundings (.ofSuite [] build config command surroundings.scratch) keepScratch
      prepared calls result tree) :
    Discipline surroundings (.ofSuite preparation build config command surroundings.scratch)
      keepScratch prepared (preparation ++ calls) result tree := by
  have hbehind : ∀ plan, preparation ++ plan <+: preparation ++ calls ↔ [] ++ plan <+: calls :=
    fun plan ↦ List.prefix_append_right_inj preparation
  exact
    { inOrder := h.inOrder.append hpreparation
      build := (hbehind _).trans h.build
      compiler := (hbehind _).trans (h.compiler.trans (and_congr_left' (hbehind _).symm))
      tests := (hbehind _).trans (h.tests.trans (and_congr_left' (hbehind _).symm))
      passed := h.passed.trans (or_congr_left (and_congr_left' (hbehind _).symm))
      notCompiled := fun response hcompiler ↦ h.notCompiled response ((hbehind _).1 hcompiler)
      notPassed := fun response htests ↦ h.notPassed response ((hbehind _).1 htests)
      scratch := h.scratch.trans (and_congr_left' (and_congr_left' (hbehind _).symm))
      files := h.files }

/-- A build that gives no artifacts keeps to everything. -/
theorem Discipline.of_notBuilt {failure : Failure}
    (hsome : Snippet.ofDocumentation documented.documentation ≠ [])
    (hbuild : ofAnswer (surroundings.runner build) = .error failure)
    (hscratch : tree.isDirectory surroundings.scratch = false) :
    Discipline surroundings (.ofSuite [] build config command surroundings.scratch) keepScratch
      (some documented) [build] (.error failure) tree := by
  have hinOrder : InOrder surroundings [build] [build] := inOrder_singleton
  have hshort := hinOrder.not_reached
  have hunmade : ¬ tree.isDirectory surroundings.scratch = true := Bool.eq_false_iff.1 hscratch
  have hunbuilt : ∀ artifacts, ofAnswer (surroundings.runner build) ≠ .ok artifacts := by
    intro artifacts hartifacts
    cases hbuild.symm.trans hartifacts
  exact
    { inOrder := inOrder_singleton
      build := iff_of_true List.prefix_rfl ⟨documented, rfl, hsome⟩
      compiler := iff_of_false (hshort _ _) fun ⟨_, _, _, artifacts, hartifacts, _⟩ ↦
        hunbuilt artifacts hartifacts
      tests := iff_of_false (hshort _ _) fun hreached ↦ hshort _ _ hreached.1
      passed := iff_of_false (fun ⟨_, hpassed⟩ ↦ by cases hpassed) fun hpassed ↦
        hpassed.elim (fun hreached ↦ hshort _ _ hreached.1) (by simpa using hsome)
      notCompiled := fun _ hreached ↦ absurd hreached (hshort _ _)
      notPassed := fun _ hreached ↦ absurd hreached (hshort _ _)
      scratch := iff_of_false hunmade fun ⟨⟨_, artifacts, hartifacts⟩, _⟩ ↦
        hunbuilt artifacts hartifacts
      files := fun hmade ↦ absurd hmade hunmade }

/-- A suite that is run after a build keeps to everything, if its directory stays as it should. -/
theorem Discipline.of_suiteRun {artifacts : List Cargo.Artifact} {ending : Except Failure Unit}
    (hsome : Snippet.ofDocumentation documented.documentation ≠ [])
    (hbuild : ofAnswer (surroundings.runner build) = .ok artifacts)
    (hrun : SuiteRun surroundings documented.config.doctest artifacts surroundings.scratch calls
      ending)
    (hpassed : (∃ outcome, result = .ok outcome) ↔ ending = .ok ())
    (hfailed : ∀ failure, ending = .error failure → result = .error failure)
    (hscratch : tree.isDirectory surroundings.scratch = true ↔
      (∃ failure, result = .error failure) ∨
        keepScratch.getD documented.config.doctest.keepScratch = true)
    (hfiles : tree.isDirectory surroundings.scratch = true → ∃ place,
      (suiteFor documented surroundings.scratch).StandsAt surroundings.scratch place tree) :
    ∃ command,
      Discipline surroundings
        (.ofSuite [] build documented.config.doctest command surroundings.scratch) keepScratch
        (some documented) (build :: calls) result tree := by
  obtain ⟨command, hsuite⟩ := hrun.exists_discipline
  -- What is reached behind the build is reached by the suite.
  have hbehind : ∀ plan, [build] ++ plan <+: build :: calls ↔ plan <+: calls :=
    fun plan ↦ List.prefix_cons_inj build
  have hreached : [build] <+: build :: calls := List.prefix_append [build] calls
  have hbuilt : ∀ call ∈ [build], Succeeds surroundings call := by
    intro call hcall
    rw [List.mem_singleton.1 hcall]
    exact Cargo.succeeds_of_ofAnswer hbuild
  have hinOrder : InOrder surroundings
      ([build] ++ [compilerCall command surroundings.scratch,
        testsCall documented.config.doctest surroundings.scratch]) ([build] ++ calls) :=
    hsuite.inOrder.append hbuilt
  -- The artifacts are those of the build, the settings those of the project.
  have hcommand : (∃ other ∈ some documented, ∃ found,
      ofAnswer (surroundings.runner build) = .ok found ∧
        compileCommand other.config.doctest found = .ok command) ↔
      compileCommand documented.config.doctest artifacts = .ok command := by
    rw [hbuild]
    simp
  have htests : ¬ ∃ other ∈ some documented, Snippet.ofDocumentation other.documentation = [] := by
    simpa using hsome
  have hkept : (∃ other ∈ some documented,
      keepScratch.getD other.config.doctest.keepScratch = true) ↔
      keepScratch.getD documented.config.doctest.keepScratch = true := by
    simp
  exact ⟨command,
    { inOrder := hinOrder
      build := iff_of_true hreached ⟨documented, rfl, hsome⟩
      compiler := (hbehind _).trans <|
        (hsuite.compiler.trans hcommand.symm).trans (and_iff_right hreached).symm
      tests := (hbehind _).trans (hsuite.tests.trans (and_congr_left' (hbehind _).symm))
      passed := (hpassed.trans hsuite.passed).trans <|
        (and_congr_left' (hbehind _).symm).trans (or_iff_left htests).symm
      notCompiled := fun response h hanswer hok ↦
        hfailed _ (hsuite.notCompiled response ((hbehind _).1 h) hanswer hok)
      notPassed := fun response h hanswer hok ↦
        hfailed _ (hsuite.notPassed response ((hbehind _).1 h) hanswer hok)
      scratch := (hscratch.trans (or_congr_right hkept.symm)).trans
        (and_iff_right ⟨hreached, artifacts, hbuild⟩).symm
      files := fun h ↦ (hfiles h).elim fun _ hstands ↦ ⟨documented, rfl, hstands.keeps⟩ }⟩

/-- However the tests of a documentation are run, that keeps to everything. -/
theorem Course.exists_discipline
    (h : Course surroundings documented build
      (keepScratch.getD documented.config.doctest.keepScratch) calls result tree) :
    ∃ command,
      Discipline surroundings
        (.ofSuite [] build documented.config.doctest command surroundings.scratch) keepScratch
        (some documented) calls result tree := by
  generalize hkeep : keepScratch.getD documented.config.doctest.keepScratch = keep at h
  cases h with
  | noTests hnone hscratch => exact ⟨[], .of_noTests hnone hscratch⟩
  | notBuilt hsome hbuild hscratch => exact ⟨[], .of_notBuilt hsome hbuild hscratch⟩
  | @failed tree artifacts calls failure place hsome hbuild hrun hstands =>
    refine Discipline.of_suiteRun hsome hbuild hrun (iff_of_false ?_ nofun) (fun e he ↦ ?_) ?_
      fun _ ↦ ⟨place, hstands⟩
    · rintro ⟨outcome, houtcome⟩
      cases houtcome
    · cases he
      rfl
    · exact iff_of_true hstands.isAt.isDirectory (.inl ⟨failure, rfl⟩)
  | @passed tree artifacts calls place hsome hbuild hrun hscratch =>
    refine Discipline.of_suiteRun hsome hbuild hrun (iff_of_true ⟨_, rfl⟩ rfl) nofun ?_ ?_
    -- whether the directory stays is decided by what was asked for, and else by the settings
    all_goals rcases keep with - | -
    · exact iff_of_false (Bool.eq_false_iff.1 hscratch) (by simp [hkeep])
    · exact iff_of_true (Doctest.Suite.StandsAt.isAt hscratch).isDirectory (.inr hkeep)
    · exact fun hthere ↦ absurd hthere (Bool.eq_false_iff.1 hscratch)
    · exact fun _ ↦ ⟨place, hscratch⟩

end

/-! ### Runs -/

/-- The plan of a run, by the settings of the project and the command that its suite is compiled
with. -/
def planOf (surroundings : Surroundings) (manifest : Path) (fromFile : Option Path) (verbose : Bool)
    (config : Config) (command : List String) : Plan :=
  .ofSuite (preparation (surroundings.canonical manifest) config fromFile verbose)
    (buildCall config.cargo
      (builtManifest (surroundings.canonical manifest) config fromFile))
    config.doctest command surroundings.scratch

/-- A run that fails before it has a documentation makes calls of its preparation only. -/
theorem exists_unprepared {manifest : Path} {fromFile : Option Path} {verbose : Bool}
    {name : String} {failure : Failure} (hfree : before.ScratchFree surroundings place name)
    (h : Runs (prepare manifest fromFile verbose) surroundings before (.error failure) after) :
    ∃ config calls, before.Passes (place ++ [name]) calls after ∧
      (calls ≠ [] → Config.load before.tree surroundings.toStandpoint
        (surroundings.canonical manifest).parent = .ok config) ∧
      InOrder surroundings
        (preparation (surroundings.canonical manifest) config fromFile verbose) calls := by
  rcases runs_prepare hfree.log h with ⟨-, -, rfl⟩ |
    ⟨config, hconfig, ⟨calls, hpasses, hfollows⟩, -⟩
  · exact ⟨.default surroundings.scratch, [], hfree.log.passes, fun h ↦ absurd rfl h, inOrder_nil⟩
  · exact ⟨config, calls, hpasses, fun _ ↦ hconfig, hfollows.inOrder⟩

/-- Wherever the documentation comes from, whatever the settings are and whatever the programs that
it calls answer, a run ends and keeps to the discipline of its plan. The calls are made with the
settings of the project, and the tests are those of the documentation that is prepared. -/
theorem test_keeps_discipline {surroundings : Surroundings} {before : Session}
    (h : ScratchIsFree surroundings before) (manifest : Path) (fromFile : Option Path)
    (keepScratch : Option Bool) (verbose : Bool) :
    ∃ config command prepared calls result after,
      Runs (test manifest fromFile keepScratch verbose) surroundings before result after ∧
      after.calls = before.calls ++ calls ∧
      (calls ≠ [] → Config.load before.tree surroundings.toStandpoint
        (surroundings.canonical manifest).parent = .ok config) ∧
      (∀ documented, documented ∈ prepared ↔ ∃ built between,
        Runs (prepare manifest fromFile verbose) surroundings before (.ok (built, documented))
          between) ∧
      (∀ documented ∈ prepared, documented.config = config) ∧
      Discipline surroundings (planOf surroundings manifest fromFile verbose config command)
        keepScratch prepared calls result after.tree := by
  obtain ⟨place, hfree⟩ := h.exists_place
  obtain ⟨result, after, hruns⟩ :=
    exists_runs (test manifest fromFile keepScratch verbose) surroundings before
  have hparts := hruns
  rw [test_eq] at hparts
  rcases hparts.of_bind with ⟨failure, hprepare, rfl⟩ |
    ⟨⟨built, documented⟩, between, hprepare, hrun⟩
  · obtain ⟨config, calls, hpasses, hconfig, hinOrder⟩ := exists_unprepared hfree hprepare
    refine ⟨config, [], none, calls, _, after, hruns, hpasses.calls, hconfig,
      fun documented ↦ iff_of_false nofun ?_, nofun,
      .of_preparation hinOrder (hfree.passes hpasses).isDirectory⟩
    -- A preparation that fails does not end in another way.
    rintro ⟨built, between, hprepared⟩
    cases hprepare.symm.trans hprepared
  · rcases runs_prepare hfree.log hprepare with ⟨failure, hfailure, -⟩ |
      ⟨config, hconfig, ⟨calls, hpasses, hfollows⟩, hprepared⟩
    · cases hfailure
    obtain ⟨rfl, rfl⟩ : built = builtManifest (surroundings.canonical manifest) config
        fromFile ∧ documented.config = config := hprepared _ rfl
    obtain ⟨rfl, hpreparation⟩ := hfollows.finished _ rfl
    obtain ⟨rest, hfound, hcourse⟩ := runs_run (hfree.passes hpasses) hrun
    obtain ⟨command, hdiscipline⟩ := hcourse.exists_discipline
    refine ⟨documented.config, command, some documented, _, result, after, hruns,
      by rw [hfound.calls, hpasses.calls, List.append_assoc], fun _ ↦ hconfig,
      fun other ↦ ⟨?_, ?_⟩, ?_, hdiscipline.prepend hpreparation⟩
    · rintro ⟨⟩
      exact ⟨_, between, hprepare⟩
    · rintro ⟨built, between', hother⟩
      cases hprepare.symm.trans hother
      rfl
    · rintro other ⟨⟩
      rfl

/-- A library whose analysis shows a module with one test. -/
def analysedProject : Session where
  tree := ⟨[(["p", "Cargo.toml"], .file []),
    (["p", "target", "rls", "debug", "save-analysis", "p.json"], .file (Text.Utf8.encode
      ("\x7b\"prelude\":\x7b\"crate_id\":\x7b\"name\":\"p\"\x7d\x7d,\"defs\":[" ++
        "\x7b\"id\":\x7b\"krate\":0,\"index\":0\x7d,\"kind\":\"Mod\",\"qualname\":\"::\"," ++
        "\"docs\":\"```\\nlet a = 1;\\n```\"\x7d]\x7d").toList))]⟩

/-- What cargo writes when it is asked for the targets of the library, or to build it. -/
def cargoOutput : Option String → String
  | some "metadata" =>
    "\x7b\"packages\":[\x7b\"targets\":[\x7b\"name\":\"p\",\"kind\":[\"lib\"]\x7d]\x7d]\x7d"
  | some "build" =>
    "\x7b\"reason\":\"compiler-artifact\",\"target\":\x7b\"name\":\"p\",\"kind\":[\"lib\"]\x7d," ++
      "\"filenames\":[\"/p/target/debug/libp.rlib\"]\x7d\n"
  | _ => ""

/-- Surroundings in which cargo names one library and builds it, and every program succeeds. -/
def answering (scratch : Path) : Surroundings where
  directory := ⟨.single, ["p"]⟩
  scratch := scratch
  time := ""
  runner := fun call ↦ .ok { stdout := cargoOutput call.args[1]? }

/-- The library, with a log in its directory. -/
def loggedProject : Session where
  tree := ⟨analysedProject.tree.entries ++ [(["p", "log"], .file [])]⟩
  logging := some ⟨.debug, some ⟨.single, ["p", "log"]⟩⟩

/-- A run of its tests: how it ends, and the session that it leaves. -/
def loggedRun : Except Failure TestOutcome × Session :=
  ((test ⟨.none, ["Cargo.toml"]⟩ none (some true) false).run
    (answering ⟨.single, ["t"]⟩)).run.run loggedProject

/-- The test of the library is built, compiled and run, and its sources are kept. -/
theorem test_loggedProject_keeps_discipline :
    ScratchIsFree (answering ⟨.single, ["t"]⟩) loggedProject ∧
      ∃ (config : Config) (command : List String) (prepared : Option Documented)
        (calls : List Child.Call) (result : Except Failure TestOutcome) (after : Session),
        Runs (test ⟨.none, ["Cargo.toml"]⟩ none (some true) false) (answering ⟨.single, ["t"]⟩)
          loggedProject result after ∧
        calls = (planOf (answering ⟨.single, ["t"]⟩) ⟨.none, ["Cargo.toml"]⟩ none false config
          command).calls ∧
        result = .ok ⟨"p", 1, 1, some ⟨.single, ["t"]⟩⟩ ∧
        Discipline (answering ⟨.single, ["t"]⟩)
          (planOf (answering ⟨.single, ["t"]⟩) ⟨.none, ["Cargo.toml"]⟩ none false config command)
          (some true) prepared calls result after.tree := by
  have hfree : ScratchIsFree (answering ⟨.single, ["t"]⟩) loggedProject :=
    scratchIsFree_in_root rfl ⟨by decide, by decide, by decide, by decide⟩ rfl rfl
      fun _ _ hfile ↦ by
        cases hfile
        rfl
  obtain ⟨config, command, prepared, calls, result, after, hruns, hcalls, -, -, -, hdiscipline⟩ :=
    test_keeps_discipline hfree ⟨.none, ["Cargo.toml"]⟩ none (some true) false
  obtain ⟨houtcome, hlength⟩ : loggedRun.1.toOption = some ⟨"p", 1, 1, some ⟨.single, ["t"]⟩⟩ ∧
      loggedRun.2.calls.length = 5 := by
    decide +kernel
  have hruns' : Runs (test ⟨.none, ["Cargo.toml"]⟩ none (some true) false)
      (answering ⟨.single, ["t"]⟩) loggedProject (.ok ⟨"p", 1, 1, some ⟨.single, ["t"]⟩⟩)
      loggedRun.2 := returns_of_toOption houtcome
  have hends : (result, after) = (.ok ⟨"p", 1, 1, some ⟨.single, ["t"]⟩⟩, loggedRun.2) :=
    hruns.symm.trans hruns'
  obtain ⟨hresult, hafter⟩ := Prod.mk.inj hends
  -- Five calls are made, and the plan has no more.
  have hall : calls = (planOf (answering ⟨.single, ["t"]⟩) ⟨.none, ["Cargo.toml"]⟩ none false config
      command).calls := by
    rw [← hafter, hcalls] at hlength
    exact hdiscipline.inOrder.order.eq_of_length hlength
  exact ⟨hfree, config, command, prepared, calls, result, after, hruns, hall, hresult, hdiscipline⟩

end CrateDoc.TestRun
