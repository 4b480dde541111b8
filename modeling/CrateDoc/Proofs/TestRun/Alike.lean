import CrateDoc.Proofs.TestRun.Course

/-!
# The same tests in two scratch directories

A run of tests looks at the session that it starts in only to make room for its scratch directory:
what it calls, and how it ends, is decided by the documentation and by the answers of other
programs. So two runs with one documentation come to the same if the programs answer alike
(`Surroundings.Alike`), each in its own scratch directory.

* `SuiteRun.alike`, `Course.alike`: the ways in which a suite, and the tests of a documentation, are
  run are no more than one for each way to answer.
* `runs_run_alike`: two runs from sessions of any kind make the same tests (`SameTests`).
-/

namespace CrateDoc

open Doctest

/-- Surroundings that differ in the name of the scratch directory, and in the time. Programs that
are called elsewhere answer the same, and in the one scratch directory the compiler and the tests
answer what they answer in the other. -/
structure Surroundings.Alike (s t : Surroundings) : Prop where
  standpoint : t.toStandpoint = s.toStandpoint
  elsewhere : ∀ call : Child.Call, call.workingDirectory = none → t.runner call = s.runner call
  compiler : ∀ command, t.runner (compilerCall command t.scratch) =
    s.runner (compilerCall command s.scratch)
  tests : ∀ config, t.runner (testsCall config t.scratch) = s.runner (testsCall config s.scratch)

/-- The outcome of the same tests in another scratch directory. -/
def TestOutcome.movedTo (o : TestOutcome) (scratch : Path) : TestOutcome :=
  { o with scratch := o.scratch.map fun _ ↦ scratch }

/-! ### Suites -/

namespace Doctest

/-- The calls that a suite is run with, each made if the earlier ones succeed. -/
def suiteCalls (config : DoctestConfig) (command : List String) (scratch : Path) :
    List Child.Call := [compilerCall command scratch, testsCall config scratch]

/-- A suite is run in one way, in whatever scratch directory. -/
theorem SuiteRun.alike {s t : Surroundings} (h : s.Alike t) {config : DoctestConfig}
    {artifacts : List Cargo.Artifact} {calls calls' : List Child.Call}
    {result result' : Except Failure Unit}
    (hrun : SuiteRun s config artifacts s.scratch calls result)
    (hrun' : SuiteRun t config artifacts t.scratch calls' result') :
    result' = result ∧ ∃ command n, calls = (suiteCalls config command s.scratch).take n ∧
      calls' = (suiteCalls config command t.scratch).take n := by
  -- The command is a matter of the artifacts, what follows it of the answers.
  cases hrun with
  | noCommand hcommand =>
    cases hrun' with
    | noCommand hcommand' =>
      cases hcommand.symm.trans hcommand'
      exact ⟨rfl, [], 0, rfl, rfl⟩
    | notCompiled hcommand' => cases hcommand.symm.trans hcommand'
    | compiled hcommand' => cases hcommand.symm.trans hcommand'
  | @notCompiled command failure hcommand hcompiler =>
    rw [← h.compiler] at hcompiler
    cases hrun' with
    | noCommand hcommand' => cases hcommand.symm.trans hcommand'
    | notCompiled hcommand' hcompiler' =>
      cases hcommand.symm.trans hcommand'
      cases hcompiler.symm.trans hcompiler'
      exact ⟨rfl, command, 1, rfl, rfl⟩
    | compiled hcommand' hcompiler' =>
      cases hcommand.symm.trans hcommand'
      cases hcompiler.symm.trans hcompiler'
  | @compiled command hcommand hcompiler =>
    rw [← h.compiler] at hcompiler
    cases hrun' with
    | noCommand hcommand' => cases hcommand.symm.trans hcommand'
    | notCompiled hcommand' hcompiler' =>
      cases hcommand.symm.trans hcommand'
      cases hcompiler.symm.trans hcompiler'
    | compiled hcommand' hcompiler' =>
      cases hcommand.symm.trans hcommand'
      exact ⟨by rw [h.tests], command, 2, rfl, rfl⟩

end Doctest

/-! ### The tests of a documentation -/

namespace TestRun

open CrateDoc.Action CrateDoc.Cargo.Artifact

/-- The calls for the tests of a project, each made if the earlier ones succeed: of cargo for the
artifacts, of the compiler, and of the tests. -/
def testCalls (build : Child.Call) (config : DoctestConfig) (command : List String)
    (scratch : Path) : List Child.Call := build :: suiteCalls config command scratch

variable {s t : Surroundings} {documented : Documented} {build : Child.Call} {keepScratch : Bool}
  {calls calls' : List Child.Call} {result result' : Except Failure TestOutcome}
  {tree tree' : FileTree}

/-- As long as the scratch directory is there, the suite is. -/
theorem Course.exists_standsAt
    (h : Course s documented build keepScratch calls result tree)
    (hthere : tree.isDirectory s.scratch = true) :
    ∃ place, (suiteFor documented s.scratch).StandsAt s.scratch place tree := by
  have hgone : tree.isDirectory s.scratch ≠ false := fun hgone ↦ by
    cases hgone.symm.trans hthere
  cases h with
  | noTests _ hscratch => exact absurd hscratch hgone
  | notBuilt _ _ hscratch => exact absurd hscratch hgone
  | failed _ _ _ hscratch => exact ⟨_, hscratch⟩
  | passed _ _ _ hscratch =>
    rcases keepScratch with - | -
    · exact absurd hscratch hgone
    · exact ⟨_, hscratch⟩

/-- The tests of a documentation are run in one way, in whatever scratch directory. -/
theorem Course.alike (h : s.Alike t) (hbuild : build.workingDirectory = none)
    (hcourse : Course s documented build keepScratch calls result tree)
    (hcourse' : Course t documented build keepScratch calls' result' tree') :
    result' = result.map (·.movedTo t.scratch) ∧
      (∃ command n, calls = (testCalls build documented.config.doctest command s.scratch).take n ∧
        calls' = (testCalls build documented.config.doctest command t.scratch).take n) ∧
      tree.isDirectory s.scratch = tree'.isDirectory t.scratch := by
  have hanswer := h.elsewhere build hbuild
  -- both courses end in the same case: which one it is depends on the tests and on equal answers
  cases hcourse with
  | noTests hnone hscratch =>
    cases hcourse' with
    | noTests _ hscratch' => exact ⟨rfl, ⟨[], 0, rfl, rfl⟩, hscratch.trans hscratch'.symm⟩
    | notBuilt hsome => exact absurd hnone hsome
    | failed hsome => exact absurd hnone hsome
    | passed hsome => exact absurd hnone hsome
  | notBuilt hsome hfailed hscratch =>
    rw [← hanswer] at hfailed
    cases hcourse' with
    | noTests hnone => exact absurd hnone hsome
    | notBuilt _ hfailed' hscratch' =>
      cases hfailed.symm.trans hfailed'
      exact ⟨rfl, ⟨[], 1, rfl, rfl⟩, hscratch.trans hscratch'.symm⟩
    | failed _ hbuilt => cases hfailed.symm.trans hbuilt
    | passed _ hbuilt => cases hfailed.symm.trans hbuilt
  | failed hsome hbuilt hrun hscratch =>
    rw [← hanswer] at hbuilt
    cases hcourse' with
    | noTests hnone => exact absurd hnone hsome
    | notBuilt _ hfailed => cases hfailed.symm.trans hbuilt
    | failed _ hbuilt' hrun' hscratch' =>
      cases hbuilt.symm.trans hbuilt'
      obtain ⟨hsame, command, n, rfl, rfl⟩ := hrun.alike h hrun'
      cases hsame
      exact ⟨rfl, ⟨command, n + 1, rfl, rfl⟩,
        hscratch.isAt.isDirectory.trans hscratch'.isAt.isDirectory.symm⟩
    | passed _ hbuilt' hrun' =>
      cases hbuilt.symm.trans hbuilt'
      cases (hrun.alike h hrun').1
  | passed hsome hbuilt hrun hscratch =>
    rw [← hanswer] at hbuilt
    cases hcourse' with
    | noTests hnone => exact absurd hnone hsome
    | notBuilt _ hfailed => cases hfailed.symm.trans hbuilt
    | failed _ hbuilt' hrun' =>
      cases hbuilt.symm.trans hbuilt'
      cases (hrun.alike h hrun').1
    | passed _ hbuilt' hrun' hscratch' =>
      cases hbuilt.symm.trans hbuilt'
      obtain ⟨-, command, n, rfl, rfl⟩ := hrun.alike h hrun'
      refine ⟨?_, ⟨command, n + 1, rfl, rfl⟩, ?_⟩
      · rcases keepScratch with - | - <;> rfl
      · rcases keepScratch with - | -
        · exact Eq.trans hscratch hscratch'.symm
        · exact (Suite.StandsAt.isAt hscratch).isDirectory.trans
            (Suite.StandsAt.isAt hscratch').isDirectory.symm

/-- Two runs make the same tests of one documentation, up to the names of their scratch
directories. -/
structure SameTests (s t : Surroundings) (documented : Documented) (build : Child.Call)
    (before after before' after' : Session) (result result' : Except Failure TestOutcome) :
    Prop where
  /-- The suites have the same modules and the same files, with the same texts. -/
  suite : suiteFor documented t.scratch =
    { suiteFor documented s.scratch with directory := t.scratch }
  /-- The same calls are made, and those in the scratch directory find the suite there. -/
  calls : ∃ command n,
    (suiteFor documented s.scratch).FoundBy s.scratch before
      ((testCalls build documented.config.doctest command s.scratch).take n) after ∧
    (suiteFor documented t.scratch).FoundBy t.scratch before'
      ((testCalls build documented.config.doctest command t.scratch).take n) after'
  /-- The outcome is the same, or the failure. -/
  result : result' = result.map (·.movedTo t.scratch)
  /-- The one scratch directory stays if the other does. -/
  stays : after.tree.isDirectory s.scratch = after'.tree.isDirectory t.scratch
  /-- If they stay, so do the files of the suites. -/
  files : after.tree.isDirectory s.scratch = true →
    (∃ place, (suiteFor documented s.scratch).StandsAt s.scratch place after.tree) ∧
      ∃ place, (suiteFor documented t.scratch).StandsAt t.scratch place after'.tree

/-- However the sessions differ that they start in, two runs make the same tests. -/
theorem runs_run_alike {place place' : List String} {name name' : String} {manifest : Path}
    {before after before' after' : Session} (h : s.Alike t)
    (hfree : before.ScratchFree s place name) (hfree' : before'.ScratchFree t place' name')
    (hrun : Runs (run documented.documentation documented.target.crateName manifest
      documented.config keepScratch) s before result after)
    (hrun' : Runs (run documented.documentation documented.target.crateName manifest
      documented.config keepScratch) t before' result' after') :
    SameTests s t documented (buildCall documented.config.cargo manifest)
      before after before' after' result result' := by
  obtain ⟨calls, hfound, hcourse⟩ := runs_run hfree hrun
  obtain ⟨calls', hfound', hcourse'⟩ := runs_run hfree' hrun'
  obtain ⟨hresult, ⟨command, n, rfl, rfl⟩, hstays⟩ := hcourse.alike h rfl hcourse'
  exact ⟨rfl, ⟨command, n, hfound, hfound'⟩, hresult, hstays, fun hthere ↦
    ⟨hcourse.exists_standsAt hthere, hcourse'.exists_standsAt (hstays ▸ hthere)⟩⟩

end TestRun

end CrateDoc
