import CrateDoc.Proofs.Doctest.SuiteFiles
import CrateDoc.Proofs.TestRun.Calls
import CrateDoc.TestRun

/-!
# The scratch directory of a run

What becomes of the scratch directory, and which calls are made in it.

* `SuiteRun` lists how a suite may end: without a command, with the compiler, or with the program
  that was compiled.
* `runs_inScratch`: a suite is run in a directory that was made for it, is found there by all that
  is called in it (`Suite.FoundBy`), and the directory stays with all files of the suite, however
  that ends.
-/

namespace CrateDoc

open CrateDoc.Action FileTree

/-! ### A free place -/

/-- The scratch directory is a free name in a directory, and the log is written elsewhere. -/
structure Session.ScratchFree (surroundings : Surroundings) (place : List String) (name : String)
    (s : Session) : Prop where
  absolute : surroundings.scratch.isAbsolute = true
  isComponent : Path.IsComponent name
  path : surroundings.scratch = surroundings.scratch.parent / name
  parent : s.tree.IsAt surroundings.scratch.parent place
  free : s.tree.at? (place ++ [name]) = none
  log : s.LogApart (place ++ [name])

namespace Session.ScratchFree

variable {surroundings : Surroundings} {place : List String} {name : String}
  {before after : Session}

theorem passes {calls : List Child.Call} (h : before.ScratchFree surroundings place name)
    (hpasses : before.Passes (place ++ [name]) calls after) :
    after.ScratchFree surroundings place name :=
  { h with
    parent := h.parent.keep hpasses.tree.directories
    free := (hpasses.tree.below _ List.prefix_rfl).trans h.free
    log := hpasses.apart }

/-- There is no scratch directory yet. -/
theorem isDirectory (h : before.ScratchFree surroundings place name) :
    before.tree.isDirectory surroundings.scratch = false :=
  h.path ▸ isDirectory_of_free h.parent h.isComponent h.free

end Session.ScratchFree

/-- Where a run finds its scratch directory: it is a new name in a directory that is there. The log,
if it goes to a file, goes to one that is there. -/
structure ScratchIsFree (surroundings : Surroundings) (s : Session) : Prop where
  absolute : surroundings.scratch.isAbsolute = true
  name : Path.IsComponent surroundings.scratch.name
  parent : s.tree.isDirectory surroundings.scratch.parent = true
  free : s.tree.has surroundings.scratch = false
  log : ∀ level file, s.logging = some ⟨level, some file⟩ → s.tree.isFile file = true

/-- A scratch directory in the root is free if nothing there has its name. -/
theorem scratchIsFree_in_root {surroundings : Surroundings} {s : Session} {name : String}
    (hscratch : surroundings.scratch = ⟨.single, [name]⟩) (hname : Path.IsComponent name)
    (hroot : s.tree.isDirectory ⟨.single, []⟩ = true)
    (hfree : s.tree.has ⟨.single, [name]⟩ = false)
    (hlog : ∀ level file, s.logging = some ⟨level, some file⟩ → s.tree.isFile file = true) :
    ScratchIsFree surroundings s where
  absolute := hscratch ▸ rfl
  name := hscratch ▸ hname
  parent := hscratch ▸ hroot
  free := hscratch ▸ hfree
  log := hlog

theorem ScratchIsFree.exists_place {surroundings : Surroundings} {s : Session}
    (h : ScratchIsFree surroundings s) :
    ∃ place, s.ScratchFree surroundings place surroundings.scratch.name := by
  have hscratch : surroundings.scratch =
      surroundings.scratch.parent / surroundings.scratch.name := Path.eq_parent_div_name h.name
  obtain ⟨place, hplace⟩ := exists_isAt_of_isDirectory h.parent
  have hfree : s.tree.at? (place ++ [surroundings.scratch.name]) = none := by
    have hhas := h.free
    rw [hscratch, has, entry?, hplace.locate_component h.name] at hhas
    simpa using hhas
  refine ⟨place, h.absolute, h.name, hscratch, hplace, hfree, fun level file hfile ↦ ?_⟩
  have hlog := h.log level file hfile
  rw [isFile, entry?] at hlog
  rcases hlocate : s.tree.locate file with e | at_
  · simp [hlocate] at hlog
  · rw [hlocate] at hlog
    dsimp only at hlog
    rcases hthere : s.tree.at? at_ with - | entry
    · simp [hthere] at hlog
    rcases entry with bytes | -
    -- At and below a free place no file stands.
    · refine ⟨at_, bytes, hlocate, hthere, fun hbefore ↦ ?_⟩
      rw [at?_below_eq_none hfree hbefore] at hthere
      cases hthere
    · simp [hthere] at hlog

/-! ### Writing a suite -/

/-- All files of a suite stand in a directory. -/
structure Doctest.Suite.StandsAt (s : Suite) (directory : Path) (place : List String)
    (tree : FileTree) : Prop where
  isAt : tree.IsAt directory place
  files : ∀ f ∈ s.files, tree.at? (place ++ [f.1]) = some (.file (Text.Utf8.encode f.2.toList))

/-- A change elsewhere leaves the files of a suite. -/
theorem Doctest.Suite.StandsAt.keep {s : Suite} {directory : Path} {place : List String}
    {tree later : FileTree} (h : s.StandsAt directory place tree)
    (hkeep : KeepsBelow place tree later) :
    s.StandsAt directory place later :=
  ⟨h.isAt.keep hkeep.directories, fun f hf ↦
    (hkeep.below _ (List.prefix_append place [f.1])).trans (h.files f hf)⟩

/-- Some calls are made from one session to another, and each of them that is made in a directory
finds all files of a suite there. -/
def Doctest.Suite.FoundBy (s : Suite) (directory : Path) (before : Session)
    (calls : List Child.Call) (after : Session) : Prop :=
  ∃ added, after.started = before.started ++ added ∧ added.map Session.Started.call = calls ∧
    ∀ one ∈ added, one.call.workingDirectory = some directory →
      ∃ place, s.StandsAt directory place one.tree

section FoundBy

open Doctest

variable {s : Suite} {directory : Path} {place : List String} {before between after : Session}
  {made more : List Child.Call}

theorem Doctest.Suite.FoundBy.calls (h : s.FoundBy directory before made after) :
    after.calls = before.calls ++ made := by
  obtain ⟨added, hadded, rfl, -⟩ := h
  rw [Session.calls, hadded, List.map_append]
  rfl

theorem Doctest.Suite.FoundBy.trans (h : s.FoundBy directory before made between)
    (h' : s.FoundBy directory between more after) :
    s.FoundBy directory before (made ++ more) after := by
  obtain ⟨added, hadded, rfl, hfound⟩ := h
  obtain ⟨added', hadded', rfl, hfound'⟩ := h'
  refine ⟨added ++ added', by rw [hadded', hadded, List.append_assoc], List.map_append,
    fun one hone ↦ ?_⟩
  rcases List.mem_append.1 hone with hone | hone
  · exact hfound one hone
  · exact hfound' one hone

theorem Doctest.Suite.FoundBy.congr {before' after' : Session}
    (h : s.FoundBy directory before made after) (hbefore : before'.started = before.started)
    (hafter : after'.started = after.started) : s.FoundBy directory before' made after' := by
  rwa [FoundBy, hbefore, hafter]

/-- While the files of a suite stay where they are, they are found. -/
theorem Doctest.Suite.StandsAt.foundBy (h : s.StandsAt directory place before.tree)
    (hpasses : before.Passes place made after) : s.FoundBy directory before made after := by
  obtain ⟨added, hadded, hcalls, hkeep⟩ := hpasses.started
  exact ⟨added, hadded, hcalls, fun one hone _ ↦ ⟨place, h.keep (hkeep one hone)⟩⟩

/-- Calls that are made elsewhere need not find a suite. -/
theorem Session.Passes.foundBy (h : before.Passes place made after)
    (helsewhere : ∀ call ∈ made, call.workingDirectory ≠ some directory) :
    s.FoundBy directory before made after := by
  obtain ⟨added, hadded, rfl, -⟩ := h.started
  exact ⟨added, hadded, rfl, fun one hone hdirectory ↦
    absurd hdirectory (helsewhere one.call (List.mem_map_of_mem hone))⟩

end FoundBy

/-- The suite of the tests of a documentation. -/
def Doctest.suiteOf (documentation : Documentation) (directory : Path) (crate : String) : Suite :=
  .ofPrograms (programsOf documentation hostLanguage none) directory crate

/-- A suite of tests that stands in its directory keeps them. -/
theorem Doctest.Suite.StandsAt.keeps {documentation : Documentation} {directory : Path}
    {crate : String} {place : List String} {tree : FileTree}
    (h : (suiteOf documentation directory crate).StandsAt directory place tree) :
    (suiteOf documentation directory crate).Keeps (Snippet.ofDocumentation documentation)
      (programsOf documentation hostLanguage none) directory tree := by
  have hnames := map_name_programsOf documentation hostLanguage none
  exact keeps_ofPrograms hnames fun f hf ↦
    h.isAt.read_component ((nodup_files directory crate hnames).2 f hf) (h.files f hf)

/-- A suite is written into a directory that is there and has nothing in it. -/
theorem Doctest.Suite.exists_returns_write_at (s : Suite) {surroundings : Surroundings}
    {session : Session} {place : List String} (hnames : (s.files.map Prod.fst).Nodup)
    (hcomponents : ∀ f ∈ s.files, Path.IsComponent f.1)
    (hplace : session.tree.IsAt (surroundings.directory.join s.directory) place)
    (hfree : ∀ name, session.tree.at? (place ++ [name]) = none) (hlog : session.LogApart place) :
    ∃ tree, Returns s.write surroundings session () { session with tree := tree } ∧
      s.StandsAt (surroundings.directory.join s.directory) place tree ∧
      Session.LogApart place { session with tree := tree } := by
  obtain ⟨tree, hwrite, hfold, hlater, hthere⟩ := s.exists_foldlM_write hnames hcomponents
    (makeDirectory_of_isAt hplace) hplace hfree
  refine ⟨tree, hwrite, ⟨hlater, hthere⟩, fun level file hfile ↦ ?_⟩
  refine (hlog level file hfile).foldlM_write hplace (fun f hf ↦ ?_) hfold
  obtain ⟨g, hg, rfl⟩ := List.mem_map.1 hf
  exact hcomponents g hg

/-! ### Running a suite -/

namespace Doctest

/-- The call of the compiler in a directory. -/
def compilerCall (command : List String) (scratch : Path) : Child.Call where
  args := command
  workingDirectory := some scratch

/-- The call of the program that a suite was compiled to. -/
def testsCall (config : DoctestConfig) (scratch : Path) : Child.Call where
  args := (scratch / binaryName).toString :: config.testArgs
  workingDirectory := some scratch

/-- What becomes of a call that has to succeed, by its answer: a failure is reported in the words of
the program. -/
def endingOf (report : String → Error) : Except Child.Error Child.Response → Except Failure Unit
  | .error e => .error (.child e)
  | .ok response =>
    if response.ok then .ok () else .error (.doctest (report response.stderr))

section

variable {surroundings : Surroundings} {report : String → Error} {call : Child.Call}
  {before after : Session} {result : Except Failure Unit}

theorem endingOf_of_failed {response : Child.Response}
    (hanswer : surroundings.runner call = .ok response) (hok : response.ok = false) :
    endingOf report (surroundings.runner call) = .error (.doctest (report response.stderr)) := by
  rw [hanswer, endingOf, hok]
  rfl

theorem endingOf_eq_ok_iff :
    endingOf report (surroundings.runner call) = .ok () ↔ Succeeds surroundings call := by
  constructor
  · intro h
    rcases hanswer : surroundings.runner call with e | response
    · rw [hanswer] at h
      cases h
    rcases hok : response.ok with - | -
    · rw [endingOf_of_failed hanswer hok] at h
      cases h
    · exact ⟨response, hanswer, hok⟩
  · rintro ⟨response, hanswer, hok⟩
    rw [hanswer, endingOf, hok]
    rfl

theorem runs_start_checked
    (h : Runs (do
        let response ← start call
        if !response.ok then throw (.doctest (report response.stderr))) surroundings before result
      after) :
    result = endingOf report (surroundings.runner call) ∧ after = before.calling call := by
  rcases h.of_start_bind with ⟨e, hanswer, rfl, hafter⟩ | ⟨response, hanswer, hrest⟩
  · exact ⟨by rw [hanswer, endingOf], hafter⟩
  rcases hok : response.ok with - | -
  · rw [hok] at hrest
    obtain ⟨rfl, hafter⟩ := runs_throw_iff.1 hrest
    exact ⟨(endingOf_of_failed hanswer hok).symm, hafter⟩
  · rw [hok] at hrest
    obtain ⟨rfl, hafter⟩ := runs_pure_iff.1 hrest
    exact ⟨(endingOf_eq_ok_iff.2 ⟨response, hanswer, hok⟩).symm, hafter⟩

end

/-- How a suite ends: which calls are made for it, and with which result. -/
inductive SuiteRun (surroundings : Surroundings) (config : DoctestConfig)
    (artifacts : List Cargo.Artifact) (scratch : Path) :
    List Child.Call → Except Failure Unit → Prop
  /-- There is no command to compile it. -/
  | noCommand {e : Error} (h : compileCommand config artifacts = .error e) :
      SuiteRun surroundings config artifacts scratch [] (.error (.doctest e))
  /-- The compiler cannot be called, or fails. -/
  | notCompiled {command : List String} {failure : Failure}
      (h : compileCommand config artifacts = .ok command)
      (hcompiler : endingOf .compile (surroundings.runner (compilerCall command scratch)) =
        .error failure) :
      SuiteRun surroundings config artifacts scratch [compilerCall command scratch] (.error failure)
  /-- The tests are called, and decide. -/
  | compiled {command : List String} (h : compileCommand config artifacts = .ok command)
      (hcompiler : endingOf .compile (surroundings.runner (compilerCall command scratch)) =
        .ok ()) :
      SuiteRun surroundings config artifacts scratch
        [compilerCall command scratch, testsCall config scratch]
        (endingOf .execution (surroundings.runner (testsCall config scratch)))

/-- A suite is run in one of these ways. -/
theorem Suite.runs_run {s : Suite} {config : DoctestConfig} {artifacts : List Cargo.Artifact}
    {surroundings : Surroundings} {place : List String} {before after : Session}
    {result : Except Failure Unit} (hlog : before.LogApart place)
    (h : Runs (s.run config artifacts) surroundings before result after) :
    ∃ calls, before.Passes place calls after ∧
      SuiteRun surroundings config artifacts s.directory calls result := by
  rw [Suite.run, Suite.compile, bind_assoc] at h
  rcases h.of_ofExcept_bind with ⟨e, hcommand, rfl, rfl⟩ | ⟨command, hcommand, h⟩
  · exact ⟨[], hlog.passes, .noCommand hcommand⟩
  rw [bind_assoc] at h
  have hlogged := hlog.passes_record surroundings.time ⟨.info, "doctest.runner",
    "Compiling " ++ toString s.modules.length ++ " doctests for " ++ s.crate⟩
  have hcompiler := hlogged.trans (hlogged.apart.passes_calling (compilerCall command s.directory))
  -- The tests are called only behind a compiler that succeeded.
  rcases h.of_log_bind.of_bind with ⟨failure, hcompile, rfl⟩ | ⟨u, between, hcompile, h⟩
  · obtain ⟨hfailure, rfl⟩ := runs_start_checked hcompile
    exact ⟨_, hcompiler, .notCompiled hcommand hfailure.symm⟩
  obtain ⟨hcompiled, rfl⟩ := runs_start_checked hcompile
  rw [Suite.execute] at h
  have hlogged' := hcompiler.trans (hcompiler.apart.passes_record surroundings.time
    ⟨.info, "doctest.runner", "Running doctests"⟩)
  have htests := hlogged'.trans (hlogged'.apart.passes_calling (testsCall config s.directory))
  obtain ⟨rfl, rfl⟩ := runs_start_checked h.of_log_bind
  exact ⟨_, htests, .compiled hcommand hcompiled.symm⟩

/-- What the run of a suite keeps to: the compiler is called if there is a command, the tests if the
compiler succeeded, and the suite passes if the tests do. Failures are reported in the words of the
program that failed. -/
structure SuiteDiscipline (surroundings : Surroundings) (config : DoctestConfig)
    (artifacts : List Cargo.Artifact) (scratch : Path) (command : List String)
    (calls : List Child.Call) (result : Except Failure Unit) : Prop where
  inOrder : InOrder surroundings [compilerCall command scratch, testsCall config scratch] calls
  compiler : [compilerCall command scratch] <+: calls ↔
    compileCommand config artifacts = .ok command
  tests : [compilerCall command scratch, testsCall config scratch] <+: calls ↔
    [compilerCall command scratch] <+: calls ∧
      Succeeds surroundings (compilerCall command scratch)
  passed : result = .ok () ↔
    [compilerCall command scratch, testsCall config scratch] <+: calls ∧
      Succeeds surroundings (testsCall config scratch)
  notCompiled : ∀ response, [compilerCall command scratch] <+: calls →
    surroundings.runner (compilerCall command scratch) = .ok response → response.ok = false →
    result = .error (.doctest (.compile response.stderr))
  notPassed : ∀ response, [compilerCall command scratch, testsCall config scratch] <+: calls →
    surroundings.runner (testsCall config scratch) = .ok response → response.ok = false →
    result = .error (.doctest (.execution response.stderr))

/-- However a suite is run, that keeps to everything. -/
theorem SuiteRun.exists_discipline {surroundings : Surroundings} {config : DoctestConfig}
    {artifacts : List Cargo.Artifact} {scratch : Path} {calls : List Child.Call}
    {result : Except Failure Unit}
    (h : SuiteRun surroundings config artifacts scratch calls result) :
    ∃ command, SuiteDiscipline surroundings config artifacts scratch command calls result := by
  cases h with
  | noCommand h =>
    have hnone : ∀ {call : Child.Call} {more}, ¬ call :: more <+: [] := fun hcall ↦ by
      cases List.prefix_nil.1 hcall
    exact ⟨[],
      { inOrder := inOrder_nil
        compiler := iff_of_false hnone (by rw [h]; exact nofun)
        tests := iff_of_false hnone fun hreached ↦ hnone hreached.1
        passed := iff_of_false nofun fun hreached ↦ hnone hreached.1
        notCompiled := fun _ hreached ↦ absurd hreached hnone
        notPassed := fun _ hreached ↦ absurd hreached hnone }⟩
  | @notCompiled command failure h hcompiler =>
    -- the tests are not called, since the calls end with that of the compiler
    have hshort : ¬ [compilerCall command scratch, testsCall config scratch] <+:
        [compilerCall command scratch] := fun hlong ↦ by
      simpa using hlong.length_le
    have hfails : ¬ Succeeds surroundings (compilerCall command scratch) := fun hsucceeds ↦ by
      cases hcompiler.symm.trans (endingOf_eq_ok_iff.2 hsucceeds)
    exact ⟨command,
      { inOrder := inOrder_singleton
        compiler := iff_of_true List.prefix_rfl h
        tests := iff_of_false hshort fun hreached ↦ hfails hreached.2
        passed := iff_of_false nofun fun hreached ↦ hshort hreached.1
        notCompiled := fun response _ hanswer hok ↦ by
          rw [← hcompiler, endingOf_of_failed hanswer hok]
        notPassed := fun _ hreached ↦ absurd hreached hshort }⟩
  | @compiled command h hcompiler =>
    have hcompiled := endingOf_eq_ok_iff.1 hcompiler
    have hfirst : [compilerCall command scratch] <+:
        [compilerCall command scratch, testsCall config scratch] := List.prefix_append _ _
    have hinOrder : InOrder surroundings
        ([compilerCall command scratch] ++ [testsCall config scratch])
        ([compilerCall command scratch] ++ [testsCall config scratch]) :=
      inOrder_singleton.append fun call hcall ↦ by
        rw [List.mem_singleton.1 hcall]
        exact hcompiled
    exact ⟨command,
      { inOrder := hinOrder
        compiler := iff_of_true hfirst h
        tests := iff_of_true List.prefix_rfl ⟨hfirst, hcompiled⟩
        passed := endingOf_eq_ok_iff.trans (and_iff_right List.prefix_rfl).symm
        notCompiled := fun response _ hanswer hok ↦ by
          cases hcompiler.symm.trans (endingOf_of_failed hanswer hok)
        notPassed := fun response _ hanswer hok ↦ endingOf_of_failed hanswer hok }⟩

end Doctest

/-! ### Running a suite in its directory -/

section InScratch

open Doctest

variable {surroundings : Surroundings} {place : List String} {before after : Session}

/-- A suite that is written and run where nothing is in the way is found there and leaves all its
files, and what it fails with is what the work ends with. -/
theorem runs_kept {s : Suite} {config : DoctestConfig} {artifacts : List Cargo.Artifact}
    {note : LogRecord} {result : Except Failure Unit}
    (habsolute : surroundings.directory.join s.directory = s.directory)
    (hnames : (s.files.map Prod.fst).Nodup) (hcomponents : ∀ f ∈ s.files, Path.IsComponent f.1)
    (hplace : before.tree.IsAt s.directory place)
    (hfree : ∀ name, before.tree.at? (place ++ [name]) = none) (hlog : before.LogApart place)
    (h : Runs (tryCatch (do s.write; s.run config artifacts) fun failure ↦ do
        log note
        throw failure) surroundings before result after) :
    ∃ calls, s.FoundBy s.directory before calls after ∧
      SuiteRun surroundings config artifacts s.directory calls result ∧
      s.StandsAt s.directory place after.tree ∧ after.LogApart place := by
  obtain ⟨tree, hwrite, hstands, hapart⟩ :=
    s.exists_returns_write_at hnames hcomponents (habsolute.symm ▸ hplace) hfree hlog
  rw [habsolute] at hstands
  rcases h.of_tryCatch with ⟨u, hwork, rfl⟩ | ⟨failure, between, hwork, hrecover⟩
  · -- in both cases the suite ran as it was written; a failure is noted in the log in addition
    have hran := hwrite.of_bind (f := fun _ ↦ s.run config artifacts) hwork
    obtain ⟨calls, hpasses, hrun⟩ := Suite.runs_run hapart hran
    exact ⟨calls, (hstands.foundBy hpasses).congr rfl rfl, hrun, hstands.keep hpasses.tree,
      hpasses.apart⟩
  · have hran := hwrite.of_bind (f := fun _ ↦ s.run config artifacts) hwork
    obtain ⟨calls, hpasses, hrun⟩ := Suite.runs_run hapart hran
    obtain ⟨rfl, rfl⟩ := runs_throw_iff.1 hrecover.of_log_bind
    have hnoted := hpasses.trans (hpasses.apart.passes_record surroundings.time note)
    rw [List.append_nil] at hnoted
    exact ⟨calls, (hstands.foundBy hnoted).congr rfl rfl, hrun, hstands.keep hnoted.tree,
      hnoted.apart⟩

/-- The programs of a documentation are run in the scratch directory, which holds the files of their
suite however that ends. -/
theorem TestRun.runs_inScratch {name : String} {documentation : Documentation} {crate : String}
    {config : DoctestConfig} {artifacts : List Cargo.Artifact} {result : Except Failure Path}
    (hfree : before.ScratchFree surroundings place name)
    (h : Runs (TestRun.inScratch (programsOf documentation hostLanguage none) crate config
      artifacts) surroundings before result after) :
    ∃ calls ending,
      (suiteOf documentation surroundings.scratch crate).FoundBy surroundings.scratch before calls
        after ∧
      SuiteRun surroundings config artifacts surroundings.scratch calls ending ∧
      result = ending.map (fun _ ↦ surroundings.scratch) ∧
      (suiteOf documentation surroundings.scratch crate).StandsAt surroundings.scratch
        (place ++ [name]) after.tree ∧
      after.LogApart (place ++ [name]) := by
  have hmake : before.tree.makeDirectory surroundings.scratch =
      .ok (before.tree.putAt (place ++ [name]) .directory) :=
    hfree.path ▸ makeDirectory_component hfree.parent hfree.isComponent hfree.free
  have hplace : (before.tree.putAt (place ++ [name]) .directory).IsAt surroundings.scratch
      (place ++ [name]) :=
    hfree.path ▸ isAt_putAt_directory hfree.parent hfree.isComponent hfree.free
  -- The directory is new, so nothing is in the way of the files.
  have hempty : ∀ file, (before.tree.putAt (place ++ [name]) .directory).at?
      (place ++ [name] ++ [file]) = none := fun file ↦
    at?_putAt_directory_below hfree.free (List.prefix_append _ _) (by simp)
  have hlog : Session.LogApart (place ++ [name])
      { before with tree := before.tree.putAt (place ++ [name]) .directory } :=
    fun level file hfile ↦ (hfree.log level file hfile).putAt List.prefix_rfl _
      (by rw [hfree.free]; exact nofun)
  have hlogged := hlog.passes_record surroundings.time ⟨.debug, "orchestrator",
    "Writing doctests to " ++ surroundings.scratch.toString⟩
  obtain ⟨hnames, hcomponents⟩ := nodup_files surroundings.scratch crate
    (map_name_programsOf documentation hostLanguage none)
  rw [TestRun.inScratch] at h
  have hbehind := ((returns_changeTree hmake).of_bind h.of_read_bind).of_log_bind
  obtain ⟨ending, hrun, rfl⟩ := hbehind.of_bind_pure
  have hsame : surroundings.directory.join surroundings.scratch = surroundings.scratch :=
    if_pos hfree.absolute
  obtain ⟨calls, hfound, hrun, hstands, hapart⟩ := runs_kept
    (s := suiteOf documentation surroundings.scratch crate)
    hsame hnames hcomponents (hplace.keep hlogged.tree.directories)
    (fun file ↦ (hlogged.tree.below _ (List.prefix_append _ _)).trans (hempty file))
    hlogged.apart hrun
  exact ⟨calls, ending, hfound.congr rfl rfl, hrun, rfl, hstands, hapart⟩

end InScratch

end CrateDoc
