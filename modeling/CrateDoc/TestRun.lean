import CrateDoc.Build
import CrateDoc.Doctest.Run
import CrateDoc.JsonApi.Reader

/-!
# Running documentation tests

The tests of a documentation, built anew or read from a file, are made into a suite in a scratch
directory and run. The directory stays after a failure, and after a success if that is asked for.
-/

namespace CrateDoc

/-- The result of tests that passed. -/
structure TestOutcome where
  crate : String
  tests : Nat
  /-- How many of the tests were no lists of declarations. -/
  verbatim : Nat
  /-- The scratch directory, if it was kept. -/
  scratch : Option Path
deriving DecidableEq

namespace TestRun

open Doctest

/-- The test programs of a documentation. -/
def programs (documentation : Documentation) : Action (List Program) := do
  let programs ← (Snippet.ofDocumentation documentation).mapM fun snippet => do
    let (program, records) := Program.ofSnippet snippet
    Action.logAll records
    return program
  Action.log ⟨.info, "orchestrator",
    "Synthesized " ++ toString programs.length ++ " documentation tests"⟩
  return programs

/-- Writes and runs a suite in the scratch directory, which stays if that fails. -/
def inScratch (programs : List Program) (crate : String) (config : DoctestConfig)
    (artifacts : List Cargo.Artifact) : Action Path := do
  let scratch := (← read).scratch
  Action.changeTree (·.makeDirectory scratch)
  Action.log ⟨.debug, "orchestrator", "Writing doctests to " ++ scratch.toString⟩
  try
    let suite := Suite.ofPrograms programs scratch crate
    suite.write
    suite.run config artifacts
  catch failure =>
    Action.log ⟨.warning, "orchestrator",
      "Doctest sources kept for inspection in " ++ scratch.toString⟩
    throw failure
  return scratch

/-- Runs the tests of a documentation. -/
def run (documentation : Documentation) (crate : String) (manifest : Path) (config : Config)
    (keepScratch : Bool) : Action TestOutcome := do
  let programs ← programs documentation
  let verbatim := programs.countP (!·.structured)
  if programs.isEmpty then
    Action.log ⟨.info, "orchestrator", "No documentation tests found for " ++ crate⟩
    return ⟨crate, 0, 0, none⟩
  let artifacts ← Cargo.artifacts config.cargo manifest
  let scratch ← inScratch programs crate config.doctest artifacts
  if keepScratch then
    Action.log ⟨.info, "orchestrator", "Doctest sources kept in " ++ scratch.toString⟩
    return ⟨crate, programs.length, verbatim, some scratch⟩
  modify fun s => { s with tree := s.tree.remove scratch }
  return ⟨crate, programs.length, verbatim, none⟩

/-- Reads a documentation from a file. -/
def readDocumentation (file : Path) : Action Documentation := do
  let place ← Action.absolute file
  let bytes ← Action.withTree .file (·.read place)
  let text ← Action.ofExcept .encoding (Text.Utf8.decode bytes)
  Action.ofExcept .documentation (Documentation.ofText (Text.unifyNewlines text))

end TestRun

/-- Runs the documentation tests of a project, with the documentation of a file if one is named.
Without a wish about the scratch directory the settings decide. -/
def test (manifest : Path) (fromFile : Option Path) (keepScratch : Option Bool) (verbose : Bool) :
    Action TestOutcome := do
  let (manifest, documented) ← match fromFile with
    | none => do
      let documented ← document manifest none verbose
      pure (documented.config.root / manifestName, documented)
    | some file => do
      let (manifest, config, target) ← openProject manifest
      let documentation ← TestRun.readDocumentation file
      pure (manifest, ⟨config, target, documentation⟩)
  let config := documented.config
  TestRun.run documented.documentation documented.target.crateName manifest config
    (keepScratch.getD config.doctest.keepScratch)

end CrateDoc
