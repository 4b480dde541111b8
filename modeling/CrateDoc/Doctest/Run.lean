import CrateDoc.Session

/-!
# Running test suites

A suite is written to its directory, compiled there to one program, and that program is run.
-/

namespace CrateDoc.Doctest

/-- Writes the files of a suite. -/
def Suite.write (s : Suite) : Action Unit := do
  let directory ← Action.absolute s.directory
  Action.changeTree (·.makeDirectory directory)
  s.files.forM fun (name, text) =>
    Action.changeTree (·.write (directory / name) (Text.Utf8.encode text.toList))

/-- Compiles a suite. -/
def Suite.compile (s : Suite) (config : DoctestConfig) (artifacts : List Cargo.Artifact) :
    Action Unit := do
  let command ← Action.ofExcept .doctest (compileCommand config artifacts)
  Action.log ⟨.info, "doctest.runner",
    "Compiling " ++ toString s.modules.length ++ " doctests for " ++ s.crate⟩
  let response ← Action.start { args := command, workingDirectory := some s.directory }
  if !response.ok then throw (.doctest (.compile response.stderr))

/-- Runs the program that a suite was compiled to. -/
def Suite.execute (s : Suite) (config : DoctestConfig) : Action Unit := do
  Action.log ⟨.info, "doctest.runner", "Running doctests"⟩
  let response ← Action.start
    { args := s.binary.toString :: config.testArgs, workingDirectory := some s.directory }
  if !response.ok then throw (.doctest (.execution response.stderr))

/-- Compiles a suite and runs its tests. -/
def Suite.run (s : Suite) (config : DoctestConfig) (artifacts : List Cargo.Artifact) :
    Action Unit := do
  s.compile config artifacts
  s.execute config

end CrateDoc.Doctest
