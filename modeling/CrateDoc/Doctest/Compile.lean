import CrateDoc.Cargo.Artifact
import CrateDoc.Config
import CrateDoc.Doctest.Suite

/-!
# Compiling test suites

The compiler gets the gathering file of a suite, the directory of the first artifact as the place
to search libraries in, and every artifact by name and file.
-/

namespace CrateDoc.Doctest

/-- Why the tests of a suite did not pass. -/
inductive Error
  /-- There is no artifact to link with. -/
  | noArtifacts
  /-- The first artifact is in no directory. -/
  | noParent
  /-- The compiler failed; what it wrote to standard error. -/
  | compile (stderr : String)
  /-- The tests failed; what they wrote to standard error. -/
  | execution (stderr : String)
deriving DecidableEq

/-- The error in words. -/
def Error.message : Error → String
  | noArtifacts => "No externs to get search path"
  | noParent => "No parent for extern path"
  | compile stderr => stderr
  | execution stderr => stderr

/-- The directory of the first artifact. -/
def searchPath : List Cargo.Artifact → Except Error Path
  | [] => .error .noArtifacts
  | artifact :: _ =>
    if artifact.location.parent = artifact.location then .error .noParent
    else .ok artifact.location.parent

/-- The command that compiles a suite. -/
def compileCommand (config : DoctestConfig) (artifacts : List Cargo.Artifact) :
    Except Error (List String) := do
  let path ← searchPath artifacts
  let edition := match config.edition with
    | some edition => if edition.isEmpty then [] else ["--edition", edition]
    | none => []
  return [config.compiler, aggregatorFile, "--test", "-o", binaryName, "--cap-lints", "allow",
      "-L", path.toString] ++ edition ++
    artifacts.flatMap fun artifact =>
      ["--extern", artifact.name ++ "=" ++ artifact.location.toString]

end CrateDoc.Doctest
