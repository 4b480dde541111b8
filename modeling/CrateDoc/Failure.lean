import CrateDoc.Doctest.Compile
import CrateDoc.Graph
import CrateDoc.JsonApi.Checked
import CrateDoc.Child

/-!
# Failures of a run

Whatever may end a run early. `Failure.report?` gives the words in which a foreseen failure is
reported; any other failure breaks the run off where it happens.
-/

namespace CrateDoc

/-- The name of the file that describes a project. -/
def manifestName : String := "Cargo.toml"

/-- Why a path is not taken for the manifest of a project. -/
inductive ManifestError
  | wrongName
  | missing (path : Path)
deriving DecidableEq

/-- The error in words. -/
def ManifestError.message : ManifestError → String
  | wrongName => "The --manifest-path must be a path to a " ++ manifestName ++ " file"
  | missing path => "No " ++ manifestName ++ " found at " ++ path.toString

/-- Why a run ended early. -/
inductive Failure
  | manifest (error : ManifestError)
  | child (error : Child.Error)
  | cargo (error : Cargo.Error)
  | config (error : ConfigError)
  | graph (error : GraphError)
  | doctest (error : Doctest.Error)
  | file (error : FileError)
  /-- A file is not well-formed text. -/
  | encoding (error : Text.Utf8.DecodeError)
  /-- A file is no documentation. -/
  | documentation (problems : List JsonApi.Problem)
  /-- A path cannot be followed. -/
  | path (error : PathError)

/-- The error in words, if it is a foreseen one. -/
def ConfigError.report? : ConfigError → Option String
  | .yaml .malformed => some (ConfigError.message (.yaml .malformed))
  | .notMapping => some (ConfigError.message .notMapping)
  | .noWorkers => some (ConfigError.message .noWorkers)
  | _ => none

/-- The error in words, if it is a foreseen one. -/
def GraphError.report? : GraphError → Option String
  | .analysis .malformedSnapshot | .analysis (.longNumber _) => none
  | .singularRelation _ | .noWorkers | .summary _ => none
  | error => some error.message

/-- The failure in words, if it is a foreseen one. -/
def Failure.report? : Failure → Option String
  | manifest error => some error.message
  | child (.notFound program) => some (Child.Error.message (.notFound program))
  | child .notExecutable | child .notDirectory => none
  | cargo error => if error.foreseen then some error.message else none
  | config error => error.report?
  | graph error => error.report?
  | doctest error => some error.message
  | file _ | encoding _ | documentation _ | path _ => none

end CrateDoc
