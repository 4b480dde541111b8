import CrateDoc.Definition
import CrateDoc.Json.Reader

/-!
# Sources of definitions

Where definitions come from: a source finds the root of a crate, gives the definition of an id
and lists the children of one. `AnalysisSource` is the interface, over any monad in which a
source may keep a state; a failed look-up is a value of `AnalysisError`.
-/

namespace CrateDoc

/-- Why a source gives no answer. -/
inductive AnalysisError
  /-- There is no root of that name. -/
  | crateNotFound (name : String)
  /-- There is no definition of that id. -/
  | unknownId (id : DefId)
  /-- The definition of that id is of a kind that is not known. -/
  | unsupportedKind (id : DefId) (kind : Json.Value)
  /-- The definition of that id has no qualified name. -/
  | noQualifiedName (id : DefId)
  /-- A snapshot does not say which crate it is of. -/
  | namelessSnapshot
  /-- A snapshot is no object. -/
  | malformedSnapshot
  /-- A snapshot file cannot be read, for a reason. -/
  | unreadable (path reason : String)
  /-- A snapshot file holds a number of too many digits. -/
  | longNumber (complaint : Json.Complaint)
  /-- None of the directories searched exists. -/
  | noSnapshots (crateRoot searched : String)

/-- What a message says of the thing that was looked up. -/
def lookupMessage (subject reason : String) : String :=
  "Analysis lookup failed for " ++ subject ++ ": " ++ reason

/-- The error in words. -/
def AnalysisError.message : AnalysisError → String
  | .crateNotFound name => "Crate not found: \"" ++ name ++ "\""
  | .unknownId id => lookupMessage id.describe "unknown definition id"
  | .unsupportedKind id kind =>
    lookupMessage id.describe ("unsupported definition kind " ++ kind.describe)
  | .noQualifiedName id => lookupMessage id.describe "definition has no qualified name"
  | .namelessSnapshot => lookupMessage (Text.quote "prelude") "snapshot does not name its crate"
  | .malformedSnapshot => "snapshot is no object"
  | .unreadable path reason =>
    lookupMessage (Text.quote path) ("unreadable snapshot: " ++ reason)
  | .longNumber complaint => complaint.message
  | .noSnapshots crateRoot searched =>
    lookupMessage (Text.quote crateRoot) ("no save-analysis data in " ++ searched)

/-- A source of definitions. -/
structure AnalysisSource (m : Type → Type) where
  /-- The id of the root of a crate. -/
  resolveRoot : String → m (Except AnalysisError DefId)
  /-- The definition of an id. -/
  definition : DefId → m (Except AnalysisError Definition)
  /-- The ids of the children of a definition, in order of declaration. -/
  childrenOf : DefId → m (Except AnalysisError (List DefId))

end CrateDoc
