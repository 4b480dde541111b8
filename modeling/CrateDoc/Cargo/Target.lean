import CrateDoc.Cargo.Error
import CrateDoc.Log

/-!
# Build targets

The target to document is chosen from the metadata of a project: the only target of a supported
kind, else the first library, else the first binary. Targets of other kinds are passed over, but
every target has to be well-formed.
-/

namespace CrateDoc.Cargo

open Json (Value)

/-- The kinds of targets that can be documented. -/
inductive TargetKind
  | library
  | binary
deriving DecidableEq

namespace TargetKind

/-- The name of a kind in metadata. -/
def name : TargetKind → String
  | library => "lib"
  | binary => "bin"

/-- The kind of a name. -/
def ofName? (name : String) : Option TargetKind :=
  [library, binary].find? (·.name == name)

end TargetKind

/-- A target that can be documented. -/
structure Target where
  name : String
  kind : TargetKind
deriving DecidableEq

/-- A name as the compiler knows it: with underscores for dashes. -/
def crateNameOf (name : String) : String :=
  String.ofList (Text.exchange '-' '_' name.toList)

namespace Target

/-- The name of the crate that a target builds. -/
def crateName (t : Target) : String := crateNameOf t.name

/-- Reads one target; none if it is of a kind that is not documented. -/
def ofValue (v : Value) : Except Error (Option Target) :=
  match (v.field? "name").bind Value.text?, (v.field? "kind").bind Value.list? with
  | some name, some [kind] =>
    .ok ((kind.text?.bind TargetKind.ofName?).map fun kind => ⟨name, kind⟩)
  | some name, some _ => .error (.kinds name)
  | _, _ => .error .malformedTarget

/-- The targets of supported kinds of the first package. -/
def ofMetadata (metadata : Value) : Except Error (List Target) := do
  if !metadata.isObject then throw .metadataNoObject
  let package ← match metadata.field? "packages" with
    | some (.list (package :: _)) => if package.isObject then pure package else throw .noPackages
    | _ => throw .noPackages
  match package.field? "targets" with
  | some (.list targets) => return (← targets.mapM ofValue).filterMap id
  | _ => throw .targetsNoList

/-- The target to document. -/
def choose? : List Target → Option Target
  | [] => none
  | first :: rest => some (((first :: rest).find? (·.kind = .library)).getD first)

/-- The warning that there was a choice. -/
def choiceWarning (chosen : Target) : LogRecord :=
  let description := match chosen.kind with
    | .library => "library"
    | .binary => "first binary"
  ⟨.warning, "cargo", "Found more than one target to document. Documenting the " ++ description ++
    ": " ++ chosen.name⟩

/-- Chooses the target to document, with a warning if there are several. -/
def choose (metadata : Value) : Except Error (Target × List LogRecord) := do
  let targets ← ofMetadata metadata
  match choose? targets with
  | none => throw .noTargets
  | some chosen => return (chosen, if targets.length = 1 then [] else [choiceWarning chosen])

end Target

end CrateDoc.Cargo
