import CrateDoc.Cargo.Target
import CrateDoc.Path
import CrateDoc.Text.Lines

/-!
# Compiled artifacts

Cargo reports a build in messages, each a JSON object on a line of its own. An artifact is a
library that was compiled for the build: the crate it holds and the file that a program is linked
with. Build scripts are compiled too, but are no artifacts.
-/

namespace CrateDoc.Cargo

open Json (Value)

/-- A compiled library. -/
structure Artifact where
  name : String
  location : Path
deriving DecidableEq

/-- The texts among the file names of a message: the items of a list, the keys of an object or the
characters of a text. Whatever is empty holds none; any other value cannot be gone through. -/
def fileNames : Value → Except Error (List String)
  | .list items => .ok (items.filterMap Value.text?)
  | .text s => .ok (s.toList.map fun c => String.ofList [c])
  | .object fields => .ok (fields.map (·.1))
  | .null | .bool false | .int 0 => .ok []
  | .bool true | .int _ => .error .filenames
  | .float x => if x.isZero then .ok [] else .error .filenames

/-- The end of the name of a file that programs are linked with. -/
def linkedSuffix : String := ".rlib"

namespace Artifact

/-- Whether a target is the build script of a package. -/
def isBuildScript (target : Value) : Bool :=
  match target.field? "kind" with
  | some (.list kinds) => (kinds.filterMap Value.text?).contains "custom-build"
  | _ => false

/-- The file to link among the files of an artifact: the first that programs are linked with, or
else the first. -/
def fileToLink? (names : List String) : Option String :=
  (names.find? fun name => linkedSuffix.toList.isSuffixOf name.toList).or names.head?

/-- The artifact that a message reports, if it reports one. -/
def ofMessage (message : Value) : Except Error (Option Artifact) :=
  if (message.field? "reason").bind Value.text? ≠ some "compiler-artifact" then .ok none
  else match message.field? "target" with
    | some (.object target) =>
      if isBuildScript (.object target) then .ok none
      else do
        let names ← fileNames ((message.field? "filenames").getD .null)
        return do
          let name ← (Entries.get? "name" target).bind Value.text?
          let file ← fileToLink? names
          some ⟨crateNameOf name, Path.ofString file⟩
    | _ => .ok none

/-- The artifact that a line reports; a blank line reports none. -/
def ofLine (line : List Char) : Except Error (Option Artifact) :=
  let line := Text.strip line
  if line.isEmpty then .ok none
  else match Value.read .tolerant line with
    | .ok message => ofMessage message
    | .error fault => match fault.complaint with
      | .tooManyDigits _ => .error (.longNumber fault)
      | _ => .error (.badMessage fault)

/-- The artifacts that lines report, up to the first line that cannot be used, and why that
cannot be used. -/
def ofLines : List (List Char) → List Artifact × Option Error
  | [] => ([], none)
  | line :: rest => match ofLine line with
    | .error e => ([], some e)
    | .ok artifact =>
      let (artifacts, failure) := ofLines rest
      (artifact.toList ++ artifacts, failure)

/-- All artifacts that the output of a build reports. -/
def ofOutput (output : String) : Except Error (List Artifact) :=
  match ofLines (Text.lines output.toList) with
  | (artifacts, none) => .ok artifacts
  | (_, some e) => .error e

end Artifact

end CrateDoc.Cargo
