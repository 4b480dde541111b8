import CrateDoc.Json.Reader

/-!
# Failures of cargo

Cargo fails as a process, or it succeeds and says something that cannot be used.
-/

namespace CrateDoc

/-- Why nothing could be learned from cargo. -/
inductive Cargo.Error
  /-- Cargo ended with another status than zero. -/
  | failed (returnCode : Int) (stderr : String)
  /-- Cargo could not build the project. -/
  | notBuilt (returnCode : Int) (stderr : String)
  /-- The metadata are no JSON, or no object where there is no fault. -/
  | badMetadata (returnCode : Int) (stderr : String) (fault : Option Json.ReadError)
  /-- A message of a build is no JSON. -/
  | badMessage (fault : Json.ReadError)
  /-- A whole number is too long to be read. -/
  | longNumber (fault : Json.ReadError)
  /-- The file names of a message are a number or `true`. -/
  | filenames
  /-- Metadata that are no object. -/
  | metadataNoObject
  | noPackages
  | targetsNoList
  | malformedTarget
  /-- A target has not exactly one kind. -/
  | kinds (target : String)
  | noTargets
deriving DecidableEq

namespace Cargo.Error

/-- The error in words. -/
def message : Error → String
  | failed returnCode stderr =>
    "Cargo failed with status " ++ toString returnCode ++ ". stderr:\n" ++ stderr
  | notBuilt returnCode _ => "cargo did not exit successfully: " ++ toString returnCode
  | badMetadata _ _ none => "Unexpected JSON from cargo metadata"
  | badMetadata _ _ (some fault) => "Unexpected JSON from cargo metadata: " ++ fault.message
  | badMessage fault => "Unexpected JSON response from cargo build: " ++ fault.message
  | longNumber fault => fault.message
  | filenames => "filenames is not a list"
  | metadataNoObject => "metadata is no object"
  | noPackages => "cargo metadata did not list any packages"
  | targetsNoList => "\x60targets\x60 is not an array"
  | malformedTarget => "malformed target in cargo metadata"
  | kinds target => "expected one kind for target '" ++ target ++ "'"
  | noTargets => "no targets with supported kinds (\x60bin\x60, \x60lib\x60) found"

/-- The status of the process that is to blame. -/
def returnCode? : Error → Option Int
  | failed returnCode _ | notBuilt returnCode _ | badMetadata returnCode _ _ => some returnCode
  | _ => none

/-- What the process that is to blame wrote to standard error. -/
def stderr : Error → String
  | failed _ stderr | notBuilt _ stderr | badMetadata _ stderr _ => stderr
  | _ => ""

/-- Whether the error is foreseen; the others break a run off without a report. -/
def foreseen : Error → Bool
  | longNumber _ | filenames | metadataNoObject => false
  | _ => true

end Cargo.Error

end CrateDoc
