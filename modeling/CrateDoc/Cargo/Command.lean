import CrateDoc.Session

/-!
# Running cargo

Cargo is run for the metadata of a project, for the analysis of its definitions and for the
artifacts of its build.
-/

namespace CrateDoc.Cargo

/-- The words that lines about the progress of cargo begin with. -/
def progressWords : List String :=
  ["Updating", "Compiling", "Finished", "Running", "Fresh", "Downloading"]

/-- The text of a line about progress, without the white space around it. -/
def progressLine? (line : String) : Option String :=
  let text := Text.strip line.toList
  if progressWords.any (·.toList.isPrefixOf text) then some (String.ofList text) else none

/-- The setting that makes the compiler write its analysis. -/
def analysisFlags : String × String := ("RUSTFLAGS", "-Z save-analysis")

/-- A path to a manifest has to bear its name and lead to a file. -/
def checkManifest (path : Path) : Action Path := do
  if path.name ≠ manifestName then throw (.manifest .wrongName)
  let place ← Action.absolute path
  if !(← get).tree.isFile place then throw (.manifest (.missing path))
  return path

/-- A response that is no failure. -/
def requireSuccess (response : Child.Response) : Action Unit := do
  if !response.ok then throw (.cargo (.failed response.returnCode response.stderr))

/-- The metadata of a project. -/
def metadata (cargo : String) (manifest : Path) : Action Json.Value := do
  let response ← Action.start { args :=
    [cargo, "metadata", "--manifest-path", manifest.toString, "--no-deps", "--format-version",
      "1"] }
  requireSuccess response
  match Json.Value.read .tolerant response.stdout.toList with
  | .ok value =>
    if value.isObject then return value
    else throw (.cargo (.badMetadata response.returnCode response.stderr none))
  | .error fault => match fault.complaint with
    | .tooManyDigits _ => throw (.cargo (.longNumber fault))
    | _ => throw (.cargo (.badMetadata response.returnCode response.stderr (some fault)))

/-- Logs a line about progress. -/
def logProgress (line : String) : Action Unit := Action.log ⟨.info, "cargo", line⟩

/-- Lets the compiler write its analysis of a project. -/
def analyse (cargo : String) (manifest : Path) (verbose : Bool)
    (report : String → Action Unit := logProgress) : Action Unit := do
  let manifest ← checkManifest manifest
  let response ← Action.start
    { args := [cargo, "check", "--manifest-path", manifest.toString] ++
        if verbose then ["--verbose"] else []
      environment := [analysisFlags]
      discardStdout := true
      lineSink := true }
  (response.lines.filterMap progressLine?).forM report
  requireSuccess response

/-- The artifacts of the build of a project. -/
def artifacts (cargo : String) (manifest : Path) : Action (List Artifact) := do
  let response ← Action.start { args :=
    [cargo, "build", "--manifest-path", manifest.toString, "--message-format", "json"] }
  if !response.ok then throw (.cargo (.notBuilt response.returnCode response.stderr))
  let artifacts ← Action.ofExcept .cargo (Artifact.ofOutput response.stdout)
  Action.log ⟨.debug, "cargo",
    "Discovered " ++ toString artifacts.length ++ " compiled artifacts"⟩
  return artifacts

end CrateDoc.Cargo
