import CrateDoc.CommandLine.Arguments
import CrateDoc.TestRun

/-!
# Running the program

A run takes arguments, files and surroundings to what is printed, the status, and the files
afterwards. A foreseen failure is reported with status 1; any other breaks the run off.
-/

namespace CrateDoc.CommandLine

/-- How a run ended. -/
inductive Ending
  | exited (code : Nat)
  /-- A failure that nobody foresaw. -/
  | brokenOff (failure : Failure)

/-- The result of a run. -/
structure Result where
  ending : Ending
  stdout : String
  stderr : String
  /-- The result of tests that passed. -/
  outcome : Option TestOutcome := none
  session : Session

/-- A path as it is shown: from the working directory on, if it is below that. -/
def shownPath (directory path : Path) : String :=
  ((path.relativeTo? directory).getD path).toString

/-- The report of a foreseen failure of a command. -/
def report? (command : String) : Failure → Option String
  | .doctest (.compile stderr) =>
    some (stderr ++ "\nrsdoc " ++ command ++ " failed: DocTestCompileError\n")
  | .doctest (.execution stderr) =>
    some (stderr ++ "\nrsdoc " ++ command ++ " failed: DocTestExecutionError\n")
  | failure => failure.report?.map fun message =>
    "rsdoc " ++ command ++ " failed: " ++ message ++ "\nRun with --verbose for more details.\n"

/-- A path that was given, unless it is empty. -/
def givenPath (path : Option String) : Option Path :=
  (path.filter (!·.isEmpty)).map Path.ofString

/-- Runs a command: what it prints, and the result of its tests. -/
def Arguments.execute (a : Arguments) : Action (String × Option TestOutcome) := do
  let manifest := Path.ofString a.manifestPath
  match a.command with
  | .build output workers =>
    let written ← CrateDoc.build manifest (givenPath output) workers a.verbose
    return ("Documentation written to " ++ shownPath (← read).directory written ++ "\n", none)
  | .test keepScratch fromJson =>
    let outcome ← CrateDoc.test manifest (givenPath fromJson) keepScratch a.verbose
    return (if outcome.tests = 0 then "No documentation tests found\n" else "", some outcome)

/-- The name of a command. -/
def Command.name : Command → String
  | .build _ _ => "build"
  | .test _ _ => "test"

/-- Runs the program with arguments that were read. -/
def Arguments.run (a : Arguments) (surroundings : Surroundings) (session : Session) : Result :=
  let logging : Logging := ⟨Logging.levelFor a.verbose a.quiet, givenPath a.logFile⟩
  match session.configure surroundings.directory logging with
  | .error e => { ending := .brokenOff (.file e), stdout := "", stderr := "", session := session }
  | .ok session =>
    let (result, session) := ((a.execute.run surroundings).run).run session
    match result with
    | .ok (stdout, outcome) =>
      { ending := .exited 0, stdout := stdout, stderr := session.console, outcome := outcome
        session := session }
    | .error failure => match report? a.command.name failure with
      | some text =>
        { ending := .exited 1, stdout := "", stderr := session.console ++ text
          session := session }
      | none =>
        { ending := .brokenOff failure, stdout := "", stderr := session.console
          session := session }

/-- Runs the program. -/
def run (arguments : List String) (surroundings : Surroundings) (session : Session) : Result :=
  match Arguments.ofList arguments with
  | .error stop =>
    { ending := .exited stop.exitCode, stdout := stop.stdout, stderr := stop.stderr
      session := session }
  | .ok a => a.run surroundings session

end CrateDoc.CommandLine
