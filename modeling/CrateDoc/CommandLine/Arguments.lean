import CrateDoc.CommandLine.Reader

/-!
# The arguments of the program

The program has two commands, `build` and `test`. How much is logged may be said before the
command and behind it; what stands behind it adds to what stands before.
-/

namespace CrateDoc.CommandLine

/-- Asks for help. -/
def helpParameter : Parameter := ⟨["-h", "--help"], .help, "show this help message and exit"⟩

/-- More is logged. -/
def verboseParameter : Parameter :=
  ⟨["-v", "--verbose"], .nothing, "Increase log verbosity for troubleshooting."⟩

/-- Less is logged. -/
def quietParameter : Parameter :=
  ⟨["-q", "--quiet"], .nothing, "Only print warnings and errors."⟩

/-- The manifest of the project. -/
def manifestParameter : Parameter :=
  ⟨["--manifest-path"], .text "MANIFEST_PATH",
    "The path to the Cargo manifest of the crate being documented."⟩

/-- The log file. -/
def logFileParameter : Parameter :=
  ⟨["--log-file"], .text "LOG_FILE", "Also write log records to this file."⟩

/-- Where a documentation goes. -/
def outputParameter : Parameter :=
  ⟨["-o", "--output"], .text "OUTPUT", "Directory for data.json (defaults to target/doc)."⟩

/-- The number of workers. -/
def workersParameter : Parameter :=
  ⟨["--workers"], .number "WORKERS", "Number of threads used to walk the definition tree."⟩

/-- Keeps the scratch directory. -/
def keepScratchParameter : Parameter :=
  ⟨["--keep-scratch"], .nothing, "Keep the generated test sources after a successful run."⟩

/-- Where a documentation is read from. -/
def fromJsonParameter : Parameter :=
  ⟨["--from-json"], .text "FROM_JSON",
    "Read documentation from an existing data.json instead of re-analysing the crate."⟩

/-- What the help of the program says about its commands. -/
def commandList : List (String × String) :=
  [("build", "Generate documentation JSON."), ("test", "Run documentation tests for the crate.")]

/-- The two wishes about logging exclude each other. -/
def verbosityKeys : List String := [verboseParameter.key, quietParameter.key]

/-- The grammar before the command. -/
def programGrammar : Grammar where
  program := "rsdoc"
  description := "Generate JSON documentation and run documentation tests for Rust crates."
  parameters :=
    [helpParameter, verboseParameter, quietParameter, manifestParameter, logFileParameter]
  exclusive := verbosityKeys
  commands := commandList

/-- The grammar behind `build`. -/
def buildGrammar : Grammar where
  program := "rsdoc build"
  parameters := [helpParameter, verboseParameter, quietParameter, outputParameter,
    workersParameter]
  exclusive := verbosityKeys

/-- The grammar behind `test`. -/
def testGrammar : Grammar where
  program := "rsdoc test"
  parameters := [helpParameter, verboseParameter, quietParameter, keepScratchParameter,
    fromJsonParameter]
  exclusive := verbosityKeys

/-- A command with what was said about it. -/
inductive Command
  | build (output : Option String) (workers : Option Int)
  | test (keepScratch : Option Bool) (fromJson : Option String)
deriving DecidableEq

/-- The arguments of the program. -/
structure Arguments where
  verbose : Bool := false
  quiet : Bool := false
  manifestPath : String := "./Cargo.toml"
  logFile : Option String := none
  command : Command
deriving DecidableEq

namespace Reading

/-- Whether a parameter was there. -/
def has (r : Reading) (p : Parameter) : Bool := Entries.has p.key r.settings

/-- The text given for a parameter. -/
def text? (r : Reading) (p : Parameter) : Option String :=
  match Entries.get? p.key r.settings with
  | some (.text s) => some s
  | _ => none

/-- The number given for a parameter. -/
def number? (r : Reading) (p : Parameter) : Option Int :=
  match Entries.get? p.key r.settings with
  | some (.number n) => some n
  | _ => none

end Reading

/-- The command that was read behind its name. -/
def Command.ofReading (name : String) (r : Reading) : Command :=
  if name = "build" then .build (r.text? outputParameter) (r.number? workersParameter)
  else .test (if r.has keepScratchParameter then some true else none) (r.text? fromJsonParameter)

/-- Reads the arguments of the program. -/
def Arguments.ofList (arguments : List String) : Except Stop Arguments := do
  let before ← programGrammar.read arguments
  let refuse (why : Refusal) : Except Stop (Reading × Command) :=
    .error (.refused programGrammar why)
  let (behind, command) ← match before.command with
    | none => refuse .noCommand
    | some (name, rest) =>
      if !(commandList.map (·.1)).contains name then
        refuse (.unknownCommand name (commandList.map (·.1)))
      else do
        let grammar := if name = "build" then buildGrammar else testGrammar
        let behind ← grammar.read rest
        pure (behind, Command.ofReading name behind)
  let leftOver := before.leftOver ++ behind.leftOver
  if !leftOver.isEmpty then throw (.refused programGrammar (.leftOver leftOver))
  return {
    verbose := before.has verboseParameter || behind.has verboseParameter
    quiet := before.has quietParameter || behind.has quietParameter
    manifestPath := (before.text? manifestParameter).getD "./Cargo.toml"
    logFile := before.text? logFileParameter
    command := command }

namespace Stop

/-- What is written to standard output. -/
def stdout : Stop → String
  | help g => g.help
  | refused _ _ => ""

/-- What is written to standard error. -/
def stderr : Stop → String
  | help _ => ""
  | refused g why => g.usage ++ g.program ++ ": error: " ++ why.message ++ "\n"

/-- The status with which the program ends. -/
def exitCode : Stop → Nat
  | help _ => 0
  | refused _ _ => 2

end Stop

end CrateDoc.CommandLine
