import CrateDoc.Log
import CrateDoc.Path

/-!
# Where log records go

Records go to the console and perhaps to a file, both from the same level on. The console shows
the level and the message; the file shows the time and the log as well.
-/

namespace CrateDoc

/-- Where records go. -/
structure Logging where
  level : LogLevel
  file : Option Path := none

namespace Logging

/-- The level that is asked for; a wish to see more outweighs a wish to see less. -/
def levelFor (verbose quiet : Bool) : LogLevel :=
  if verbose then .debug else if quiet then .warning else .info

/-- Whether a record is shown. -/
def admits (logging : Logging) (r : LogRecord) : Bool := logging.level.rank ≤ r.level.rank

/-- A record on the console. -/
def consoleLine (r : LogRecord) : String :=
  "[" ++ logRoot ++ "] " ++ r.level.name ++ " " ++ r.message ++ "\n"

/-- A record in the file. -/
def fileLine (time : String) (r : LogRecord) : String := time ++ " " ++ r.describe ++ "\n"

/-- What the console shows of a record. Without any setup warnings are shown bare. -/
def console (logging : Option Logging) (r : LogRecord) : String :=
  match logging with
  | some logging => if logging.admits r then consoleLine r else ""
  | none => if LogLevel.warning.rank ≤ r.level.rank then r.message ++ "\n" else ""

/-- What the file receives of a record. -/
def fileText (logging : Logging) (time : String) (r : LogRecord) : String :=
  if logging.admits r then fileLine time r else ""

end Logging

end CrateDoc
