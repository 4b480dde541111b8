/-!
# Log records

What the library reports about its work: a level, the name of the part that reports, and a
message.
-/

namespace CrateDoc

/-- How important a record is. -/
inductive LogLevel
  | debug
  | info
  | warning
  | error
  | critical
deriving DecidableEq

namespace LogLevel

/-- Every level, from the least important one on. -/
def all : List LogLevel := [debug, info, warning, error, critical]

/-- The number by which levels are compared. -/
def rank : LogLevel → Nat
  | debug => 10
  | info => 20
  | warning => 30
  | error => 40
  | critical => 50

/-- The name of a level. -/
def name : LogLevel → String
  | debug => "DEBUG"
  | info => "INFO"
  | warning => "WARNING"
  | error => "ERROR"
  | critical => "CRITICAL"

end LogLevel

/-- The name above all parts of the library. -/
def logRoot : String := "rsdoc"

/-- The full name of the log of a part. -/
def logNameOf (part : String) : String := if part.isEmpty then logRoot else logRoot ++ "." ++ part

/-- One report. -/
structure LogRecord where
  level : LogLevel
  /-- The part that reports; empty for the library as a whole. -/
  part : String
  message : String
deriving DecidableEq

/-- A record with its level and the full name of its log. -/
def LogRecord.describe (r : LogRecord) : String :=
  r.level.name ++ " " ++ logNameOf r.part ++ ": " ++ r.message

end CrateDoc
