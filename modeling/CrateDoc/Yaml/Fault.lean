import CrateDoc.Text.Digit
import CrateDoc.Text.Quoted

/-!
# Why a YAML document cannot be read

A document is *malformed* if its text breaks the rules of the format or a tag does not fit what
it is put on. The other faults are values that a tag names and that do not exist.
-/

namespace CrateDoc.Yaml

open CrateDoc.Text

/-- A part of a date or time that lies outside its range. -/
inductive TimeField
  | year
  | month
  | day
  | hour
  | minute
  | second
  /-- The distance from universal time, in days and seconds. -/
  | offset (days : Int) (seconds : Nat)
  deriving DecidableEq, Repr

/-- Why a document cannot be read. -/
inductive Fault
  /-- The text is no YAML, or a tag does not fit. -/
  | malformed
  /-- An integer with something else in it. -/
  | notInteger (base : Nat) (text : List Char)
  /-- An integer with too many decimal digits. -/
  | longInteger (digits : Nat)
  /-- A number with a point that has something else in it. -/
  | notFloat (text : List Char)
  /-- A number without any character. -/
  | emptyNumber
  /-- A truth value that is none. -/
  | notBoolean
  /-- A date that is none. -/
  | notTimestamp
  /-- A date that does not exist. -/
  | outOfRange (field : TimeField)
  /-- An escape that names no character. -/
  | noCharacter
  /-- An escape with a number too large for any character. -/
  | hugeCharacter
  deriving DecidableEq, Repr

/-- A distance in time as messages show it. -/
def describeOffset (days : Int) (seconds : Nat) : String :=
  let parts := (if days = 0 then [] else ["days=" ++ toString days]) ++
    (if seconds = 0 then [] else ["seconds=" ++ toString seconds])
  "datetime.timedelta(" ++ (if parts.isEmpty then "0" else String.intercalate ", " parts) ++ ")"

/-- The message of a field outside its range. -/
def TimeField.message : TimeField → String
  | .year => "year 0 is out of range"
  | .month => "month must be in 1..12"
  | .day => "day is out of range for month"
  | .hour => "hour must be in 0..23"
  | .minute => "minute must be in 0..59"
  | .second => "second must be in 0..59"
  | .offset days seconds =>
    "offset must be a timedelta strictly between -timedelta(hours=24) and timedelta(hours=24), " ++
      "not " ++ describeOffset days seconds ++ "."

/-- The message of a fault that has one. -/
def Fault.message? : Fault → Option String
  | .notInteger base text =>
    some ("invalid literal for int() with base " ++ toString base ++ ": " ++
      String.ofList (quoted text))
  | .longInteger digits => some (Text.tooManyDigits digits)
  | .notFloat text => some ("could not convert string to float: " ++ String.ofList (quoted text))
  | .outOfRange field => some field.message
  | .noCharacter => some "chr() arg not in range(0x110000)"
  | _ => none

end CrateDoc.Yaml
