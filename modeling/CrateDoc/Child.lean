import CrateDoc.Path
import CrateDoc.Text.LineReader

/-!
# Child processes

A process is asked for by a `Call` and answers with a `Response`. There are two strategies. A
captured run keeps both outputs and decodes them when the child has ended (`decodeOutput`):
ill-formed UTF-8 is replaced and every line end becomes a newline. A streamed run reads standard
error while its bytes come in, in pieces of which nothing is known but that they are in order
(`Arrival`), hands it on line by line and keeps it for reports.
-/

namespace CrateDoc.Child

/-- What to run, and how its outputs are used. -/
structure Call where
  args : List String
  workingDirectory : Option Path := none
  /-- Settings of the environment beyond those of the caller. -/
  environment : List (String × String) := []
  discardStdout : Bool := false
  /-- Whether somebody listens to the lines of standard error. -/
  lineSink : Bool := false

/-- How a process ended and what it wrote. -/
structure Response where
  returnCode : Int := 0
  stdout : String := ""
  stderr : String := ""
  /-- Standard error in the lines in which a listener received it. -/
  lines : List String := []
deriving DecidableEq

/-- Whether a process succeeded. -/
def Response.ok (r : Response) : Bool := r.returnCode == 0

/-- Why a process could not be run. -/
inductive Error
  /-- The program, or the directory that it should run in, is not there. -/
  | notFound (program : String)
  | notExecutable
  /-- The place to run in is no directory. -/
  | notDirectory
deriving DecidableEq

/-- The error in words. -/
def Error.message : Error → String
  | .notFound program => "Unable to locate '" ++ program ++ "'. Is it installed and on PATH?"
  | .notExecutable => "Permission denied"
  | .notDirectory => "Not a directory"

/-- Answers calls. -/
abbrev Runner := Call → Except Error Response

/-- The text of the bytes that a child wrote. -/
def decodeOutput (bytes : List UInt8) : List Char :=
  Text.unifyNewlines (Text.Utf8.decodeLossy bytes)

/-- How a program ended and the bytes it wrote. -/
structure Exit where
  returnCode : Int := 0
  stdout : List UInt8 := []
  stderr : List UInt8 := []
deriving DecidableEq

/-- Where programs run. -/
abbrev Host := Call → Except Error Exit

/-- A run that keeps both outputs. -/
def captured (host : Host) (call : Call) : Except Error Response := do
  let exit ← host call
  return { returnCode := exit.returnCode
           stdout := String.ofList (decodeOutput exit.stdout)
           stderr := String.ofList (decodeOutput exit.stderr) }

/-- How the bytes of a child come in: in which pieces. -/
structure Arrival where
  pieces : List UInt8 → List (List UInt8)
  flatten_pieces : ∀ bytes, (pieces bytes).flatten = bytes

/-- Pieces of a size; the last may be shorter. -/
def blocks (size : Nat) : List UInt8 → List (List UInt8)
  | [] => []
  | b :: rest => (b :: rest.take (size - 1)) :: blocks size (rest.drop (size - 1))
termination_by bytes => bytes.length
decreasing_by simp only [List.length_drop, List.length_cons]; omega

theorem flatten_blocks (size : Nat) (bytes : List UInt8) : (blocks size bytes).flatten = bytes := by
  fun_induction blocks size bytes with
  | case1 => rfl
  | case2 b rest ih => simp [ih]

/-- As much at a time as a reader asks for. -/
def Arrival.byBlocks (size : Nat) : Arrival := ⟨blocks size, flatten_blocks size⟩

/-- How many bytes a reader asks for. -/
def pieceSize : Nat := 8192

/-- The result of a streamed run. -/
structure Streamed where
  response : Response
  /-- What went past to standard output. -/
  passed : List UInt8
  /-- What was repeated on standard error, since nobody listened. -/
  echoed : String

/-- A run that keeps standard error only and hands it on line by line as it comes in. -/
def streamedBy (arrival : Arrival) (host : Host) (call : Call) : Except Error Streamed := do
  let exit ← host call
  let lines := Text.LineReader.run {} (arrival.pieces exit.stderr)
  let text := String.ofList lines.flatten
  return { response := { returnCode := exit.returnCode, stderr := text,
                         lines := if call.lineSink then lines.map String.ofList else [] }
           passed := if call.discardStdout then [] else exit.stdout
           echoed := if call.lineSink then "" else text }

/-- A streamed run in which standard error never makes the reader wait. -/
def streamed (host : Host) (call : Call) : Except Error Streamed :=
  streamedBy (.byBlocks pieceSize) host call

end CrateDoc.Child
