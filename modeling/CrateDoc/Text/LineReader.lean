import CrateDoc.Text.Lines
import CrateDoc.Text.Utf8

/-!
# Reading lines while bytes come in

A `LineReader` is given bytes piece by piece and gives the lines that they complete. A piece may end
anywhere: in the middle of a character, whose bytes are kept until the others are there; behind a
carriage return, which is held back, since a newline behind it would belong to the same line end;
and in the middle of a line, which is kept until it is complete.
-/

namespace CrateDoc.Text

/-- What has come in and has not been given yet. -/
structure LineReader where
  /-- Bytes that may be the beginning of a character. -/
  undecoded : List UInt8 := []
  /-- Whether a carriage return is held back. -/
  holdsReturn : Bool := false
  /-- The line that has begun. -/
  begun : List Char := []
deriving DecidableEq

namespace LineReader

/-- The carriage return that is held back, if there is one. -/
def held (holdsReturn : Bool) : List Char := if holdsReturn then ['\r'] else []

/-- Takes a piece in and gives the lines that are complete now. -/
def feed (r : LineReader) (piece : List UInt8) : List (List Char) × LineReader :=
  let (decoded, undecoded) := Utf8.decodeArrived (r.undecoded ++ piece)
  let text := held r.holdsReturn ++ decoded
  let holdsReturn := text.getLast? == some '\r'
  let text := if holdsReturn then text.dropLast else text
  let (lines, begun) := completeLines (r.begun ++ unifyNewlines text)
  (lines, ⟨undecoded, holdsReturn, begun⟩)

/-- The lines that are left when nothing more comes in. -/
def finish (r : LineReader) : List (List Char) :=
  newlineEndedLines
    (r.begun ++ unifyNewlines (held r.holdsReturn ++ Utf8.decodeLossy r.undecoded))

/-- All lines of the pieces, in the order in which they are given. -/
def run (r : LineReader) : List (List UInt8) → List (List Char)
  | [] => r.finish
  | piece :: pieces => (r.feed piece).1 ++ (r.feed piece).2.run pieces

end LineReader

end CrateDoc.Text
