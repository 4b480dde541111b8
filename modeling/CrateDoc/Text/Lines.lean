import CrateDoc.Text.Blank

/-!
# Lines

Several ways of reading lines live side by side, because the formats disagree on what ends one:

* `lines` ends a line at every Unicode line boundary (`isLineEnd`), a carriage return followed
  by a newline being one boundary; `linesWithEnds` keeps the boundary with its line.
* `newlineLines` knows the newline only and has one line more than there are newlines;
  `newlineEndedLines` keeps the newline with its line, and `completeLines` the lines that it ends.
* `unifyNewlines` first turns a carriage return, with or without a newline after it, into a
  newline.
-/

namespace CrateDoc.Text

/-- The characters at which a line ends. -/
def isLineEnd (c : Char) : Bool :=
  let n := c.toNat
  (10 ≤ n && n ≤ 13) || (28 ≤ n && n ≤ 30) || n == 0x85 || n == 0x2028 || n == 0x2029

/-- The lines of a text, without their ends. A text that ends in a line end has no empty line
after it. -/
def lines : List Char → List (List Char)
  | [] => []
  | '\r' :: '\n' :: rest => [] :: lines rest
  | c :: rest =>
    if isLineEnd c then [] :: lines rest
    else match lines rest with
      | [] => [[c]]
      | line :: more => (c :: line) :: more

/-- The lines of a text, each with the line end that closes it. -/
def linesWithEnds : List Char → List (List Char)
  | [] => []
  | '\r' :: '\n' :: rest => ['\r', '\n'] :: linesWithEnds rest
  | c :: rest =>
    if isLineEnd c then [c] :: linesWithEnds rest
    else match linesWithEnds rest with
      | [] => [[c]]
      | line :: more => (c :: line) :: more

/-- The pieces between newlines. -/
def newlineLines (s : List Char) : List (List Char) := pieces (· == '\n') s

/-- The lines of a text, each with the newline that ends it; only the last may have none. -/
def newlineEndedLines : List Char → List (List Char)
  | [] => []
  | c :: rest =>
    if c = '\n' then ['\n'] :: newlineEndedLines rest
    else match newlineEndedLines rest with
      | [] => [[c]]
      | line :: more => (c :: line) :: more

/-- The lines of a text that a newline ends, each with it, and the text behind the last of them. -/
def completeLines : List Char → List (List Char) × List Char
  | [] => ([], [])
  | c :: rest =>
    if c = '\n' then (completeLines rest).map (['\n'] :: ·) id
    else match completeLines rest with
      | ([], begun) => ([], c :: begun)
      | (line :: more, begun) => ((c :: line) :: more, begun)

/-- Puts `mark` between the parts. -/
def joinWith (mark : List Char) (parts : List (List Char)) : List Char :=
  mark.intercalate parts

/-- Every carriage return, with or without a newline after it, as one newline. -/
def unifyNewlines : List Char → List Char
  | [] => []
  | '\r' :: '\n' :: rest => '\n' :: unifyNewlines rest
  | c :: rest => (if c = '\r' then '\n' else c) :: unifyNewlines rest

/-- The lines of a text keep all of it when their newlines are kept. -/
theorem flatten_newlineEndedLines (s : List Char) : (newlineEndedLines s).flatten = s := by
  fun_induction newlineEndedLines s with
  | case1 => rfl
  | case2 rest ih => simp [ih]
  | case3 c rest _ heq ih => rw [heq] at ih; simpa using ih
  | case4 c rest _ line more heq ih => rw [heq] at ih; simpa using ih

end CrateDoc.Text
