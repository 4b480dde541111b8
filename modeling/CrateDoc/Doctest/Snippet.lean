import CrateDoc.Document
import CrateDoc.Text.Lines

/-!
# Code blocks of a documentation

The code blocks that are tests: every fenced block whose info string is empty or begins with the
name of the host language.

* A fence is opened by at least three backticks or tildes after at most three spaces, and closed
  by at least as many of the same character on a line of their own. A block that is never closed
  reaches to the end of the text.
* In the body, the indentation of the opening fence is taken off, hidden lines are shown and
  escaped markers are reduced (`reveal`).
-/

namespace CrateDoc.Doctest

open CrateDoc.Text

/-- The language of a block that names none. -/
def hostLanguage : String := "rust"

/-- The line that opens a fenced block. -/
structure Fence where
  mark : Char
  /-- How many marks open the block; at least as many close it. -/
  size : Nat
  indent : Nat
  /-- What follows the marks, without the white space around it. -/
  info : List Char
deriving DecidableEq

namespace Fence

/-- Reads the line that opens a block. Behind backticks the info string may hold no backtick. -/
def ofLine? (line : List Char) : Option Fence :=
  let indent := (line.takeWhile (· == ' ')).length
  match line.drop indent with
  | [] => none
  | mark :: rest =>
    let size := (rest.takeWhile (· == mark)).length + 1
    let info := strip (rest.dropWhile (· == mark))
    if 3 < indent || size < 3 then none
    else if mark = '~' || (mark = '\x60' && !info.contains '\x60') then
      some ⟨mark, size, indent, info⟩
    else none

/-- Whether a line closes the block. -/
def closes (fence : Fence) (line : List Char) : Bool :=
  let indent := (line.takeWhile (· == ' ')).length
  let rest := line.drop indent
  let size := (rest.takeWhile (· == fence.mark)).length
  indent ≤ 3 && fence.size ≤ size &&
    (rest.drop size).all fun c => c = ' ' || c = '\t'

/-- The first word of the info string, empty when there is none. -/
def tag (fence : Fence) : List Char := (words fence.info).head?.getD []

/-- A line of the body without the indentation of the fence, as far as it has one. -/
def dedent (fence : Fence) (line : List Char) : List Char :=
  line.drop (min fence.indent (line.takeWhile (· == ' ')).length)

/-- Whether the block is a test in a language. -/
def isTest (fence : Fence) (language : List Char) : Bool :=
  fence.tag.isEmpty || fence.tag = language

end Fence

/-- A line of a test as it is compiled: behind its white space, `##` stands for `#` and a marker
with a space behind it is taken off. -/
def reveal (line : List Char) : List Char :=
  let leading := line.takeWhile isBlank
  match line.dropWhile isBlank with
  | '#' :: '#' :: rest => leading ++ '#' :: rest
  | '#' :: ' ' :: rest => leading ++ rest
  | _ => line

/-- The test blocks among the lines of a text, each as its lines. -/
def blocksOfLines (language : List Char) : List (List Char) → List (List (List Char))
  | [] => []
  | line :: rest =>
    match Fence.ofLine? line with
    | none => blocksOfLines language rest
    | some fence =>
      let body := rest.takeWhile (!fence.closes ·)
      let behind := (rest.dropWhile (!fence.closes ·)).drop 1
      let more := blocksOfLines language behind
      if fence.isTest language then body.map (fun l => reveal (fence.dedent l)) :: more else more
termination_by ls => ls.length
decreasing_by
  · simp
  · have h := (List.dropWhile_suffix (!fence.closes ·) (l := rest)).length_le
    simp only [List.length_drop, List.length_cons]
    omega

/-- The sources of the test blocks of a text. -/
def testBlocks (docs : List Char) (language : List Char := hostLanguage.toList) :
    List (List Char) :=
  (blocksOfLines language (lines docs)).map (joinWith ['\n'])

/-- The source of one test and where it comes from. -/
structure Snippet where
  documentId : String
  index : Int
  source : String
deriving DecidableEq

namespace Snippet

/-- The name of the crate that a document belongs to: its id up to the first `::`. -/
def crateNameOf (id : String) : String :=
  match cutAt? [':', ':'] id.toList with
  | some (before, _) => String.ofList before
  | none => id

/-- The crate that the snippet documents. -/
def crateName (s : Snippet) : String := crateNameOf s.documentId

/-- Every `::` as one underscore. -/
def joinPath : List Char → List Char
  | ':' :: ':' :: rest => '_' :: joinPath rest
  | c :: rest => c :: joinPath rest
  | [] => []

/-- A character as it may stand in a module's name. -/
def nameChar (c : Char) : Char :=
  if isAsciiLetter c || isAsciiDigit c || c = '_' then c else '_'

/-- A name that can be a module's: the id and the index, with every character that a name cannot
hold as an underscore. -/
def name (s : Snippet) : String :=
  String.ofList ((joinPath (s.documentId.toList ++ '_' :: (toString s.index).toList)).map nameChar)

/-- The snippets of a document. -/
def ofDocument (d : Document) (language : String := hostLanguage) : List Snippet :=
  (testBlocks ((d.attribute? "docs").getD "").toList language.toList).zipIdx.map
    fun (block, index) => ⟨d.id, index, String.ofList block⟩

/-- The snippets of all documents, the crate's own first. -/
def ofDocumentation (d : Documentation) (language : String := hostLanguage) : List Snippet :=
  d.documents.flatMap (ofDocument · language)

end Snippet

end CrateDoc.Doctest
