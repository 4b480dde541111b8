import CrateDoc.Text.Utf8
import CrateDoc.Text.Digit
import CrateDoc.Html.Reference
import CrateDoc.Yaml.Cursor
import CrateDoc.Yaml.Fault

/-!
# The text of scalars

Scalars are written plainly, in single or double quotes, or as a block of lines. Line ends in
the first three are folded: one becomes a space, and of several the first is dropped.
-/

namespace CrateDoc.Yaml

open CrateDoc.Text

/-- Joins line ends: a single newline is a space. -/
def folded (lineBreak breaks : List Char) : List Char :=
  (if lineBreak ≠ ['\n'] then lineBreak else if breaks.isEmpty then [' '] else []) ++ breaks

/-! ### Plain scalars -/

/-- Reads the empty lines behind the end of a line in a plain scalar: their line ends, or nothing
if a marker of a document follows. -/
def plainBreaks? : Nat → Cursor → Option (List Char) × Cursor
  | 0, c => (some [], c)
  | fuel + 1, c =>
    let c := c.skipSpaces
    if startsBreak c.rest then
      let (lineBreak, c) := c.lineBreak
      if c.atDocumentMarker then (none, c)
      else
        let (more, c) := plainBreaks? fuel c
        (more.map (lineBreak ++ ·), c)
    else (some [], c)

/-- Reads the white space in a plain scalar: its text, whether a line ended in it, and whether it
is followed by a marker of a document. -/
def plainSpaces (c : Cursor) : List Char × Bool × Cursor :=
  let (spaces, c) := c.span (· == ' ')
  if startsBreak c.rest then
    let (lineBreak, c) := c.lineBreak
    if c.atDocumentMarker then ([], true, c)
    else match plainBreaks? c.rest.length c with
      | (some breaks, c) => (folded lineBreak breaks, true, c)
      | (none, c) => ([], true, c)
  else (spaces, false, c)

/-- A character that only ends a plain scalar inside brackets. -/
def isFlowMark (c : Char) : Bool :=
  c == ',' || c == '?' || c == '[' || c == ']' || c == '\x7b' || c == '\x7d'

/-- The length of the next word of a plain scalar. -/
def plainWord (inFlow : Bool) : List Char → Nat
  | [] => 0
  | c :: rest =>
    let colonEnds := startsGap rest ||
      inFlow && (rest.head?.map fun d => isFlowMark d && d ≠ '?').getD false
    if isGap c || (c == ':' && colonEnds) || (inFlow && isFlowMark c) then 0
    else plainWord inFlow rest + 1

/-- Reads a plain scalar: its text, and whether its last white space ended a line; `before` is
the white space just read. -/
def plainScalar (inFlow : Bool) (indent : Int) :
    Nat → List Char → Bool → Cursor → (List Char × Bool) × Cursor
  | 0, _, broken, c => (([], broken), c)
  | fuel + 1, before, broken, c =>
    let size := plainWord inFlow c.rest
    if c.rest.head? = some '#' || size = 0 then (([], broken), c)
    else
      let word := c.rest.take size
      let (spaces, ended, c) := plainSpaces (c.skip size)
      if spaces.isEmpty || c.rest.head? = some '#' || (!inFlow && (c.column : Int) < indent) then
        ((before ++ word, ended), c)
      else
        let ((text, ended), c) := plainScalar inFlow indent fuel spaces ended c
        ((before ++ word ++ text, ended), c)

/-! ### Quoted scalars -/

/-- What a single character behind a backslash stands for. -/
def escapeOf? (c : Char) : Option Char :=
  match c with
  | '0' => some '\x00'
  | 'a' => some '\x07'
  | 'b' => some '\x08'
  | 't' | '\t' => some '\t'
  | 'n' => some '\n'
  | 'v' => some '\x0b'
  | 'f' => some '\x0c'
  | 'r' => some '\r'
  | 'e' => some '\x1b'
  | ' ' | '\x22' | '\\' | '/' => some c
  | 'N' => some '\x85'
  | '_' => some '\xa0'
  | 'L' => some '\u2028'
  | 'P' => some '\u2029'
  | _ => none

/-- How many digits follow a character behind a backslash. -/
def escapeDigits? (c : Char) : Option Nat :=
  if c = 'x' then some 2 else if c = 'u' then some 4 else if c = 'U' then some 8 else none

/-- The character with a number; a half of a surrogate pair is the replacement character. -/
def characterOf (n : Nat) : Except Fault Char :=
  if 0x7fffffff < n then .error .hugeCharacter
  else if 0x10ffff < n then .error .noCharacter
  else if 0xd800 ≤ n ∧ n < 0xe000 then .ok '\ufffd'
  else .ok (Char.ofNat n)

/-- Reads the empty lines behind the end of a line in a quoted scalar. -/
def quotedBreaks : Nat → Cursor → Except Fault (List Char × Cursor)
  | 0, c => .ok ([], c)
  | fuel + 1, c =>
    if c.atDocumentMarker then .error .malformed
    else
      let c := c.skipWhile fun ch => ch == ' ' || ch == '\t'
      if startsBreak c.rest then do
        let (lineBreak, c) := c.lineBreak
        let (more, c) ← quotedBreaks fuel c
        return (lineBreak ++ more, c)
      else .ok ([], c)

/-- Reads the white space in a quoted scalar. -/
def quotedSpaces (c : Cursor) : Except Fault (List Char × Cursor) := do
  let (spaces, c) := c.span fun ch => ch == ' ' || ch == '\t'
  if c.rest.isEmpty then throw .malformed
  else if startsBreak c.rest then
    let (lineBreak, c) := c.lineBreak
    let (breaks, c) ← quotedBreaks (c.rest.length + 1) c
    return (folded lineBreak breaks, c)
  else return (spaces, c)

/-- Reads what stands behind a backslash. -/
def escaped (c : Cursor) : Except Fault (List Char × Cursor) :=
  match c.rest with
  | [] => .error .malformed
  | ch :: rest =>
    match escapeOf? ch, escapeDigits? ch with
    | some character, _ => .ok ([character], c.next)
    | none, some count =>
      let digits := rest.take count
      if digits.length = count && digits.all Html.isHexDigit then do
        let character ← characterOf (readDigits 16 digits)
        return ([character], c.skip (count + 1))
      else .error .malformed
    | none, none =>
      if isBreak ch then quotedBreaks (rest.length + 1) c.lineBreak.2 else .error .malformed

/-- Reads a quoted scalar up to its closing quote; `fuel` bounds the number of steps. -/
def quotedScalar (double : Bool) : Nat → Cursor → Except Fault (List Char × Cursor)
  | 0, _ => .error .malformed
  | fuel + 1, c =>
    let goOn (text : List Char) (c : Cursor) : Except Fault (List Char × Cursor) := do
      let (more, c) ← quotedScalar double fuel c
      return (text ++ more, c)
    match c.rest with
    | [] => .error .malformed
    | '\x27' :: '\x27' :: _ => if double then goOn ['\x27'] c.next else goOn ['\x27'] (c.skip 2)
    | '\x27' :: _ => if double then goOn ['\x27'] c.next else .ok ([], c.next)
    | '\x22' :: _ => if double then .ok ([], c.next) else goOn ['\x22'] c.next
    | '\\' :: _ =>
      if double then do
        let (text, c) ← escaped c.next
        goOn text c
      else goOn ['\\'] c.next
    | ch :: _ =>
      if isGap ch then do
        let (text, c) ← quotedSpaces c
        goOn text c
      else goOn [ch] c.next

/-! ### Block scalars -/

/-- What is kept of the line ends at the end of a block. -/
inductive Chomping
  | strip
  | clip
  | keep
  deriving DecidableEq

/-- Reads how line ends are kept. -/
def chomping? : List Char → Option Chomping
  | '+' :: _ => some .keep
  | '-' :: _ => some .strip
  | _ => none

/-- Reads how much deeper the block is indented. -/
def increment? : List Char → Option Nat
  | ch :: _ => if isAsciiDigit ch then some (ch.toNat - 48) else none
  | [] => none

/-- Reads the header of a block, up to the end of its line. -/
def blockHeader (c : Cursor) : Except Fault ((Chomping × Option Nat) × Cursor) := do
  let (chomping, increment, c) := match chomping? c.rest, increment? c.rest with
    | some chomping, _ =>
      match increment? c.next.rest with
      | some n => (chomping, some n, c.skip 2)
      | none => (chomping, none, c.next)
    | none, some n =>
      match chomping? c.next.rest with
      | some chomping => (chomping, some n, c.skip 2)
      | none => (.clip, some n, c.next)
    | none, none => (.clip, none, c)
  if increment = some 0 || !endsWord c.rest then throw .malformed
  let c := c.skipSpaces.skipComment
  if !endsLine c.rest then throw .malformed
  return ((chomping, increment), c.lineBreak.2)

/-- Reads the empty lines at the start of a block: their line ends, and the deepest column that
spaces reach in them. -/
def blockIndentation : Nat → Nat → Cursor → (List Char × Nat) × Cursor
  | 0, deepest, c => (([], deepest), c)
  | fuel + 1, deepest, c =>
    let c := c.skipSpaces
    let deepest := max deepest c.column
    if startsBreak c.rest then
      let (lineBreak, c) := c.lineBreak
      let ((breaks, deepest), c) := blockIndentation fuel deepest c
      ((lineBreak ++ breaks, deepest), c)
    else (([], deepest), c)

/-- Moves over spaces up to a column. -/
def skipToColumn (column : Nat) (c : Cursor) : Cursor :=
  c.skip (min (column - c.column) (c.rest.takeWhile (· == ' ')).length)

/-- Reads the empty lines in a block. -/
def blockBreaks (indent : Nat) : Nat → Cursor → List Char × Cursor
  | 0, c => ([], c)
  | fuel + 1, c =>
    let c := skipToColumn indent c
    if startsBreak c.rest then
      let (lineBreak, c) := c.lineBreak
      let (breaks, c) := blockBreaks indent fuel c
      (lineBreak ++ breaks, c)
    else ([], c)

/-- Whether a space or tab comes next. -/
def startsBlank (s : List Char) : Bool := s.head? == some ' ' || s.head? == some '\t'

/-- Reads the lines of a block: its text, the last line end, and the line ends behind it. -/
def blockLines (foldsLines : Bool) (indent : Nat) :
    Nat → List Char → Cursor → (List Char × List Char × List Char) × Cursor
  | 0, breaks, c => (([], [], breaks), c)
  | fuel + 1, breaks, c =>
    if c.column = indent && !c.rest.isEmpty then
      let leadingText := !startsBlank c.rest
      let (line, c) := c.span (!isBreak ·)
      let (lineBreak, c) := c.lineBreak
      let (next, c) := blockBreaks indent (c.rest.length + 1) c
      if c.column = indent && !c.rest.isEmpty then
        let joint := if foldsLines && lineBreak = ['\n'] && leadingText && !startsBlank c.rest then
            if next.isEmpty then [' '] else []
          else lineBreak
        let ((text, lastBreak, tail), c) := blockLines foldsLines indent fuel next c
        ((breaks ++ line ++ joint ++ text, lastBreak, tail), c)
      else ((breaks ++ line, lineBreak, next), c)
    else (([], [], breaks), c)

/-- Reads a block scalar, the cursor standing behind its mark; `outer` is the indentation of what
it stands in. -/
def blockScalar (foldsLines : Bool) (outer : Int) (c : Cursor) :
    Except Fault (List Char × Cursor) := do
  let ((chomping, increment), c) ← blockHeader c
  let least : Nat := max 1 (outer + 1).toNat
  let (breaks, indent, c) := match increment with
    | none =>
      let ((breaks, deepest), c) := blockIndentation (c.rest.length + 1) 0 c
      (breaks, max least deepest, c)
    | some n =>
      let indent := least + n - 1
      let (breaks, c) := blockBreaks indent (c.rest.length + 1) c
      (breaks, indent, c)
  let ((text, lastBreak, tail), c) := blockLines foldsLines indent (c.rest.length + 1) breaks c
  return (text ++ (if chomping = .strip then [] else lastBreak) ++
    (if chomping = .keep then tail else []), c)

end CrateDoc.Yaml
