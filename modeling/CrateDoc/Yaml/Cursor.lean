import CrateDoc.Text.Lines

/-!
# A place in a document

A cursor is the text from some place of a document on, with the line and column of that place.
A line ends at a newline, a carriage return, or one of three other Unicode line ends. The end of
the text counts as a gap, like white space.
-/

namespace CrateDoc.Yaml

open CrateDoc.Text

/-- A character that ends a line. -/
def isBreak (c : Char) : Bool :=
  c == '\n' || c == '\r' || c == '\x85' || c == '\u2028' || c == '\u2029'

/-- A space, a tab or a character that ends a line. -/
def isGap (c : Char) : Bool := c == ' ' || c == '\t' || isBreak c

/-- Whether a gap comes next. -/
def startsGap (s : List Char) : Bool := (s.head?.map isGap).getD true

/-- Whether the end of a line comes next. -/
def startsBreak (s : List Char) : Bool := (s.head?.map isBreak).getD false

/-- Whether a line or the text ends here. -/
def endsLine (s : List Char) : Bool := (s.head?.map isBreak).getD true

/-- Whether a space, the end of a line or the end of the text comes next. -/
def endsWord (s : List Char) : Bool := (s.head?.map fun c => c == ' ' || isBreak c).getD true

/-- A place in a document. -/
structure Cursor where
  /-- The text from here on. -/
  rest : List Char
  line : Nat := 0
  column : Nat := 0
  /-- How many characters are before this place. -/
  index : Nat := 0

namespace Cursor

/-- Moves over one character. -/
def next (c : Cursor) : Cursor :=
  match c.rest with
  | [] => c
  | ch :: rest =>
    if isBreak ch && !(ch == '\r' && rest.head? == some '\n') then
      ⟨rest, c.line + 1, 0, c.index + 1⟩
    else ⟨rest, c.line, if ch = '\ufeff' then c.column else c.column + 1, c.index + 1⟩

/-- Moves over some characters. -/
def skip : Nat → Cursor → Cursor
  | 0, c => c
  | n + 1, c => skip n c.next

/-- The characters from here on that satisfy a test, and the place behind them. -/
def span (p : Char → Bool) (c : Cursor) : List Char × Cursor :=
  let run := c.rest.takeWhile p
  (run, c.skip run.length)

/-- Moves over characters that satisfy a test. -/
def skipWhile (p : Char → Bool) (c : Cursor) : Cursor := (c.span p).2

/-- Moves over spaces. -/
def skipSpaces (c : Cursor) : Cursor := c.skipWhile (· == ' ')

/-- Moves over a comment. -/
def skipComment (c : Cursor) : Cursor :=
  if c.rest.head? = some '#' then c.skipWhile (!isBreak ·) else c

/-- Moves over the end of a line, if there is one: what it stands for, and the place behind. -/
def lineBreak (c : Cursor) : List Char × Cursor :=
  match c.rest with
  | '\r' :: '\n' :: _ => (['\n'], c.skip 2)
  | ch :: _ =>
    if ch = '\n' || ch = '\r' || ch = '\x85' then (['\n'], c.next)
    else if isBreak ch then ([ch], c.next)
    else ([], c)
  | [] => ([], c)

/-- Whether a marker of the start or end of a document stands here. -/
def atDocumentMarker (c : Cursor) : Bool :=
  match c.rest with
  | '-' :: '-' :: '-' :: rest => startsGap rest
  | '.' :: '.' :: '.' :: rest => startsGap rest
  | _ => false

end Cursor

end CrateDoc.Yaml
