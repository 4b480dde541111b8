import CrateDoc.Text.Lines

/-!
# Marks in a text

While a text is being formatted, finished pieces are taken out of it and a *mark* is left in
their place: a text between `U+0002` and `U+0003`, two characters that no source text holds once
it is normalised. So a mark can be told from the text around it, and stays in one piece.

* `Mark.text` writes a mark and `Mark.read?` reads it back.
* `splitMarks` cuts a text into plain pieces and marks.
-/

namespace CrateDoc.Markdown

open CrateDoc.Text

/-- What stands for something that was taken out of a text. -/
inductive Mark
  /-- A piece of finished HTML, by its place in the stash. -/
  | html (index : Nat)
  /-- A piece of formatted text, by its place among those pieces. -/
  | span (index : Nat)
  /-- A character that is to be shown as it is. -/
  | literal (c : Char)
  /-- An ampersand that begins a character reference. -/
  | ampersand
  deriving DecidableEq, Repr

/-- The character before a mark. -/
def markOpen : Char := '\x02'

/-- The character behind a mark. -/
def markClose : Char := '\x03'

namespace Mark

/-- The mark as it stands in a text. -/
def text : Mark → List Char
  | .html n => markOpen :: 'h' :: (toString n).toList ++ [markClose]
  | .span n => markOpen :: 's' :: (toString n).toList ++ [markClose]
  | .literal c => markOpen :: (toString c.toNat).toList ++ [markClose]
  | .ampersand => [markOpen, 'a', markClose]

/-- The number in a mark. -/
def index (digits : List Char) : Nat :=
  digits.foldl (fun n c => n * 10 + (c.toNat - 48)) 0

/-- Reads the mark at the start of a text. -/
def read? : List Char → Option (Mark × List Char)
  | '\x02' :: kind :: rest =>
    let inside := rest.takeWhile (· ≠ markClose)
    let behind := rest.drop (inside.length + 1)
    if kind = 'h' then some (.html (index inside), behind)
    else if kind = 's' then some (.span (index inside), behind)
    else if kind = 'a' then some (.ampersand, behind)
    else if isAsciiDigit kind then some (.literal (Char.ofNat (index (kind :: inside))), behind)
    else none
  | _ => none

/-- The place of the span that a mark stands for. -/
def span? : Mark → Option Nat
  | .span n => some n
  | _ => none

end Mark

/-- A part of a text with marks. -/
inductive Part
  | plain (content : List Char)
  | mark (mark : Mark)

/-- Cuts a text at its marks; `fuel` bounds the number of parts. -/
def splitMarksWithin : Nat → List Char → List Part
  | 0, s => [.plain s]
  | fuel + 1, s =>
    let content := s.takeWhile (· ≠ markOpen)
    let here : List Part := if content.isEmpty then [] else [.plain content]
    match s.dropWhile (· ≠ markOpen) with
    | [] => here
    | c :: rest =>
      match Mark.read? (c :: rest) with
      | some (mark, behind) => here ++ .mark mark :: splitMarksWithin fuel behind
      | none => here ++ .plain [c] :: splitMarksWithin fuel rest

/-- The plain pieces and the marks of a text, in order. -/
def splitMarks (s : List Char) : List Part := splitMarksWithin (s.length + 1) s

/-- The text with some of its marks replaced. -/
def fillMarks (fill : Mark → Option (List Char)) (s : List Char) : List Char :=
  (splitMarks s).flatMap fun
    | .plain content => content
    | .mark mark => (fill mark).getD mark.text

/-- Puts the characters back that are to be shown as they are. -/
def fillLiterals (s : List Char) : List Char :=
  fillMarks (fun | .literal c => some [c] | _ => none) s

/-- Pieces of finished HTML that were taken out of a text, in order. -/
abbrev Stash := List (List Char)

/-- Adds a piece, and gives the mark that stands for it. -/
def stashed (stash : Stash) (piece : List Char) : List Char × Stash :=
  ((Mark.html stash.length).text, stash ++ [piece])

end CrateDoc.Markdown
