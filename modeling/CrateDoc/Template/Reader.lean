import CrateDoc.Template.Basic
import CrateDoc.Text.Lines

/-!
# Reading templates

The written form of a template. Double braces print a name, braces with percent signs open and
close loops and conditions, and braces with number signs hold comments. The newline behind a
block is dropped, and so is the white space between the start of a line and a block.
-/

namespace CrateDoc.Template

open CrateDoc.Text

/-- A piece of a written template. -/
inductive Piece
  | text (s : List Char)
  | output (words : List (List Char))
  | block (words : List (List Char))
  | comment
deriving DecidableEq

/-- The marks that open a piece, and those that close it. -/
def closing? : List Char → Option (List Char)
  | '{' :: '{' :: _ => some ['}', '}']
  | '{' :: '%' :: _ => some ['%', '}']
  | '{' :: '#' :: _ => some ['#', '}']
  | _ => none

/-- The piece between marks. -/
def pieceOf (mark : Char) (content : List Char) : Piece :=
  if mark = '{' then .output (words content)
  else if mark = '%' then .block (words content)
  else .comment

/-- A text without the white space between the start of its last line and its end; the line
counts if it starts within the text or `atLineStart` says that the text starts one. -/
def withoutLead (atLineStart : Bool) (s : List Char) : List Char :=
  let lead := takeTrailing (· ≠ '\n') s
  if lead.all isBlank && (lead.length < s.length || atLineStart) then
    s.take (s.length - lead.length)
  else s

/-- The pieces of a written template. `before` holds the text read so far, the last character
first; the number bounds the steps. -/
def piecesFrom : Nat → Bool → List Char → List Char → List Piece
  | 0, _, before, s => [.text (before.reverse ++ s)]
  | _ + 1, _, before, [] => [.text before.reverse]
  | n + 1, atLineStart, before, c :: rest =>
    match closing? (c :: rest) with
    | none => piecesFrom n atLineStart (c :: before) rest
    | some mark =>
      match cutAt? mark (rest.drop 1) with
      | none => piecesFrom n atLineStart (c :: before) rest
      | some (content, behind) =>
        let kind := rest.head?.getD ' '
        if kind = '{' then
          .text before.reverse :: pieceOf kind content :: piecesFrom n false [] behind
        else
          let (trimmed, behind) := match behind with
            | '\n' :: behind => (true, behind)
            | behind => (false, behind)
          .text (withoutLead atLineStart before.reverse) :: pieceOf kind content ::
            piecesFrom n trimmed [] behind

/-- The parts up to the end of the block they stand in, and the pieces from there on. -/
def partsOf : Nat → List Piece → List Part × List Piece
  | 0, pieces => ([], pieces)
  | _ + 1, [] => ([], [])
  | n + 1, .text s :: rest =>
    let (parts, behind) := partsOf n rest
    (.text (String.ofList s) :: parts, behind)
  | n + 1, .output ws :: rest =>
    let (parts, behind) := partsOf n rest
    (.value (String.ofList (ws.head?.getD [])) :: parts, behind)
  | n + 1, .comment :: rest => partsOf n rest
  | n + 1, .block ws :: rest =>
    match ws.map String.ofList with
    | ["for", item, "in", source] =>
      let (body, behind) := partsOf n rest
      let (parts, behind) := partsOf n (behind.drop 1)
      (.loop item source body :: parts, behind)
    | ["if", name] =>
      let (body, behind) := partsOf n rest
      let (otherwise, behind) := match behind with
        | .block [w] :: more => if w = "else".toList then partsOf n more else ([], behind)
        | _ => ([], behind)
      let (parts, behind) := partsOf n (behind.drop 1)
      (.condition name body otherwise :: parts, behind)
    | _ => ([], .block ws :: rest)

/-- The template that a text writes. -/
def ofText (s : String) : Template :=
  let s := unifyNewlines s.toList
  let pieces := piecesFrom (s.length + 1) true [] s
  (partsOf (pieces.length + 1) pieces).1

end CrateDoc.Template
