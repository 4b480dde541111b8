import CrateDoc.Markdown.Inline
import CrateDoc.Markdown.RawHtml

/-!
# Formatting a text as HTML

`toHtml` formats Markdown: fenced code and HTML blocks are taken out of the source, the rest is
structured into blocks, the text of the blocks is formatted, and the tree is written as HTML with
the pieces that were taken out put back in.
-/

namespace CrateDoc.Markdown

open CrateDoc.Text

/-- Whether finished HTML stands on lines of its own. -/
def isBlockHtml (html : List Char) : Bool :=
  let name := match html with
    | '<' :: '/' :: rest => rest
    | '<' :: rest => rest
    | _ => []
  match name.takeWhile fun c => c ≠ ' ' && c ≠ '>' with
  | [] => false
  | c :: more => c == '!' || c == '?' || c == '@' || c == '%' || isBlockTag (c :: more)

/-- The tags of a paragraph. -/
def paragraphTags : List Char × List Char := ("<p>".toList, "</p>".toList)

/-- Puts finished HTML in the place of its marks, once. A mark that is all of a paragraph takes
the paragraph's place if its HTML stands on lines of its own. -/
def fillHtml (stash : Stash) : Nat → List Char → List Char
  | 0, s => s
  | _ + 1, [] => []
  | fuel + 1, c :: rest =>
    let (opens, closes) := paragraphTags
    let mark? (s : List Char) : Option (List Char × List Char) :=
      match Mark.read? s with
      | some (.html n, behind) => (stash[n]?).map fun html => (html, behind)
      | _ => none
    let alone? : Option (List Char × List Char) :=
      if opens.isPrefixOf (c :: rest) then
        (mark? ((c :: rest).drop opens.length)).bind fun (html, behind) =>
          if closes.isPrefixOf behind then some (html, behind.drop closes.length) else none
      else none
    match alone? with
    | some (html, behind) =>
      (if isBlockHtml html then html else opens ++ html ++ closes) ++ fillHtml stash fuel behind
    | none =>
      match mark? (c :: rest) with
      | some (html, behind) => html ++ fillHtml stash fuel behind
      | none => c :: fillHtml stash fuel rest

/-- Puts finished HTML in the place of its marks until none is left; `fuel` bounds how often. -/
def fillAllHtml (stash : Stash) : Nat → List Char → List Char
  | 0, s => s
  | fuel + 1, s =>
    let filled := fillHtml stash (s.length + 1) s
    if filled = s then s else fillAllHtml stash fuel filled

mutual

/-- The element with the characters put back that are shown as they are. -/
def restored : Element → Element
  | .node tag content children tail =>
    .node tag (if tag = "code" then content else ⟨fillLiterals content.text, content.fixed⟩)
      (restoredAll children) ⟨fillLiterals tail.text, tail.fixed⟩

/-- The same for every element of a list. -/
def restoredAll : List Element → List Element
  | [] => []
  | e :: rest => restored e :: restoredAll rest

end

/-- A text as HTML, if the markup in it can be read. -/
def toHtml (source : List Char) : Except Html.PageError (List Char) :=
  if (strip source).isEmpty then .ok []
  else do
    let (text, stash) := takeFences (normalise source)
    let (text, stash) ← takeHtmlBlocks stash text
    let (root, references) := structured text
    let (children, spans) := (formatAll references (4 * text.length + 64) root.children).run
      { stash := stash }
    let page := restored ((root.withChildren children).layOut true)
    let html := strip (escapeText page.content.text ++ Element.writeAll page.children)
    let html := fillAllHtml spans.stash (spans.stash.length + 2) html
    return strip (fillMarks (fun | .ampersand => some ['&'] | _ => none) html)

end CrateDoc.Markdown
