import CrateDoc.Html.FirstBlock
import CrateDoc.Markdown.Page

/-!
# Summaries

The summary of a documentation text is its first paragraph: as it is written (`summary`), or
without formatting (`plainSummary`). For the latter the text is made into a page and the page is
read, all of it, so a text that holds markup which cannot be read has no plain summary.
-/

namespace CrateDoc

open CrateDoc.Text

/-- Whether a text begins with a newline, spaces or tabs, and another newline. -/
def startsParagraphBreak (s : List Char) : Bool :=
  match s with
  | '\n' :: rest => (rest.dropWhile fun c => c == ' ' || c == '\t').head? == some '\n'
  | _ => false

/-- The text up to the first break between paragraphs. -/
def firstParagraph : List Char → List Char
  | [] => []
  | c :: rest => if startsParagraphBreak (c :: rest) then [] else c :: firstParagraph rest

/-- The first paragraph of a text, as it is written. -/
def summary (docs : List Char) : List Char := stripRight (firstParagraph (strip docs))

/-- The first paragraph or heading of a text, without its formatting. Code is set in backticks. -/
def plainSummary (docs : List Char) : Except Html.PageError (List Char) :=
  if (strip docs).isEmpty then .ok []
  else do
    let page ← Markdown.toHtml docs
    let events ← Html.Event.ofText page
    return Html.firstBlock events

end CrateDoc
