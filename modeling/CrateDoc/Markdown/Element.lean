import CrateDoc.Text.Blank

/-!
# Elements

The tree that a text is formatted into. Attributes are left out: nothing that is read from a
finished tree asks for them. Text that is *fixed* is not formatted any further.
-/

namespace CrateDoc.Markdown

open CrateDoc.Text

/-- Text in an element. -/
structure Content where
  text : List Char := []
  /-- Whether the text is left as it is. -/
  fixed : Bool := false
  deriving DecidableEq, Repr

/-- An element: its tag, the text at its start, the elements in it, and the text behind it. -/
inductive Element
  | node (tag : String) (content : Content) (children : List Element) (tail : Content)
  deriving Repr

namespace Element

instance : Inhabited Element := ⟨.node "" {} [] {}⟩

/-- The tag. -/
def tag : Element → String
  | .node tag _ _ _ => tag

/-- The text at the start. -/
def content : Element → Content
  | .node _ content _ _ => content

/-- The elements inside. -/
def children : Element → List Element
  | .node _ _ children _ => children

/-- The text behind the element. -/
def tail : Element → Content
  | .node _ _ _ tail => tail

/-- An element with a tag and plain text. -/
def ofText (tag : String) (text : List Char) : Element := .node tag ⟨text, false⟩ [] {}

/-- An element with a tag and elements in it. -/
def ofChildren (tag : String) (children : List Element) : Element := .node tag {} children {}

/-- The element with another text at its start. -/
def withContent (content : Content) : Element → Element
  | .node tag _ children tail => .node tag content children tail

/-- The element with other elements inside. -/
def withChildren (children : List Element) : Element → Element
  | .node tag content _ tail => .node tag content children tail

/-- The element with another text behind it. -/
def withTail (tail : Content) : Element → Element
  | .node tag content children _ => .node tag content children tail

end Element

/-- Adds text; text that was there keeps its kind only if nothing is added to it. -/
def Content.append (content : Content) (more : Content) : Content :=
  if more.text.isEmpty then content
  else if content.text.isEmpty then more
  else ⟨content.text ++ more.text, false⟩

/-- Elements that stand on lines of their own. -/
def blockTags : List String :=
  ["address", "article", "aside", "blockquote", "details", "div", "dl", "fieldset", "figcaption",
   "figure", "footer", "form", "h1", "h2", "h3", "h4", "h5", "h6", "header", "hgroup", "hr", "main",
   "menu", "nav", "ol", "p", "pre", "search", "section", "table", "ul", "canvas", "colgroup", "dd",
   "body", "dt", "group", "html", "iframe", "li", "legend", "math", "map", "noscript", "output",
   "object", "option", "progress", "script", "style", "summary", "tbody", "td", "textarea", "tfoot",
   "th", "thead", "tr", "video", "center"]

/-- Whether a tag names such an element; case and slashes at the end do not count. -/
def isBlockTag (tag : List Char) : Bool :=
  blockTags.contains (String.ofList (dropTrailing (· == '/') (tag.map asciiLower)))

end CrateDoc.Markdown
