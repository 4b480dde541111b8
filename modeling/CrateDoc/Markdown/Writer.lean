import CrateDoc.Html.Markup
import CrateDoc.Html.Reference
import CrateDoc.Markdown.Element

/-!
# Writing elements as HTML

`Element.write` writes a tree; a reference in its text stays one, and every other ampersand and
angle bracket is escaped. `Element.laidOut` first puts the elements that stand on lines of their
own on lines of their own.
-/

namespace CrateDoc.Markdown

open CrateDoc.Text CrateDoc.Html

/-- Whether the text behind an ampersand makes it a character reference. -/
def isReference (s : List Char) : Bool :=
  let body := s.takeWhile (· ≠ ';')
  let isNumber : Bool := match body with
    | '#' :: 'x' :: digits | '#' :: 'X' :: digits => !digits.isEmpty && digits.all isHexDigit
    | '#' :: digits => !digits.isEmpty && digits.all isAsciiDigit
    | _ => !body.isEmpty && body.all fun c => isAsciiLetter c || isAsciiDigit c
  isNumber && (s.drop body.length).head? == some ';'

/-- The text with its special characters escaped, except for references. -/
def escapeText : List Char → List Char
  | [] => []
  | '&' :: rest => (if isReference rest then ['&'] else "&amp;".toList) ++ escapeText rest
  | '<' :: rest => "&lt;".toList ++ escapeText rest
  | '>' :: rest => "&gt;".toList ++ escapeText rest
  | c :: rest => c :: escapeText rest

namespace Element

/-- Elements that are written as a single tag. -/
def isVoid (tag : String) : Bool := ["br", "hr", "img"].contains tag

mutual

/-- The element as HTML, with the text behind it. -/
def write : Element → List Char
  | .node tag content children tail =>
    (if isVoid tag then '<' :: tag.toList ++ " />".toList
      else '<' :: tag.toList ++ ['>'] ++ escapeText content.text ++ writeAll children ++
        "</".toList ++ tag.toList ++ ['>']) ++ escapeText tail.text

/-- Elements as HTML, one after the other. -/
def writeAll : List Element → List Char
  | [] => []
  | e :: rest => write e ++ writeAll rest

end

/-- Text of white space only. -/
def isBlankText (content : Content) : Bool := content.text.all isBlank

/-- A newline as the text of an element. -/
def newline : Content := ⟨['\n'], false⟩

/-- The text of a block of code, which ends in one newline. -/
def trimmedCode : List Element → List Element
  | .node "code" content [] tail :: rest =>
    (if content.text.isEmpty then .node "code" content [] tail
      else .node "code" ⟨stripRight content.text ++ ['\n'], true⟩ [] tail) :: rest
  | children => children

mutual

/-- The element with newlines around the elements that stand on lines of their own, and behind
line breaks. `outer` says whether all elements around it are such elements. -/
def layOut (outer : Bool) : Element → Element
  | .node tag content children tail =>
    let isBlock := outer && isBlockTag tag.toList
    let opens := isBlock && tag ≠ "pre"
    let startsBlock := match children with
      | [] => false
      | e :: _ => isBlockTag e.tag.toList
    let content := if opens && isBlankText content && startsBlock then newline else content
    let tail := if isBlock && isBlankText tail then newline else tail
    let tail := if tag = "br"
      then ⟨'\n' :: (if isBlankText tail then [] else tail.text), tail.fixed⟩
      else tail
    let children := layOutAll opens children
    .node tag content (if tag = "pre" then trimmedCode children else children) tail

/-- The same for every element of a list. -/
def layOutAll (outer : Bool) : List Element → List Element
  | [] => []
  | e :: rest => layOut outer e :: layOutAll outer rest

end

end Element

end CrateDoc.Markdown
