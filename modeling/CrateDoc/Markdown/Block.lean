import CrateDoc.Markdown.Element
import CrateDoc.Markdown.Source
import CrateDoc.Text.Digit
import CrateDoc.Text.LowerCase

/-!
# Block structure

A text is cut into blocks at empty lines. Each block is taken up by the first rule that applies
to it: a rule adds elements to the parent, and may put text back in front of the blocks that are
left. The rules, in order: an empty line, a block indented under a list item, indented code, a
heading marked by `#`, an underlined heading, a horizontal rule, the two kinds of list, a quote,
a definition of a reference, a paragraph.

Rules call the structuring of inner text through an argument, so that each can be read by itself;
`structureBlocks` ties the knot.
-/

namespace CrateDoc.Markdown

open CrateDoc.Text

/-- The names of references that are defined, in lower case. -/
abbrev References := List (List Char)

/-- What the text inside which a block stands says about it. -/
inductive Nesting
  /-- An item of a list whose items follow each other without empty lines. -/
  | list
  /-- An item behind an empty line. -/
  | looseList
  /-- Text whose indentation has been taken off. -/
  | detabbed
  /-- A quote. -/
  | quote
  deriving DecidableEq

/-- How inner text is structured: its nesting, innermost first, the element it is added to, and
its blocks. -/
abbrev Structuring := List Nesting → Element → List (List Char) → StateM References Element

/-- What a block is seen with. -/
structure Setting where
  structuring : Structuring
  nesting : List Nesting
  parent : Element
  block : List Char
  rest : List (List Char)

/-- The parent as a rule leaves it, and the blocks that are left. -/
abbrev Outcome := Element × List (List Char)

/-- A rule: nothing if it does not apply. -/
abbrev Rule := Setting → Option (StateM References Outcome)

/-! ### Text of blocks -/

/-- Cuts a text at every pair of newlines. -/
def splitBlocks : List Char → List (List Char)
  | [] => [[]]
  | '\n' :: '\n' :: rest => [] :: splitBlocks rest
  | c :: rest =>
    match splitBlocks rest with
    | [] => [[c]]
    | block :: more => (c :: block) :: more

/-- The width of one level of indentation. -/
def indentWidth : Nat := 4

/-- Whether a text is indented by one level at least. -/
def isIndented (s : List Char) : Bool := (List.replicate indentWidth ' ').isPrefixOf s

/-- Takes the indentation off the lines at the start that have it or are blank, and gives the
rest. -/
def detab (s : List Char) : List Char × List Char :=
  let lines := newlineLines s
  let own := lines.takeWhile fun line => isIndented line || (strip line).isEmpty
  (joinWith ['\n'] (own.map fun line => if isIndented line then line.drop indentWidth else []),
    joinWith ['\n'] (lines.drop own.length))

/-- Takes some levels of indentation off every line that has them. -/
def looseDetab (levels : Nat) (s : List Char) : List Char :=
  let width := indentWidth * levels
  joinWith ['\n'] ((newlineLines s).map fun line =>
    if (List.replicate width ' ').isPrefixOf line then line.drop width else line)

/-- Takes three spaces at most off the start. -/
def dropMargin (s : List Char) : List Char :=
  s.drop (min 3 (s.takeWhile (· == ' ')).length)

/-- Looks for the first line at which a reader succeeds: the text before the line, without the
newline that ends it, and what was read. -/
def atLine? {α : Type} (read? : List Char → Option α) (s : List Char) : Option (List Char × α) :=
  let rec search : List Char → Option (List Char × α)
    | [] => none
    | '\n' :: rest =>
      match read? rest with
      | some found => some ([], found)
      | none => (search rest).map fun (before, found) => ('\n' :: before, found)
    | c :: rest => (search rest).map fun (before, found) => (c :: before, found)
  match read? s with
  | some found => some ([], found)
  | none => search s

/-! ### Changing the last element -/

/-- The last of the elements inside. -/
def lastChild? (parent : Element) : Option Element := parent.children.getLast?

/-- Adds an element at the end. -/
def addChild (parent child : Element) : Element :=
  parent.withChildren (parent.children ++ [child])

/-- Puts another element in place of the last. -/
def setLast (parent child : Element) : Element :=
  parent.withChildren (parent.children.dropLast ++ [child])

/-- Whether an element is a list. -/
def isList (e : Element) : Bool := e.tag == "ul" || e.tag == "ol"

/-- Whether the last element inside is a list. -/
def endsInList (parent : Element) : Bool := ((lastChild? parent).map isList).getD false

/-- The item with its text moved into a paragraph of its own. -/
def paragraphed (item : Element) : Element :=
  if item.content.text.isEmpty then item
  else (item.withContent {}).withChildren
    ((Element.node "p" item.content [] {}) :: item.children)

/-- The code of an element that holds a block of code. -/
def codeOf? (e : Element) : Option (List Char) :=
  match e with
  | .node "pre" _ (.node "code" content _ _ :: _) _ => some content.text
  | _ => none

/-- A block of code. -/
def codeBlock (text : List Char) : Element :=
  .ofChildren "pre" [.node "code" ⟨text, true⟩ [] {}]

/-- The code that the last element inside holds, if it is a block of code. -/
def lastCode? (parent : Element) : Option (List Char) := (lastChild? parent).bind codeOf?

/-- Puts other text into the block of code that is the last element inside. -/
def setLastCode (parent : Element) (text : List Char) : Element :=
  match lastChild? parent with
  | some (.node tag content (code :: more) tail) =>
    setLast parent (.node tag content (code.withContent ⟨text, true⟩ :: more) tail)
  | _ => parent

/-! ### Rules -/

/-- The blocks with a text in front, if there is any. -/
def putBack (text : List Char) (rest : List (List Char)) : List (List Char) :=
  if text.isEmpty then rest else text :: rest

/-- An empty line is dropped, except that it belongs to the code before it. -/
def emptyRule : Rule := fun s =>
  let leave (filler : List Char) : Element :=
    match lastCode? s.parent with
    | some code => setLastCode s.parent (code ++ filler)
    | none => s.parent
  match s.block with
  | [] => some (pure (leave ['\n', '\n'], s.rest))
  | '\n' :: more => some (pure (leave ['\n'], putBack more s.rest))
  | _ => none

/-- Applies a change to the element that is reached by going to the last element inside, and so
on, a number of times. -/
def changeDeep (change : Element → StateM References Element) :
    Nat → Element → StateM References Element
  | 0, e => change e
  | depth + 1, e =>
    match lastChild? e with
    | some child => do return setLast e (← changeDeep change depth child)
    | none => pure e

/-- Goes down from an element through lists and items until the wanted level of lists is reached:
the level and how many elements deep it was found. -/
def descend (wanted : Nat) : Nat → Nat → Nat → Element → Nat × Nat × Element
  | 0, level, depth, e => (level, depth, e)
  | fuel + 1, level, depth, e =>
    if level < wanted then
      match lastChild? e with
      | some child =>
        if isList child then descend wanted fuel (level + 1) (depth + 1) child
        else if child.tag == "li" then descend wanted fuel level (depth + 1) child
        else (level, depth, e)
      | none => (level, depth, e)
    else (level, depth, e)

/-- A block indented under a list belongs to its last item. -/
def indentRule : Rule := fun s =>
  let inItem := s.parent.tag == "li"
  if isIndented s.block && s.nesting.head? ≠ some .detabbed && (inItem || endsInList s.parent) then
    let wanted := (s.block.takeWhile (· == ' ')).length / indentWidth
    let level := if s.nesting.head? = some .list then 1 else 0
    let (level, depth, target) := descend wanted (2 * wanted + 2) level 0 s.parent
    let block := looseDetab level s.block
    let inner := s.structuring (.detabbed :: s.nesting)
    let change (e : Element) : StateM References Element :=
      match lastChild? e with
      | some child =>
        if child.tag == "li" then do
          return setLast e (← inner (paragraphed child) (splitBlocks block))
        else do return addChild e (← inner (.ofText "li" []) [block])
      | none => do return addChild e (← inner (.ofText "li" []) [block])
    some do
      let parent ← if inItem then
          if endsInList s.parent then changeDeep (fun e => inner e [block]) 1 s.parent
          else inner s.parent [block]
        else if target.tag == "li" then changeDeep (fun e => inner e [block]) depth s.parent
        else changeDeep change depth s.parent
      return (parent, s.rest)
  else none

/-- An indented block is code; it continues the code before it. -/
def codeRule : Rule := fun s =>
  if isIndented s.block then
    let (own, behind) := detab s.block
    let code := escapeHtml false (stripRight own)
    let parent := match lastCode? s.parent with
      | some before => setLastCode s.parent (before ++ '\n' :: code ++ ['\n'])
      | none => addChild s.parent (codeBlock (code ++ ['\n']))
    some (pure (parent, putBack behind s.rest))
  else none

/-- Reads the number signs that may end a heading, and the end of its line. -/
def headingEnd? (s : List Char) : Option (List Char) :=
  match s.dropWhile (· == '#') with
  | [] => some []
  | '\n' :: rest => some rest
  | _ => none

/-- Reads the text of a heading, up to the number signs that end its line. A backslash keeps the
character behind it from ending the heading. -/
def headingText? : List Char → Option (List Char × List Char)
  | [] => some ([], [])
  | '\\' :: c :: rest =>
    if c = '\n' then none
    else (headingText? rest).map fun (text, behind) => ('\\' :: c :: text, behind)
  | c :: rest =>
    match headingEnd? (c :: rest) with
    | some behind => some ([], behind)
    | none =>
      if c = '\\' then none
      else (headingText? rest).map fun (text, behind) => (c :: text, behind)

/-- Reads a heading marked by number signs: its level, its text and what is behind it. -/
def heading? (s : List Char) : Option (Nat × List Char × List Char) :=
  let level := min 6 (s.takeWhile (· == '#')).length
  if level = 0 then none
  else (headingText? (s.drop level)).map fun (text, behind) => (level, text, behind)

/-- The tag of a heading. -/
def headingTag (level : Nat) : String := "h" ++ toString level

/-- A line that begins with number signs is a heading. -/
def headingRule : Rule := fun s =>
  (atLine? heading? s.block).map fun (before, level, text, behind) => do
    let parent ← if before.isEmpty then pure s.parent
      else s.structuring s.nesting s.parent [before]
    let behind := if s.nesting.head? = some .looseList then looseDetab 1 behind else behind
    return (addChild parent (.ofText (headingTag level) (strip text)), putBack behind s.rest)

/-- A first line that is underlined by equals signs or hyphens is a heading. -/
def underlineRule : Rule := fun s =>
  match newlineLines s.block with
  | first :: second :: more =>
    let marks := dropTrailing (· == ' ') second
    if !marks.isEmpty && marks.all fun c => c == '=' || c == '-' then
      let level := if second.head? = some '=' then 1 else 2
      some (pure (addChild s.parent (.ofText (headingTag level) (strip first)),
        if more.isEmpty then s.rest else joinWith ['\n'] more :: s.rest))
    else none
  | _ => none

/-- Whether a text consists of one character, with two spaces at most between its places. -/
def isSpaced (mark : Char) : Nat → List Char → Bool
  | _, [] => true
  | spaces, c :: rest =>
    if c == mark then isSpaced mark 0 rest
    else c == ' ' && decide (spaces < 2) && isSpaced mark (spaces + 1) rest

/-- Whether a line is a horizontal rule: three hyphens, underscores or asterisks, or more. -/
def isRuleLine (line : List Char) : Bool :=
  let body := dropTrailing (· == ' ') (dropMargin line)
  match body with
  | mark :: _ => (mark == '-' || mark == '_' || mark == '*') && isSpaced mark 0 body &&
      decide (3 ≤ body.count mark)
  | [] => false

/-- Takes newlines off the start. -/
def dropNewlines (s : List Char) : List Char := s.dropWhile (· == '\n')

/-- A line of hyphens, underscores or asterisks is a horizontal rule. -/
def horizontalRule : Rule := fun s =>
  let lines := newlineLines s.block
  let before := lines.takeWhile (!isRuleLine ·)
  match lines.drop before.length with
  | [] => none
  | _ :: behind => some do
    let text := dropTrailing (· == '\n') (joinWith ['\n'] before)
    let parent ← if text.isEmpty then pure s.parent else s.structuring s.nesting s.parent [text]
    return (addChild parent (.ofText "hr" []),
      putBack (dropNewlines (joinWith ['\n'] behind)) s.rest)

/-- Reads the mark of an item at the start of a text, and the spaces behind it. -/
def itemBody? (ordered unordered : Bool) (s : List Char) : Option (List Char) :=
  let digits := s.takeWhile fun c => (digitValue? c).isSome
  let behind? := match s with
    | c :: rest =>
      if unordered && (c == '*' || c == '+' || c == '-') then some rest
      else if ordered && !digits.isEmpty && (s.drop digits.length).head? = some '.' then
        some (s.drop (digits.length + 1))
      else none
    | [] => none
  behind?.bind fun behind => match behind with
    | ' ' :: _ => some (behind.dropWhile (· == ' '))
    | _ => none

/-- Adds a line to the last item. -/
def continueItem (line : List Char) : List (List Char) → List (List Char)
  | [] => [line]
  | item :: more => (item ++ '\n' :: line) :: more

/-- Takes in one line of a list; items are kept last first. -/
def addLine (items : List (List Char)) (line : List Char) : List (List Char) :=
  let spaces := (line.takeWhile (· == ' ')).length
  let body? := itemBody? true true (line.drop spaces)
  if spaces < indentWidth ∧ body?.isSome then body?.getD [] :: items
  else if spaces < 2 * indentWidth ∧ body?.isSome ∧ !((items.head?.map isIndented).getD false) then
    line :: items
  else continueItem line items

/-- The items of a list that is written in one block. -/
def itemsOf (block : List Char) : List (List Char) :=
  ((newlineLines block).foldl addLine []).reverse

/-- Adds items to a list; an indented item is part of the item before it. -/
def addItems (inner : Structuring) (nesting : List Nesting) :
    List (List Char) → Element → StateM References Element
  | [], list => pure list
  | item :: items, list => do
    let list ← match isIndented item, lastChild? list with
      | true, some last => setLast list <$> inner nesting last [item]
      | _, _ => addChild list <$> inner nesting (.ofText "li" []) [item]
    addItems inner nesting items list

/-- The last item of a list made ready for an item behind an empty line. -/
def loosened (item : Element) : Element :=
  let item := paragraphed item
  match lastChild? item with
  | some child =>
    if child.tail.text.isEmpty then item
    else addChild (setLast item (child.withTail {})) (.ofText "p" (stripLeft child.tail.text))
  | none => item

/-- A block that begins with the mark of an item is a list; it continues a list before it. -/
def listRule (tag : String) (ordered : Bool) : Rule := fun s =>
  (itemBody? ordered (!ordered) (dropMargin s.block)).map fun _ => do
    let items := itemsOf s.block
    let tight := .list :: s.nesting
    match (lastChild? s.parent).filter isList with
    | some list =>
      let list := match lastChild? list with
        | some item => setLast list (loosened item)
        | none => list
      let first ← s.structuring (.looseList :: s.nesting) (.ofText "li" []) (items.take 1)
      let list ← addItems s.structuring tight (items.drop 1) (addChild list first)
      return (setLast s.parent list, s.rest)
    | none =>
      if isList s.parent then
        let list ← addItems s.structuring tight items s.parent
        return (list, s.rest)
      else
        let list ← addItems s.structuring tight items (.ofText tag [])
        return (addChild s.parent list, s.rest)

/-- Reads the mark of a quoted line, with the space behind it. -/
def quoted? (line : List Char) : Option (List Char) :=
  match dropMargin line with
  | '>' :: ' ' :: rest => some rest
  | '>' :: rest => some rest
  | _ => none

/-- A line without the mark of a quote. -/
def unquoted (line : List Char) : List Char :=
  if strip line = ['>'] then [] else (quoted? line).getD line

/-- A line that begins with `>` begins a quote, which goes on to the end of the block; it
continues a quote before it. -/
def quoteRule : Rule := fun s =>
  (atLine? quoted? s.block).map fun (before, _) => do
    let parent ← s.structuring s.nesting s.parent [before]
    let text := joinWith ['\n'] ((newlineLines (s.block.drop before.length)).map unquoted)
    let inner (quote : Element) := s.structuring (.quote :: s.nesting) quote (splitBlocks text)
    match lastChild? parent with
    | some last =>
      if last.tag == "blockquote" then return (setLast parent (← inner last), s.rest)
      else return (addChild parent (← inner (.ofText "blockquote" [])), s.rest)
    | none => return (addChild parent (← inner (.ofText "blockquote" [])), s.rest)

/-- Reads a title in quotes or parentheses that ends its line. -/
def titleEnd? (s : List Char) : Option (List Char) :=
  let line := s.takeWhile (· ≠ '\n')
  let closes (mark : Char) : Bool := (dropTrailing (· == ' ') (line.drop 1)).getLast? == some mark
  let closed := match line.head? with
    | some '\x22' => closes '\x22'
    | some '\x27' => closes '\x27'
    | some '(' => closes ')'
    | _ => false
  if closed then some (s.drop line.length) else none

/-- The end of the line, with nothing left before it. -/
def bareEnd? : List Char → Option (List Char)
  | [] => some []
  | '\n' :: rest => some ('\n' :: rest)
  | _ => none

/-- Reads what may follow the address in a definition: spaces, a newline, a title. -/
def definitionEnd? (s : List Char) : Option (List Char) :=
  let here := s.dropWhile (· == ' ')
  let titled (s : List Char) : Option (List Char) := (titleEnd? s).or (bareEnd? s)
  match here with
  | '\n' :: below => (titled (below.dropWhile (· == ' '))).or (titled here)
  | _ => titled here

/-- Reads an address, as long as what follows it allows. -/
def address? (size : Nat) (s : List Char) : Option (List Char) :=
  match size with
  | 0 => none
  | size + 1 => (definitionEnd? (s.drop (size + 1))).or (address? size s)

/-- Reads the definition of a reference: its name and what is behind it. -/
def definition? (s : List Char) : Option (List Char × List Char) :=
  match dropMargin s with
  | '[' :: rest =>
    let name := rest.takeWhile fun c => c ≠ '[' && c ≠ ']'
    match rest.drop name.length with
    | ']' :: ':' :: rest =>
      let here := rest.dropWhile (· == ' ')
      let address := (match here with
        | '\n' :: below => below
        | _ => here).dropWhile (· == ' ')
      (address? (address.takeWhile (!isBlank ·)).length address).map fun behind => (name, behind)
    | _ => none
  | _ => none

/-- The name under which a reference is known. -/
def referenceName (name : List Char) : List Char := lowerCase (strip name)

/-- The definition of a reference is taken out of the text. -/
def definitionRule : Rule := fun s =>
  (atLine? definition? s.block).map fun (before, name, behind) => do
    modify (referenceName name :: ·)
    let rest := if (strip behind).isEmpty then s.rest else dropNewlines behind :: s.rest
    return (s.parent, if (strip before).isEmpty then rest
      else dropTrailing (· == '\n') before :: rest)

/-- Every other block is a paragraph, or the text of an item. -/
def paragraphRule : Rule := fun s =>
  if (strip s.block).isEmpty then some (pure (s.parent, s.rest))
  else if s.nesting.head? = some .list then
    match lastChild? s.parent with
    | some last => some (pure (setLast s.parent
        (last.withTail ⟨last.tail.text ++ '\n' :: s.block, false⟩), s.rest))
    | none =>
      let text := s.parent.content.text
      some (pure (s.parent.withContent ⟨if text.isEmpty then stripLeft s.block
        else text ++ '\n' :: stripLeft s.block, false⟩, s.rest))
  else some (pure (addChild s.parent (.ofText "p" (stripLeft s.block)), s.rest))

/-- The rules, in the order in which they are tried. -/
def rules : List Rule :=
  [emptyRule, indentRule, codeRule, headingRule, underlineRule, horizontalRule,
   listRule "ol" true, listRule "ul" false, quoteRule, definitionRule, paragraphRule]

/-- Takes up blocks one after the other; `fuel` bounds the number of steps on any path. -/
def structureBlocks : Nat → Structuring
  | 0, _, parent, _ => pure parent
  | _ + 1, _, parent, [] => pure parent
  | fuel + 1, nesting, parent, block :: rest =>
    match rules.findSome? (· ⟨structureBlocks fuel, nesting, parent, block, rest⟩) with
    | some outcome => do
      let (parent, rest) ← outcome
      structureBlocks fuel nesting parent rest
    | none => structureBlocks fuel nesting parent rest

/-- The tree of a text, and the references that it defines. -/
def structured (s : List Char) : Element × References :=
  (structureBlocks (4 * s.length + 16) [] (.ofText "div" []) (splitBlocks s)).run []

end CrateDoc.Markdown
