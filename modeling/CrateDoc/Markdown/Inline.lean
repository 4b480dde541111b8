import CrateDoc.Markdown.Emphasis
import CrateDoc.Markdown.Link
import CrateDoc.Markdown.Writer

/-!
# Formatting text

The text of a paragraph is formatted by a list of patterns, one after the other: code,
backslashes, links and images, addresses, line breaks, inline HTML, references to characters,
emphasis. A pattern is tried at every place of the text. Where it fits, what it read becomes a
*span*, a mark is left in its place, and the pattern is tried from the start again; the text of
the span is formatted by the patterns that come later.

When no pattern fits any more, the spans are put back into the tree (`place`).
-/

namespace CrateDoc.Markdown

open CrateDoc.Text CrateDoc.Html

/-- What a mark for a span stands for. -/
inductive Span
  | text (s : List Char)
  | element (e : Element)

/-- The finished HTML and the spans of a text. -/
structure Spans where
  stash : Stash
  spans : Array Span := #[]

/-- Formatting, which collects spans. -/
abbrev Formatting := StateM Spans

/-- What a pattern makes of a place in a text. -/
inductive Found
  /-- It does not fit. -/
  | nothing
  /-- What is before the rest is left as it is. -/
  | passed (rest : List Char)
  /-- What is before the rest becomes a text that is not formatted. -/
  | text (s rest : List Char)
  /-- What is before the rest becomes an element. -/
  | element (e : Element) (rest : List Char)
  /-- What is before the rest is finished HTML. -/
  | html (s rest : List Char)
  /-- What is before the rest is a mail address. -/
  | address (s rest : List Char)

/-- A pattern: it is given the character before a place, if there is one, and the text from the
place on. -/
abbrev Pattern := Option Char → List Char → Found

/-! ### Patterns -/

/-- Looks for a run of exactly `count` backticks: the text before it and behind it. `fresh` says
that no backtick stands just before. -/
def backticksEnd? (count : Nat) : Bool → List Char → Option (List Char × List Char)
  | _, [] => none
  | fresh, c :: s =>
    let run := (c :: s).takeWhile (· == '\x60')
    if fresh && run.length == count then some ([], (c :: s).drop count)
    else (backticksEnd? count (c ≠ '\x60') s).map fun (text, rest) => (c :: text, rest)

/-- Reads code that begins with at most `count` backticks and ends with as many. -/
def codeSpan? (s : List Char) : Nat → Option (List Char × List Char)
  | 0 => none
  | count + 1 =>
    (backticksEnd? (count + 1) false (s.drop (count + 1))).or (codeSpan? s count)

/-- Code in backticks; pairs of backslashes before a backtick are one backslash each. -/
def codePattern : Pattern := fun last s =>
  if last = some '\\' then .nothing
  else match s with
    | '\\' :: _ =>
      let run := s.takeWhile (· == '\\')
      let rest := s.drop run.length
      if run.length % 2 = 0 && rest.head? == some '\x60' then
        .text ((List.replicate (run.length / 2) (Mark.literal '\\').text).flatten) rest
      else .nothing
    | '\x60' :: _ =>
      match codeSpan? s (s.takeWhile (· == '\x60')).length with
      | some (code, rest) =>
        .element (.node "code" ⟨escapeHtml false (strip code), true⟩ [] {}) rest
      | none => .nothing
    | _ => .nothing

/-- Characters that a backslash keeps from being read as marks. -/
def escapable : List Char := "\\\x60*_\x7b\x7d[]()>#+-.!".toList

/-- A backslash and the character behind it. -/
def escapePattern : Pattern := fun _ s =>
  match s with
  | '\\' :: c :: rest =>
    if escapable.contains c then .text (Mark.literal c).text rest else .passed rest
  | _ => .nothing

/-- What is read where a bracket opens: `read?` is given the text in the brackets and what is
behind them. -/
def onBracket (read? : List Char → List Char → Option Found) : Pattern := fun last s =>
  match s with
  | '[' :: rest =>
    if last = some '!' then .nothing
    else ((bracketed? 0 rest).bind fun (text, behind) => read? text behind).getD .nothing
  | _ => .nothing

/-- What is read where a bracket opens behind an exclamation mark. -/
def onImage (read? : List Char → List Char → Option Found) : Pattern := fun _ s =>
  match s with
  | '!' :: '[' :: rest =>
    ((bracketed? 0 rest).bind fun (text, behind) => read? text behind).getD (.passed rest)
  | _ => .nothing

/-- A link with its text. -/
def link (text : List Char) : Element := .ofText "a" text

/-- An image, which shows no text. -/
def image : Element := .ofText "img" []

/-- Takes the name that is read for a text, and makes an element if the name is defined. -/
def referred (references : References) (element : List Char → Element)
    (name? : List Char → List Char → Option (List Char × List Char)) (text behind : List Char) :
    Option Found :=
  (name? text behind).map fun (name, rest) =>
    if references.defines name then .element (element text) rest else .passed rest

/-- The text as a name. -/
def ownName (text behind : List Char) : Option (List Char × List Char) :=
  some (lowerCase text, behind)

/-- The text between angle brackets that holds no other angle bracket. -/
def angled? (s : List Char) : Option (List Char × List Char) :=
  match s with
  | '<' :: rest =>
    let inside := rest.takeWhile fun c => c ≠ '<' && c ≠ '>'
    match rest.drop inside.length with
    | '>' :: behind => some (inside, behind)
    | _ => none
  | _ => none

/-- An address of the web in angle brackets. -/
def webPattern : Pattern := fun _ s =>
  match angled? s with
  | some (inside, rest) =>
    if ["http://", "https://", "ftp://", "ftps://"].any fun scheme =>
        startsWithWord scheme.toList inside then
      .element (.node "a" ⟨inside, true⟩ [] {}) rest
    else .nothing
  | none => .nothing

/-- A mail address in angle brackets. -/
def mailPattern : Pattern := fun _ s =>
  match angled? s with
  | some (inside, rest) =>
    let host := takeTrailing (· ≠ '@') inside
    let user := inside.take (inside.length - host.length - 1)
    if inside.contains '@' && !inside.contains ' ' && !host.isEmpty && !user.isEmpty &&
        !user.contains '!' then .address inside rest
    else .nothing
  | none => .nothing

/-- Two spaces at the end of a line. -/
def breakPattern : Pattern := fun _ s =>
  match s with
  | ' ' :: ' ' :: '\n' :: rest => .element (.ofText "br" []) rest
  | _ => .nothing

/-- Reads a comment that holds no other comment. -/
def inlineComment? (s : List Char) : Option (List Char × List Char) :=
  if "<!--".toList.isPrefixOf s then
    (cutAt? "-->".toList (s.drop 4)).bind fun (body, rest) =>
      if occurs "<!--".toList body then none
      else some ("<!--".toList ++ body ++ "-->".toList, rest)
  else none

/-- Inline HTML: a tag, or a comment. -/
def htmlPattern : Pattern := fun _ s =>
  match inlineComment? s with
  | some (comment, rest) => .html comment rest
  | none =>
    match angled? s with
    | some (inside, rest) =>
      let name := match inside with
        | '/' :: name => name
        | name => name
      let word := name.takeWhile (· ≠ ' ')
      if (name.head?.map isAsciiLetter).getD false && !word.contains '@' then
        .html ('<' :: inside ++ ['>']) rest
      else .nothing
    | none => .nothing

/-- A character reference. -/
def entityPattern : Pattern := fun _ s =>
  match s with
  | '&' :: body =>
    let name := body.takeWhile (· ≠ ';')
    let isName : Bool := match name with
      | '#' :: 'x' :: digits => !digits.isEmpty && digits.all isHexDigit
      | '#' :: digits => !digits.isEmpty && digits.all isAsciiDigit
      | _ => !name.isEmpty && name.all fun c => isAsciiLetter c || isAsciiDigit c
    match body.drop name.length with
    | ';' :: rest => if isName then .html ('&' :: name ++ [';']) rest else .nothing
    | _ => .nothing
  | _ => .nothing

/-- Asterisks or underscores, three at most, that stand alone. -/
def lonePattern : Pattern := fun last s =>
  match s with
  | mark :: _ =>
    let run := s.takeWhile (· == mark)
    let rest := s.drop run.length
    if (mark = '*' || mark = '_') && (last.map isBlank).getD true && decide (run.length ≤ 3) &&
        (rest.head?.map isBlank).getD true then .text run rest
    else .nothing
  | [] => .nothing

/-- Emphasis by one kind of mark. -/
def emphasisPattern (mark : Char) : Pattern := fun last s =>
  if s.head? = some mark then
    match emphasis? mark last s with
    | some (e, rest) => .element e rest
    | none => .nothing
  else .nothing

/-- The patterns in the order in which they are applied. -/
def patterns (references : References) : List Pattern :=
  [codePattern, escapePattern,
   onBracket (referred references link referenceBehind?),
   onBracket fun text behind => (destinationEnd? behind).map (.element (link text)),
   onImage fun _ behind => (destinationEnd? behind).map (.element image),
   onImage (referred references (fun _ => image) referenceBehind?),
   onBracket (referred references link ownName),
   onImage (referred references (fun _ => image) ownName),
   webPattern, mailPattern, breakPattern, htmlPattern, entityPattern, lonePattern,
   emphasisPattern '*', emphasisPattern '_']

/-! ### Applying patterns -/

/-- The first place at which a pattern makes something of a text: the text before it, and what it
makes; `fuel` bounds the number of places. -/
def firstFound? (pattern : Pattern) :
    Nat → Option Char → List Char → Option (List Char × Found)
  | 0, _, _ => none
  | fuel + 1, last, s =>
    let next (_ : Unit) : Option (List Char × Found) :=
      match s with
      | [] => none
      | c :: rest => (firstFound? pattern fuel (some c) rest).map fun (before, found) =>
          (c :: before, found)
    match pattern last s with
    | .nothing => next ()
    | .passed rest =>
      let passed := s.take (s.length - rest.length)
      if passed.isEmpty then next ()
      else (firstFound? pattern fuel passed.getLast? rest).map fun (before, found) =>
        (passed ++ before, found)
    | found => some ([], found)

/-- Keeps a span and gives its mark. -/
def keepSpan (span : Span) : Formatting (List Char) := do
  let state ← get
  set { state with spans := state.spans.push span }
  return (Mark.span state.spans.size).text

/-- The text with the spans in it written as HTML; `fuel` bounds how deep they are nested. -/
def writeSpans (spans : Array Span) : Nat → List Char → List Char
  | 0, s => s
  | fuel + 1, s => fillMarks (fun
      | .span n => match spans[n]? with
        | some (.text t) => some ('\\' :: t)
        | some (.element e) => some (writeSpans spans fuel e.write)
        | none => none
      | _ => none) s

/-- A mail address, every character of it as a reference. -/
def mailText (address : List Char) : List Char :=
  let mailto := "mailto:".toList
  (if mailto.isPrefixOf address then address.drop mailto.length else address).flatMap fun c =>
    Mark.ampersand.text ++ '#' :: (toString c.toNat).toList ++ [';']

mutual

/-- Applies patterns in turn to a text; `fuel` bounds how deep spans are nested and how many of
them there are. -/
def format : Nat → List Pattern → List Char → Formatting (List Char)
  | 0, _, s => pure s
  | _ + 1, [], s => pure s
  | fuel + 1, pattern :: later, s =>
    match firstFound? pattern (s.length + 1) none s with
    | none => format fuel later s
    | some (before, found) => do
      let (mark, rest) ← match found with
        | .text t rest => do pure (← keepSpan (.text t), rest)
        | .element e rest => do
          let e ← formatElement fuel pattern later e
          pure (← keepSpan (.element e), rest)
        | .html t rest => do
          let state ← get
          let html := fillLiterals (writeSpans state.spans (state.spans.size + 1) t)
          let (mark, stash) := stashed state.stash html
          set { state with stash := stash }
          pure (← keepSpan (.text mark), rest)
        | .address t rest => do
          let state ← get
          let text := mailText (writeSpans state.spans (state.spans.size + 1) t)
          pure (← keepSpan (.element (.node "a" ⟨text, true⟩ [] {})), rest)
        | .nothing => pure ([], [])
        | .passed rest => pure ([], rest)
      format fuel (pattern :: later) (before ++ mark ++ rest)

/-- Formats the text of a new element and of the elements in it by the later patterns, and the
text behind those by the same. -/
def formatElement : Nat → Pattern → List Pattern → Element → Formatting Element
  | 0, _, _, e => pure e
  | fuel + 1, pattern, later, e => do
    if e.content.fixed then return e
    let text ← format fuel later e.content.text
    let children ← formatChildren fuel pattern later e.children
    return (e.withContent ⟨text, false⟩).withChildren children

/-- The same for the elements in a new element. -/
def formatChildren : Nat → Pattern → List Pattern → List Element → Formatting (List Element)
  | 0, _, _, es => pure es
  | _ + 1, _, _, [] => pure []
  | fuel + 1, pattern, later, e :: rest => do
    let text ← if e.content.fixed then pure e.content.text else format fuel later e.content.text
    let tail ← format fuel (pattern :: later) e.tail.text
    let rest ← formatChildren fuel pattern later rest
    return (e.withContent ⟨text, e.content.fixed⟩).withTail ⟨tail, e.tail.fixed⟩ :: rest

end

/-! ### Putting spans back -/

/-- Text and elements in a row: the text before the first element, and the elements, each with
the text behind it. -/
structure Row where
  lead : Content := {}
  elements : List Element := []

/-- Adds text at the end of a row. -/
def Row.addText (row : Row) (text : Content) : Row :=
  match row.elements.getLast? with
  | some e => { row with
      elements := row.elements.dropLast ++ [e.withTail (e.tail.append text)] }
  | none => { row with lead := row.lead.append text }

/-- Adds an element at the end of a row. -/
def Row.addElement (row : Row) (e : Element) : Row := { row with elements := row.elements ++ [e] }

mutual

/-- The row that a formatted text stands for; `fuel` bounds how deep spans are nested. -/
def place (spans : Array Span) : Nat → Content → Row
  | 0, content => { lead := content }
  | fuel + 1, content =>
    let parts := splitMarks content.text
    let add (row : Row) (part : Part) (fixed : Bool) : Row :=
      match part with
      | .plain text => row.addText ⟨text, fixed⟩
      | .mark mark =>
        match mark.span?.bind (spans[·]?) with
        | some (.text t) => row.addText ⟨t, false⟩
        | some (.element e) => row.addElement (placeIn spans fuel e)
        | none => row.addText ⟨mark.text, false⟩
    let row := parts.dropLast.foldl (fun row part => add row part false) {}
    match parts.getLast? with
    | some part => add row part content.fixed
    | none => row

/-- The element with the spans in its text, and around the elements in it, put back. -/
def placeIn (spans : Array Span) : Nat → Element → Element
  | 0, e => e
  | fuel + 1, e =>
    let inside (e : Element) : Element :=
      if e.content.text.all isBlank then e
      else
        let row := place spans fuel e.content
        (e.withContent row.lead).withChildren (row.elements ++ e.children)
    let children := e.children.flatMap fun child =>
      let child := inside child
      if child.tail.text.all isBlank then [child]
      else
        let row := place spans fuel child.tail
        child.withTail row.lead :: row.elements
    inside (e.withChildren children)

end

/-- Formats and places a text. -/
def formatted (references : References) (content : Content) : Formatting Row := do
  if content.text.isEmpty then return {}
  let text ← if content.fixed then pure content.text
    else format (16 * content.text.length + 64) (patterns references) content.text
  let state ← get
  return place state.spans (content.text.length + 2) ⟨text, content.fixed⟩

/-- Formats the elements in an element, one after the other. New elements behind an element are
formatted like it; new elements at its start are so only if it held elements before. `fuel`
bounds the number of steps on any path. -/
def formatAll (references : References) : Nat → List Element → Formatting (List Element)
  | 0, es => pure es
  | _ + 1, [] => pure []
  | fuel + 1, e :: rest => do
    let text ← if e.content.fixed then pure { lead := e.content }
      else formatted references e.content
    let behind ← formatted references e.tail
    let children ←
      if e.children.isEmpty then
        text.elements.mapM fun span => do
          return span.withChildren (← formatAll references fuel span.children)
      else formatAll references fuel (text.elements ++ e.children)
    let rest ← formatAll references fuel (behind.elements ++ rest)
    return ((e.withContent text.lead).withTail behind.lead).withChildren children :: rest

end CrateDoc.Markdown
