import CrateDoc.Html.Event
import CrateDoc.Markdown.Element
import CrateDoc.Markdown.Source

/-!
# HTML blocks in a text

A text may hold HTML. Elements that stand on lines of their own are taken out of it, with all
that is in them, and a mark is left for each; inline markup stays where it is.

An HTML block begins with the start tag of such an element at the start of a line, at most three
spaces in, and ends with the matching end tag. Text on the same line behind the end tag is the
block's *tail*: a block may begin anywhere in it.

Reading goes on to the end of the text, or to a `&#` that begins no reference: there the rest is
read once more from the start, with positions counted in the rest. A second such place leaves
what is behind it as it is. A start tag that cannot be read ends it all (`PageError`), wherever it
stands: in a code span, too.
-/

namespace CrateDoc.Markdown

open CrateDoc.Text CrateDoc.Html

/-- The state of reading HTML blocks. -/
structure BlockReader where
  stash : Stash
  /-- The pieces of the text without its blocks, last first. -/
  done : List (List Char) := []
  /-- The text of the block that is open. -/
  block : List Char := []
  /-- The elements open in the block, innermost first. -/
  open_ : List (List Char) := []
  inBlock : Bool := false
  inTail : Bool := false
  /-- The element whose content is not markup, if one is open. -/
  rawElement : Option (List Char) := none
  /-- The text in which positions are looked up. -/
  held : List Char
  /-- How many line ends have been passed. -/
  line : Nat := 0
  /-- How many characters of the line have been passed. -/
  column : Nat := 0
  /-- Where lines start in `held`, for the lines looked up so far, last first. -/
  starts : List Nat := [0]

namespace BlockReader

/-- Moves on over a text. -/
def pass (r : BlockReader) (text : List Char) : BlockReader :=
  text.foldl (fun r c => if c = '\n' then { r with line := r.line + 1, column := 0 }
    else { r with column := r.column + 1 }) r

/-- Adds text that stays. -/
def keep (r : BlockReader) (text : List Char) : BlockReader := { r with done := text :: r.done }

/-- Adds text to the open block. -/
def cache (r : BlockReader) (text : List Char) : BlockReader := { r with block := r.block ++ text }

/-- Puts HTML into the stash and leaves its mark. -/
def store (r : BlockReader) (html : List Char) : BlockReader :=
  let (mark, stash) := stashed r.stash html
  { r with stash := stash }.keep mark

/-- Looks up where `count` more lines start. -/
def lookUp (held : List Char) : Nat → List Nat → List Nat
  | 0, starts => starts
  | count + 1, starts =>
    let last := starts.headD 0
    let next := min held.length (last + ((held.drop last).takeWhile (· ≠ '\n')).length) + 1
    lookUp held count (next :: starts)

/-- The reader with the start of the present line looked up, and that start. -/
def lineStart (r : BlockReader) : BlockReader × Nat :=
  let starts := lookUp r.held (r.line + 1 - r.starts.length) r.starts
  ({ r with starts := starts }, (starts[starts.length - 1 - r.line]?).getD 0)

/-- Whether only spaces, at most three, stand before the present position on its line. -/
def atLineStart (r : BlockReader) : BlockReader × Bool :=
  if r.column = 0 then (r, true)
  else if 3 < r.column then (r, false)
  else
    let (r, start) := r.lineStart
    (r, ((r.held.drop start).take r.column).all isBlank)

/-- The text from the present position on. -/
def ahead (r : BlockReader) : BlockReader × List Char :=
  let (r, start) := r.lineStart
  (r, r.held.drop (start + r.column))

/-- Whether a text begins with two empty lines. -/
def startsBlank (s : List Char) : Bool :=
  match s.dropWhile (· == ' ') with
  | '\n' :: rest => (rest.dropWhile (· == ' ')).head? = some '\n'
  | _ => false

/-- Takes in plain text. -/
def onText (r : BlockReader) (text : List Char) : BlockReader :=
  let r := { r with inTail := r.inTail && !text.contains '\n' }
  if r.inBlock then r.cache text else r.keep text

/-- Takes in a piece of markup that holds nothing. -/
def onEmpty (r : BlockReader) (text : List Char) (isBlock : Bool) : BlockReader :=
  if r.inBlock || r.inTail then r.cache text
  else
    let (r, atStart) := if isBlock then r.atLineStart else (r, false)
    if atStart then
      let (r, ahead) := r.ahead
      let (r, text) := if startsBlank (ahead.drop text.length) then (r, text ++ ['\n'])
        else ({ r with inTail := true }, text)
      let last := r.done.headD []
      let r := if ['\n'].isSuffixOf last && !(['\n', '\n'].isSuffixOf last)
        then r.keep ['\n'] else r
      (r.store text).keep ['\n', '\n']
    else r.keep text

/-- Takes in a start tag. -/
def onOpening (r : BlockReader) (name text : List Char) : BlockReader :=
  if name = "hr".toList then r.onEmpty text true
  else
    let (r, atStart) := if isBlockTag name && !r.inTail then r.atLineStart else (r, false)
    let r := if isBlockTag name && (r.inTail || atStart && !r.inBlock) then
      { r with inBlock := true }.keep ['\n'] else r
    if r.inBlock then { r.cache text with open_ := name :: r.open_ }
    else { r.keep text with rawElement := none }

/-- Takes in an end tag. -/
def onClosing (r : BlockReader) (name : List Char) : BlockReader :=
  let (r, ahead) := r.ahead
  let text := match cutAt? ['>'] ahead with
    | some (inside, _) => inside ++ ['>']
    | none => "</".toList ++ name ++ ['>']
  if r.inBlock then
    let r := r.cache text
    let r := if r.open_.contains name then
      { r with open_ := (r.open_.dropWhile (· ≠ name)).drop 1 } else r
    if r.open_.isEmpty then
      let r := if startsBlank (ahead.drop text.length) then r.cache ['\n']
        else { r with inTail := true }
      { (r.store r.block).keep ['\n', '\n'] with inBlock := false, block := [] }
    else r
  else r.keep text

/-- Reads the start of an entity or number behind `&`, up to its semicolon. -/
def entityName? (s : List Char) : Option (List Char) :=
  match s with
  | c :: rest =>
    if isAsciiLetter c then
      let more := rest.takeWhile fun c =>
        isAsciiLetter c || isAsciiDigit c || c == '-' || c == '.'
      if (rest.drop more.length).head? = some ';' then some (c :: more) else none
    else none
  | [] => none

/-- Reads the number behind `&#`, which ends at a character that is no hexadecimal digit. -/
def characterNumber? (s : List Char) : Option (List Char) :=
  let run (lead digits : List Char) (isDigit : Char → Bool) : Option (List Char) :=
    let number := digits.takeWhile isDigit
    match digits.drop number.length with
    | c :: _ => if number.isEmpty || isHexDigit c then none else some (lead ++ number)
    | [] => none
  match s with
  | 'x' :: digits => run ['x'] digits isHexDigit
  | 'X' :: digits => run ['X'] digits isHexDigit
  | digits => run [] digits isAsciiDigit

/-- What one step of reading comes to. -/
inductive Outcome
  /-- Reading goes on behind the text given. -/
  | on (reader : BlockReader) (text : List Char)
  /-- The markup here never ends. -/
  | unfinished (reader : BlockReader)
  /-- Reading is interrupted behind the text given. -/
  | stop (reader : BlockReader) (text : List Char)

/-- Reads a declaration, the text behind whose `<!` is given. -/
def onDeclaration (r : BlockReader) (s : List Char) : Outcome :=
  let (r, atStart) := r.atLineStart
  if atStart || r.inTail then
    if "[CDATA[".toList.isPrefixOf s then
      match upToMark? sectionClose? (s.drop 1) with
      | some (body, rest) =>
        .on (r.onEmpty ("<![".toList ++ body ++ "]]>".toList) true)
          ("<!".toList ++ s.take (s.length - rest.length))
      | none => .unfinished r
    else match cutAt? ['>'] s with
      | some (body, _) =>
        let text := "<!".toList ++ body ++ ['>']
        .on (r.onEmpty text (startsWithWord "doctype".toList s)) text
      | none => if s.head? = some '[' then .on (r.onText ['<']) ['<'] else .unfinished r
  else .on (r.onText ['<', '!']) ['<', '!']

/-- Reads the start tag at the start of a text. -/
def onStartTag (r : BlockReader) (s : List Char) : Except PageError Outcome := do
  match ← Opening.read .prose s with
  | .unfinished => return .on (r.onText ['<']) ['<']
  | .stray text _ => return .on (r.onText text) text
  | .tag name text true _ => return .on (r.onEmpty text (isBlockTag name)) text
  | .tag name text false _ =>
    let r := if Event.isRawElement name then { r with rawElement := some name } else r
    return .on (r.onOpening name text) text

/-- Reads the markup or reference at the start of a text. -/
def step (r : BlockReader) (s : List Char) : Except PageError Outcome :=
  match s with
  | '<' :: '/' :: rest =>
    let upTo (behind : List Char) : List Char := s.take (s.length - behind.length)
    match Closing.read rest with
    | .tag name behind => .ok (.on (r.onClosing name) (upTo behind))
    | .empty behind => .ok (.on r (upTo behind))
    | .stray behind => .ok (.on (r.onEmpty (upTo behind) false) (upTo behind))
    | .unfinished => .ok (.unfinished r)
  | '<' :: '!' :: '-' :: '-' :: rest =>
    match comment? rest with
    | some (body, behind) =>
      .ok (.on (r.onEmpty ("<!--".toList ++ body ++ "-->".toList) true)
        (s.take (s.length - behind.length)))
    | none => .ok (.unfinished r)
  | '<' :: '?' :: rest =>
    let (r, atStart) := r.atLineStart
    if atStart || r.inTail then
      match cutAt? ['?', '>'] rest with
      | some (body, _) =>
        let text := "<?".toList ++ body ++ "?>".toList
        .ok (.on (r.onEmpty text true) text)
      | none => .ok (.unfinished r)
    else .ok (.on (r.onText ['<', '?']) ['<', '?'])
  | '<' :: '!' :: rest => .ok (r.onDeclaration rest)
  | '<' :: c :: _ => if isAsciiLetter c then r.onStartTag s else .ok (.on (r.onText ['<']) ['<'])
  | '&' :: '#' :: rest =>
    match characterNumber? rest with
    | some number =>
      let text := "&#".toList ++ number
      .ok (.on (r.onEmpty (text ++ [';']) false)
        (if (rest.drop number.length).head? = some ';' then text ++ [';'] else text))
    | none =>
      .ok (if rest.contains ';' then .stop (r.onText ['&', '#']) ['&', '#'] else .stop r [])
  | '&' :: rest =>
    match entityName? rest with
    | some name =>
      let text := '&' :: name ++ [';']
      .ok (.on (r.onEmpty text false) text)
    | none => .ok (if rest.isEmpty then .stop r [] else .on (r.onText ['&']) ['&'])
  | _ => .ok (.stop r [])

/-- Reads a text up to its end or to the first interruption; `fuel` bounds the number of steps.
In the last reading, markup that never ends is text. -/
def read (final : Bool) : Nat → BlockReader → List Char → Except PageError (BlockReader × List Char)
  | 0, r, s => .ok (r, s)
  | fuel + 1, r, s =>
    match r.rawElement with
    | some name =>
      match Event.rawContent? name s with
      | some (content, rest) =>
        let r := (if content.isEmpty then r else r.onText content).pass content
        let tag := (s.drop content.length).take (s.length - content.length - rest.length)
        read final fuel ({ r.onClosing name with rawElement := none }.pass tag) rest
      | none => .ok (r, s)
    | none =>
      let content := s.takeWhile fun c => c ≠ '<' && c ≠ '&'
      let r := (if content.isEmpty then r else r.onText content).pass content
      let s := s.drop content.length
      if s.isEmpty then .ok (r, [])
      else do
        match ← r.step s with
        | .on r text => read final fuel (r.pass text) (s.drop text.length)
        | .stop r text => return (r.pass text, s.drop text.length)
        | .unfinished r =>
          if final then
            let (text, rest) := Event.strayMarkup (s.drop 1)
            read final fuel ((r.onText text).pass text) rest
          else return (r, s)

end BlockReader

/-- The text with a mark for every HTML block, and the stash with the blocks added. -/
def takeHtmlBlocks (stash : Stash) (s : List Char) : Except PageError (List Char × Stash) := do
  let (r, rest) ← BlockReader.read false (s.length + 1) { stash := stash, held := s } s
  let (r, rest) ← BlockReader.read true (rest.length + 1) { r with held := rest } rest
  let r := if rest.isEmpty then r else r.onText rest
  let r := if r.block.isEmpty then r else r.store r.block
  return (r.done.reverse.flatten, r.stash)

end CrateDoc.Markdown
