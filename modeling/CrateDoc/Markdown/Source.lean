import CrateDoc.Markdown.Mark
import CrateDoc.Text.Word

/-!
# Source text and fenced code

The first steps of formatting: the source is normalised (newlines only, no tabs, no line of
spaces), and fenced code is taken out of it.

* `normalise` ends every text with two newlines.
* `takeFences` leaves a mark for every fence that is closed. A fence is closed by a line that has
  the same run of backticks or tildes and nothing else but spaces; one that is never closed is
  ordinary text.
-/

namespace CrateDoc.Markdown

open CrateDoc.Text

/-- Replaces tabs by spaces up to the next column that is a multiple of four. -/
def expandTabs (column : Nat) : List Char → List Char
  | [] => []
  | '\t' :: rest =>
    List.replicate (4 - column % 4) ' ' ++ expandTabs (column + (4 - column % 4)) rest
  | c :: rest => c :: expandTabs (if c = '\n' then 0 else column + 1) rest

/-- Whether a text holds spaces only. -/
def isSpaces (s : List Char) : Bool := s.all (· == ' ')

/-- Empties every line of spaces but the first line. -/
def emptyBlankLines (s : List Char) : List Char :=
  match newlineLines s with
  | [] => []
  | first :: more => joinWith ['\n'] (first :: more.map fun l => if isSpaces l then [] else l)

/-- The source with newlines only, no tabs, no characters that marks are made of, and two newlines
at its end. -/
def normalise (source : List Char) : List Char :=
  let clean := source.filter fun c => c ≠ markOpen && c ≠ markClose
  emptyBlankLines (expandTabs 0 (unifyNewlines clean ++ ['\n', '\n']))

/-- A text in which the characters that HTML gives a meaning are written as references. -/
def escapeHtml (quotes : Bool) (s : List Char) : List Char :=
  s.flatMap fun c =>
    if c = '&' then "&amp;".toList
    else if c = '<' then "&lt;".toList
    else if c = '>' then "&gt;".toList
    else if c = '\x22' && quotes then "&quot;".toList
    else [c]

/-! ### Fences -/

/-- A character of the language word behind a fence. -/
def isLanguageCharacter (c : Char) : Bool :=
  isWord c || c == '#' || c == '.' || c == '+' || c == '-'

/-- Reads spaces and the newline that ends the line. -/
def lineEnd? (s : List Char) : Option (List Char) :=
  match s.dropWhile (· == ' ') with
  | '\n' :: rest => some rest
  | _ => none

/-- Reads the list of highlighted lines up to a closing quote that ends its line. -/
def highlightEnd? (quote : Char) : List Char → Option (List Char)
  | [] => none
  | c :: rest =>
    match (if c = quote then lineEnd? rest else none) with
    | some behind => some behind
    | none => highlightEnd? quote rest

/-- The word that names the highlighted lines. -/
def highlightWord : List Char := "hl_lines".toList

/-- Reads `hl_lines="…"` and the end of the line. -/
def highlight? (s : List Char) : Option (List Char) :=
  if highlightWord.isPrefixOf s then
    match s.drop highlightWord.length with
    | '=' :: '\x22' :: rest => highlightEnd? '\x22' rest
    | '=' :: '\x27' :: rest => highlightEnd? '\x27' rest
    | _ => none
  else none

/-- A character of a name or bare value in a list of attributes. -/
def isAttributeCharacter (c : Char) : Bool := !(c == ' ' || c == '=' || c == '}')

/-- What follows the last attribute that can be read; `fuel` bounds their number. -/
def behindAttributes : Nat → List Char → List Char
  | 0, s => s
  | _ + 1, [] => []
  | fuel + 1, c :: s =>
    if c = ' ' then behindAttributes fuel s
    else if isAttributeCharacter c then
      let rest := s.dropWhile isAttributeCharacter
      let quoted (quote : Char) (body : List Char) : List Char :=
        match cutAt? [quote] body with
        | some (_, behind) => behindAttributes fuel behind
        | none => behindAttributes fuel (body.dropWhile isAttributeCharacter)
      match rest with
      | '=' :: '\x22' :: body => quoted '\x22' body
      | '=' :: '\x27' :: body => quoted '\x27' body
      | '=' :: v :: body =>
        if isAttributeCharacter v then behindAttributes fuel (body.dropWhile isAttributeCharacter)
        else rest
      | _ => behindAttributes fuel rest
    else c :: s

/-- Reads what follows an opening fence on its line: attributes in braces, or a language word and
highlighted lines. -/
def info? (s : List Char) : Option (List Char) :=
  match s with
  | '{' :: rest =>
    let line := rest.takeWhile (· ≠ '\n')
    let inside := line.dropLast
    if line.getLast? = some '}' ∧ !(behindAttributes line.length inside).contains '}' then
      lineEnd? (rest.drop line.length)
    else none
  | _ =>
    let word := s.takeWhile isLanguageCharacter
    let behind := s.drop word.length
    match lineEnd? behind with
    | some rest => some rest
    | none =>
      match highlight? (behind.dropWhile (· == ' ')) with
      | some rest => some rest
      | none =>
        if highlightWord.isSuffixOf word then highlight? (highlightWord ++ behind) else none

/-- Reads an opening fence: the fence, and the text behind its line. -/
def openingFence? (s : List Char) : Option (List Char × List Char) :=
  match s with
  | c :: _ =>
    if c = '~' || c = '\x60' then
      let fence := s.takeWhile (· == c)
      if 3 ≤ fence.length then
        (info? ((s.drop fence.length).dropWhile (· == ' '))).map fun rest => (fence, rest)
      else none
    else none
  | [] => none

/-- Reads lines up to the one that closes a fence: the code before it, and the text from the end
of that line on. -/
def closingFence? (fence : List Char) (s : List Char) : Option (List Char × List Char) :=
  let line := s.takeWhile (· ≠ '\n')
  if fence.isPrefixOf line && isSpaces (line.drop fence.length) then
    some ([], s.drop line.length)
  else match h : s.dropWhile (· ≠ '\n') with
    | [] => none
    | _ :: rest =>
      have : rest.length < s.length := by
        have := (List.dropWhile_suffix (l := s) (· ≠ '\n')).length_le
        rw [h] at this
        exact this
      (closingFence? fence rest).map fun (code, behind) => (line ++ '\n' :: code, behind)
termination_by s.length

/-- Takes out fenced code, line by line; `fuel` bounds the number of steps. -/
def takeFencesWithin : Nat → Stash → List Char → List Char × Stash
  | 0, stash, s => (s, stash)
  | fuel + 1, stash, s =>
    match (openingFence? s).bind fun (fence, rest) => closingFence? fence rest with
    | some (code, behind) =>
      let html := "<pre><code>".toList ++ escapeHtml true code ++ "</code></pre>".toList
      let (mark, stash) := stashed stash html
      let (text, stash) := takeFencesWithin fuel stash (behind.drop 1)
      ('\n' :: mark ++ '\n' :: (if behind.isEmpty then [] else '\n' :: text), stash)
    | none =>
      let line := s.takeWhile (· ≠ '\n')
      match s.dropWhile (· ≠ '\n') with
      | [] => (line, stash)
      | _ :: rest =>
        let (text, stash) := takeFencesWithin fuel stash rest
        (line ++ '\n' :: text, stash)

/-- The text with a mark for every closed fence, and the code that the marks stand for. -/
def takeFences (s : List Char) : List Char × Stash := takeFencesWithin (s.length + 1) [] s

end CrateDoc.Markdown
