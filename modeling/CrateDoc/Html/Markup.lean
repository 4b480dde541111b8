import CrateDoc.Html.Reference
import CrateDoc.Text.Lines

/-!
# Pieces of markup

Recognisers of one piece of HTML at the start of a text: a start tag, an end tag, a comment, a
declaration. They are as forgiving as browsers are, and every one of them hands back the text
behind the piece. Two things are not forgiven (`PageError`): a number that is too long in the value
of an attribute, and a marked section without the name of one.

A start tag is read in one of two `Setting`s. In a finished page any character may stand in a
name or value. In prose that is still to be formatted, a backtick belongs to the prose, and a
comma may follow a value.
-/

namespace CrateDoc.Html

open CrateDoc.Text

/-- Where a start tag is read. -/
inductive Setting
  /-- A finished page. -/
  | page
  /-- Text with markup that is still to be formatted. -/
  | prose
  deriving DecidableEq

/-- A character that no tag name, first character of an attribute or bare value may be. -/
def Setting.refuses (setting : Setting) (c : Char) : Bool :=
  decide (setting = .prose) && c == '\x60'

/-- A character at which the name of a tag ends. -/
def endsTagName (setting : Setting) (c : Char) : Bool :=
  c == '\t' || c == '\n' || c == '\r' || c == '\x0c' || c == ' ' || c == '/' || c == '>' ||
    c == '\x00' || setting.refuses c

/-- A single or double quote. -/
def isQuote (c : Char) : Bool := c == '\x27' || c == '\x22'

/-- The text behind the part read so far, and the last character read. -/
structure Cursor where
  last : Char
  rest : List Char

/-- Reads on while a test holds. -/
def Cursor.skip (p : Char → Bool) (at_ : Cursor) : Cursor :=
  ⟨(at_.rest.takeWhile p).getLast?.getD at_.last, at_.rest.dropWhile p⟩

/-- Reads white space and slashes, up to the slash that closes the tag. -/
def skipGap (last : Char) : List Char → Cursor
  | [] => ⟨last, []⟩
  | '/' :: '>' :: rest => ⟨last, '/' :: '>' :: rest⟩
  | c :: rest => if isBlank c || c == '/' then skipGap c rest else ⟨last, c :: rest⟩

/-- Reads a value without quotes: the value, and what is behind it. -/
def bareValue (setting : Setting) (at_ : Cursor) : List Char × Cursor :=
  let isPart (c : Char) : Bool := !(c == '>' || isBlank c || setting.refuses c)
  (at_.rest.takeWhile isPart, at_.skip isPart)

/-- Reads the equals signs and the value that may follow the name of an attribute: the value, and
what is behind it. A quote that is never closed is no value: it is read as part of a second equals
sign's value, as the next attribute, or not at all. -/
def attributeValue? (setting : Setting) (at_ : Cursor) : Option (List Char × Cursor) :=
  let signs := at_.skip isBlank
  let behind := signs.skip (· == '=')
  let value := behind.skip isBlank
  if signs.rest.head? ≠ some '=' then none
  else match value.rest with
    | quote :: body =>
      if isQuote quote then
        match cutAt? [quote] body with
        | some (inside, rest) => some (inside, ⟨quote, rest⟩)
        | none =>
          if value.rest.length < behind.rest.length then some ([], value)
          else if behind.rest.length + 1 < signs.rest.length then
            let (content, behind) := bareValue setting value
            some ('=' :: content, behind)
          else none
      else some (bareValue setting value)
    | [] => some ([], value)

/-- Reads the commas that may follow a value in prose. -/
def skipCommas (setting : Setting) (at_ : Cursor) : Cursor :=
  let run := at_.rest.takeWhile fun c => isBlank c || c == ','
  let commas := dropTrailing isBlank run
  if setting = .prose ∧ !commas.isEmpty then ⟨',', at_.rest.drop commas.length⟩ else at_

/-- Reads attributes as long as there are any and more than `stop` characters are left: their
values, and what is behind them. `fuel` bounds their number. -/
def readAttributes (setting : Setting) (stop : Nat) : Nat → Cursor → List (List Char) × Cursor
  | 0, at_ => ([], at_)
  | fuel + 1, at_ =>
    match at_.rest with
    | [] => ([], at_)
    | c :: rest =>
      if stop < at_.rest.length && (isQuote at_.last || isBlank at_.last || at_.last == '/') &&
          !(isBlank c || c == '/' || c == '>' || setting.refuses c) then
        let ends (c : Char) : Bool := isBlank c || c == '/' || c == '=' || c == '>'
        let name := Cursor.skip (!ends ·) ⟨c, rest⟩
        match attributeValue? setting name with
        | some (value, behind) =>
          let behind := skipCommas setting behind
          let (values, at_) :=
            readAttributes setting stop fuel (skipGap behind.last behind.rest)
          (value :: values, at_)
        | none => readAttributes setting stop fuel (skipGap name.last name.rest)
      else ([], at_)

/-- What begins with a `<` and a letter. -/
inductive Opening
  /-- A start tag with its name, its text and whether it closes itself. -/
  | tag (name text : List Char) (selfClosing : Bool) (rest : List Char)
  /-- Text that only looks like the start of a tag. -/
  | stray (text rest : List Char)
  /-- A start tag without an end. -/
  | unfinished

/-- Reads a start tag; the text begins with its `<`. The references in the values of its attributes
are read too. -/
def Opening.read (setting : Setting) (s : List Char) : Except PageError Opening :=
  let body := s.drop 1
  let name := body.takeWhile fun c => !endsTagName setting c
  let behind : Cursor := ⟨name.getLast?.getD '<', body.drop name.length⟩
  let (_, tagEnd) := readAttributes setting 0 s.length (behind.skip fun c => isBlank c || c == '/')
  let tagEnd := tagEnd.skip isBlank
  let upTo (rest : List Char) : List Char := s.take (s.length - rest.length)
  let finish (rest : List Char) : Except PageError Opening := do
    let gap := skipGap behind.last behind.rest
    let (values, closing) := readAttributes .page rest.length s.length gap
    values.forM fun value => do let _ ← unescape value
    let mark := strip (closing.rest.take (closing.rest.length - rest.length))
    if mark = ['>'] then return .tag (name.map asciiLower) (upTo rest) false rest
    else if mark = ['/', '>'] then return .tag (name.map asciiLower) (upTo rest) true rest
    else return .stray (upTo rest) rest
  match tagEnd.rest with
  | '>' :: rest => finish rest
  | '/' :: '>' :: rest => finish rest
  | [] => .ok .unfinished
  | c :: rest =>
    if isAsciiLetter c || c == '=' || c == '/' then .ok .unfinished else finish (c :: rest)

/-- What begins with `</`. -/
inductive Closing
  /-- An end tag with its name. -/
  | tag (name rest : List Char)
  /-- The empty end tag `</>`. -/
  | empty (rest : List Char)
  /-- Something up to the next `>` that is no end tag. -/
  | stray (rest : List Char)
  /-- There is no `>` behind it. -/
  | unfinished

/-- A character of the name in an end tag. -/
def isEndTagCharacter (c : Char) : Bool :=
  isAsciiLetter c || isAsciiDigit c || c == '-' || c == '.' || c == ':' || c == '_'

/-- Reads an end tag; the text begins behind its `</`. -/
def Closing.read (s : List Char) : Closing :=
  match cutAt? ['>'] s with
  | none => .unfinished
  | some (inside, rest) =>
    let trimmed := strip inside
    if (trimmed.head?.map isAsciiLetter).getD false && trimmed.all isEndTagCharacter then
      .tag (trimmed.map asciiLower) rest
    else if (s.head?.map isAsciiLetter).getD false then
      .tag ((s.takeWhile fun c => !endsTagName .page c).map asciiLower) rest
    else if inside.isEmpty then .empty rest
    else .stray rest

/-- Reads the characters of a mark, each of which may have white space before it. -/
def looseMark? : List Char → List Char → Option (List Char)
  | [], s => some s
  | m :: mark, s =>
    match s.dropWhile isBlank with
    | c :: rest => if c = m then looseMark? mark rest else none
    | [] => none

/-- The text up to a mark that `close?` finds, and the text behind it. -/
def upToMark? (close? : List Char → Option (List Char)) : List Char → Option (List Char × List Char)
  | [] => (close? []).map fun rest => ([], rest)
  | c :: s =>
    match close? (c :: s) with
    | some rest => some ([], rest)
    | none => (upToMark? close? s).map fun (body, rest) => (c :: body, rest)

/-- The end of a comment: two hyphens, white space, `>`. -/
def commentClose? : List Char → Option (List Char)
  | '-' :: '-' :: rest => looseMark? ['>'] rest
  | _ => none

/-- The end of a marked section: `]]>`, with white space before the later characters. -/
def sectionClose? : List Char → Option (List Char)
  | ']' :: rest => looseMark? [']', '>'] rest
  | _ => none

/-- The end of a conditional section: `]>`, with white space between the two. -/
def conditionClose? : List Char → Option (List Char)
  | ']' :: rest => looseMark? ['>'] rest
  | _ => none

/-- Reads a comment: its text, and what is behind it. The text begins behind `<!--`. -/
def comment? (s : List Char) : Option (List Char × List Char) := upToMark? commentClose? s

/-- Whether a text begins with a lower-case word, in any case. -/
def startsWithWord (word s : List Char) : Bool :=
  decide ((s.take word.length).map asciiLower = word)

/-- The names of marked sections that end in two brackets. -/
def sectionNames : List String := ["temp", "cdata", "ignore", "include", "rcdata"]

/-- The names of conditional sections, which end in one bracket. -/
def conditionNames : List String := ["if", "else", "endif"]

/-- A character of the name of a marked section behind the first, which is a letter. -/
def isSectionCharacter (c : Char) : Bool :=
  isAsciiLetter c || isAsciiDigit c || c == '-' || c == '_' || c == '.'

/-- Reads a marked section: its text, and what is behind it, if it comes to an end. The text begins
behind `<![`. -/
def markedSection? (s : List Char) : Except PageError (Option (List Char × List Char)) :=
  match s with
  | [] => .ok none
  | c :: _ =>
    if isAsciiLetter c then
      let name := s.takeWhile isSectionCharacter
      let gap := (s.drop name.length).takeWhile isBlank
      let lower := name.map asciiLower
      if (s.drop (name.length + gap.length)).isEmpty then .ok none
      else if sectionNames.any (·.toList = lower) then .ok (upToMark? sectionClose? s)
      else if conditionNames.any (·.toList = lower) then .ok (upToMark? conditionClose? s)
      else .error (.unknownSection (name ++ gap))
    else .error (.noSectionName ("<![".toList ++ s))

/-- Reads a declaration: its text, and what is behind it, if it comes to an end. The text begins
behind `<!`. -/
def declaration? (s : List Char) : Except PageError (Option (List Char × List Char)) :=
  match s with
  | '[' :: body => markedSection? body
  | _ => .ok (cutAt? ['>'] s)

end CrateDoc.Html
