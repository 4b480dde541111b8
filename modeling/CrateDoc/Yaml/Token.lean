import CrateDoc.Yaml.Scalar

/-!
# Tokens

A document is cut into tokens. Indentation is turned into tokens that open and close block
collections; a key that is only known as one by the colon behind it gets its token in front when
the colon is met. Such a *simple key* lies on one line and has at most 1024 characters.
-/

namespace CrateDoc.Yaml

open CrateDoc.Text

/-- What a directive says. -/
inductive Directive
  /-- The version of the format. -/
  | version (major minor : Nat)
  /-- What a handle in tags stands for. -/
  | handle (handle meaning : List Char)
  /-- Something else, which is ignored. -/
  | other
  deriving DecidableEq, Repr

/-- A tag as it is written. -/
structure TagText where
  handle : Option (List Char)
  suffix : List Char
  deriving DecidableEq, Repr

/-- A token of a document. -/
inductive Token
  | directive (directive : Directive)
  | documentStart
  | documentEnd
  | blockSequenceStart
  | blockMappingStart
  | blockEnd
  | flowSequenceStart
  | flowSequenceEnd
  | flowMappingStart
  | flowMappingEnd
  | blockEntry
  | flowEntry
  | key
  | value
  | alias (name : List Char)
  | anchor (name : List Char)
  | tag (tag : TagText)
  | scalar (text : List Char) (plain : Bool)
  deriving DecidableEq, Repr

/-- A place that may turn out to be the start of a key. -/
structure SimpleKey where
  /-- How many tokens there were before it. -/
  position : Nat
  /-- Whether nothing but a key can stand there. -/
  required : Bool
  index : Nat
  line : Nat
  column : Nat

/-- The state of cutting a document into tokens. -/
structure Scanner where
  cursor : Cursor
  tokens : Array Token := #[]
  /-- How many brackets are open. -/
  flow : Nat := 0
  /-- The column of the innermost block collection. -/
  indent : Int := -1
  /-- The columns of the block collections around it. -/
  indents : List Int := []
  /-- Whether a simple key may begin here. -/
  keyAllowed : Bool := true
  /-- The simple keys that may still come true, by the number of brackets around them. -/
  keys : List (Nat × SimpleKey) := []

/-- The result of a step, or why there is none. -/
abbrev Scanned := Except Fault Scanner

namespace Scanner

/-- Adds a token. -/
def emit (s : Scanner) (token : Token) : Scanner := { s with tokens := s.tokens.push token }

/-- Adds a token in front of others. -/
def emitAt (s : Scanner) (position : Nat) (token : Token) : Scanner :=
  { s with tokens := (s.tokens.toList.insertIdx position token).toArray }

/-- Moves on over some characters. -/
def skip (s : Scanner) (count : Nat) : Scanner := { s with cursor := s.cursor.skip count }

/-- The simple key with as many brackets around it as there are here. -/
def key? (s : Scanner) : Option SimpleKey := (s.keys.find? (·.1 == s.flow)).map (·.2)

/-- Gives up the simple key with as many brackets around it as there are here. -/
def dropKey (s : Scanner) : Scanned :=
  if (s.key?.map SimpleKey.required).getD false then .error .malformed
  else .ok { s with keys := s.keys.filter (·.1 != s.flow) }

/-- Gives up the simple keys that lie on another line or too far back. -/
def dropStaleKeys (s : Scanner) : Scanned :=
  let isStale (key : SimpleKey) : Bool :=
    key.line != s.cursor.line || decide (1024 < s.cursor.index - key.index)
  if s.keys.any fun (_, key) => isStale key && key.required then .error .malformed
  else .ok { s with keys := s.keys.filter fun (_, key) => !isStale key }

/-- Remembers that a simple key may begin here. -/
def saveKey (s : Scanner) : Scanned :=
  if s.keyAllowed then do
    let required := s.flow = 0 && s.indent == s.cursor.column
    let s ← s.dropKey
    let key : SimpleKey :=
      ⟨s.tokens.size, required, s.cursor.index, s.cursor.line, s.cursor.column⟩
    return { s with keys := (s.flow, key) :: s.keys }
  else .ok s

/-- Closes the block collections that are indented more than a column. -/
def closeBlocks (column : Int) : List Int → Int → Array Token → List Int × Int × Array Token
  | [], indent, tokens => ([], indent, tokens)
  | outer :: more, indent, tokens =>
    if column < indent then closeBlocks column more outer (tokens.push .blockEnd)
    else (outer :: more, indent, tokens)

/-- Closes the block collections that end before a column. -/
def unwind (s : Scanner) (column : Int) : Scanner :=
  if s.flow = 0 then
    let (indents, indent, tokens) := closeBlocks column s.indents s.indent s.tokens
    { s with indents := indents, indent := indent, tokens := tokens }
  else s

/-- Opens a block collection at a column, if the column is deeper than the one before. -/
def indentTo (s : Scanner) (column : Nat) : Option Scanner :=
  if s.indent < column then
    some { s with indents := s.indent :: s.indents, indent := column }
  else none

/-- Moves over white space and comments; `fuel` bounds the number of lines. -/
def skipToToken : Nat → Scanner → Scanner
  | 0, s => s
  | fuel + 1, s =>
    let c := s.cursor.skipSpaces.skipComment
    if startsBreak c.rest then
      skipToToken fuel { s with
        cursor := c.lineBreak.2, keyAllowed := s.keyAllowed || s.flow == 0 }
    else { s with cursor := c }

/-! ### Directives -/

/-- A character of a name. -/
def isNameCharacter (c : Char) : Bool :=
  isAsciiLetter c || isAsciiDigit c || c == '-' || c == '_'

/-- Reads a number. -/
def number (c : Cursor) : Except Fault (Nat × Cursor) :=
  let (digits, c) := c.span isAsciiDigit
  if digits.isEmpty then .error .malformed else .ok (readDigits 10 digits, c)

/-- Reads the handle of a tag. -/
def tagHandle (c : Cursor) : Except Fault (List Char × Cursor) :=
  match c.rest with
  | '!' :: ' ' :: _ => .ok (['!'], c.next)
  | '!' :: rest =>
    let name := rest.takeWhile isNameCharacter
    if (rest.drop name.length).head? = some '!' then
      .ok ('!' :: name ++ ['!'], c.skip (name.length + 2))
    else .error .malformed
  | _ => .error .malformed

/-- A character of a tag. -/
def isTagCharacter (c : Char) : Bool :=
  isAsciiLetter c || isAsciiDigit c || "-;/?:@&=+$,_.!~*'()[]".toList.contains c

/-- Reads bytes that are written as two hexadecimal digits each. -/
def tagBytes : Nat → Cursor → Except Fault (List UInt8 × Cursor)
  | 0, c => .ok ([], c)
  | fuel + 1, c =>
    match c.rest with
    | '%' :: a :: b :: _ =>
      if Html.isHexDigit a && Html.isHexDigit b then do
        let (bytes, c) ← tagBytes fuel (c.skip 3)
        return (UInt8.ofNat (readDigits 16 [a, b]) :: bytes, c)
      else .error .malformed
    | '%' :: _ => .error .malformed
    | _ => .ok ([], c)

/-- Reads the text of a tag; `fuel` bounds the number of its parts. -/
def tagText : Nat → Cursor → Except Fault (List Char × Cursor)
  | 0, c => .ok ([], c)
  | fuel + 1, c =>
    let (part, c) := c.span isTagCharacter
    if c.rest.head? = some '%' then do
      let (bytes, c) ← tagBytes c.rest.length c
      match Utf8.decode bytes with
      | .ok text =>
        let (more, c) ← tagText fuel c
        return (part ++ text ++ more, c)
      | .error _ => throw .malformed
    else .ok (part, c)

/-- Reads the text of a tag, which must not be empty. -/
def someTagText (c : Cursor) : Except Fault (List Char × Cursor) := do
  let (text, c) ← tagText (c.rest.length + 1) c
  if text.isEmpty && c.rest.head? ≠ some '%' then throw .malformed
  return (text, c)

/-- Reads a directive behind its percent sign. -/
def readDirective (c : Cursor) : Except Fault (Directive × Cursor) := do
  let (name, c) := c.span isNameCharacter
  if name.isEmpty || !endsWord c.rest then throw .malformed
  let (directive, c) ← if name = "YAML".toList then do
      let (major, c) ← number c.skipSpaces
      if c.rest.head? ≠ some '.' then throw .malformed
      let (minor, c) ← number c.next
      if !endsWord c.rest then throw .malformed
      pure (Directive.version major minor, c)
    else if name = "TAG".toList then do
      let (handle, c) ← tagHandle c.skipSpaces
      if c.rest.head? ≠ some ' ' then throw .malformed
      let (meaning, c) ← someTagText c.skipSpaces
      if !endsWord c.rest then throw .malformed
      pure (Directive.handle handle meaning, c)
    else pure (Directive.other, c.skipWhile (!isBreak ·))
  let c := c.skipSpaces.skipComment
  if !endsLine c.rest then throw .malformed
  return (directive, c.lineBreak.2)

/-- Reads a tag. -/
def readTag (c : Cursor) : Except Fault (TagText × Cursor) := do
  let (tag, c) ← match c.rest.drop 1 with
    | '<' :: _ => do
      let (suffix, c) ← someTagText (c.skip 2)
      if c.rest.head? ≠ some '>' then throw Fault.malformed
      pure (⟨none, suffix⟩, c.next)
    | rest =>
      if startsGap rest then pure (TagText.mk none ['!'], c.next)
      else do
        let word := rest.takeWhile fun ch => !(ch == ' ' || isBreak ch)
        let (handle, c) ← if word.contains '!' then tagHandle c else pure (['!'], c.next)
        let (suffix, c) ← someTagText c
        pure (⟨some handle, suffix⟩, c)
  if !endsWord c.rest then throw .malformed
  return (tag, c)

/-- Reads the name of an anchor or alias behind its mark. -/
def readName (c : Cursor) : Except Fault (List Char × Cursor) :=
  let (name, c) := c.span isNameCharacter
  let ends := startsGap c.rest ||
    (c.rest.head?.map fun ch => "?:,]\x7d%@\x60".toList.contains ch).getD false
  if name.isEmpty || !ends then .error .malformed else .ok (name, c)

/-! ### Tokens -/

/-- Ends all block collections, and allows no simple key. -/
def closeAll (s : Scanner) : Scanned := do
  let s ← (s.unwind (-1)).dropKey
  return { s with keyAllowed := false }

/-- Opens brackets. -/
def openFlow (s : Scanner) (token : Token) : Scanned := do
  let s ← s.saveKey
  return { (s.emit token).skip 1 with flow := s.flow + 1, keyAllowed := true }

/-- Closes brackets. -/
def closeFlow (s : Scanner) (token : Token) : Scanned := do
  let s ← s.dropKey
  if s.flow = 0 then throw .malformed
  return { (s.emit token).skip 1 with flow := s.flow - 1, keyAllowed := false }

/-- Takes in the mark of an entry or of a key, which may open a block collection. -/
def entry (s : Scanner) (opening mark : Token) (keyAllowed : Bool) : Scanned := do
  if s.flow = 0 && !s.keyAllowed then throw .malformed
  let s := if s.flow = 0 then
      match s.indentTo s.cursor.column with
      | some s => s.emit opening
      | none => s
    else s
  let s ← { s with keyAllowed := keyAllowed }.dropKey
  return (s.emit mark).skip 1

/-- Takes in the mark of a value, which may show that a simple key stands before it. -/
def valueMark (s : Scanner) : Scanned :=
  match s.key? with
  | some key =>
    let s := { s with keys := s.keys.filter (·.1 != s.flow), keyAllowed := false }
    let s := s.emitAt key.position .key
    let s := if s.flow = 0 then
        match s.indentTo key.column with
        | some s => s.emitAt key.position .blockMappingStart
        | none => s
      else s
    .ok ((s.emit .value).skip 1)
  | none => s.entry .blockMappingStart .value (s.flow == 0)

/-- Takes in a token that may begin a simple key. -/
def word (s : Scanner) (read : Cursor → Except Fault (Token × Cursor)) : Scanned := do
  let s ← s.saveKey
  let (token, c) ← read s.cursor
  return { s.emit token with cursor := c, keyAllowed := false }

/-- Takes in a block scalar. -/
def block (s : Scanner) (foldsLines : Bool) : Scanned := do
  let s ← { s with keyAllowed := true }.dropKey
  let (text, c) ← blockScalar foldsLines s.indent s.cursor.next
  return { s.emit (.scalar text false) with cursor := c }

/-- Takes in a plain scalar. -/
def plain (s : Scanner) : Scanned := do
  let s ← s.saveKey
  let ((text, ended), c) :=
    plainScalar (s.flow ≠ 0) (s.indent + 1) (s.cursor.rest.length + 1) [] false s.cursor
  return { s.emit (.scalar text true) with cursor := c, keyAllowed := ended }

/-- Whether a plain scalar may begin here. -/
def startsPlain (inFlow : Bool) : List Char → Bool
  | [] => false
  | c :: rest =>
    !(isGap c || "-?:,[]\x7b\x7d#&*!|>'\x22%@\x60".toList.contains c) ||
      !startsGap rest && (c == '-' || !inFlow && (c == '?' || c == ':'))

/-- Takes in the next token. -/
def step (s : Scanner) : Scanned :=
  let c := s.cursor
  let inFlow := s.flow ≠ 0
  let atStart := c.column = 0
  match c.rest with
  | [] => s.closeAll
  | ch :: rest =>
    let named (token : List Char → Token) : Scanned :=
      s.word fun c => (readName c.next).map fun (name, c) => (token name, c)
    if ch = '%' && atStart then do
      let s ← s.closeAll
      let (directive, c) ← readDirective c.next
      return { s.emit (.directive directive) with cursor := c }
    else if atStart && c.atDocumentMarker then do
      let s ← s.closeAll
      return (s.emit (if ch = '-' then .documentStart else .documentEnd)).skip 3
    else if ch = '[' then s.openFlow .flowSequenceStart
    else if ch = '\x7b' then s.openFlow .flowMappingStart
    else if ch = ']' then s.closeFlow .flowSequenceEnd
    else if ch = '\x7d' then s.closeFlow .flowMappingEnd
    else if ch = ',' then do
      let s ← { s with keyAllowed := true }.dropKey
      return (s.emit .flowEntry).skip 1
    else if ch = '-' && startsGap rest then s.entry .blockSequenceStart .blockEntry true
    else if ch = '?' && (inFlow || startsGap rest) then
      s.entry .blockMappingStart .key (s.flow == 0)
    else if ch = ':' && (inFlow || startsGap rest) then s.valueMark
    else if ch = '*' then named .alias
    else if ch = '&' then named .anchor
    else if ch = '!' then s.word fun c => (readTag c).map fun (tag, c) => (.tag tag, c)
    else if ch = '|' && !inFlow then s.block false
    else if ch = '>' && !inFlow then s.block true
    else if ch = '\x27' || ch = '\x22' then
      s.word fun c => (quotedScalar (ch == '\x22') (c.rest.length + 1) c.next).map
        fun (text, c) => (.scalar text false, c)
    else if startsPlain inFlow c.rest then s.plain
    else .error .malformed

/-- Takes in tokens up to the end of the document; `fuel` bounds their number. -/
def run : Nat → Scanner → Scanned
  | 0, s => .ok s
  | fuel + 1, s => do
    let s ← (skipToToken (s.cursor.rest.length + 1) s).dropStaleKeys
    let s := s.unwind s.cursor.column
    let done := s.cursor.rest.isEmpty
    let s ← s.step
    if done then return s else run fuel s

end Scanner

/-- A character that a document may hold. -/
def isAllowed (c : Char) : Bool :=
  let n := c.toNat
  n == 9 || n == 10 || n == 13 || (32 ≤ n && n ≤ 126) || n == 0x85 || (0xa0 ≤ n && n ≤ 0xfffd) ||
    0x10000 ≤ n

/-- The tokens of a document. -/
def tokens (text : List Char) : Except Fault (List Token) := do
  if !text.all isAllowed then throw .malformed
  let text := if text.head? = some '\ufeff' then text.drop 1 else text
  let s ← Scanner.run (text.length + 2) { cursor := ⟨text, 0, 0, 0⟩ }
  return s.tokens.toList

end CrateDoc.Yaml
