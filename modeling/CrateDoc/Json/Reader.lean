import CrateDoc.Json.Value
import CrateDoc.Text.Digit

/-!
# Reading JSON

`Value.read` reads one value from a text and refuses everything else with the place and the
reason. What it accepts is fixed by a `Dialect`:

* `Dialect.tolerant` takes escapes of lone surrogates and any depth; no character of a text is a
  lone surrogate, so the replacement character stands for it;
* `Dialect.interchange` refuses lone surrogates and stops at a depth.

Both accept the three number words `NaN`, `Infinity` and `-Infinity`, know four characters of
white space, and let the last of several equal keys win in the place of the first.

The readers return the rest of the text; a fault is kept as the number of characters that were
left, and `ReadError` turns that into a position, a line and a column.
-/

namespace CrateDoc.Json

/-- What is accepted beyond or short of the plain grammar. -/
structure Dialect where
  /-- An escape of a surrogate without its partner stands for the replacement character. -/
  loneSurrogates : Bool
  /-- How deep lists and objects may be nested. -/
  maxDepth : Option Nat

/-- Lone surrogates are read, and no depth is too deep. -/
def Dialect.tolerant : Dialect := ⟨true, none⟩

/-- Well-formed text only, nested at most 200 deep. -/
def Dialect.interchange : Dialect := ⟨false, some 200⟩

/-- Why a text is no JSON. -/
inductive Complaint
  | value
  | propertyName
  | colon
  | comma
  | extraData
  | unterminated
  | controlCharacter
  | escape
  | unicodeEscape
  | byteOrderMark
  /-- A whole number of more digits than can be read. -/
  | tooManyDigits (count : Nat)
  | tooDeep
deriving DecidableEq

/-- The reason in words. -/
def Complaint.message : Complaint → String
  | .value => "Expecting value"
  | .propertyName => "Expecting property name enclosed in double quotes"
  | .colon => "Expecting ':' delimiter"
  | .comma => "Expecting ',' delimiter"
  | .extraData => "Extra data"
  | .unterminated => "Unterminated string starting at"
  | .controlCharacter => "Invalid control character at"
  | .escape => "Invalid \\escape"
  | .unicodeEscape => "Invalid \\uXXXX escape"
  | .byteOrderMark => "Unexpected UTF-8 BOM (decode using utf-8-sig)"
  | .tooManyDigits count => Text.tooManyDigits count
  | .tooDeep => "recursion limit exceeded"

/-- A reason, and how many characters of the text were left at its place. -/
structure Fault where
  complaint : Complaint
  left : Nat
deriving DecidableEq

/-- The white space of JSON. -/
def isSpace (c : Char) : Bool := c = ' ' || c = '\t' || c = '\n' || c = '\r'

/-- The text without the white space at its start. -/
def skip (s : List Char) : List Char := s.dropWhile isSpace

/-- Refuses a text at its start. -/
def fail {α : Type} (complaint : Complaint) (s : List Char) : Except Fault (α × List Char) :=
  .error ⟨complaint, s.length⟩

/-- The value of a hexadecimal digit. -/
def hexValue? (c : Char) : Option Nat := (Text.letterDigit? c).filter (· < 16)

/-- Four hexadecimal digits. -/
def hex4? : List Char → Option (Nat × List Char)
  | a :: b :: c :: d :: rest => do
    let n := (((← hexValue? a) * 16 + (← hexValue? b)) * 16 + (← hexValue? c)) * 16 +
      (← hexValue? d)
    some (n, rest)
  | _ => none

/-- The character of a single-letter escape. -/
def simpleEscape? : Char → Option Char
  | '\x22' => some '\x22'
  | '\\' => some '\\'
  | '/' => some '/'
  | 'b' => some '\x08'
  | 'f' => some '\x0c'
  | 'n' => some '\n'
  | 'r' => some '\r'
  | 't' => some '\t'
  | _ => none

/-- The second half of a surrogate pair. It must be followed by at least one character. -/
def lowHalf? : List Char → Option (Except Unit (Nat × List Char))
  | '\\' :: 'u' :: rest =>
    if rest.length < 5 then none
    else match hex4? rest with
      | some (n, rest) => some (.ok (n, rest))
      | none => some (.error ())
  | _ => none

/-- The character of an escape that starts with `u`; `s` is the text behind that letter, which
must hold four digits and one character more. -/
def unicodeEscape (dialect : Dialect) (s : List Char) : Except Fault (Char × List Char) :=
  let refuse : Except Fault (Char × List Char) := .error ⟨.unicodeEscape, s.length + 1⟩
  if s.length < 5 then refuse
  else match hex4? s with
    | none => refuse
    | some (n, rest) =>
      let alone : Except Fault (Char × List Char) :=
        if dialect.loneSurrogates then .ok ('\ufffd', rest) else refuse
      if 0xd800 ≤ n && n < 0xdc00 then
        match lowHalf? rest with
        | none => alone
        | some (.error ()) => .error ⟨.unicodeEscape, rest.length - 1⟩
        | some (.ok (low, behind)) =>
          if 0xdc00 ≤ low && low < 0xe000 then
            .ok (Char.ofNat (0x10000 + (n - 0xd800) * 1024 + (low - 0xdc00)), behind)
          else alone
      else if 0xdc00 ≤ n && n < 0xe000 then alone
      else .ok (Char.ofNat n, rest)

/-- The characters up to the closing quote; `left` is the place of the opening quote. -/
def textBody (dialect : Dialect) (left : Nat) :
    Nat → List Char → Except Fault (List Char × List Char)
  | 0, _ => .error ⟨.unterminated, left⟩
  | _ + 1, [] => .error ⟨.unterminated, left⟩
  | _ + 1, '\x22' :: rest => .ok ([], rest)
  | _ + 1, ['\\'] => .error ⟨.unterminated, left⟩
  | fuel + 1, '\\' :: 'u' :: rest => do
    let (c, rest) ← unicodeEscape dialect rest
    let (body, rest) ← textBody dialect left fuel rest
    .ok (c :: body, rest)
  | fuel + 1, '\\' :: e :: rest =>
    match simpleEscape? e with
    | none => .error ⟨.escape, rest.length + 2⟩
    | some c => do
      let (body, rest) ← textBody dialect left fuel rest
      .ok (c :: body, rest)
  | fuel + 1, c :: rest =>
    if c.toNat < 0x20 then .error ⟨.controlCharacter, rest.length + 1⟩
    else do
      let (body, rest) ← textBody dialect left fuel rest
      .ok (c :: body, rest)

/-- A text, read behind its opening quote. -/
def readText (dialect : Dialect) (s : List Char) : Except Fault (String × List Char) := do
  let (body, rest) ← textBody dialect (s.length + 1) (s.length + 1) s
  .ok (String.ofList body, rest)

/-- The digits of a fraction, if a point with digits behind it comes next. -/
def fraction : List Char → List Char × List Char
  | '.' :: rest =>
    let digits := rest.takeWhile Text.isAsciiDigit
    if digits.isEmpty then ([], '.' :: rest) else (digits, rest.dropWhile Text.isAsciiDigit)
  | s => ([], s)

/-- The exponent, if a whole one comes next. -/
def exponent? : List Char → Option (Int × List Char)
  | e :: rest =>
    if e = 'e' || e = 'E' then
      let (negative, rest) : Bool × List Char := match rest with
        | '-' :: rest => (true, rest)
        | '+' :: rest => (false, rest)
        | rest => (false, rest)
      let digits := rest.takeWhile Text.isAsciiDigit
      if digits.isEmpty then none
      else
        let n : Int := Text.readDigits 10 digits
        some (if negative then -n else n, rest.dropWhile Text.isAsciiDigit)
    else none
  | [] => none

/-- A number, its minus sign already read; `start` is the text with the sign. -/
def readNumber (negative : Bool) (start s : List Char) : Except Fault (Value × List Char) :=
  let digits := match s with
    | '0' :: _ => ['0']
    | _ => s.takeWhile Text.isAsciiDigit
  if digits.isEmpty then fail .value start
  else
    let (decimals, behind) := fraction (s.drop digits.length)
    match exponent? behind with
    | some (power, rest) =>
      .ok (.float (Binary64.ofDecimal negative (Text.readDigits 10 (digits ++ decimals))
        (power - decimals.length)), rest)
    | none =>
      if decimals.isEmpty then
        if Text.maxDigits < digits.length then fail (.tooManyDigits digits.length) start
        else
          let n : Int := Text.readDigits 10 digits
          .ok (.int (if negative then -n else n), behind)
      else
        .ok (.float (Binary64.ofDecimal negative (Text.readDigits 10 (digits ++ decimals))
          (-(decimals.length : Int))), behind)

/-- The words that stand for values. -/
def wordValues : List (List Char × Value) :=
  [("null".toList, .null), ("true".toList, .bool true), ("false".toList, .bool false),
    ("NaN".toList, .float .nan), ("Infinity".toList, .float (.infinite false)),
    ("-Infinity".toList, .float (.infinite true))]

/-- A value that is a word or a number. -/
def readAtom (s : List Char) : Except Fault (Value × List Char) :=
  match wordValues.find? fun word => word.1.isPrefixOf s with
  | some (word, value) => .ok (value, s.drop word.length)
  | none =>
    match s with
    | '-' :: rest => readNumber true s rest
    | _ => readNumber false s s

mutual

/-- A value. The first number bounds the steps of the reader, the second the depth that is left. -/
def readValue (dialect : Dialect) (depth : Option Nat) :
    Nat → List Char → Except Fault (Value × List Char)
  | 0, s => fail .value s
  | fuel + 1, s =>
    match s with
    | '\x22' :: rest => do
      let (t, rest) ← readText dialect rest
      .ok (.text t, rest)
    | '{' :: rest =>
      if depth = some 0 then fail .tooDeep s
      else match skip rest with
        | '}' :: rest => .ok (.object [], rest)
        | rest => readFields dialect (depth.map (· - 1)) fuel [] rest
    | '[' :: rest =>
      if depth = some 0 then fail .tooDeep s
      else match skip rest with
        | ']' :: rest => .ok (.list [], rest)
        | rest => readItems dialect (depth.map (· - 1)) fuel [] rest
    | _ => readAtom s

/-- The fields of an object, at the place of a key. -/
def readFields (dialect : Dialect) (depth : Option Nat) :
    Nat → List (String × Value) → List Char → Except Fault (Value × List Char)
  | 0, _, s => fail .value s
  | fuel + 1, done, s =>
    match s with
    | '\x22' :: rest => do
      let (key, rest) ← readText dialect rest
      match skip rest with
      | ':' :: rest =>
        let (value, rest) ← readValue dialect depth fuel (skip rest)
        let done := Entries.put key value done
        match skip rest with
        | '}' :: rest => .ok (.object done, rest)
        | ',' :: rest => readFields dialect depth fuel done (skip rest)
        | rest => fail .comma rest
      | rest => fail .colon rest
    | _ => fail .propertyName s

/-- The items of a list, at the place of an item; `done` holds those before it, the last first. -/
def readItems (dialect : Dialect) (depth : Option Nat) :
    Nat → List Value → List Char → Except Fault (Value × List Char)
  | 0, _, s => fail .value s
  | fuel + 1, done, s => do
    let (value, rest) ← readValue dialect depth fuel s
    match skip rest with
    | ']' :: rest => .ok (.list (value :: done).reverse, rest)
    | ',' :: rest => readItems dialect depth fuel (value :: done) (skip rest)
    | rest => fail .comma rest

end

/-- A text that holds one value and white space around it. -/
def readDocument (dialect : Dialect) (s : List Char) : Except Fault Value :=
  if s.head? = some '\ufeff' then .error ⟨.byteOrderMark, s.length⟩
  else do
    let (value, rest) ← readValue dialect dialect.maxDepth (2 * s.length + 2) (skip s)
    match skip rest with
    | [] => .ok value
    | rest => .error ⟨.extraData, rest.length⟩

/-- Why and where a text is no JSON. The line and the column count from one. -/
structure ReadError where
  complaint : Complaint
  position : Nat
  line : Nat
  column : Nat
deriving DecidableEq

/-- The place of a fault in its text. -/
def Fault.locate (f : Fault) (s : List Char) : ReadError :=
  let position := s.length - f.left
  let before := s.take position
  ⟨f.complaint, position, before.count '\n' + 1,
    (before.reverse.takeWhile (· ≠ '\n')).length + 1⟩

/-- The error in words. -/
def ReadError.message (e : ReadError) : String :=
  match e.complaint with
  | .tooManyDigits _ => e.complaint.message
  | _ => e.complaint.message ++ ": line " ++ toString e.line ++ " column " ++ toString e.column ++
      " (char " ++ toString e.position ++ ")"

/-- Reads a text as one JSON value. -/
def Value.read (dialect : Dialect) (s : List Char) : Except ReadError Value :=
  (readDocument dialect s).mapError (·.locate s)

end CrateDoc.Json
