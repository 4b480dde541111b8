import CrateDoc.Text.Blank
import CrateDoc.Text.Identifier

/-!
# Lexemes of Rust

What a Rust text is made of: white space and comments, words, literals and punctuation. Which of
them is read at a place is decided by the grammar, not by a tokenizer in front of it, because the
same characters stand for different things in types, patterns and expressions. Every reader
returns the rest of the text and first skips white space and comments.
-/

namespace CrateDoc.Rust

open CrateDoc.Text

/-- The white space between lexemes. -/
def isSpace (c : Char) : Bool := c = ' ' || (9 ≤ c.toNat && c.toNat ≤ 13)

/-- What follows a block comment, read behind its opening; comments nest. -/
def afterBlockComment : Nat → List Char → Option (List Char)
  | 0, '*' :: '/' :: rest => some rest
  | depth + 1, '*' :: '/' :: rest => afterBlockComment depth rest
  | depth, '/' :: '*' :: rest => afterBlockComment (depth + 1) rest
  | depth, _ :: rest => afterBlockComment depth rest
  | _, [] => none

/-- What follows the comment at the start of a text, if there is a comment that is closed. The
line end that closes a line comment is not part of it. -/
def afterComment? : List Char → Option (List Char)
  | '/' :: '/' :: rest => some (rest.dropWhile (· ≠ '\n'))
  | '/' :: '*' :: rest => afterBlockComment 0 rest
  | _ => none

/-- The text without the white space and comments at its start; the number bounds the steps. -/
def skipFrom : Nat → List Char → List Char
  | 0, s => s
  | n + 1, s =>
    let s := s.dropWhile isSpace
    match afterComment? s with
    | some rest => skipFrom n rest
    | none => s

/-- The text without the white space and comments at its start. -/
def skip (s : List Char) : List Char := skipFrom (s.length + 1) s

/-- The identifier at the start of a text and what follows it; `r#` may stand before a word. -/
def word? : List Char → Option (List Char × List Char)
  | 'r' :: '#' :: c :: rest =>
    if isIdentifierStart c then
      some ('r' :: '#' :: c :: rest.takeWhile isIdentifierContinue,
        rest.dropWhile isIdentifierContinue)
    else some (['r'], '#' :: c :: rest)
  | c :: rest =>
    if isIdentifierStart c then
      some (c :: rest.takeWhile isIdentifierContinue, rest.dropWhile isIdentifierContinue)
    else none
  | [] => none

/-- Reads one given word. -/
def readWord (w : List Char) (s : List Char) : Option (List Char) :=
  match word? (skip s) with
  | some (found, rest) => if found = w then some rest else none
  | none => none

/-- What follows a text at the start of another. -/
def after? (mark s : List Char) : Option (List Char) :=
  if mark.isPrefixOf s then some (s.drop mark.length) else none

/-- Reads one given sign, unless the character after it is one of `not`, with which it would be
another sign. -/
def readSign (mark not : List Char) (s : List Char) : Option (List Char) :=
  match after? mark (skip s) with
  | some rest => if rest.head?.any not.contains then none else some rest
  | none => none

/-- A hexadecimal digit. -/
def isHexDigit (c : Char) : Bool :=
  isAsciiDigit c || ('a' ≤ c && c ≤ 'f') || ('A' ≤ c && c ≤ 'F')

/-- What follows an escape, read behind its backslash. -/
def afterEscape? : List Char → Option (List Char)
  | 'x' :: a :: b :: rest => if isHexDigit a && isHexDigit b then some rest else none
  | 'u' :: '{' :: rest =>
    match rest.takeWhile isHexDigit, rest.dropWhile isHexDigit with
    | _ :: _, '}' :: rest => some rest
    | _, _ => none
  | 'u' :: a :: b :: c :: d :: rest =>
    if isHexDigit a && isHexDigit b && isHexDigit c && isHexDigit d then some rest else none
  | 'x' :: _ => none
  | 'u' :: _ => none
  | _ :: rest => some rest
  | [] => none

/-- What follows a text literal, read behind its opening quote; the number bounds the steps. -/
def afterText? : Nat → List Char → Option (List Char)
  | 0, _ => none
  | _ + 1, '\x22' :: rest => some rest
  | n + 1, '\\' :: rest => (afterEscape? rest).bind (afterText? n)
  | n + 1, _ :: rest => afterText? n rest
  | _, [] => none

/-- What follows a raw text, read behind its opening quote: a quote and `hashes` many marks. -/
def afterRaw? (hashes : Nat) : List Char → Option (List Char)
  | [] => none
  | '\x22' :: rest =>
    if hashes ≤ (rest.takeWhile (· = '#')).length then some (rest.drop hashes)
    else afterRaw? hashes rest
  | _ :: rest => afterRaw? hashes rest

/-- Reads a raw text, with a letter for its kind perhaps. -/
def readRaw (s : List Char) : Option (List Char) :=
  let body := match s with
    | 'b' :: rest | 'c' :: rest => rest
    | s => s
  match body with
  | 'r' :: rest =>
    match rest.dropWhile (· = '#') with
    | '\x22' :: behind => afterRaw? (rest.takeWhile (· = '#')).length behind
    | _ => none
  | _ => none

/-- Reads a text literal, raw or with escapes. -/
def readText (s : List Char) : Option (List Char) :=
  let s := skip s
  match readRaw s with
  | some rest => some rest
  | none =>
    match s with
    | '\x22' :: rest | 'b' :: '\x22' :: rest | 'c' :: '\x22' :: rest =>
      afterText? (rest.length + 1) rest
    | _ => none

/-- Reads a text literal without a prefix of `r`. -/
def readPlainText (s : List Char) : Option (List Char) :=
  if (readRaw (skip s)).isSome then none else readText s

/-- What follows a character literal, read behind its opening quote. It may be empty. -/
def afterChar? : List Char → Option (List Char)
  | '\x27' :: rest => some rest
  | '\\' :: rest =>
    match afterEscape? rest with
    | some ('\x27' :: rest) => some rest
    | _ => none
  | _ :: '\x27' :: rest => some rest
  | _ => none

/-- Reads a character literal. -/
def readChar (s : List Char) : Option (List Char) :=
  match skip s with
  | '\x27' :: rest | 'b' :: '\x27' :: rest => afterChar? rest
  | _ => none

/-- The types that a number may name behind its digits. -/
def numericTypes : List (List Char) :=
  ["u8", "i8", "u16", "i16", "u32", "i32", "u64", "i64", "u128", "i128", "isize", "usize", "f32",
    "f64"].map String.toList

/-- The types that are words of their own. -/
def primitiveTypes : List (List Char) :=
  numericTypes ++ ["bool".toList, "str".toList, "char".toList]

/-- A digit or an underscore. -/
def isNumberChar (c : Char) : Bool := isAsciiDigit c || c = '_'

/-- What follows digits of a kind and perhaps the name of a numeric type. -/
def afterDigits (p : Char → Bool) (s : List Char) : List Char :=
  let rest := s.dropWhile p
  (numericTypes.findSome? (after? · rest)).getD rest

/-- Reads a whole number. -/
def readInteger (s : List Char) : Option (List Char) :=
  match skip s with
  | '0' :: 'x' :: c :: rest =>
    if isHexDigit c || c = '_' then
      some (afterDigits (fun c => isHexDigit c || c = '_') (c :: rest))
    else some ('x' :: c :: rest)
  | '0' :: 'b' :: c :: rest =>
    if c = '0' || c = '1' || c = '_' then
      some (afterDigits (fun c => c = '0' || c = '1' || c = '_') (c :: rest))
    else some ('b' :: c :: rest)
  | '0' :: 'o' :: c :: rest =>
    if ('0' ≤ c && c ≤ '7') || c = '_' then
      some (afterDigits (fun c => ('0' ≤ c && c ≤ '7') || c = '_') (c :: rest))
    else some ('o' :: c :: rest)
  | c :: rest => if isAsciiDigit c then some (afterDigits isNumberChar rest) else none
  | [] => none

/-- What follows an exponent and whether one is there. Its letter alone counts as one that has
no digits. -/
def afterExponent (s : List Char) : Bool × List Char :=
  match s with
  | e :: rest =>
    if e = 'e' || e = 'E' then
      let digits := match rest with
        | '+' :: rest | '-' :: rest => rest
        | rest => rest
      match digits with
      | d :: _ => if isNumberChar d then (true, digits.dropWhile isNumberChar) else (true, s)
      | [] => (true, s)
    else (false, s)
  | [] => (false, s)

/-- Reads a number with a point or an exponent. A point before a letter or another point does
not belong to the number. -/
def readFloat (s : List Char) : Option (List Char) :=
  match skip s with
  | [] => none
  | c :: rest =>
    if !isAsciiDigit c then none
    else
      let whole := rest.dropWhile isNumberChar
      let fraction? : Option (Bool × List Char) := match whole with
        | '.' :: d :: rest =>
          if d = '.' || (isIdentifierStart d && d ≠ '_') then none
          else some (true, (d :: rest).dropWhile isNumberChar)
        | ['.'] => some (true, [])
        | rest => some (false, rest)
      match fraction? with
      | none => none
      | some (hasFraction, behind) =>
        let (hasExponent, behind') := afterExponent behind
        if !hasFraction && !hasExponent then none
        else match behind' with
          | k :: d :: rest =>
            if (k = 'u' || k = 'i' || k = 'f') && isAsciiDigit d then
              some (rest.dropWhile isAsciiDigit)
            else some behind'
          | _ => some behind'

/-- Reads an identifier that is none of the words `reserved`. -/
def readIdentifier (reserved : List (List Char)) (s : List Char) : Option (List Char) :=
  let s := skip s
  if (readRaw s).isSome || (readPlainText s).isSome || (readChar s).isSome then none
  else match word? s with
    | some (found, rest) => if reserved.contains found then none else some rest
    | none => none

/-- Reads a variable of a macro: a dollar sign and a word behind it. -/
def readMetavariable (s : List Char) : Option (List Char) :=
  match skip s with
  | '$' :: c :: rest =>
    if isAsciiLetter c || c = '_' then
      some (rest.dropWhile fun c => isAsciiLetter c || isAsciiDigit c || c = '_')
    else none
  | _ => none

/-- The punctuation that may stand alone inside the brackets of a macro. -/
def macroSigns : List Char := "+-*/%^!&|<>=@_.,;:#?'".toList

/-- Reads one sign inside the brackets of a macro. A slash that opens a comment is none. -/
def readMacroSign (s : List Char) : Option (List Char) :=
  match skip s with
  | '/' :: '*' :: _ => none
  | c :: rest => if macroSigns.contains c then some rest else none
  | [] => none

/-- Reads what may stand between a repetition of a macro and its count, and the count. -/
def readRepetitionCount (s : List Char) : Option (List Char) :=
  let counts (c : Char) : Bool := c = '+' || c = '*' || c = '?'
  match s.dropWhile (!counts ·) with
  | _ :: rest => some rest
  | [] => none

end CrateDoc.Rust
