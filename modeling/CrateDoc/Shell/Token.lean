import CrateDoc.Shell.Script
import CrateDoc.Text.Blank

/-!
# Tokens of shell scripts

A script is cut into words, operators and line ends. Inside words quotes are resolved and
expansions are found; the scripts of command substitutions stay texts, to be read when they run.
-/

namespace CrateDoc.Shell

/-- A token. -/
inductive Token
  | word (w : Word)
  | operator (text : String)
  | newline
  /-- The descriptor of a redirection. -/
  | descriptor (n : Nat)
deriving DecidableEq

/-- Why a script cannot be read. -/
inductive Fault
  | unterminatedQuote
  | unexpected (text : String)
  | unexpectedEnd
deriving DecidableEq

/-- The fault in words. -/
def Fault.message : Fault → String
  | unterminatedQuote => "Syntax error: Unterminated quoted string"
  | unexpected text => "Syntax error: " ++ text ++ " unexpected"
  | unexpectedEnd => "Syntax error: end of file unexpected"

/-- Whether a character may begin the name of a variable. -/
def startsName (c : Char) : Bool := Text.isAsciiLetter c || c = '_'

/-- Whether a character may go on in the name of a variable. -/
def inName (c : Char) : Bool := startsName c || Text.isAsciiDigit c

/-- The text up to a closing bracket, and the rest. Brackets inside and quotes are passed over. -/
def untilClosed (opening closing : Char) :
    Nat → Octets → Octets → Option (Octets × Octets)
  | _, _, [] => none
  | depth, done, '\\' :: c :: rest => untilClosed opening closing depth (c :: '\\' :: done) rest
  | depth, done, c :: rest =>
    if c = '\x27' then
      let quote := rest.takeWhile (· ≠ '\x27')
      match h : rest.dropWhile (· ≠ '\x27') with
      | [] => none
      | q :: after =>
        have : after.length < rest.length + 1 := by
          have h₁ : (rest.dropWhile (· ≠ '\x27')).length ≤ rest.length :=
            (List.dropWhile_sublist _).length_le
          rw [h] at h₁
          simp at h₁
          omega
        untilClosed opening closing depth (q :: quote.reverse ++ c :: done) after
    else if c = closing then
      match depth with
      | 0 => some (done.reverse, rest)
      | depth + 1 => untilClosed opening closing depth (c :: done) rest
    else untilClosed opening closing (if c = opening then depth + 1 else depth) (c :: done) rest
termination_by _ _ s => s.length

/-- The use of a parameter by what follows its name between braces. -/
def useOf : Octets → Option Use
  | [] => some .value
  | ':' :: '-' :: word => some (.default true word)
  | '-' :: word => some (.default false word)
  | ':' :: '=' :: word => some (.assign true word)
  | '=' :: word => some (.assign false word)
  | ':' :: '+' :: word => some (.alternative true word)
  | '+' :: word => some (.alternative false word)
  | _ => none

/-- Whether a character is a parameter of its own. -/
def isSpecial (c : Char) : Bool := "@*#?$!-".toList.contains c

/-- The parameter that a text between braces uses. -/
def bracedParameter (inQuotes : Bool) (body : Octets) : Option Piece :=
  match body with
  | ['#'] => some (.parameter ['#'] .value inQuotes)
  | '#' :: name => some (.parameter name .length inQuotes)
  | c :: rest =>
    let name := if startsName c then c :: rest.takeWhile inName
      else if Text.isAsciiDigit c then c :: rest.takeWhile Text.isAsciiDigit
      else if isSpecial c then [c] else []
    if name.isEmpty then none
    else (useOf (body.drop name.length)).map (.parameter name · inQuotes)
  | [] => none

/-- What a dollar sign begins, given the text behind it. -/
def readDollar (inQuotes : Bool) (s : Octets) : Except Fault (Piece × Octets) :=
  match s with
  | '(' :: '(' :: rest =>
    match untilClosed '(' ')' 0 [] rest with
    | some (expression, ')' :: rest) => .ok (.arithmetic expression inQuotes, rest)
    | _ => .error .unexpectedEnd
  | '(' :: rest =>
    match untilClosed '(' ')' 0 [] rest with
    | some (script, rest) => .ok (.output script inQuotes, rest)
    | none => .error .unexpectedEnd
  | '{' :: rest =>
    match untilClosed '{' '}' 0 [] rest with
    | some (body, rest) => match bracedParameter inQuotes body with
      | some piece => .ok (piece, rest)
      | none => .error (.unexpected "Bad substitution")
    | none => .error .unexpectedEnd
  | c :: rest =>
    if startsName c then
      .ok (.parameter (c :: rest.takeWhile inName) .value inQuotes, rest.dropWhile inName)
    else if Text.isAsciiDigit c || isSpecial c then
      .ok (.parameter [c] .value inQuotes, rest)
    else .ok (if inQuotes then .quoted ['$'] else .plain ['$'], s)
  | [] => .ok (if inQuotes then .quoted ['$'] else .plain ['$'], s)

/-- The script between back quotes, and the rest. -/
def readBackQuoted : Octets → Octets → Option (Octets × Octets)
  | _, [] => none
  | done, '\x60' :: rest => some (done.reverse, rest)
  | done, '\\' :: c :: rest =>
    readBackQuoted (if c = '$' || c = '\x60' || c = '\\' then c :: done else c :: '\\' :: done) rest
  | done, c :: rest => readBackQuoted (c :: done) rest

/-- Reads the text between double quotes, up to the closing one; `fuel` bounds its pieces. -/
def readQuoted : Nat → Octets → Except Fault (List Piece × Octets)
  | 0, _ => .error .unterminatedQuote
  | fuel + 1, s =>
    match s with
    | [] => .error .unterminatedQuote
    | '\x22' :: rest => .ok ([], rest)
    | '\\' :: '\n' :: rest => readQuoted fuel rest
    | '\\' :: c :: rest => do
      let (pieces, rest) ← readQuoted fuel rest
      return (.quoted (if c = '$' || c = '\x60' || c = '\x22' || c = '\\' then [c]
        else ['\\', c]) :: pieces, rest)
    | '$' :: rest => do
      let (piece, rest) ← readDollar true rest
      let (pieces, rest) ← readQuoted fuel rest
      return (piece :: pieces, rest)
    | '\x60' :: rest => match readBackQuoted [] rest with
      | some (script, rest) => do
        let (pieces, rest) ← readQuoted fuel rest
        return (.output script true :: pieces, rest)
      | none => .error .unterminatedQuote
    | c :: rest => do
      let (pieces, rest) ← readQuoted fuel rest
      return (.quoted [c] :: pieces, rest)

/-- Whether a character ends a word. -/
def endsWord (c : Char) : Bool := " \t\n;&|<>()".toList.contains c

/-- Reads a word; `fuel` bounds its pieces. -/
def readWord : Nat → Octets → Except Fault (Word × Octets)
  | 0, s => .ok ([], s)
  | fuel + 1, s =>
    match s with
    | [] => .ok ([], [])
    | '\\' :: '\n' :: rest => readWord fuel rest
    | '\\' :: c :: rest => do
      let (pieces, rest) ← readWord fuel rest
      return (.quoted [c] :: pieces, rest)
    | '\x27' :: rest =>
      match rest.dropWhile (· ≠ '\x27') with
      | [] => .error .unterminatedQuote
      | _ :: after => do
        let (pieces, after) ← readWord fuel after
        return (.quoted (rest.takeWhile (· ≠ '\x27')) :: pieces, after)
    | '\x22' :: rest => do
      let (quoted, rest) ← readQuoted (rest.length + 1) rest
      let (pieces, rest) ← readWord fuel rest
      -- Quotes make a field even if they hold nothing, but not around all arguments.
      let mark := if quoted.contains (.parameter ['@'] .value true) then [] else [.quoted []]
      return (mark ++ quoted ++ pieces, rest)
    | '$' :: rest => do
      let (piece, rest) ← readDollar false rest
      let (pieces, rest) ← readWord fuel rest
      return (piece :: pieces, rest)
    | '\x60' :: rest => match readBackQuoted [] rest with
      | some (script, rest) => do
        let (pieces, rest) ← readWord fuel rest
        return (.output script false :: pieces, rest)
      | none => .error .unterminatedQuote
    | c :: rest =>
      if endsWord c then .ok ([], s)
      else do
        let (pieces, rest) ← readWord fuel rest
        return (.plain [c] :: pieces, rest)

/-- Joins neighbouring pieces of plain text. -/
def joinPlain : Word → Word
  | [] => []
  | .plain a :: rest => match joinPlain rest with
    | .plain b :: more => .plain (a ++ b) :: more
    | more => .plain a :: more
  | piece :: rest => piece :: joinPlain rest

/-- The operators, the longer before the shorter. -/
def operators : List String :=
  ["&&", "||", ";;", ">>", ">&", "<&", ">|", ";", "&", "|", "(", ")", "<", ">"]

/-- Cuts a script into tokens; `fuel` bounds their number. -/
def tokensWith : Nat → Octets → Except Fault (List Token)
  | 0, _ => .ok []
  | fuel + 1, s =>
    match s with
    | [] => .ok []
    | '\\' :: '\n' :: rest => tokensWith fuel rest
    | '\n' :: rest => (.newline :: ·) <$> tokensWith fuel rest
    | c :: rest =>
      if c = ' ' || c = '\t' then tokensWith fuel rest
      else if c = '#' then tokensWith fuel (rest.dropWhile (· ≠ '\n'))
      else match operators.find? (·.toList.isPrefixOf s) with
        | some text => (.operator text :: ·) <$> tokensWith fuel (s.drop text.length)
        | none =>
          let digits := s.takeWhile Text.isAsciiDigit
          let after := s.dropWhile Text.isAsciiDigit
          if !digits.isEmpty && (after.head? = some '<' || after.head? = some '>') then
            (.descriptor ((String.ofList digits).toNat?.getD 0) :: ·) <$> tokensWith fuel after
          else do
            let (word, rest) ← readWord s.length s
            return .word (joinPlain word) :: (← tokensWith fuel rest)

/-- Cuts a script into tokens. -/
def tokens (s : Octets) : Except Fault (List Token) := tokensWith (s.length + 1) s

end CrateDoc.Shell
