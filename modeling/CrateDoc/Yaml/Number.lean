import CrateDoc.Binary64
import CrateDoc.Text.Digit
import CrateDoc.Text.LowerCase
import CrateDoc.Yaml.Fault

/-!
# Numbers, dates and bytes

What the text of a scalar with one of the tags for numbers, dates and bytes stands for. Digits of
any script count; underscores between them do not.
-/

namespace CrateDoc.Yaml

open CrateDoc.Text

/-- The text without underscores. -/
def withoutUnderscores (s : List Char) : List Char := s.filter (· ≠ '_')

/-- Splits a sign off: whether it is a minus, and the rest. -/
def splitSign : List Char → Bool × List Char
  | '-' :: rest => (true, rest)
  | '+' :: rest => (false, rest)
  | rest => (false, rest)

/-- A number with its sign. -/
def signed (negative : Bool) (n : Int) : Int := if negative then -n else n

/-- The value of a digit of any script, or of a letter, in a base. -/
def digitIn? (base : Nat) (c : Char) : Option Nat :=
  ((digitValue? c).or (letterDigit? c)).filter (· < base)

/-- The letter that may follow a zero in front of the digits of a base. -/
def baseLetter (base : Nat) : Char := if base = 2 then 'b' else if base = 8 then 'o' else 'x'

/-- Reads an integer in a base; there may be white space around it. -/
def integerIn (base : Nat) (s : List Char) : Except Fault Int :=
  let (negative, body) := splitSign (trim isNumberBlank s)
  let digits := match body with
    | '0' :: letter :: rest =>
      if base ≠ 10 && asciiLower letter == baseLetter base then rest else body
    | _ => body
  let run := digits.takeWhile fun c => (digitIn? base c).isSome
  if base = 10 ∧ maxDigits < run.length then .error (.longInteger run.length)
  else if run.isEmpty || run.length < digits.length then .error (.notInteger base s)
  else .ok (signed negative (run.foldl (fun n c => n * base + (digitIn? base c).getD 0) 0))

/-- What parts of sixty stand for, the greatest first. -/
def sixties (parts : List Int) : Int := parts.foldl (fun n part => n * 60 + part) 0

/-- Reads an integer: binary, octal, hexadecimal, by sixties or decimal. -/
def readInteger (s : List Char) : Except Fault Int := do
  let s := withoutUnderscores s
  if s.isEmpty then throw .emptyNumber
  let (negative, s) := splitSign s
  match s with
  | ['0'] => return 0
  | '0' :: 'b' :: rest => return signed negative (← integerIn 2 rest)
  | '0' :: 'x' :: rest => return signed negative (← integerIn 16 rest)
  | '0' :: _ => return signed negative (← integerIn 8 s)
  | [] => throw .emptyNumber
  | _ =>
    if s.contains ':' then
      return signed negative (sixties (← (pieces (· == ':') s).mapM (integerIn 10)))
    else return signed negative (← integerIn 10 s)

/-- Reads a number with a point or exponent. -/
def floatOf (s : List Char) : Except Fault Binary64 :=
  let (negative, body) := splitSign (trim isNumberBlank s)
  let isDigit (c : Char) : Bool := (digitValue? c).isSome
  let whole := body.takeWhile isDigit
  let behind := body.drop whole.length
  let fraction := match behind with
    | '.' :: rest => rest.takeWhile isDigit
    | _ => []
  let behind := match behind with
    | '.' :: rest => rest.drop fraction.length
    | _ => behind
  let value (digits : List Char) : Nat :=
    digits.foldl (fun n c => n * 10 + (digitValue? c).getD 0) 0
  let number (exponent : Int) : Except Fault Binary64 :=
    .ok (.ofDecimal negative (value (whole ++ fraction)) (exponent - fraction.length))
  let word := String.ofList (body.map asciiLower)
  if word = "inf" || word = "infinity" then .ok (.infinite negative)
  else if word = "nan" then .ok .nan
  else if whole.isEmpty && fraction.isEmpty then .error (.notFloat s)
  else match behind with
    | [] => number 0
    | e :: rest =>
      let (down, digits) := splitSign rest
      if asciiLower e = 'e' && !digits.isEmpty && digits.all isDigit then
        number (signed down (value digits))
      else .error (.notFloat s)

/-- The whole number as a number with a point. -/
def wholeFloat (n : Nat) : Binary64 := .ofRatio false n 1

/-- What parts of sixty stand for, the least first; `unit` is the weight of the first. -/
def sixtyFloats : Nat → Binary64 → List Binary64 → Binary64
  | _, sum, [] => sum
  | unit, sum, part :: rest => sixtyFloats (unit * 60) (sum.add (part.mul (wholeFloat unit))) rest

/-- Reads a float: a number, infinity, no number at all, or parts of sixty. -/
def readFloat (s : List Char) : Except Fault Binary64 := do
  let s := lowerCase (withoutUnderscores s)
  if s.isEmpty then throw .emptyNumber
  let (negative, s) := splitSign s
  let withSign (x : Binary64) : Binary64 := if negative then x.neg else x
  if s = ".inf".toList then return .infinite negative
  else if s = ".nan".toList then return .nan
  else if s.contains ':' then
    let parts ← (pieces (· == ':') s).mapM floatOf
    return withSign (sixtyFloats 1 (.zero false) parts.reverse)
  else return withSign (← floatOf s)

/-! ### Dates -/

/-- The number of days of a month. -/
def daysIn (year month : Nat) : Nat :=
  if month = 2 then
    if year % 4 = 0 && (year % 100 ≠ 0 || year % 400 = 0) then 29 else 28
  else if month = 4 || month = 6 || month = 9 || month = 11 then 30 else 31

/-- Whether a date exists. -/
def checkDate (year month day : Nat) : Except Fault Unit :=
  if year = 0 then .error (.outOfRange .year)
  else if month = 0 || 12 < month then .error (.outOfRange .month)
  else if day = 0 || daysIn year month < day then .error (.outOfRange .day)
  else .ok ()

/-- Whether a time of day exists. -/
def checkTime (hour minute second : Nat) : Except Fault Unit :=
  if 23 < hour then .error (.outOfRange .hour)
  else if 59 < minute then .error (.outOfRange .minute)
  else if 59 < second then .error (.outOfRange .second)
  else .ok ()

/-- Whether a distance from universal time is less than a day. -/
def checkOffset (negative : Bool) (hours minutes : Nat) : Except Fault Unit :=
  let seconds := hours * 3600 + minutes * 60
  if seconds < 86400 then .ok ()
  else
    let signed : Int := if negative then -(seconds : Int) else seconds
    .error (.outOfRange (.offset (signed / 86400) (signed % 86400).toNat))

/-- Splits a number of `least` to `most` digits off. -/
def takeNumber (least most : Nat) (s : List Char) : Except Fault (Nat × List Char) :=
  let digits := (s.take most).takeWhile isAsciiDigit
  if digits.length < least then .error .notTimestamp
  else .ok (readDigits 10 digits, s.drop digits.length)

/-- Splits a character off. -/
def takeChar (c : Char) : List Char → Except Fault (List Char)
  | d :: rest => if d = c then .ok rest else .error .notTimestamp
  | [] => .error .notTimestamp

/-- Whether nothing is left but a newline. -/
def isOver (s : List Char) : Bool := s == [] || s == ['\n']

/-- Checks a date, with a time of day or without. -/
def checkTimestamp (s : List Char) : Except Fault Unit := do
  let (year, s) ← takeNumber 4 4 s
  let (month, s) ← takeNumber 1 2 (← takeChar '-' s)
  let (day, s) ← takeNumber 1 2 (← takeChar '-' s)
  if isOver s then checkDate year month day
  else
    let time := match s with
      | 'T' :: rest | 't' :: rest => rest
      | _ => s.dropWhile fun c => c == ' ' || c == '\t'
    if time.length = s.length then throw .notTimestamp
    let (hour, s) ← takeNumber 1 2 time
    let (minute, s) ← takeNumber 2 2 (← takeChar ':' s)
    let (second, s) ← takeNumber 2 2 (← takeChar ':' s)
    let s := match s with
      | '.' :: rest => rest.dropWhile isAsciiDigit
      | _ => s
    if !isOver s then
      match s.dropWhile fun c => c == ' ' || c == '\t' with
      | 'Z' :: rest => if !isOver rest then throw .notTimestamp
      | sign :: rest =>
        if sign ≠ '+' && sign ≠ '-' then throw .notTimestamp
        let (hours, rest) ← takeNumber 1 2 rest
        let (minutes, rest) ← match rest with
          | ':' :: digits => takeNumber 2 2 digits
          | _ => pure (0, rest)
        if !isOver rest then throw .notTimestamp
        checkOffset (sign == '-') hours minutes
      | [] => throw .notTimestamp
    checkDate year month day
    checkTime hour minute second

/-! ### Bytes -/

/-- The six bits that a character stands for. -/
def sixBits? (c : Char) : Option Nat :=
  if 'A' ≤ c && c ≤ 'Z' then some (c.toNat - 65)
  else if 'a' ≤ c && c ≤ 'z' then some (c.toNat - 71)
  else if isAsciiDigit c then some (c.toNat + 4)
  else if c = '+' then some 62
  else if c = '/' then some 63
  else none

/-- Reads groups of four characters as three bytes. `place` is the place in the group, `bits` the
bits left over, `pads` the number of equals signs just read; other characters do not count. -/
def bytesFrom (place bits pads : Nat) : List Char → Except Fault (List Nat)
  | [] => if place = 0 then .ok [] else .error .malformed
  | c :: rest =>
    if c = '=' then
      if 2 ≤ place then
        if 4 ≤ place + pads + 1 then .ok [] else bytesFrom place bits (pads + 1) rest
      else bytesFrom place bits pads rest
    else match sixBits? c with
      | none => bytesFrom place bits pads rest
      | some six =>
        if place = 0 then bytesFrom 1 six 0 rest
        else if place = 1 then
          (bytesFrom 2 (six % 16) 0 rest).map fun more => (bits * 4 + six / 16) :: more
        else if place = 2 then
          (bytesFrom 3 (six % 4) 0 rest).map fun more => (bits * 16 + six / 4) :: more
        else (bytesFrom 0 0 0 rest).map fun more => (bits * 64 + six) :: more

/-- Reads bytes. -/
def readBytes (s : List Char) : Except Fault (List Nat) :=
  if s.all fun c => c.toNat < 128 then bytesFrom 0 0 0 s else .error .malformed

end CrateDoc.Yaml
