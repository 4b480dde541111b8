import CrateDoc.Text.Ranges
import CrateDoc.Text.Blank

/-!
# Decimal digits and whole numbers

`digitValue?` knows every decimal digit of Unicode. `readInt?` reads a whole number as a person
would type it: white space around it, one sign, and single underscores between digits.
`readDigits` is the plain reading of ASCII digits in a base. A decimal number has `maxDigits` digits
at most, wherever one is read.
-/

namespace CrateDoc.Text

/-- The decimal digits of Unicode 14: runs of ten, each from zero to nine. -/
def digitRanges : Ranges :=
  [(48, 57), (1632, 1641), (1776, 1785), (1984, 1993), (2406, 2415), (2534, 2543), (2662, 2671),
   (2790, 2799), (2918, 2927), (3046, 3055), (3174, 3183), (3302, 3311), (3430, 3439),
   (3558, 3567), (3664, 3673), (3792, 3801), (3872, 3881), (4160, 4169), (4240, 4249),
   (6112, 6121), (6160, 6169), (6470, 6479), (6608, 6617), (6784, 6793), (6800, 6809),
   (6992, 7001), (7088, 7097), (7232, 7241), (7248, 7257), (42528, 42537), (43216, 43225),
   (43264, 43273), (43472, 43481), (43504, 43513), (43600, 43609), (44016, 44025),
   (65296, 65305), (66720, 66729), (68912, 68921), (69734, 69743), (69872, 69881),
   (69942, 69951), (70096, 70105), (70384, 70393), (70736, 70745), (70864, 70873),
   (71248, 71257), (71360, 71369), (71472, 71481), (71904, 71913), (72016, 72025),
   (72784, 72793), (73040, 73049), (73120, 73129), (92768, 92777), (92864, 92873),
   (93008, 93017), (120782, 120831), (123200, 123209), (123632, 123641), (125264, 125273),
   (130032, 130041)]

/-- The value of a decimal digit of any script. -/
def digitValue? (c : Char) : Option Nat :=
  if isAsciiDigit c then some (c.toNat - 48)
  else if c.toNat < 128 then none
  else (digitRanges.find? fun r => r.1 ≤ c.toNat && c.toNat ≤ r.2).map fun r => (c.toNat - r.1) % 10

/-- The value of an ASCII digit or letter as a digit of a base up to 36. -/
def letterDigit? (c : Char) : Option Nat :=
  if isAsciiDigit c then some (c.toNat - 48)
  else if 'a' ≤ c && c ≤ 'z' then some (c.toNat - 87)
  else if 'A' ≤ c && c ≤ 'Z' then some (c.toNat - 55)
  else none

/-- The number written by digits of a base; a character that is no digit counts as zero. -/
def readDigits (base : Nat) (s : List Char) : Nat :=
  s.foldl (fun n c => n * base + (letterDigit? c).getD 0) 0

/-- Digits with single underscores between them; `after` says that a digit stands just before. -/
def digitRun? (after : Bool) (value : Nat) : List Char → Option Nat
  | [] => if after then some value else none
  | '_' :: rest => if after then digitRun? false value rest else none
  | c :: rest =>
    match digitValue? c with
    | some d => digitRun? true (value * 10 + d) rest
    | none => none

/-- The most digits that a written number may have. -/
def maxDigits : Nat := 4300

/-- What is said of a number of so many digits, more than `maxDigits`. -/
def tooManyDigits (count : Nat) : String :=
  "Exceeds the limit (4300 digits) for integer string conversion: value has " ++
    toString count ++ " digits; use sys.set_int_max_str_digits() to increase the limit"

/-- White space that may stand around a number. The information separators may not. -/
def isNumberBlank (c : Char) : Bool := isBlank c && !(28 ≤ c.toNat && c.toNat ≤ 31)

/-- A whole number as typed: white space around it, an optional sign, digits of any script with
single underscores between them, at most `maxDigits` of them. -/
def readInt? (s : List Char) : Option Int :=
  let body := trim isNumberBlank s
  let (negative, digits) : Bool × List Char := match body with
    | '-' :: rest => (true, rest)
    | '+' :: rest => (false, rest)
    | rest => (false, rest)
  if maxDigits < (digits.filter (· ≠ '_')).length then none
  else (digitRun? false 0 digits).map fun n => if negative then -(n : Int) else n

end CrateDoc.Text
