import CrateDoc.Shell.Token
import CrateDoc.Text.Digit

/-!
# Arithmetic of the shell

Expressions over whole numbers and variables. Comparisons and the logical operators give one or
zero, and division goes toward zero.
-/

namespace CrateDoc.Shell

/-- The binary operators with their levels; an operator of a higher level binds more closely. -/
def binaryOperators : List (String × Nat) :=
  [("||", 1), ("&&", 2), ("==", 6), ("!=", 6), ("<<", 8), (">>", 8), ("<=", 7), (">=", 7),
   ("|", 3), ("^", 4), ("&", 5), ("<", 7), (">", 7), ("+", 9), ("-", 9), ("*", 10), ("/", 10),
   ("%", 10)]

/-- The number that stands for a truth value. -/
def truth (b : Bool) : Int := if b then 1 else 0

/-- The value of a binary operator; none for a division by zero. -/
def applyOperator (operator : String) (a b : Int) : Option Int :=
  match operator with
  | "||" => some (truth (a != 0 || b != 0))
  | "&&" => some (truth (a != 0 && b != 0))
  | "==" => some (truth (a == b))
  | "!=" => some (truth (a != b))
  | "<" => some (truth (a < b))
  | ">" => some (truth (b < a))
  | "<=" => some (truth (a ≤ b))
  | ">=" => some (truth (b ≤ a))
  | "<<" => some (a * Int.pow 2 b.toNat)
  | ">>" => some (a / Int.pow 2 b.toNat)
  | "+" => some (a + b)
  | "-" => some (a - b)
  | "*" => some (a * b)
  | "/" => if b = 0 then none else some (a.tdiv b)
  | "%" => if b = 0 then none else some (a.tmod b)
  | "|" => some (Nat.lor a.toNat b.toNat)
  | "&" => some (Nat.land a.toNat b.toNat)
  | "^" => some (Nat.xor a.toNat b.toNat)
  | _ => none

/-- Passes over white space. -/
def skipSpace (s : Octets) : Octets := s.dropWhile fun c => c = ' ' || c = '\t' || c = '\n'

/-- The number that a text stands for as the value of a variable. -/
def numberOf (s : Octets) : Int := ((String.ofList (skipSpace s)).toInt?).getD 0

mutual

/-- Reads a number, a variable, a bracket or a sign and its operand. -/
def evalOperand (lookup : Octets → Octets) : Nat → Octets → Option (Int × Octets)
  | 0, _ => none
  | fuel + 1, s =>
    match skipSpace s with
    | '(' :: rest => do
      let (value, rest) ← evalExpression lookup fuel 0 rest
      match skipSpace rest with
      | ')' :: rest => some (value, rest)
      | _ => none
    | '-' :: rest => do
      let (value, rest) ← evalOperand lookup fuel rest
      some (-value, rest)
    | '+' :: rest => evalOperand lookup fuel rest
    | '!' :: rest => do
      let (value, rest) ← evalOperand lookup fuel rest
      some (truth (value == 0), rest)
    | c :: rest =>
      let s := c :: rest
      if Text.isAsciiDigit c then
        let digits := s.takeWhile Text.isAsciiDigit
        some (Text.readDigits 10 digits, s.dropWhile Text.isAsciiDigit)
      else if startsName c then some (numberOf (lookup (s.takeWhile inName)), s.dropWhile inName)
      else none
    | [] => none

/-- Reads operands joined by operators of at least a level. -/
def evalExpression (lookup : Octets → Octets) : Nat → Nat → Octets → Option (Int × Octets)
  | 0, _, _ => none
  | fuel + 1, level, s => do
    let (value, rest) ← evalOperand lookup fuel s
    evalTail lookup fuel level value rest

/-- Goes on behind a value. -/
def evalTail (lookup : Octets → Octets) : Nat → Nat → Int → Octets → Option (Int × Octets)
  | 0, _, value, s => some (value, s)
  | fuel + 1, level, value, s =>
    let s := skipSpace s
    match binaryOperators.find? fun (text, l) => level ≤ l && text.toList.isPrefixOf s with
    | none => some (value, s)
    | some (text, l) => do
      let (right, rest) ← evalExpression lookup fuel (l + 1) (s.drop text.length)
      evalTail lookup fuel level (← applyOperator text value right) rest

end

/-- The value of an expression and perhaps an assignment: the name and the value it gets. -/
def evaluate (lookup : Octets → Octets) (s : Octets) : Option (Int × Option Octets) :=
  let s := skipSpace s
  let name := s.takeWhile inName
  let after := skipSpace (s.dropWhile inName)
  let whole (text : Octets) : Option Int := do
    let (value, rest) ← evalExpression lookup (2 * text.length + 4) 0 text
    if (skipSpace rest).isEmpty then some value else none
  let assigns : Bool := !name.isEmpty && startsName (name.headD ' ')
  match assigns, after with
  | true, '=' :: c :: rest =>
    if c = '=' then (whole s).map (·, none) else (whole (c :: rest)).map (·, some name)
  | true, c :: '=' :: rest =>
    if "+-*/%".toList.contains c then do
      let right ← whole rest
      let value ← applyOperator (String.ofList [c]) (numberOf (lookup name)) right
      some (value, some name)
    else (whole s).map (·, none)
  | _, _ => if s.isEmpty then some (0, none) else (whole s).map (·, none)

end CrateDoc.Shell
