/-!
# Binary floating point numbers of 64 bits

A number of the format is kept as its sign, mantissa and exponent, and every operation is exact
arithmetic on those followed by one rounding to the nearest number of the format, ties to the
even mantissa. Equality of such values is decidable, which the machine's own type does not offer.

* `ofRatio` is that rounding.
* `ofDecimal` reads a decimal.
* `shortest` finds the fewest digits that read back; `text` writes them, positionally from
  `1e-4` up to `1e16` and with an exponent elsewhere.
-/

namespace CrateDoc

/-- A number of the format. In `finite`, the value is `mantissa * 2 ^ exponent`, where the
mantissa has 53 bits unless the exponent is the least one, -1074. -/
inductive Binary64
  | nan
  | infinite (negative : Bool)
  | finite (negative : Bool) (mantissa : Nat) (exponent : Int)
deriving DecidableEq, Inhabited

namespace Binary64

/-- Zero with its sign. -/
def zero (negative : Bool) : Binary64 := .finite negative 0 (-1074)

/-- The greater of a ratio's two numbers takes the power of two. -/
def scale (num den : Nat) (exponent : Int) : Nat × Nat :=
  if 0 ≤ exponent then (num, den * Nat.pow 2 exponent.toNat)
  else (num * Nat.pow 2 (-exponent).toNat, den)

/-- The exponent at which the mantissa of `num / den` has 53 bits, but no less than -1074. -/
def exponentFor (num den : Nat) : Int :=
  let guess : Int := (Nat.log2 num : Int) - Nat.log2 den - 52
  let (n, d) := scale num den guess
  max (-1074)
    (if n / d < Nat.pow 2 52 then guess - 1
    else if Nat.pow 2 53 ≤ n / d then guess + 1 else guess)

/-- The number of the format nearest to `num / den`; a tie goes to the even mantissa. -/
def ofRatio (negative : Bool) (num den : Nat) : Binary64 :=
  if num = 0 then zero negative
  else
    let exponent := exponentFor num den
    let (n, d) := scale num den exponent
    let below := n / d
    let rest := n % d
    let mantissa :=
      if d < 2 * rest || (2 * rest = d && below % 2 = 1) then below + 1 else below
    let (mantissa, exponent) :=
      if mantissa = Nat.pow 2 53 then (Nat.pow 2 52, exponent + 1) else (mantissa, exponent)
    if 971 < exponent then .infinite negative else .finite negative mantissa exponent

/-- Reads the decimal `digits * 10 ^ power`. -/
def ofDecimal (negative : Bool) (digits : Nat) (power : Int) : Binary64 :=
  let magnitude : Int := (Nat.toDigits 10 digits).length + power
  if digits = 0 || magnitude < -330 then zero negative
  else if 320 < magnitude then .infinite negative
  else if 0 ≤ power then ofRatio negative (digits * Nat.pow 10 power.toNat) 1
  else ofRatio negative digits (Nat.pow 10 (-power).toNat)

/-- A finite number as a ratio without its sign. -/
def ratio (mantissa : Nat) (exponent : Int) : Nat × Nat :=
  if 0 ≤ exponent then (mantissa * Nat.pow 2 exponent.toNat, 1)
  else (mantissa, Nat.pow 2 (-exponent).toNat)

/-- The number as a whole number, if it is one. -/
def toInt? : Binary64 → Option Int
  | .finite negative mantissa exponent =>
    let (num, den) := ratio mantissa exponent
    if num % den = 0 then
      let n : Int := (num / den : Nat)
      some (if negative then -n else n)
    else none
  | _ => none

/-- Whether the number counts as zero. -/
def isZero : Binary64 → Bool
  | .finite _ mantissa _ => mantissa == 0
  | _ => false

/-- The other sign. -/
def neg : Binary64 → Binary64
  | .nan => .nan
  | .infinite negative => .infinite !negative
  | .finite negative mantissa exponent => .finite (!negative) mantissa exponent

/-- The sum, rounded once. -/
def add : Binary64 → Binary64 → Binary64
  | .nan, _ | _, .nan => .nan
  | .infinite a, .infinite b => if a = b then .infinite a else .nan
  | .infinite a, _ => .infinite a
  | _, .infinite b => .infinite b
  | .finite a m e, .finite b n f =>
    let (p, q) := ratio m e
    let (r, s) := ratio n f
    let x : Int := (p * s : Nat)
    let y : Int := (r * q : Nat)
    let sum := (if a then -x else x) + (if b then -y else y)
    ofRatio (if sum = 0 then a && b else sum < 0) sum.natAbs (q * s)

/-- The product, rounded once. -/
def mul : Binary64 → Binary64 → Binary64
  | .nan, _ | _, .nan => .nan
  | .infinite a, .infinite b => .infinite (a != b)
  | .infinite a, .finite b n _ | .finite b n _, .infinite a =>
    if n = 0 then .nan else .infinite (a != b)
  | .finite a m e, .finite b n f =>
    let (p, q) := ratio m e
    let (r, s) := ratio n f
    ofRatio (a != b) (p * r) (q * s)

/-- The number of digits before the point of `num / den`; zero or less below one tenth. -/
def pointOf (num den : Nat) : Int :=
  let guess : Int := ((Nat.toDigits 10 num).length : Int) - (Nat.toDigits 10 den).length
  let reaches (p : Int) : Bool :=
    if 0 ≤ p then den * Nat.pow 10 p.toNat ≤ num else den ≤ num * Nat.pow 10 (-p).toNat
  if reaches guess then guess + 1 else guess

/-- The best decimal of `count` digits for `num / den` among the two neighbours on that grid:
the nearest one that satisfies `good`. -/
def onGrid (num den : Nat) (good : Nat → Int → Bool) (count : Nat) : Option (Nat × Int) :=
  let power : Int := pointOf num den - count
  let n := if 0 ≤ power then num else num * Nat.pow 10 (-power).toNat
  let d := if 0 ≤ power then den * Nat.pow 10 power.toNat else den
  let below := n / d
  let rest := n % d
  let nearerBelow := 2 * rest < d || (2 * rest = d && below % 2 = 0)
  let (first, second) := if nearerBelow then (below, below + 1) else (below + 1, below)
  if good first power then some (first, power)
  else if good second power then some (second, power) else none

/-- The fewest digits, with their power of ten, that read back as the number. -/
def shortest (mantissa : Nat) (exponent : Int) : Nat × Int :=
  let (num, den) := ratio mantissa exponent
  let good (digits : Nat) (power : Int) : Bool :=
    ofDecimal false digits power == .finite false mantissa exponent
  ((List.range 17).findSome? fun k => onGrid num den good (k + 1)).getD (num / den, 0)

/-- Digits without the zeros at their end; `point` is the place of the decimal point. -/
def layout (digits : List Char) (point : Int) : List Char :=
  let digits := match (digits.reverse.dropWhile (· == '0')).reverse with
    | [] => ['0']
    | kept => kept
  if -4 < point && point ≤ 16 then
    if point ≤ 0 then '0' :: '.' :: List.replicate (-point).toNat '0' ++ digits
    else
      let before := digits.take point.toNat
      let behind := digits.drop point.toNat
      before ++ List.replicate (point.toNat - before.length) '0' ++ '.' ::
        (if behind.isEmpty then ['0'] else behind)
  else
    let exponent := point - 1
    let size := Nat.toDigits 10 exponent.natAbs
    let mantissa := match digits with
      | [d] => [d]
      | d :: rest => d :: '.' :: rest
      | [] => []
    mantissa ++ 'e' :: (if exponent < 0 then '-' else '+') ::
      (if size.length < 2 then '0' :: size else size)

/-- The number as text: the fewest digits that read back, positional from `1e-4` up to `1e16`
with at least one digit after the point, and otherwise with a signed exponent of at least two
digits. -/
def text : Binary64 → String
  | .nan => "nan"
  | .infinite negative => if negative then "-inf" else "inf"
  | .finite negative mantissa exponent =>
    let sign := if negative then ['-'] else []
    if mantissa = 0 then String.ofList (sign ++ ['0', '.', '0'])
    else
      let (digits, power) := shortest mantissa exponent
      let written := Nat.toDigits 10 digits
      String.ofList (sign ++ layout written (written.length + power))

end Binary64

end CrateDoc
