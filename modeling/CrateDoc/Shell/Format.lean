import CrateDoc.Shell.Arithmetic

/-!
# Printing in the shell

`echoText` resolves the escapes that `echo` knows, and `formatted` fills a format with arguments,
again and again until all of them are used up.
-/

namespace CrateDoc.Shell

/-- The character of an escape that is one letter. -/
def escapedLetter? : Char → Option Char
  | 'a' => some '\x07'
  | 'b' => some '\x08'
  | 'f' => some '\x0c'
  | 'n' => some '\n'
  | 'r' => some '\r'
  | 't' => some '\t'
  | 'v' => some '\x0b'
  | '\\' => some '\\'
  | _ => none

/-- Up to three octal digits, and the rest. -/
def octalDigits (s : Octets) : Octets × Octets :=
  let digits := (s.take 3).takeWhile fun c => '0' ≤ c && c ≤ '7'
  (digits, s.drop digits.length)

/-- The octet of octal digits. -/
def octet (digits : Octets) : Char := Char.ofNat (Text.readDigits 8 digits % 256)

/-- Resolves the escapes of `echo`, where an octal number begins with zero: the text, and whether
it ends without a line end. `fuel` bounds its length. -/
def echoWith : Nat → Octets → Octets × Bool
  | 0, s => (s, false)
  | fuel + 1, s =>
    match s with
    | [] => ([], false)
    | '\\' :: 'c' :: _ => ([], true)
    | '\\' :: '0' :: rest =>
      let (digits, rest) := octalDigits rest
      let (text, cut) := echoWith fuel rest
      (octet digits :: text, cut)
    | '\\' :: c :: rest =>
      let (text, cut) := echoWith fuel rest
      match escapedLetter? c with
      | some e => (e :: text, cut)
      | none => ('\\' :: c :: text, cut)
    | c :: rest =>
      let (text, cut) := echoWith fuel rest
      (c :: text, cut)

/-- Joins words with spaces. -/
def joinWords : List Octets → Octets
  | [] => []
  | [w] => w
  | w :: rest => w ++ ' ' :: joinWords rest

/-- What `echo` prints for its arguments. -/
def echoText (arguments : List Octets) : Octets :=
  let (quiet, words) : Bool × List Octets := match arguments with
    | ['-', 'n'] :: rest => (true, rest)
    | words => (false, words)
  let whole := joinWords words
  let (text, cut) := echoWith whole.length whole
  if quiet || cut then text else text ++ ['\n']

/-- How a conversion is laid out. -/
structure Layout where
  left : Bool := false
  zeros : Bool := false
  plus : Bool := false
  width : Nat := 0
  precision : Option Nat := none

/-- Reads the layout of a conversion. -/
def readLayout (s : Octets) : Layout × Octets :=
  let flags := s.takeWhile fun c => "-0+ #".toList.contains c
  let rest := s.drop flags.length
  let width := rest.takeWhile Text.isAsciiDigit
  let rest := rest.drop width.length
  let (precision, rest) : Option Nat × Octets := match rest with
    | '.' :: rest =>
      let digits := rest.takeWhile Text.isAsciiDigit
      (some (Text.readDigits 10 digits), rest.drop digits.length)
    | rest => (none, rest)
  ({ left := flags.contains '-', zeros := flags.contains '0', plus := flags.contains '+'
     width := Text.readDigits 10 width, precision := precision }, rest)

/-- Fills a text up to the width of a layout. -/
def Layout.fill (l : Layout) (text : Octets) : Octets :=
  let missing := l.width - text.length
  if l.left then text ++ List.replicate missing ' '
  else if l.zeros then match text with
    | '-' :: digits => '-' :: List.replicate missing '0' ++ digits
    | text => List.replicate missing '0' ++ text
  else List.replicate missing ' ' ++ text

/-- The digits of a number in a base up to sixteen. -/
def digitsIn (base n : Nat) : Octets := Nat.toDigits base n

/-- The number that an argument of a format stands for. -/
def formatNumber (s : Octets) : Int :=
  match s with
  | '\x27' :: c :: _ | '\x22' :: c :: _ => c.toNat
  | '0' :: 'x' :: digits => Text.readDigits 16 digits
  | '-' :: digits => -(Text.readDigits 10 digits : Int)
  | '+' :: digits => Text.readDigits 10 digits
  | digits => Text.readDigits 10 (digits.takeWhile Text.isAsciiDigit)

/-- A filled format. -/
structure Filled where
  text : Octets
  /-- The arguments that are left. -/
  rest : List Octets
  /-- Whether printing ends here. -/
  cut : Bool := false

/-- Puts text before a filled format. -/
def Filled.after (text : Octets) (f : Filled) : Filled := { f with text := text ++ f.text }

/-- Fills a format once; `fuel` bounds its length. -/
def fillOnce : Nat → Octets → List Octets → Filled
  | 0, _, arguments => ⟨[], arguments, false⟩
  | fuel + 1, s, arguments =>
    match s with
    | [] => ⟨[], arguments, false⟩
    | '\\' :: 'c' :: _ => ⟨[], arguments, true⟩
    | '\\' :: c :: rest =>
      match escapedLetter? c with
      | some e => (fillOnce fuel rest arguments).after [e]
      | none =>
        if '0' ≤ c && c ≤ '7' then
          let (digits, rest) := octalDigits (c :: rest)
          (fillOnce fuel rest arguments).after [octet digits]
        else (fillOnce fuel rest arguments).after ['\\', c]
    | '%' :: '%' :: rest => (fillOnce fuel rest arguments).after ['%']
    | '%' :: rest =>
      let (layout, rest) := readLayout rest
      let argument := arguments.headD []
      let others := arguments.drop 1
      match rest with
      | 's' :: rest =>
        let text := match layout.precision with
          | some n => argument.take n
          | none => argument
        (fillOnce fuel rest others).after ({ layout with zeros := false }.fill text)
      | 'b' :: rest =>
        let (text, cut) := echoWith argument.length argument
        if cut then ⟨layout.fill text, others, true⟩
        else (fillOnce fuel rest others).after (layout.fill text)
      | 'c' :: rest => (fillOnce fuel rest others).after (layout.fill (argument.take 1))
      | c :: rest =>
        let n := formatNumber argument
        let digits : Option Octets := match c with
          | 'd' | 'i' => some ((if layout.plus && 0 ≤ n then ['+'] else []) ++ (toString n).toList)
          | 'u' => some (toString n).toList
          | 'o' => some (digitsIn 8 n.toNat)
          | 'x' => some (digitsIn 16 n.toNat)
          | 'X' => some ((digitsIn 16 n.toNat).map Char.toUpper)
          | _ => none
        match digits with
        | some text => (fillOnce fuel rest others).after (layout.fill text)
        | none => (fillOnce fuel rest arguments).after ['%', c]
      | [] => ⟨['%'], arguments, false⟩
    | c :: rest => (fillOnce fuel rest arguments).after [c]

/-- Fills a format as often as arguments are left; `fuel` bounds that number. -/
def formattedWith : Nat → Octets → List Octets → Octets
  | 0, _, _ => []
  | fuel + 1, format, arguments =>
    let filled := fillOnce format.length format arguments
    if filled.cut || filled.rest.isEmpty || filled.rest.length = arguments.length then filled.text
    else filled.text ++ formattedWith fuel format filled.rest

/-- Fills a format with arguments. -/
def formatted (format : Octets) (arguments : List Octets) : Octets :=
  formattedWith (arguments.length + 1) format arguments

end CrateDoc.Shell
