import CrateDoc.Html.Entities
import CrateDoc.Text.Digit
import CrateDoc.Text.Quoted

/-!
# Character references

What `&name;`, `&#65;` and `&#x41;` stand for in text. Reading is forgiving: the semicolon may be
missing, a known name may be followed by more letters, and what is no reference stays as typed.

* `unescape` replaces every reference of a text.
* A number that is no character stands for `U+FFFD`, for nothing, or for the character that the
  old Windows code page has in its place (`numbered`).
* A decimal number of too many digits is not forgiven: there is no text then (`PageError`).
-/

namespace CrateDoc.Html

open CrateDoc.Text

/-- Why a page cannot be read. -/
inductive PageError
  /-- A decimal reference has so many digits, more than a number may have. -/
  | longNumber (digits : Nat)
  /-- A marked section begins with a word that is no name of one. -/
  | unknownSection (name : List Char)
  /-- A marked section, the text from its `<` on, begins with no name at all. -/
  | noSectionName (text : List Char)
  deriving DecidableEq, Repr

/-- The error in words. -/
def PageError.message : PageError → String
  | .longNumber digits => tooManyDigits digits
  | .unknownSection name =>
    "unknown status keyword " ++ String.ofList (quoted name) ++ " in marked section"
  | .noSectionName text => "expected name token at " ++ String.ofList (quoted (text.take 20))

/-- The characters of the Windows code page at 128 to 159. -/
def windowsCharacters : List Nat :=
  [0x20ac, 0x81, 0x201a, 0x192, 0x201e, 0x2026, 0x2020, 0x2021, 0x2c6, 0x2030, 0x160, 0x2039,
   0x152, 0x8d, 0x17d, 0x8f, 0x90, 0x2018, 0x2019, 0x201c, 0x201d, 0x2022, 0x2013, 0x2014,
   0x2dc, 0x2122, 0x161, 0x203a, 0x153, 0x9d, 0x17e, 0x178]

/-- Code points that a reference must not name, and that then stand for nothing. -/
def isNoncharacter (n : Nat) : Bool :=
  (1 ≤ n && n ≤ 8) || n == 11 || (14 ≤ n && n ≤ 31) || n == 127 || (0xfdd0 ≤ n && n ≤ 0xfdef) ||
    n % 0x10000 == 0xfffe || n % 0x10000 == 0xffff

/-- What the reference with a number stands for. -/
def numbered (n : Nat) : List Char :=
  if n = 0 then ['\ufffd']
  else if 128 ≤ n ∧ n < 160 then [Char.ofNat ((windowsCharacters[n - 128]?).getD 0xfffd)]
  else if (0xd800 ≤ n ∧ n ≤ 0xdfff) ∨ 0x10ffff < n then ['\ufffd']
  else if isNoncharacter n then []
  else [Char.ofNat n]

/-- The longest start of a name that is known, of `size` characters at most and at least two. -/
def knownStart? (name : List Char) : Nat → Option (List Char)
  | 0 | 1 => none
  | size + 2 =>
    match entity? (name.take (size + 2)) with
    | some known => some (known ++ name.drop (size + 2))
    | none => knownStart? name (size + 1)

/-- What the reference with a name stands for; the name may end in its semicolon. -/
def named (name : List Char) : List Char :=
  match entity? name with
  | some known => known
  | none => (knownStart? name (name.length - 1)).getD ('&' :: name)

/-- A hexadecimal digit. -/
def isHexDigit (c : Char) : Bool :=
  isAsciiDigit c || ('a' ≤ c && c ≤ 'f') || ('A' ≤ c && c ≤ 'F')

/-- A character that the name in a reference may hold. -/
def isNameCharacter (c : Char) : Bool :=
  !(c == '\t' || c == '\n' || c == '\x0c' || c == ' ' || c == '<' || c == '&' || c == '#' ||
    c == ';')

/-- Takes the semicolon that may stand at the start. -/
def dropSemicolon : List Char → List Char
  | ';' :: rest => rest
  | rest => rest

/-- The reference by the number whose digits in a base stand at the start of a text: what it stands
for, and the text behind it. -/
def numberReference? (base : Nat) (isDigit : Char → Bool) (s : List Char) :
    Option (List Char × List Char) :=
  let digits := s.takeWhile isDigit
  if digits.isEmpty then none
  else some (numbered (readDigits base digits), dropSemicolon (s.dropWhile isDigit))

/-- The reference whose ampersand stands just before the text: what it stands for, and the text
behind it. -/
def reference? (s : List Char) : Except PageError (Option (List Char × List Char)) :=
  match s with
  | '#' :: 'x' :: rest | '#' :: 'X' :: rest => .ok (numberReference? 16 isHexDigit rest)
  | '#' :: rest =>
    let count := (rest.takeWhile isAsciiDigit).length
    if maxDigits < count then .error (.longNumber count)
    else .ok (numberReference? 10 isAsciiDigit rest)
  | _ =>
    let name := (s.take 32).takeWhile isNameCharacter
    let rest := s.drop name.length
    if name.isEmpty then .ok none
    else if rest.head? = some ';' then .ok (some (named (name ++ [';']), rest.tail))
    else .ok (some (named name, rest))

/-- Replaces references from the left; `fuel` bounds the number of steps. -/
def unescapeWithin : Nat → List Char → Except PageError (List Char)
  | 0, s => .ok s
  | _ + 1, [] => .ok []
  | fuel + 1, '&' :: rest => do
    match ← reference? rest with
    | some (replacement, behind) => return replacement ++ (← unescapeWithin fuel behind)
    | none => return '&' :: (← unescapeWithin fuel rest)
  | fuel + 1, c :: rest => return c :: (← unescapeWithin fuel rest)

/-- The text with every character reference replaced by what it stands for. -/
def unescape (s : List Char) : Except PageError (List Char) := unescapeWithin s.length s

/-- A text without an ampersand stays as it is. -/
theorem unescapeWithin_of_notMem {fuel : Nat} {s : List Char} (h : '&' ∉ s) :
    unescapeWithin fuel s = .ok s := by
  fun_induction unescapeWithin fuel s with
  | case1 => rfl
  | case2 => rfl
  | case3 => simp at h
  | case4 _ _ _ _ ih =>
    rw [ih (List.not_mem_of_not_mem_cons h)]
    rfl

end CrateDoc.Html
