/-!
# White space

Which characters count as white space, and what is left of a text when it is taken off the
ends. Texts are lists of characters here and in every module that reads text, so that a scan is
a recursion on the list.

* `isBlank` is Unicode white space together with the four information separators
  `U+001C`–`U+001F`.
* `strip` keeps what lies between the first and the last character that is not blank.
* `words` are the maximal runs of characters that are not blank.
-/

namespace CrateDoc.Text

/-- White space: the Unicode property, and the information separators `U+001C`–`U+001F`. -/
def isBlank (c : Char) : Bool :=
  let n := c.toNat
  (9 ≤ n && n ≤ 13) || (28 ≤ n && n ≤ 32) || n == 0x85 || n == 0xa0 || n == 0x1680 ||
    (0x2000 ≤ n && n ≤ 0x200a) || n == 0x2028 || n == 0x2029 || n == 0x202f || n == 0x205f ||
    n == 0x3000

/-- What is left after the longest run at the end whose characters all satisfy `p`. -/
def dropTrailing (p : Char → Bool) (s : List Char) : List Char :=
  (s.reverse.dropWhile p).reverse

/-- The longest run at the end whose characters all satisfy `p`. -/
def takeTrailing (p : Char → Bool) (s : List Char) : List Char :=
  (s.reverse.takeWhile p).reverse

/-- The text without the white space at its start. -/
def stripLeft (s : List Char) : List Char := s.dropWhile isBlank

/-- The text without the white space at its end. -/
def stripRight (s : List Char) : List Char := dropTrailing isBlank s

/-- The text without the white space at either end. -/
def strip (s : List Char) : List Char := stripRight (stripLeft s)

/-- The text without any character of `p` at either end. -/
def trim (p : Char → Bool) (s : List Char) : List Char := dropTrailing p (s.dropWhile p)

/-- Cuts at every character that satisfies `p`; there is one piece more than there are cuts. -/
def pieces (p : Char → Bool) : List Char → List (List Char)
  | [] => [[]]
  | c :: rest =>
    if p c then [] :: pieces p rest
    else match pieces p rest with
      | [] => [[c]]
      | piece :: more => (c :: piece) :: more

/-- The maximal runs of characters that are not blank. -/
def words (s : List Char) : List (List Char) := (pieces isBlank s).filter (!·.isEmpty)

/-- The first place where `mark` occurs: the text before it and the text after it. -/
def cutAt? (mark : List Char) : List Char → Option (List Char × List Char)
  | [] => if mark.isEmpty then some ([], []) else none
  | c :: rest =>
    if mark.isPrefixOf (c :: rest) then some ([], (c :: rest).drop mark.length)
    else (cutAt? mark rest).map fun (before, behind) => (c :: before, behind)

/-- Whether `mark` occurs in the text. -/
def occurs (mark s : List Char) : Bool := (cutAt? mark s).isSome

/-- The text with one character put for another. -/
def exchange (old new : Char) (s : List Char) : List Char :=
  s.map fun c => if c = old then new else c

/-- An ASCII letter. -/
def isAsciiLetter (c : Char) : Bool := ('a' ≤ c && c ≤ 'z') || ('A' ≤ c && c ≤ 'Z')

/-- An ASCII digit. -/
def isAsciiDigit (c : Char) : Bool := '0' ≤ c && c ≤ '9'

/-- ASCII letters in lower case; every other character as it is. -/
def asciiLower (c : Char) : Char := c.toLower

@[simp] theorem dropTrailing_nil (p : Char → Bool) : dropTrailing p [] = [] := rfl

/-- Cutting at the end and putting the cut run back gives the text again. -/
theorem dropTrailing_append_takeTrailing (p : Char → Bool) (s : List Char) :
    dropTrailing p s ++ takeTrailing p s = s := by
  rw [dropTrailing, takeTrailing, ← List.reverse_append, List.takeWhile_append_dropWhile,
    List.reverse_reverse]

end CrateDoc.Text
