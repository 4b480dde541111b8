import CrateDoc.Html.Reference
import CrateDoc.Yaml.Cursor

/-!
# Tags

A tag says what kind of value a node stands for. A scalar that is written plainly and without a
tag gets one by its form (`Tag.ofPlain`): `yes` is a truth value, `010` and `1:30` are integers,
a number with a point is a float, and so on; what fits no form is text.
-/

namespace CrateDoc.Yaml

open CrateDoc.Text CrateDoc.Html

/-- What kind of value a node stands for. -/
inductive Tag
  | null
  | bool
  | int
  | float
  | binary
  | timestamp
  | text
  | list
  | mapping
  /-- A mapping whose values do not count. -/
  | set
  /-- A list of mappings with one entry each. -/
  | pairs
  /-- The key under which other mappings are merged in. -/
  | merge
  /-- The key of the value that stands for a whole mapping. -/
  | value
  | other
  deriving DecidableEq, Repr

namespace Tag

/-- What the tags of the format begin with. -/
def standard : List Char := "tag:yaml.org,2002:".toList

/-- The tag with a full name. -/
def ofName (name : List Char) : Tag :=
  if standard.isPrefixOf name then
    match String.ofList (name.drop standard.length) with
    | "null" => .null
    | "bool" => .bool
    | "int" => .int
    | "float" => .float
    | "binary" => .binary
    | "timestamp" => .timestamp
    | "str" => .text
    | "seq" => .list
    | "map" => .mapping
    | "set" => .set
    | "omap" | "pairs" => .pairs
    | "merge" => .merge
    | "value" => .value
    | _ => .other
  else .other

/-! ### The forms of plain scalars -/

/-- A reader of one form: what is left behind it, in all the ways in which it can be read. -/
abbrev Form := List Char → List (List Char)

namespace Form

/-- A character that satisfies a test. -/
def one (p : Char → Bool) : Form
  | c :: rest => if p c then [rest] else []
  | [] => []

/-- A particular character. -/
def char (c : Char) : Form := one (· == c)

/-- Any number of characters that satisfy a test. -/
def many (p : Char → Bool) : Form
  | [] => [[]]
  | c :: rest => (if p c then many p rest else []) ++ [c :: rest]

/-- One form after the other. -/
def seq (forms : List Form) : Form := fun s =>
  forms.foldl (fun rests form => rests.flatMap form) [s]

/-- One of several forms. -/
def any (forms : List Form) : Form := fun s => forms.flatMap (· s)

/-- A form that may be left out. -/
def opt (form : Form) : Form := fun s => form s ++ [s]

/-- At most `count` of a form, each after the other. -/
def upTo (form : Form) : Nat → Form
  | 0 => fun s => [s]
  | count + 1 => fun s => (form s).flatMap (upTo form count) ++ [s]

/-- One of several words. -/
def words (texts : List String) : Form := fun s =>
  texts.filterMap fun text =>
    if text.toList.isPrefixOf s then some (s.drop text.toList.length) else none

/-- Whether a text has a form. A newline at the end does not count. -/
def fits (form : Form) (s : List Char) : Bool :=
  (form s).any fun rest => rest == [] || rest == ['\n']

/-- Digits. -/
def digit : Form := one isAsciiDigit

/-- A sign. -/
def sign : Form := opt (one fun c => c == '+' || c == '-')

/-- A digit or an underscore. -/
def isDigitOrUnderscore (c : Char) : Bool := isAsciiDigit c || c == '_'

/-- Digits and underscores, a digit first. -/
def digits : Form := seq [digit, many isDigitOrUnderscore]

/-- Minutes or seconds behind a colon; `size` bounds how many there are. -/
def sixtieths (size : Nat) : Form :=
  let part := seq [char ':', opt (one fun c => '0' ≤ c && c ≤ '5'), digit]
  seq [part, upTo part size]

/-- A truth value. -/
def bool : Form :=
  words ["yes", "Yes", "YES", "no", "No", "NO", "true", "True", "TRUE", "false", "False", "FALSE",
    "on", "On", "ON", "off", "Off", "OFF"]

/-- A number with a point. -/
def float (size : Nat) : Form :=
  let exponent := opt (seq [one fun c => c == 'e' || c == 'E', one fun c => c == '+' || c == '-',
    digit, many isAsciiDigit])
  any [seq [sign, digits, char '.', many isDigitOrUnderscore, exponent],
    seq [char '.', digits, exponent],
    seq [sign, digits, sixtieths size, char '.', many isDigitOrUnderscore],
    seq [sign, words [".inf", ".Inf", ".INF"]],
    words [".nan", ".NaN", ".NAN"]]

/-- An integer: binary, octal, decimal, hexadecimal or by sixties. -/
def int (size : Nat) : Form :=
  let nonzero := one fun c => '1' ≤ c && c ≤ '9'
  let run (p : Char → Bool) : Form :=
    seq [one fun c => p c || c == '_', many fun c => p c || c == '_']
  any [seq [sign, words ["0b"], run fun c => c == '0' || c == '1'],
    seq [sign, char '0', run fun c => '0' ≤ c && c ≤ '7'],
    seq [sign, any [char '0', seq [nonzero, many isDigitOrUnderscore]]],
    seq [sign, words ["0x"], run isHexDigit],
    seq [sign, nonzero, many isDigitOrUnderscore, sixtieths size]]

/-- A date, or a date and a time. -/
def timestamp : Form :=
  let two := seq [digit, digit]
  let oneOrTwo := seq [digit, opt digit]
  let blank := many fun c => c == ' ' || c == '\t'
  let year := seq [two, two]
  any [seq [year, char '-', two, char '-', two],
    seq [year, char '-', oneOrTwo, char '-', oneOrTwo,
      any [one fun c => c == 'T' || c == 't', seq [one fun c => c == ' ' || c == '\t', blank]],
      oneOrTwo, char ':', two, char ':', two, opt (seq [char '.', many isAsciiDigit]),
      opt (seq [blank, any [char 'Z', seq [one fun c => c == '+' || c == '-', oneOrTwo,
        opt (seq [char ':', two])]]])]]

end Form

/-- The tag of a plain scalar without a tag of its own. -/
def ofPlain (s : List Char) : Tag :=
  if Form.fits Form.bool s then .bool
  else if Form.fits (Form.float s.length) s then .float
  else if Form.fits (Form.int s.length) s then .int
  else if Form.fits (Form.words ["<<"]) s then .merge
  else if s.isEmpty || Form.fits (Form.words ["~", "null", "Null", "NULL"]) s then .null
  else if Form.fits Form.timestamp s then .timestamp
  else if Form.fits (Form.words ["="]) s then .value
  else .text

end Tag

end CrateDoc.Yaml
