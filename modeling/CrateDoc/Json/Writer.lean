import CrateDoc.Json.Value

/-!
# Writing JSON

`Value.compact` writes a value without any white space; `Value.indented` puts every entry on a
line of its own. In a text only the quote, the backslash and the control characters below the
space are escaped. The shortest way to write a value that is read back is not sought for
floating point numbers: they are written as messages write them.
-/

namespace CrateDoc.Json

/-- One character of a text. -/
def writeChar (c : Char) : List Char :=
  if c = '\x22' then ['\\', '\x22']
  else if c = '\\' then ['\\', '\\']
  else if c = '\n' then ['\\', 'n']
  else if c = '\r' then ['\\', 'r']
  else if c = '\t' then ['\\', 't']
  else if c = '\x08' then ['\\', 'b']
  else if c = '\x0c' then ['\\', 'f']
  else if c.toNat < 0x20 then '\\' :: 'u' :: Text.hexPadded 4 c.toNat
  else [c]

/-- A text between its quotes. -/
def writeText (s : String) : List Char :=
  '\x22' :: s.toList.flatMap writeChar ++ ['\x22']

/-- How a value is laid out: on one line, or over several with a width for each level. -/
structure Layout where
  width : Option Nat

namespace Layout

/-- A line break and the indentation of a level. -/
def lineBreak (layout : Layout) (level : Nat) : List Char :=
  match layout.width with
  | none => []
  | some width => '\n' :: List.replicate (width * level) ' '

/-- What stands between a key and its value. -/
def colon (layout : Layout) : List Char :=
  if layout.width.isSome then [':', ' '] else [':']

end Layout

mutual

/-- Writes a value at a level of nesting. -/
def write (layout : Layout) (level : Nat) : Value → List Char
  | .null => "null".toList
  | .bool b => (if b then "true" else "false").toList
  | .int n => (toString n).toList
  | .float x => x.text.toList
  | .text s => writeText s
  | .list [] => ['[', ']']
  | .list (item :: rest) =>
    '[' :: layout.lineBreak (level + 1) ++ write layout (level + 1) item ++
      writeItems layout (level + 1) rest ++ layout.lineBreak level ++ [']']
  | .object [] => ['{', '}']
  | .object ((key, value) :: rest) =>
    '{' :: layout.lineBreak (level + 1) ++ writeText key ++ layout.colon ++
      write layout (level + 1) value ++ writeFields layout (level + 1) rest ++
      layout.lineBreak level ++ ['}']

/-- Writes the items of a list after the first. -/
def writeItems (layout : Layout) (level : Nat) : List Value → List Char
  | [] => []
  | item :: rest =>
    ',' :: layout.lineBreak level ++ write layout level item ++ writeItems layout level rest

/-- Writes the fields of an object after the first. -/
def writeFields (layout : Layout) (level : Nat) : List (String × Value) → List Char
  | [] => []
  | (key, value) :: rest =>
    ',' :: layout.lineBreak level ++ writeText key ++ layout.colon ++ write layout level value ++
      writeFields layout level rest

end

/-- The value on one line, without white space. -/
def Value.compact (v : Value) : String := String.ofList (write ⟨none⟩ 0 v)

/-- The value with one entry on a line, each level indented by `width` more spaces. -/
def Value.indented (width : Nat) (v : Value) : String := String.ofList (write ⟨some width⟩ 0 v)

end CrateDoc.Json
