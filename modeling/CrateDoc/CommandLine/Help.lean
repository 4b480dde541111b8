import CrateDoc.CommandLine.Grammar
import CrateDoc.Text.Blank

/-!
# Help for command lines

The usage of a grammar, on one line or wrapped, and its help: usage, description, commands and
parameters in two columns. Lines hold at most `lineWidth` characters where words permit.
-/

namespace CrateDoc.CommandLine

/-- How long a line may be. -/
def lineWidth : Nat := 78

/-- Where the second column of help begins. -/
def helpColumn : Nat := 24

/-- Puts words on lines of at most `width` characters, with one space between them. `line` is the
line that is being filled. -/
def wrapWith (width : Nat) : String → List String → List String
  | line, [] => if line.isEmpty then [] else [line]
  | line, word :: rest =>
    if line.isEmpty then wrapWith width word rest
    else if line.length + 1 + word.length ≤ width then wrapWith width (line ++ " " ++ word) rest
    else line :: wrapWith width word rest

/-- Puts words on lines of at most `width` characters. -/
def wrap (width : Nat) (words : List String) : List String := wrapWith width "" words

/-- A number of spaces. -/
def spaces (n : Nat) : String := String.ofList (List.replicate n ' ')

namespace Grammar

/-- A parameter in a usage, without brackets around it. -/
def usageOf (p : Parameter) : String :=
  let name := p.names.headD ""
  match p.takes.shown? with
  | some shown => name ++ " " ++ shown
  | none => name

/-- The parameters in a usage. Those that exclude each other share brackets, at the place of the
first. -/
def parameterUsage (g : Grammar) : List String :=
  let exclusive := g.parameters.filter (g.exclusive.contains ·.key)
  g.parameters.filterMap fun p =>
    if !g.exclusive.contains p.key then some ("[" ++ usageOf p ++ "]")
    else if exclusive.head? = some p then
      some ("[" ++ String.intercalate " | " (exclusive.map usageOf) ++ "]")
    else none

/-- The names of the commands in braces. -/
def commandChoice (g : Grammar) : String :=
  "\x7b" ++ String.intercalate "," (g.commands.map (·.1)) ++ "\x7d"

/-- The command in a usage. -/
def commandUsage (g : Grammar) : List String :=
  if g.commands.isEmpty then [] else [g.commandChoice ++ " ..."]

/-- The usage: on one line if it fits there; else the parameters are wrapped beside the program,
and the command stands on a line of its own. -/
def usage (g : Grammar) : String :=
  let start := "usage: " ++ g.program
  let words := g.parameterUsage ++ g.commandUsage
  let line := String.intercalate " " (start :: words)
  if line.length ≤ lineWidth then line ++ "\n"
  else
    let indent := start.length + 1
    let lines := wrap (lineWidth - indent) g.parameterUsage ++ g.commandUsage
    start ++ " " ++ String.intercalate ("\n" ++ spaces indent) lines ++ "\n"

/-- An entry of help: what it is about, `indent` characters from the left, and an explanation in
the second column, below the subject if that is too long. -/
def entry (indent : Nat) (subject explanation : String) : String :=
  let words := (Text.words explanation.toList).map String.ofList
  let lines := wrap (lineWidth - helpColumn) words
  let start := spaces indent ++ subject
  if start.length + 2 ≤ helpColumn then
    start ++ spaces (helpColumn - start.length) ++
      String.intercalate ("\n" ++ spaces helpColumn) lines ++ "\n"
  else
    start ++ "\n" ++ String.join (lines.map fun line => spaces helpColumn ++ line ++ "\n")

/-- The names of a parameter, each with what stands for its value. -/
def subjectOf (p : Parameter) : String :=
  let value := match p.takes.shown? with
    | some shown => " " ++ shown
    | none => ""
  String.intercalate ", " (p.names.map (· ++ value))

/-- The help of a grammar. -/
def help (g : Grammar) : String :=
  let description := if g.description.isEmpty then "" else
    String.join ((wrap lineWidth ((Text.words g.description.toList).map String.ofList)).map
      (· ++ "\n")) ++ "\n"
  let commands := if g.commands.isEmpty then "" else
    "positional arguments:\n  " ++ g.commandChoice ++ "\n" ++
      String.join (g.commands.map fun (name, does) => entry 4 name does) ++ "\n"
  g.usage ++ "\n" ++ description ++ commands ++ "options:\n" ++
    String.join (g.parameters.map fun p => entry 2 (subjectOf p) p.help)

end Grammar

end CrateDoc.CommandLine
