/-!
# Shell scripts

The commands of a shell script, as far as small scripts need them. Texts of scripts are octets: a
character below 256 stands for a byte, so that a script may produce any bytes.
-/

namespace CrateDoc.Shell

/-- Characters below 256, each of which stands for a byte. -/
abbrev Octets := List Char

/-- How a parameter is used in a word. -/
inductive Use
  | value
  /-- The length of the value. -/
  | length
  /-- Another word if there is no value; with `empty`, also if the value is empty. -/
  | default (empty : Bool) (word : Octets)
  /-- As `default`, and the parameter gets that value. -/
  | assign (empty : Bool) (word : Octets)
  /-- Another word if there is a value; with `empty`, only if it is not empty. -/
  | alternative (empty : Bool) (word : Octets)
deriving DecidableEq

/-- A piece of a word. What is quoted is neither split nor special. -/
inductive Piece
  | plain (text : Octets)
  | quoted (text : Octets)
  | parameter (name : Octets) (use : Use) (inQuotes : Bool)
  /-- The output of a script. -/
  | output (script : Octets) (inQuotes : Bool)
  | arithmetic (expression : Octets) (inQuotes : Bool)
deriving DecidableEq

/-- A word of a command. -/
abbrev Word := List Piece

/-- What a redirection does. -/
inductive Direction
  | input
  | output
  | append
  /-- Makes a descriptor the same as another. -/
  | duplicate
deriving DecidableEq

/-- A redirection of a descriptor. -/
structure Redirection where
  descriptor : Nat
  direction : Direction
  target : Word
deriving DecidableEq

/-- A command. -/
inductive Command
  | simple (assignments : List (Octets × Word)) (words : List Word)
  | sequence (commands : List Command)
  | pipeline (commands : List Command)
  | negated (command : Command)
  | andThen (first second : Command)
  | orElse (first second : Command)
  /-- Runs in a copy of the shell. -/
  | subshell (body : Command)
  | conditional (test body otherwise : Command)
  /-- Goes on as long as a command succeeds, or fails if `reversed`. -/
  | loop (reversed : Bool) (test body : Command)
  | each (name : Octets) (words : Option (List Word)) (body : Command)
  | choice (word : Word) (branches : List (List Word × Command))
  | define (name : Octets) (body : Command)
  | redirected (command : Command) (redirections : List Redirection)

/-- The command that does nothing. -/
def Command.nothing : Command := .sequence []

end CrateDoc.Shell
