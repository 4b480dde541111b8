/-!
# Grammars of command lines

A command line consists of parameters, each known under one or more names, and at most one
command, which has a grammar of its own for whatever follows it. Some parameters exclude each
other.
-/

namespace CrateDoc.CommandLine

/-- What a parameter takes. -/
inductive Takes
  /-- Nothing: the parameter is there or not. -/
  | nothing
  /-- A text, which `shown` stands for in help. -/
  | text (shown : String)
  /-- A whole number, which `shown` stands for in help. -/
  | number (shown : String)
  /-- Nothing: the parameter asks for help. -/
  | help
deriving DecidableEq

/-- What stands for the value of a parameter in help. -/
def Takes.shown? : Takes → Option String
  | nothing | help => none
  | text shown | number shown => some shown

/-- A parameter. -/
structure Parameter where
  /-- The names, each with its dashes; at least one. -/
  names : List String
  takes : Takes
  help : String
deriving DecidableEq

namespace Parameter

/-- The name under which the value of a parameter is kept. -/
def key (p : Parameter) : String := p.names.getLast?.getD ""

/-- All names, as messages write them. -/
def title (p : Parameter) : String := String.intercalate "/" p.names

end Parameter

/-- The grammar of a command line. -/
structure Grammar where
  /-- What is to be typed to get here. -/
  program : String
  description : String := ""
  parameters : List Parameter
  /-- The keys of parameters that exclude each other. -/
  exclusive : List String := []
  /-- The names of the commands and what they do; none if no command is expected. -/
  commands : List (String × String) := []

namespace Grammar

/-- All names of parameters with the parameter they belong to. -/
def names (g : Grammar) : List (String × Parameter) :=
  g.parameters.flatMap fun p => p.names.map (·, p)

/-- The parameter of a name. -/
def named? (g : Grammar) (name : String) : Option Parameter :=
  (g.names.find? (·.1 == name)).map (·.2)

/-- Whether two parameters exclude each other. -/
def excludes (g : Grammar) (p q : Parameter) : Bool :=
  p != q && g.exclusive.contains p.key && g.exclusive.contains q.key

end Grammar

end CrateDoc.CommandLine
