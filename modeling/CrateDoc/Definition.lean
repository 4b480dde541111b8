import CrateDoc.Binary64
import CrateDoc.Text.Quoted

/-!
# Definitions

What an analysis of a crate knows: definitions, each with an id, a kind, a qualified name, its
documentation and perhaps the id of a parent.

Ids are compared by `DefId.key`, a normal form in which truth values and whole floating point
numbers are whole numbers. So equality of ids is an equivalence, and an id keeps the spelling in
which it was first given.
-/

namespace CrateDoc

/-- The kinds of definitions. -/
inductive DefKind
  | module
  | struct
  | enum
  | union
  | trait
  | function
  | macroRule
  | type
  | static
  | const
  | field
  | tuple
  | method
  | localVariable
deriving DecidableEq

namespace DefKind

/-- Every kind, in the order of declaration. -/
def all : List DefKind :=
  [module, struct, enum, union, trait, function, macroRule, type, static, const, field, tuple,
    method, localVariable]

/-- The name of a kind. -/
def name : DefKind → String
  | module => "module"
  | struct => "struct"
  | enum => "enum"
  | union => "union"
  | trait => "trait"
  | function => "function"
  | macroRule => "macro"
  | type => "type"
  | static => "static"
  | const => "const"
  | field => "field"
  | tuple => "tuple"
  | method => "method"
  | localVariable => "local"

/-- The kind of a name. -/
def ofName? (s : String) : Option DefKind := all.find? fun kind => kind.name == s

/-- What is said of a name that names no kind. -/
def unknownName (s : String) : String := Text.quote s ++ " is not a valid DefKind"

/-- Reading the name of a kind gives the kind. -/
theorem ofName?_name (kind : DefKind) : ofName? kind.name = some kind := by
  cases kind <;> decide

end DefKind

/-- The id of a definition. -/
inductive DefId
  | null
  | bool (b : Bool)
  | int (n : Int)
  | float (x : Binary64)
  | text (s : String)
  | tuple (items : List DefId)
deriving Inhabited

namespace DefId

mutual

/-- The normal form by which ids are compared. -/
def key : DefId → DefId
  | .bool b => .int (if b then 1 else 0)
  | .float x => match x.toInt? with
    | some n => .int n
    | none => .float x
  | .tuple items => .tuple (keys items)
  | id => id

/-- The normal forms of the parts of a tuple. -/
def keys : List DefId → List DefId
  | [] => []
  | id :: rest => id.key :: keys rest

end

mutual

/-- Whether two ids are spelled alike. -/
def alike : DefId → DefId → Bool
  | .null, .null => true
  | .bool a, .bool b => a == b
  | .int a, .int b => a == b
  | .float x, .float y => decide (x = y)
  | .text s, .text t => s == t
  | .tuple xs, .tuple ys => allAlike xs ys
  | _, _ => false

/-- Whether two lists of ids are spelled alike. -/
def allAlike : List DefId → List DefId → Bool
  | [], [] => true
  | x :: xs, y :: ys => alike x y && allAlike xs ys
  | _, _ => false

end

/-- Ids are equal when their normal forms are. -/
instance : BEq DefId := ⟨fun a b => alike a.key b.key⟩

mutual

/-- The text of an id inside messages. -/
def describe : DefId → String
  | .null => "None"
  | .bool b => if b then "True" else "False"
  | .int n => toString n
  | .float x => x.text
  | .text s => Text.quote s
  | .tuple [] => "()"
  | .tuple [id] => "(" ++ id.describe ++ ",)"
  | .tuple (id :: rest) => "(" ++ id.describe ++ describeRest rest ++ ")"

/-- The parts of a tuple after the first. -/
def describeRest : List DefId → String
  | [] => ""
  | id :: rest => ", " ++ id.describe ++ describeRest rest

end

end DefId

/-- One entity that an analysis reports. -/
structure Definition where
  id : DefId
  kind : DefKind
  qualifiedName : String
  name : String
  docs : String := ""
  parent : Option DefId := none

end CrateDoc
