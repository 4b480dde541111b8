import CrateDoc.Binary64
import CrateDoc.Entries
import CrateDoc.Text.Quoted

/-!
# JSON values

Whole numbers of any size and floating point numbers are told apart, and an object keeps the
order of its keys. `Value.describe` is the text of a value inside messages.
-/

namespace CrateDoc.Json

/-- A JSON value. -/
inductive Value
  | null
  | bool (b : Bool)
  | int (n : Int)
  | float (x : Binary64)
  | text (s : String)
  | list (items : List Value)
  | object (fields : List (String × Value))
deriving Inhabited

namespace Value

/-- The value of a field; a value that is no object has no fields. -/
def field? (key : String) : Value → Option Value
  | .object fields => Entries.get? key fields
  | _ => none

/-- The text of a value that is a text. -/
def text? : Value → Option String
  | .text s => some s
  | _ => none

/-- The items of a value that is a list. -/
def list? : Value → Option (List Value)
  | .list items => some items
  | _ => none

/-- Whether a value is an object. -/
def isObject : Value → Bool
  | .object _ => true
  | _ => false

/-- The number that a whole number or a truth value stands for. -/
def int? : Value → Option Int
  | .int n => some n
  | .bool b => some (if b then 1 else 0)
  | _ => none

mutual

/-- The text of a value inside messages: texts are quoted, and the constants are written `None`,
`True` and `False`. -/
def describe : Value → String
  | .null => "None"
  | .bool b => if b then "True" else "False"
  | .int n => toString n
  | .float x => x.text
  | .text s => Text.quote s
  | .list items => "[" ++ String.intercalate ", " (describeAll items) ++ "]"
  | .object fields => "\x7b" ++ String.intercalate ", " (describeFields fields) ++ "\x7d"

/-- The texts of the items of a list. -/
def describeAll : List Value → List String
  | [] => []
  | item :: rest => item.describe :: describeAll rest

/-- The texts of the fields of an object. -/
def describeFields : List (String × Value) → List String
  | [] => []
  | (key, value) :: rest => (Text.quote key ++ ": " ++ value.describe) :: describeFields rest

end

end Value

end CrateDoc.Json
