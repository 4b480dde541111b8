import CrateDoc.Entries
import CrateDoc.Text.Quoted

/-!
# Templates

A template is a list of parts: text, the value of a name, a loop over a list and a condition.
Rendering puts the texts of the values in place character for character; a value is never read
as a template itself.
-/

namespace CrateDoc

/-- What a name stands for in a template. -/
inductive Template.Value
  | none
  | text (s : String)
  | texts (items : List String)
deriving DecidableEq

/-- One part of a template. -/
inductive Template.Part
  | text (s : String)
  /-- The value of a name. -/
  | value (name : String)
  /-- The body once for each item of a list, under the name `item`. -/
  | loop (item source : String) (body : List Template.Part)
  /-- The first body if the name stands for something that is not empty, else the second. -/
  | condition (name : String) (body otherwise : List Template.Part)

/-- A template. -/
abbrev Template := List Template.Part

namespace Template

/-- The names that a template may use and what they stand for, the innermost first. -/
abbrev Scope := Entries String Value

namespace Value

/-- Whether a value is there and not empty. -/
def holds : Value → Bool
  | .none => false
  | .text s => !s.isEmpty
  | .texts items => !items.isEmpty

/-- The items that a loop goes through. -/
def items : Value → List String
  | .none => []
  | .text s => s.toList.map fun c => String.ofList [c]
  | .texts items => items

/-- A value as it is printed; a value that is not there is printed as the word `None`. -/
def print : Value → String
  | .none => "None"
  | .text s => s
  | .texts [] => "()"
  | .texts [s] => "(" ++ Text.quote s ++ ",)"
  | .texts items => "(" ++ String.intercalate ", " (items.map Text.quote) ++ ")"

end Value

mutual

/-- The text of one part. -/
def Part.render (scope : Scope) : Part → String
  | .text s => s
  | .value name => match Entries.get? name scope with
    | some value => value.print
    | none => ""
  | .loop item source body =>
    let items := ((Entries.get? source scope).map Value.items).getD []
    String.join (items.map fun s => renderParts ((item, .text s) :: scope) body)
  | .condition name body otherwise =>
    if ((Entries.get? name scope).map Value.holds).getD false then renderParts scope body
    else renderParts scope otherwise

/-- The text of parts, one after the other. -/
def renderParts (scope : Scope) : List Part → String
  | [] => ""
  | part :: rest => part.render scope ++ renderParts scope rest

end

/-- The text of a template. -/
def render (template : Template) (scope : Scope) : String := renderParts scope template

end Template

end CrateDoc
