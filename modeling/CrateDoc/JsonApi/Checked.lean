import CrateDoc.Json.Value

/-!
# Checks that report every problem

A check reads a value as something else, or says everything that is wrong with it: `both` and
`each` go on after the first problem, and `within` tells where in the whole value a part stood.
-/

namespace CrateDoc.JsonApi

/-- The two ways to read what a relation leads to. -/
inductive Shape
  | toMany
  | toOne
deriving DecidableEq

/-- One step of the way from a value to a part of it. -/
inductive Step
  | field (name : String)
  | item (index : Nat)
  | shape (s : Shape)
deriving DecidableEq

/-- What is wrong with a value. -/
inductive Cause
  /-- A text that is no JSON. -/
  | malformed
  | missing
  | notText
  | notRecord
  | notMap
  | notList
deriving DecidableEq

/-- Something wrong, and the way to it. -/
structure Problem where
  place : List Step
  cause : Cause
deriving DecidableEq

/-- A result, or all problems in the order in which they stand. -/
abbrev Checked (α : Type) := Except (List Problem) α

namespace Checked

variable {α β : Type}

/-- One problem with the value itself. -/
def fail (cause : Cause) : Checked α := .error [⟨[], cause⟩]

/-- Seen from one step further out. -/
def within (step : Step) : Checked α → Checked α :=
  Except.mapError (List.map fun problem => { problem with place := step :: problem.place })

/-- Two results, or the problems of both. -/
def both : Checked α → Checked β → Checked (α × β)
  | .ok a, .ok b => .ok (a, b)
  | .ok _, .error ps => .error ps
  | .error ps, .ok _ => .error ps
  | .error ps, .error qs => .error (ps ++ qs)

/-- All results of a list, or the problems of all its items. -/
def all : List (Checked α) → Checked (List α)
  | [] => .ok []
  | x :: rest => (fun (a, as) => a :: as) <$> both x (all rest)

/-- Reads a text. -/
def text : Json.Value → Checked String
  | .text s => .ok s
  | _ => fail .notText

/-- Reads the items of a list, the first of which has the index `start`. -/
def items (read : Json.Value → Checked α) (start : Nat) (values : List Json.Value) :
    Checked (List α) :=
  all ((values.zipIdx start).map fun (value, index) => within (.item index) (read value))

/-- Reads the values of a map. -/
def entries (read : Json.Value → Checked α) (fields : List (String × Json.Value)) :
    Checked (List (String × α)) :=
  all (fields.map fun (name, value) => within (.field name) ((name, ·) <$> read value))

/-- Reads a field, which has to be there. -/
def required (name : String) (read : Json.Value → Checked α) (value : Option Json.Value) :
    Checked α :=
  within (.field name) (match value with
    | none => fail .missing
    | some value => read value)

end Checked

end CrateDoc.JsonApi
