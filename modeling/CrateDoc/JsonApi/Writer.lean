import CrateDoc.Document
import CrateDoc.Json.Writer

/-!
# Documentations as JSON:API

The exchange form of a documentation, a subset of JSON:API: a record of the crate under `data` and
the other records under `included`. A record shows its attributes always and its relationships
only if it has some. What a relation leads to stands under `data`, as a list if it leads to many
records and as a single object if it leads to one.
-/

namespace CrateDoc

open Json (Value)

/-- A reference as an object. -/
def Reference.toJson (r : Reference) : Value :=
  .object [("type", .text r.type), ("id", .text r.id)]

/-- What a relation leads to, under `data`. -/
def Relation.toJson : Relation → Value
  | .toOne target => .object [("data", target.toJson)]
  | .toMany targets => .object [("data", .list (targets.map Reference.toJson))]

/-- A record as an object. -/
def Document.toJson (d : Document) : Value :=
  let relationships := d.relationships.map fun (name, relation) => (name, relation.toJson)
  .object ([("type", .text d.type), ("id", .text d.id),
      ("attributes", .object (d.attributes.map fun (name, text) => (name, .text text)))] ++
    if d.relationships.isEmpty then [] else [("relationships", .object relationships)])

/-- A documentation as an object. -/
def Documentation.toJson (d : Documentation) : Value :=
  .object [("data", d.data.toJson), ("included", .list (d.included.map Document.toJson))]

/-- The text of a documentation: on one line, or with one entry on a line and each level indented
by a width. -/
def Documentation.toText (d : Documentation) (indent : Option Nat := none) : String :=
  match indent with
  | none => d.toJson.compact
  | some width => d.toJson.indented width

end CrateDoc
