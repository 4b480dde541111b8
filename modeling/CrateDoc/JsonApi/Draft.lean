import CrateDoc.Document
import CrateDoc.JsonApi.Checked

/-!
# Drafts of documentations

A draft has the structure of a documentation but holds any values where a documentation holds
texts. `Draft.check` makes it a documentation. It checks one record after the other, the
references of a record before the record, and stops at the first that has a problem; of that one
it reports all problems, with places that are relative to it.
-/

namespace CrateDoc.JsonApi

open Json (Value)

/-- A reference of a draft. -/
structure Draft.Reference where
  type : Value
  id : Value

/-- What a relation of a draft leads to. -/
inductive Draft.Relation
  | toOne (target : Reference)
  | toMany (targets : List Reference)

/-- A record of a draft. -/
structure Draft.Record where
  type : Value
  id : Value
  attributes : Entries String Value
  relationships : Entries String Relation

/-- A documentation whose texts are not checked yet. -/
structure Draft where
  data : Draft.Record
  included : List Draft.Record

namespace Draft

/-- Checks the type and the id of a reference or a record. -/
def identity (type id : Value) : Checked (String × String) :=
  Checked.both (.within (.field "type_") (.text type)) (.within (.field "id") (.text id))

/-- Checks a reference. -/
def Reference.check (r : Reference) : Checked CrateDoc.Reference :=
  (fun (type, id) => ⟨type, id⟩) <$> identity r.type r.id

/-- Checks what a relation leads to. -/
def Relation.check : Relation → Checked CrateDoc.Relation
  | .toOne target => .toOne <$> target.check
  | .toMany targets => .toMany <$> targets.mapM Reference.check

/-- Checks a record. -/
def Record.check (r : Record) : Checked Document := do
  let relationships ← r.relationships.mapM fun (name, relation) => (name, ·) <$> relation.check
  let ((type, id), attributes) ← Checked.both (identity r.type r.id)
    (.within (.field "attributes") (.entries .text r.attributes))
  return ⟨type, id, attributes, relationships⟩

/-- Checks a draft. -/
def check (d : Draft) : Checked Documentation :=
  return ⟨← d.data.check, ← d.included.mapM Record.check⟩

end Draft

end CrateDoc.JsonApi
