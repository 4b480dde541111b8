import CrateDoc.JsonApi.Checked
import CrateDoc.JsonApi.Writer
import CrateDoc.Json.Reader
import CrateDoc.Text.Utf8

/-!
# Reading documentations back

`Documentation.ofJson` reads what `Documentation.toJson` writes, and somewhat more: fields it does
not know are passed over, `included`, `attributes` and `relationships` may be left out, and a type
may also stand under `type_` if there is no `type`. Nothing is coerced to a text. All problems of
a value are reported, in the order of the fields.
-/

namespace CrateDoc

open Json (Value)
open JsonApi

/-- Reads the type of a record: what stands under `type`, or else under `type_`. -/
def JsonApi.typeOfJson (fields : List (String × Value)) : Checked String :=
  match Entries.get? "type" fields, Entries.get? "type_" fields with
  | none, some value => .required "type_" .text (some value)
  | value, _ => .required "type" .text value

/-- Reads a reference. -/
def Reference.ofJson : Value → Checked Reference
  | .object fields =>
    (fun (type, id) => ⟨type, id⟩) <$> Checked.both (typeOfJson fields)
      (.required "id" .text (Entries.get? "id" fields))
  | _ => .fail .notRecord

/-- Reads a list of references. -/
def Reference.listOfJson : Value → Checked (List Reference)
  | .list values => .items Reference.ofJson 0 values
  | _ => .fail .notList

/-- Reads what a relation leads to: a list of references or else a single reference. If it is
neither, the problems of both readings are reported. -/
def Relation.targetOfJson (v : Value) : Checked Relation :=
  match Checked.within (.shape .toMany) (Reference.listOfJson v) with
  | .ok targets => .ok (.toMany targets)
  | .error problems =>
    match Checked.within (.shape .toOne) (Reference.ofJson v) with
    | .ok target => .ok (.toOne target)
    | .error more => .error (problems ++ more)

/-- Reads a relation. -/
def Relation.ofJson : Value → Checked Relation
  | .object fields => .required "data" Relation.targetOfJson (Entries.get? "data" fields)
  | _ => .fail .notRecord

/-- Reads the attributes of a record. -/
def Document.attributesOfJson : Option Value → Checked (Entries String String)
  | none => .ok []
  | some (.object fields) => .entries .text fields
  | some _ => .fail .notMap

/-- Reads the relationships of a record; none may be written as `null`. -/
def Document.relationshipsOfJson : Option Value → Checked (Entries String Relation)
  | none | some .null => .ok []
  | some (.object fields) => .entries Relation.ofJson fields
  | some _ => .fail .notMap

/-- Reads a record. -/
def Document.ofJson : Value → Checked Document
  | .object fields =>
    (fun ((type, id), attributes, relationships) => ⟨type, id, attributes, relationships⟩) <$>
      Checked.both
        (Checked.both (typeOfJson fields)
          (.required "id" .text (Entries.get? "id" fields)))
        (Checked.both
          (.within (.field "attributes") (attributesOfJson (Entries.get? "attributes" fields)))
          (.within (.field "relationships")
            (relationshipsOfJson (Entries.get? "relationships" fields))))
  | _ => .fail .notRecord

/-- Reads the records beside the crate's own. -/
def Documentation.includedOfJson : Option Value → Checked (List Document)
  | none => .ok []
  | some (.list values) => .items Document.ofJson 0 values
  | some _ => .fail .notList

/-- Reads a documentation. -/
def Documentation.ofJson : Value → Checked Documentation
  | .object fields =>
    (fun (data, included) => ⟨data, included⟩) <$> Checked.both
      (.required "data" Document.ofJson (Entries.get? "data" fields))
      (.within (.field "included") (includedOfJson (Entries.get? "included" fields)))
  | _ => .fail .notRecord

/-- Reads the text of a documentation. -/
def Documentation.ofText (s : List Char) : Checked Documentation :=
  match Value.read .interchange s with
  | .ok v => ofJson v
  | .error _ => .fail .malformed

/-- Reads the text of a documentation from its bytes. -/
def Documentation.ofBytes (bytes : List UInt8) : Checked Documentation :=
  match Text.Utf8.decode bytes with
  | .ok s => ofText s
  | .error _ => .fail .malformed

end CrateDoc
