import CrateDoc.Definition
import CrateDoc.Entries

/-!
# Documents

The records of a documentation: a document has a type, an id, texts as attributes, and relations
to other documents, which it names by reference only. A relation is to one document or to many;
which of the two is fixed by the first use of its name.

`documentType?` and `relationName?` say how a kind of definition is shown. Kinds without a
document type (unions, macros, tuples, methods, locals) are not documented.
-/

namespace CrateDoc

/-- Points at a document by its type and id. -/
structure Reference where
  type : String
  id : String
deriving DecidableEq

/-- What a relation leads to. -/
inductive Relation
  | toOne (target : Reference)
  | toMany (targets : List Reference)
deriving DecidableEq

/-- One record of a documentation. -/
structure Document where
  type : String
  id : String
  attributes : Entries String String := []
  relationships : Entries String Relation := []
deriving DecidableEq

/-- Asked to add to a relation that leads to one document. -/
structure SingularRelation where
  relation : String
  document : String
deriving DecidableEq

/-- The refusal in words. -/
def SingularRelation.message (e : SingularRelation) : String :=
  "Relationship '" ++ e.relation ++ "' on " ++ e.document ++ " is singular"

namespace Document

/-- The reference that points at a document. -/
def reference (d : Document) : Reference := ⟨d.type, d.id⟩

/-- A document whose relation leads somewhere else. -/
def withRelation (d : Document) (name : String) (relation : Relation) : Document :=
  { d with relationships := Entries.put name relation d.relationships }

/-- The relation of a name, and the document that has it: if there is none yet, the document is
given the one at hand. -/
def setDefault (d : Document) (name : String) (relation : Relation) : Relation × Document :=
  match Entries.get? name d.relationships with
  | some existing => (existing, d)
  | none => (relation, d.withRelation name relation)

/-- Adds a reference to a relation to many documents, unless it is there already: whether this was
refused, and the document in either case. The relation is made before it is looked at. -/
def addRelationship (d : Document) (relation : String) (target : Reference) :
    Except SingularRelation Unit × Document :=
  let (existing, d) := d.setDefault relation (.toMany [])
  match existing with
  | .toOne _ => (.error ⟨relation, d.id⟩, d)
  | .toMany targets =>
    if target ∈ targets then (.ok (), d)
    else (.ok (), d.withRelation relation (.toMany (targets ++ [target])))

/-- Sets a relation to one document; a relation of that name that is there already stays. -/
def addSingularRelationship (d : Document) (relation : String) (target : Reference) : Document :=
  (d.setDefault relation (.toOne target)).2

/-- The text of an attribute. -/
def attribute? (d : Document) (name : String) : Option String := Entries.get? name d.attributes

end Document

/-- The document of a crate and the documents of everything in it. -/
structure Documentation where
  data : Document
  included : List Document := []
deriving DecidableEq

namespace Documentation

/-- All documents, the crate's first. -/
def documents (d : Documentation) : List Document := d.data :: d.included

/-- The first document of an id. -/
def find? (d : Documentation) (id : String) : Option Document :=
  d.documents.find? fun document => document.id == id

end Documentation

namespace DefKind

/-- The singular and the plural under which a kind is shown. -/
def shownAs? : DefKind → Option (String × String)
  | module => some ("module", "modules")
  | struct => some ("struct", "structs")
  | enum => some ("enum", "enums")
  | trait => some ("trait", "traits")
  | function => some ("function", "functions")
  | type => some ("type", "types")
  | static => some ("static", "statics")
  | const => some ("const", "consts")
  | field => some ("field", "fields")
  | union | macroRule | tuple | method | localVariable => none

/-- The type of the documents of a kind. -/
def documentType? (kind : DefKind) : Option String := kind.shownAs?.map (·.1)

/-- Whether definitions of a kind have documents. -/
def isRetained (kind : DefKind) : Bool := kind.shownAs?.isSome

/-- The relation that leads from a document to its children of a kind: the plural at the crate
itself, and `child_` before it elsewhere. -/
def relationName? (kind : DefKind) (topLevel : Bool) : Option String :=
  kind.shownAs?.map fun shown => if topLevel then shown.2 else "child_" ++ shown.2

end DefKind

end CrateDoc
