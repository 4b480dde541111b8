import CrateDoc.Analysis.Source
import CrateDoc.Document
import CrateDoc.Log
import CrateDoc.Summary

/-!
# The graph of documents

`Graph.build` walks the definitions of a crate level by level from its root and makes a document
of each that is shown. Relations lead from a document to its children, by their kinds, and from a
module to its parent, unless the parent is the root.

A level is *expanded* first: the children of all its definitions are looked up, each by itself.
Then the children are *attached* to the level's documents in order; a definition or a document id
that was met before is an error. The number of levels is bounded by the number of definitions,
since each definition is met once.
-/

namespace CrateDoc

/-- Why there is no graph. -/
inductive GraphError
  | analysis (error : AnalysisError)
  /-- A definition was met twice. -/
  | duplicateDefinition (id : DefId)
  /-- Two definitions have one document id. -/
  | duplicateDocument (id : String)
  /-- A relation to many documents has the name of one to a single document. -/
  | singularRelation (error : SingularRelation)
  /-- Nobody is to do the work. -/
  | noWorkers
  /-- The text of a definition has no plain summary. -/
  | summary (error : Html.PageError)

/-- The error in words. -/
def GraphError.message : GraphError → String
  | .analysis error => error.message
  | .duplicateDefinition id => "Duplicate document for " ++ id.describe
  | .duplicateDocument id => "Duplicate document for " ++ Text.quote id
  | .singularRelation error => error.message
  | .noWorkers => "max_workers must be greater than 0"
  | .summary error => error.message

namespace Graph

/-- The type of the document of a crate. -/
def crateType : String := "crate"

/-- The relation from a module to its parent. -/
def parentRelation : String := "parent"

/-- A definition with its document. -/
abbrev Node := Definition × Document

/-- The document of a crate. -/
def rootDocument (crate : String) (root : Definition) : Document where
  type := crateType
  id := crate
  attributes := [("docs", root.docs)]

/-- The document of a definition, without its relations. -/
def documentFor (d : Definition) (type : String) : Except GraphError Document := do
  let plain ← (plainSummary d.docs.toList).mapError .summary
  return {
    type := type
    id := d.qualifiedName
    attributes := [("name", d.name), ("docs", d.docs),
      ("summary", String.ofList (summary d.docs.toList)),
      ("plainSummary", String.ofList plain)] }

/-- The report of a definition that has no document. -/
def skipped (d : Definition) : LogRecord :=
  ⟨.debug, "graph", "Skipping " ++ d.qualifiedName ++ " (" ++ d.kind.name ++ ")"⟩

/-- Steps of a build: they report, and may fail. -/
abbrev Building (m : Type → Type) := ExceptT GraphError (StateT (List LogRecord) m)

section

variable {m : Type → Type} [Monad m]

/-- Asks the source. -/
def ask {α : Type} (answer : m (Except AnalysisError α)) : Building m α :=
  ExceptT.mk fun logs => do
    match ← answer with
    | .ok a => return (.ok a, logs)
    | .error e => return (.error (.analysis e), logs)

/-- Adds a report. -/
def report (record : LogRecord) : Building m Unit :=
  ExceptT.mk fun logs => return (.ok (), logs ++ [record])

/-- The reference from a module to its parent: the parent that it names, or else the definition
that lists it. The root is no parent, and neither is a definition without a document. -/
def parentReference (source : AnalysisSource m) (root : DefId) (child parent : Definition) :
    Building m (Option Reference) := do
  let id := child.parent.getD parent.id
  if id == root then return none
  else
    let owner ← if id == parent.id then pure parent else ask (source.definition id)
    return owner.kind.documentType?.map fun type => ⟨type, owner.qualifiedName⟩

/-- The child of an id with its document, unless it has none. -/
def expandChild (source : AnalysisSource m) (root : DefId) (parent : Definition) (id : DefId) :
    Building m (Option Node) := do
  let child ← ask (source.definition id)
  match child.kind.documentType? with
  | none =>
    report (skipped child)
    return none
  | some type =>
    let document ← (documentFor child type : Except GraphError _)
    if child.kind = .module then
      match ← parentReference source root child parent with
      | some reference =>
        return some (child, document.addSingularRelationship parentRelation reference)
      | none => return some (child, document)
    else return some (child, document)

/-- The children of a definition that have documents. -/
def expand (source : AnalysisSource m) (root : DefId) (parent : Definition) :
    Building m (List Node) := do
  let ids ← ask (source.childrenOf parent.id)
  let children ← ids.mapM (expandChild source root parent)
  return children.filterMap id

/-- Expands all definitions of a level; a failure of one does not keep the others back. -/
def expandAll (source : AnalysisSource m) (root : DefId) :
    List Node → StateT (List LogRecord) m (List (Node × Except GraphError (List Node)))
  | [] => return []
  | node :: rest => do
    let children ← (expand source root node.1).run
    return (node, children) :: (← expandAll source root rest)

end

/-- The ids that were met. -/
structure Met where
  definitions : List DefId
  documents : List String

/-- Attaches children to a document: the document with its relations. -/
def attach (top : Bool) : Met → Document → List Node → Except GraphError (Met × Document)
  | met, document, [] => .ok (met, document)
  | met, document, (child, childDocument) :: rest =>
    if met.definitions.contains child.id then .error (.duplicateDefinition child.id)
    else if childDocument.id ∈ met.documents then .error (.duplicateDocument childDocument.id)
    else do
      let met : Met := ⟨child.id :: met.definitions, childDocument.id :: met.documents⟩
      let (added, document) := match child.kind.relationName? top with
        | some relation => document.addRelationship relation childDocument.reference
        | none => (.ok (), document)
      added.mapError .singularRelation
      attach top met document rest

/-- Attaches the children of all documents of a level: the finished documents, and the level of
the children. -/
def attachAll (root : DefId) : Met → List (Node × Except GraphError (List Node)) →
    Except GraphError (Met × List Document × List Node)
  | met, [] => .ok (met, [], [])
  | met, ((parent, document), expansion) :: rest => do
    let children ← expansion
    let (met, document) ← attach (parent.id == root) met document children
    let (met, documents, next) ← attachAll root met rest
    return (met, document :: documents, children ++ next)

section

variable {m : Type → Type} [Monad m]

/-- The finished documents of a level and of all levels below it; `fuel` bounds the number of
levels. -/
def levels (source : AnalysisSource m) (root : DefId) :
    Nat → Met → List Node → Building m (List Document)
  | 0, _, _ => return []
  | _ + 1, _, [] => return []
  | fuel + 1, met, node :: rest => do
    let expansions ← (expandAll source root (node :: rest) : StateT (List LogRecord) m _)
    let (met, documents, next) ← (attachAll root met expansions : Except GraphError _)
    return documents ++ (← levels source root fuel met next)

/-- Builds the graph of a crate. `size` is the number of definitions of the source. -/
def building (source : AnalysisSource m) (size : Nat) (workers : Option Int) (crate : String) :
    Building m Documentation := do
  let id ← ask (source.resolveRoot crate)
  let root ← ask (source.definition id)
  report ⟨.info, "graph", "Building documentation graph for crate " ++ crate⟩
  if workers.any (· < 1) then throw .noWorkers
  let documents ← levels source id (size + 1) ⟨[id], [crate]⟩ [(root, rootDocument crate root)]
  let (data, included) := match documents with
    | [] => (rootDocument crate root, [])
    | data :: included => (data, included)
  report ⟨.info, "graph", "Built " ++ toString (included.length + 1) ++ " documents for crate " ++
    crate⟩
  return ⟨data, included⟩

/-- The graph of a crate, or why there is none, with the reports of the build. -/
def build (source : AnalysisSource m) (size : Nat) (workers : Option Int) (crate : String) :
    m (Except GraphError Documentation × List LogRecord) :=
  ((building source size workers crate).run).run []

end

end Graph

end CrateDoc
