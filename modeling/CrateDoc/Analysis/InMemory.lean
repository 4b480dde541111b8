import CrateDoc.Analysis.Source
import CrateDoc.Entries

/-!
# Definitions in memory

A source that is given its definitions. A definition's children are those that name it as their
parent, in the order in which they are given. Without explicit roots, every definition without a
parent is the root of the crate of its qualified name.
-/

namespace CrateDoc

/-- Definitions by their ids, and the roots of crates by their names. -/
structure InMemorySource where
  definitions : Entries DefId Definition
  children : Entries DefId (List DefId)
  roots : Entries String DefId

/-- Why definitions make no source. -/
inductive InMemoryError
  | registeredTwice (id : DefId)
  | unknownParent (id parent : DefId)

/-- The error in words. -/
def InMemoryError.message : InMemoryError → String
  | .registeredTwice id => "Definition id " ++ id.describe ++ " registered twice"
  | .unknownParent id parent =>
    "Definition " ++ id.describe ++ " points at unknown parent " ++ parent.describe

namespace InMemorySource

/-- The definitions by their ids, which must be distinct. -/
def register (table : Entries DefId Definition) :
    List Definition → Except InMemoryError (Entries DefId Definition)
  | [] => .ok table
  | d :: rest =>
    if Entries.has d.id table then .error (.registeredTwice d.id)
    else register (Entries.put d.id d table) rest

/-- Adds each definition to the children of its parent, which must be there. -/
def link (children : Entries DefId (List DefId)) :
    List Definition → Except InMemoryError (Entries DefId (List DefId))
  | [] => .ok children
  | d :: rest =>
    match d.parent with
    | none => link children rest
    | some parent =>
      match Entries.get? parent children with
      | none => .error (.unknownParent d.id parent)
      | some siblings => link (Entries.put parent (siblings ++ [d.id]) children) rest

/-- The definitions without a parent, by their qualified names. -/
def defaultRoots (definitions : List Definition) : Entries String DefId :=
  Entries.ofPairs ((definitions.filter (·.parent.isNone)).map fun d => (d.qualifiedName, d.id))

/-- The source of some definitions, with explicit roots or without. -/
def ofDefinitions (definitions : List Definition) (roots : Option (Entries String DefId)) :
    Except InMemoryError InMemorySource := do
  let table ← register [] definitions
  let children ← link (table.map fun entry => (entry.1, [])) definitions
  return ⟨table, children, roots.getD (defaultRoots definitions)⟩

/-- The names of all crates, in order. -/
def crateNames (source : InMemorySource) : List String :=
  (source.roots.map (·.1)).mergeSort (· ≤ ·)

/-- The source as an interface; `override` lists children that differ from those derived. -/
def toSource (source : InMemorySource) (override : Entries DefId (List DefId) := []) :
    AnalysisSource Id where
  resolveRoot name := match Entries.get? name source.roots with
    | some id => .ok id
    | none => .error (.crateNotFound name)
  definition id := match Entries.get? id source.definitions with
    | some d => .ok d
    | none => .error (.unknownId id)
  childrenOf id := match (Entries.get? id override).or (Entries.get? id source.children) with
    | some ids => .ok ids
    | none => .error (.unknownId id)

end InMemorySource

end CrateDoc
