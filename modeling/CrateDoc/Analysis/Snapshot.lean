import CrateDoc.Analysis.Source
import CrateDoc.Entries
import CrateDoc.FileTree
import CrateDoc.Log
import CrateDoc.Text.Lines

/-!
# Snapshots of the compiler's analysis

A source that is given the compiler's own records, one snapshot for each crate. The id of a
definition is the crate's name and the definition's number in the snapshot; records and
references that belong to other crates are left out.

Records are kept as they are and turned into definitions when they are asked for; a definition
that was made once is kept (`SnapshotSource.cache`), with the id as it was first asked for.
-/

namespace CrateDoc

open CrateDoc.Json

/-- The records of one or more snapshots. -/
structure SnapshotSource where
  /-- The fields of the records by their ids. -/
  records : Entries DefId (List (String × Value)) := []
  /-- The definitions that were asked for. -/
  cache : Entries DefId Definition := []
  roots : Entries String DefId := []

namespace SnapshotSource

/-- The kinds of records. -/
def kindOf? : String → Option DefKind
  | "Mod" => some .module
  | "Struct" => some .struct
  | "Enum" => some .enum
  | "Union" => some .union
  | "Trait" => some .trait
  | "Function" | "ForeignFunction" => some .function
  | "Macro" => some .macroRule
  | "Type" | "ExternType" => some .type
  | "Static" | "ForeignStatic" => some .static
  | "Const" => some .const
  | "Field" => some .field
  | "Tuple" | "TupleVariant" | "StructVariant" => some .tuple
  | "Method" => some .method
  | "Local" => some .localVariable
  | _ => none

/-- Whether a value names the snapshot's own crate. -/
def isOwnCrate : Value → Bool
  | .int n => n == 0
  | .bool b => !b
  | .float x => x.isZero
  | _ => false

/-- The id that a reference in a snapshot of a crate stands for, if it is one of that crate. -/
def localId? (crate : String) (reference : Value) : Option DefId :=
  if reference.isObject && ((reference.field? "krate").map isOwnCrate).getD true then
    match reference.field? "index" with
    | some (.int n) => some (.tuple [.text crate, .int n])
    | some (.bool b) => some (.tuple [.text crate, .bool b])
    | _ => none
  else none

/-- The items of a value; a value that is no list has none. -/
def itemsOf (value : Option Value) : List Value := (value.bind Value.list?).getD []

/-- The name of the crate that a snapshot is of. -/
def crateName? (payload : Value) : Option String :=
  ((((payload.field? "prelude").bind (·.field? "crate_id")).bind (·.field? "name")).bind
    Value.text?).filter (· ≠ "")

/-- Whether a record is the root of its crate. -/
def isRoot (record : Value) : Bool :=
  (record.field? "kind").bind Value.text? == some "Mod" &&
    (record.field? "qualname").bind Value.text? == some "::"

/-- Takes in one record of a snapshot of a crate. -/
def addRecord (crate : String) (source : SnapshotSource) (record : Value) : SnapshotSource :=
  match record with
  | .object fields =>
    match (record.field? "id").bind (localId? crate) with
    | some id => { source with
        records := Entries.put id fields source.records
        roots := if isRoot record then Entries.put crate id source.roots else source.roots }
    | none => source
  | _ => source

/-- Takes in a snapshot. -/
def addSnapshot (source : SnapshotSource) (payload : Value) :
    Except AnalysisError SnapshotSource :=
  if payload.isObject then
    match crateName? payload with
    | some crate => .ok ((itemsOf (payload.field? "defs")).foldl (addRecord crate) source)
    | none => .error .namelessSnapshot
  else .error .malformedSnapshot

/-- The qualified name of a record in its crate. -/
def qualify (crate name : String) : String :=
  if name = "::" then crate
  else if "::".toList.isPrefixOf name.toList then crate ++ name
  else crate ++ "::" ++ name

/-- The crate that an id belongs to. -/
def crateOf : DefId → String
  | .tuple (.text crate :: _) => crate
  | _ => ""

/-- Makes a definition of a record. -/
def lower (id : DefId) (fields : List (String × Value)) : Except AnalysisError Definition :=
  let record := Value.object fields
  let text (key : String) : Option String := (record.field? key).bind Value.text?
  match (text "kind").bind kindOf? with
  | none => .error (.unsupportedKind id ((record.field? "kind").getD .null))
  | some kind =>
    match text "qualname" with
    | none => .error (.noQualifiedName id)
    | some name => .ok {
        id := id
        kind := kind
        qualifiedName := qualify (crateOf id) name
        name := (text "name").getD ""
        docs := (text "docs").getD ""
        parent := (record.field? "parent").bind (localId? (crateOf id)) }

/-- The id of the root of a crate. -/
def resolveRoot (name : String) : StateM SnapshotSource (Except AnalysisError DefId) := do
  match Entries.get? name (← get).roots with
  | some id => return .ok id
  | none => return .error (.crateNotFound name)

/-- The definition of an id; it is made when it is first asked for. -/
def definition (id : DefId) : StateM SnapshotSource (Except AnalysisError Definition) := do
  let source ← get
  match Entries.get? id source.cache with
  | some d => return .ok d
  | none =>
    match Entries.get? id source.records with
    | none => return .error (.unknownId id)
    | some fields =>
      match lower id fields with
      | .error e => return .error e
      | .ok d =>
        set { source with cache := Entries.put id d source.cache }
        return .ok d

/-- The ids of the children that a record lists. -/
def childrenOf (id : DefId) : StateM SnapshotSource (Except AnalysisError (List DefId)) := do
  match Entries.get? id (← get).records with
  | none => return .error (.unknownId id)
  | some fields =>
    return .ok ((itemsOf ((Value.object fields).field? "children")).filterMap
      (localId? (crateOf id)))

/-- The source as an interface. -/
def toSource : AnalysisSource (StateM SnapshotSource) := ⟨resolveRoot, definition, childrenOf⟩

/-- The names of all crates, in order. -/
def crateNames (source : SnapshotSource) : List String :=
  (source.roots.map (·.1)).mergeSort (· ≤ ·)

/-! ### Files -/

/-- Reads one snapshot file. -/
def readFile (tree : FileTree) (path : Path) : Except AnalysisError Value := do
  let refuse (reason : String) : AnalysisError := .unreadable path.toString reason
  let bytes ← (tree.read path).mapError fun e => refuse e.message
  let text ← (Text.Utf8.decode bytes).mapError fun e => refuse e.message
  (Value.read .tolerant (Text.unifyNewlines text)).mapError fun e =>
    match e.complaint with
    | .tooManyDigits n => .longNumber (.tooManyDigits n)
    | _ => refuse e.message

/-- Takes in snapshot files one after the other. -/
def addFiles (tree : FileTree) :
    SnapshotSource → List Path → Except AnalysisError SnapshotSource
  | source, [] => .ok source
  | source, path :: rest => do
    let payload ← readFile tree path
    addFiles tree (← source.addSnapshot payload) rest

/-- The snapshot files in a directory, in the order of their names. -/
def filesIn (tree : FileTree) (directory : Path) : List Path :=
  let names := (tree.names directory).filter fun name => ".json".toList.isSuffixOf name.toList
  (names.mergeSort (· ≤ ·)).map fun name => directory.join ⟨.none, [name]⟩

/-- Reads all snapshot files in a directory, and reports their number. -/
def load (tree : FileTree) (directory : Path) :
    List LogRecord × Except AnalysisError SnapshotSource :=
  let files := filesIn tree directory
  ([⟨.debug, "analysis", "Loading " ++ toString files.length ++ " save-analysis files from " ++
      directory.toString⟩], addFiles tree {} files)

/-- Where the compiler leaves snapshots, seen from the root of a project. -/
def defaultDirectories : List String :=
  ["target/debug/deps/save-analysis", "target/rls/debug/save-analysis"]

/-- Reads the snapshot files of the first of these directories that exists in a project. -/
def discover (tree : FileTree) (crateRoot : Path) :
    List LogRecord × Except AnalysisError SnapshotSource :=
  let candidates := defaultDirectories.map (crateRoot / ·)
  match candidates.find? tree.isDirectory with
  | some directory => load tree directory
  | none => ([], .error (.noSnapshots crateRoot.toString
      (String.intercalate ", " (candidates.map Path.toString))))

end SnapshotSource

end CrateDoc
