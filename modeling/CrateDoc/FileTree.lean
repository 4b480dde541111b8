import CrateDoc.Entries
import CrateDoc.Path
import CrateDoc.Text.Utf8

/-!
# File trees

The files and directories that a run sees, as a value: a list of places with what is there. Every
place on the way to a file or a directory is a directory. Places are absolute paths without `..`;
`locate` leads a path there, going through directories that exist.
-/

namespace CrateDoc

/-- What stands at a place of a tree. -/
inductive FileTree.Entry
  | file (bytes : List UInt8)
  | directory
deriving DecidableEq

/-- Files and directories by their places. -/
structure FileTree where
  entries : Entries (List String) FileTree.Entry := []

/-- Why a file cannot be used. -/
inductive FileError.Cause
  | notFound
  | isDirectory
  | notDirectory
  | alreadyThere
deriving DecidableEq

/-- A file that cannot be used. -/
structure FileError where
  cause : FileError.Cause
  path : Path
deriving DecidableEq

/-- The error in words. -/
def FileError.message (e : FileError) : String :=
  (match e.cause with
    | .notFound => "[Errno 2] No such file or directory: "
    | .isDirectory => "[Errno 21] Is a directory: "
    | .notDirectory => "[Errno 20] Not a directory: "
    | .alreadyThere => "[Errno 17] File exists: ") ++ Text.quote e.path.toString

namespace FileTree

/-- What stands at a place; the ways to all entries are directories. -/
def at? (tree : FileTree) (place : List String) : Option Entry :=
  match Entries.get? place tree.entries with
  | some entry => some entry
  | none =>
    if place.isEmpty || tree.entries.any (fun e => place.isPrefixOf e.1) then some .directory
    else none

/-- Goes down from a directory along the components of a path. -/
def walk (tree : FileTree) (place : List String) :
    List String → Except FileError.Cause (List String)
  | [] => .ok place
  | part :: rest =>
    match tree.at? place with
    | none => .error .notFound
    | some (.file _) => .error .notDirectory
    | some .directory =>
      walk tree (if part = ".." then place.dropLast else place ++ [part]) rest

/-- The place that a path leads to. It need not exist, but the way to it must. -/
def locate (tree : FileTree) (path : Path) : Except FileError (List String) :=
  (walk tree [] path.parts).mapError fun cause => ⟨cause, path⟩

/-- What a path leads to, if there is anything. -/
def entry? (tree : FileTree) (path : Path) : Option Entry :=
  match tree.locate path with
  | .ok place => tree.at? place
  | .error _ => none

/-- Whether a path leads to anything. -/
def has (tree : FileTree) (path : Path) : Bool := (tree.entry? path).isSome

/-- Whether a path leads to a file. -/
def isFile (tree : FileTree) (path : Path) : Bool :=
  match tree.entry? path with
  | some (.file _) => true
  | _ => false

/-- Whether a path leads to a directory. -/
def isDirectory (tree : FileTree) (path : Path) : Bool :=
  match tree.entry? path with
  | some .directory => true
  | _ => false

/-- The bytes of the file that a path leads to. -/
def read (tree : FileTree) (path : Path) : Except FileError (List UInt8) := do
  let place ← tree.locate path
  match tree.at? place with
  | some (.file bytes) => .ok bytes
  | some .directory => .error ⟨.isDirectory, path⟩
  | none => .error ⟨.notFound, path⟩

/-- Writes a file into a directory that is there. -/
def write (tree : FileTree) (path : Path) (bytes : List UInt8) : Except FileError FileTree := do
  let place ← tree.locate path
  match tree.at? place.dropLast, tree.at? place with
  | _, some .directory => .error ⟨.isDirectory, path⟩
  | some .directory, _ => .ok ⟨Entries.put place (.file bytes) tree.entries⟩
  | some (.file _), _ => .error ⟨.notDirectory, path⟩
  | none, _ => .error ⟨.notFound, path⟩

/-- Writes at the end of a file, which need not exist before. -/
def append (tree : FileTree) (path : Path) (bytes : List UInt8) : Except FileError FileTree :=
  match tree.read path with
  | .ok old => tree.write path (old ++ bytes)
  | .error _ => tree.write path bytes

/-- Makes a directory and all directories on the way to it. -/
def makeDirectory (tree : FileTree) (path : Path) : Except FileError FileTree :=
  let rec go (tree : FileTree) (place : List String) : List String → Except FileError FileTree
    | [] =>
      match tree.at? place with
      | some (.file _) => .error ⟨.alreadyThere, path⟩
      | some .directory => .ok tree
      | none => .ok ⟨Entries.put place .directory tree.entries⟩
    | part :: rest =>
      match tree.at? place with
      | some (.file _) => .error ⟨.notDirectory, path⟩
      | _ =>
        go ⟨if place.isEmpty then tree.entries else
          if (tree.at? place).isSome then tree.entries
          else Entries.put place .directory tree.entries⟩
          (if part = ".." then place.dropLast else place ++ [part]) rest
  go tree [] path.parts

/-- The names in a directory, in no particular order. -/
def names (tree : FileTree) (path : Path) : List String :=
  match tree.locate path with
  | .error _ => []
  | .ok place =>
    (tree.entries.filterMap fun e =>
      if place.isPrefixOf e.1 then e.1[place.length]? else none).eraseDups

/-- The tree without a place and everything below it. -/
def remove (tree : FileTree) (path : Path) : FileTree :=
  match tree.locate path with
  | .error _ => tree
  | .ok place => ⟨tree.entries.filter fun e => !place.isPrefixOf e.1⟩

end FileTree

end CrateDoc
