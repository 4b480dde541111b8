import CrateDoc.Text.Blank

/-!
# Paths

A path is a root (none, one slash, or exactly two) and its components. Reading one drops empty
and `.` components and keeps `..`; a path is absolute when it has a root.

What a path stands for is seen from a working directory, and the home directories of users may be
named in it (`Standpoint`).
-/

namespace CrateDoc

/-- What a path starts from. -/
inductive Path.Root
  | none
  | single
  | double
deriving DecidableEq

/-- A path: its root and its components. -/
structure Path where
  root : Path.Root
  parts : List String
deriving DecidableEq

namespace Path

/-- The empty path, which is written as one dot. -/
def empty : Path := ⟨.none, []⟩

/-- The components between slashes, without empty ones and dots. -/
def components (s : List Char) : List String :=
  (((Text.pieces (· == '/') s).filter fun p => !p.isEmpty && p != ['.'])).map String.ofList

/-- Reads a path. Two slashes at the start stay two; three or more count as one. -/
def ofString (s : String) : Path :=
  match s.toList with
  | '/' :: '/' :: '/' :: rest => ⟨.single, components rest⟩
  | '/' :: '/' :: rest => ⟨.double, components rest⟩
  | '/' :: rest => ⟨.single, components rest⟩
  | s => ⟨.none, components s⟩

/-- Writes a path. -/
def toString (p : Path) : String :=
  match p.root with
  | .none => if p.parts.isEmpty then "." else String.intercalate "/" p.parts
  | .single => "/" ++ String.intercalate "/" p.parts
  | .double => "//" ++ String.intercalate "/" p.parts

instance : ToString Path := ⟨toString⟩

/-- The last component, empty when there is none. -/
def name (p : Path) : String := p.parts.getLast?.getD ""

/-- The path without its last component; a path without components is its own parent. -/
def parent (p : Path) : Path := ⟨p.root, p.parts.dropLast⟩

/-- Whether the path has a root. -/
def isAbsolute (p : Path) : Bool := p.root ≠ .none

/-- Goes on from `p`; an absolute path stands for itself. -/
def join (p q : Path) : Path := if q.isAbsolute then q else ⟨p.root, p.parts ++ q.parts⟩

instance : HDiv Path String Path := ⟨fun p s => p.join (ofString s)⟩

/-- Takes `..` off together with the component before it; at the root it stays at the root. -/
def withoutUps (parts : List String) : List String :=
  parts.foldl (fun done part => if part = ".." then done.dropLast else done ++ [part]) []

/-- The canonical form, seen from the directory `base`, where no link changes the way. -/
def resolve (base p : Path) : Path :=
  let full := base.join p
  ⟨full.root, withoutUps full.parts⟩

/-- The way from `base` down to `p`, if there is one. -/
def relativeTo? (p base : Path) : Option Path :=
  if p.root = base.root && base.parts.isPrefixOf p.parts then
    some ⟨.none, p.parts.drop base.parts.length⟩
  else none

/-- The user whose home directory is named at the start of the path, behind a tilde. The empty name
is that of whoever runs the program. -/
def user? (p : Path) : Option String :=
  if p.isAbsolute then none
  else match p.parts.head?.map String.toList with
    | some ('~' :: name) => some (String.ofList name)
    | _ => none

/-- Whether a text holds the null character, which no name of a file or user does. -/
def holdsNull (text : String) : Bool := text.toList.contains '\x00'

end Path

/-- Why a path cannot be followed. -/
inductive PathError
  /-- It begins in the home directory of a user who has none. -/
  | homeless
  /-- It holds the null character. -/
  | nullCharacter
deriving DecidableEq

/-- The error in words. -/
def PathError.message : PathError → String
  | homeless => "Could not determine home directory."
  | nullCharacter => "embedded null byte"

/-- What paths are seen from. -/
structure Standpoint where
  /-- The working directory. -/
  directory : Path
  /-- The home directories of users, by their names. -/
  homes : String → Option Path := fun _ => none

/-- The path with the home directory in the place of its user, if there is one. -/
def Standpoint.expand? (base : Standpoint) (p : Path) : Option Path :=
  match p.user? with
  | none => some p
  | some name => (base.homes name).map fun home => ⟨home.root, home.parts ++ p.parts.tail⟩

/-- The canonical form of a path. A user without a home directory stays in it. -/
def Standpoint.canonical (base : Standpoint) (p : Path) : Path :=
  base.directory.resolve ((base.expand? p).getD p)

/-- What keeps a path from being followed: a user is looked up before the files are. -/
def Standpoint.fault? (base : Standpoint) (p : Path) : Option PathError :=
  if p.user?.any Path.holdsNull then some .nullCharacter
  else if (base.expand? p).isNone then some .homeless
  else if p.parts.any Path.holdsNull then some .nullCharacter
  else none

end CrateDoc
