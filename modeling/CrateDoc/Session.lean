import CrateDoc.Failure
import CrateDoc.Logging

/-!
# Sessions

What a run is given (`Surroundings`), what it leaves behind (`Session`), and actions that may
fail. The files, the log and the calls of other programs are values of the session; whatever
happened before a failure stays in it.
-/

namespace CrateDoc

/-- What a run is given: where paths are seen from, and what there is besides. -/
structure Surroundings extends Standpoint where
  /-- Where generated sources go; nothing is there before. -/
  scratch : Path
  /-- The time as the log file shows it. -/
  time : String
  /-- Answers the calls of other programs. -/
  runner : Child.Runner

/-- A call of another program, and the files at the time. -/
structure Session.Started where
  call : Child.Call
  tree : FileTree

/-- What a run has done so far. -/
structure Session where
  tree : FileTree
  /-- Where records are shown, once that is settled. -/
  logging : Option Logging := none
  /-- All records, shown or not. -/
  records : List LogRecord := []
  /-- What the console shows. -/
  console : String := ""
  /-- Progress that was announced on its own. -/
  progress : List String := []
  started : List Session.Started := []

/-- Work that uses the surroundings, changes the session, and may fail. -/
abbrev Action (α : Type) := ReaderT Surroundings (ExceptT Failure (StateM Session)) α

namespace Session

/-- The session after a record. -/
def record (time : String) (s : Session) (r : LogRecord) : Session :=
  let tree := match s.logging with
    | some ⟨level, some file⟩ =>
      let text := Logging.fileText ⟨level, some file⟩ time r
      match s.tree.append file (Text.Utf8.encode text.toList) with
      | .ok tree => tree
      | .error _ => s.tree
    | _ => s.tree
  { s with
    tree := tree
    records := s.records ++ [r]
    console := s.console ++ Logging.console s.logging r }

/-- Settles where records are shown. The file is made if it is not there yet. -/
def configure (directory : Path) (logging : Logging) (s : Session) :
    Except FileError Session := do
  match logging.file with
  | none => return { s with logging := some logging }
  | some file =>
    let file := directory.resolve file
    return { s with
      logging := some { logging with file := some file }
      tree := ← s.tree.append file [] }

end Session

namespace Action

/-- Logs a record. -/
def log (r : LogRecord) : Action Unit := do
  let surroundings ← read
  modify (·.record surroundings.time r)

/-- Logs records, one after the other. -/
def logAll (records : List LogRecord) : Action Unit := records.forM log

/-- Goes on with a result. -/
def ofExcept {ε α : Type} (toFailure : ε → Failure) : Except ε α → Action α
  | .ok a => return a
  | .error e => throw (toFailure e)

/-- Uses the files. -/
def withTree {ε α : Type} (toFailure : ε → Failure) (f : FileTree → Except ε α) : Action α := do
  ofExcept toFailure (f (← get).tree)

/-- Changes the files. -/
def changeTree (f : FileTree → Except FileError FileTree) : Action Unit := do
  let tree ← withTree .file f
  modify ({ · with tree := tree })

/-- A path as seen from the working directory. -/
def absolute (path : Path) : Action Path := return (← read).directory.join path

/-- The canonical form of a path that can be followed. -/
def canonical (path : Path) : Action Path := do
  let base := (← read).toStandpoint
  match base.fault? path with
  | some error => throw (.path error)
  | none => return base.canonical path

/-- Runs another program. -/
def start (call : Child.Call) : Action Child.Response := do
  let surroundings ← read
  modify fun s => { s with started := s.started ++ [⟨call, s.tree⟩] }
  ofExcept .child (surroundings.runner call)

end Action

end CrateDoc
