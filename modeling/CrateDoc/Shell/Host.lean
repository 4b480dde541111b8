import CrateDoc.Child
import CrateDoc.Shell.Run

/-!
# A host for scripts

The programs of this host are the shell and the small programs that the shell knows. They see a
file tree, have no input, and run in the working directory of the call. Other files are there but
cannot be executed.
-/

namespace CrateDoc.Shell

open Child

/-- The names of the shell. -/
def shellNames : List String := ["sh", "dash"]

/-- The small programs that can be called by themselves. -/
def programNames : List String :=
  ["true", "false", "echo", "printf", "cat", "env", "printenv", "pwd", "sleep", "seq", "test", "["]

/-- The directories of programs. -/
def programDirectories : List String := ["/bin/", "/usr/bin/"]

/-- The name of a program without its directory, if it is a program of this host. -/
def programOf? (name : String) : Option String :=
  let known (n : String) : Option String :=
    if (shellNames ++ programNames).contains n then some n else none
  if name.toList.contains '/' then
    programDirectories.findSome? fun directory =>
      if directory.toList.isPrefixOf name.toList then
        known (String.ofList (name.toList.drop directory.length))
      else none
  else known name

/-- How a script ended, as a call sees it. -/
def exitOf (s : State) (signal : Option Nat) : Exit where
  returnCode := match signal with
    | some n => -(n : Int)
    | none => s.status
  stdout := bytesOf (s.written 0)
  stderr := bytesOf (s.written 1)

/-- The shell at the start of a call. -/
def start (tree : FileTree) (directory : Path) (call : Call) : State where
  name := octetsOf (call.args.headD "")
  bindings := Entries.ofPairs (call.environment.map fun (n, v) => (octetsOf n, octetsOf v))
  directory := directory
  tree := tree

/-- Runs a shell with its arguments: a script behind `-c`, or a file. -/
def runShell (s : State) : List String → Exit
  | "-c" :: script :: rest =>
    let s := { s with name := ((rest.head?).map octetsOf).getD s.name
                      arguments := (rest.drop 1).map octetsOf }
    let (s, signal) := run (octetsOf script) s
    exitOf s signal
  | "-c" :: [] => exitOf (s.complain "-c requires an argument" 2) none
  | file :: rest => match s.tree.read (s.place (octetsOf file)) with
    | .ok bytes =>
      let s := { s with name := octetsOf file, arguments := rest.map octetsOf }
      let (s, signal) := run (bytes.map fun b => Char.ofNat b.toNat) s
      exitOf s signal
    | .error _ => exitOf (s.complain ("cannot open " ++ file ++ ": No such file") 2) none
  | [] => exitOf s none

/-- Answers a call. -/
def host (tree : FileTree) (home : Path) : Host := fun c =>
  let program := c.args.headD ""
  let directory := match c.workingDirectory with
    | some d => home.join d
    | none => home
  if !tree.has directory then .error (.notFound program)
  else if !tree.isDirectory directory then .error .notDirectory
  else match programOf? program with
    | none =>
      if program.toList.contains '/' && tree.has (directory / program) then .error .notExecutable
      else .error (.notFound program)
    | some name =>
      let s := start tree directory c
      if shellNames.contains name then .ok (runShell s (c.args.drop 1))
      else
        let (s, _) := call depth (octetsOf name :: (c.args.drop 1).map octetsOf) s
        .ok (exitOf s none)

end CrateDoc.Shell
