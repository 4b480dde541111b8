import CrateDoc.CommandLine.Run

/-!
# The program

The outermost layer: it collects the files that a run may look at before it starts another
program, runs the command line on them, prints what is to be printed and writes the files that
have changed. It cannot start other programs itself, so every call is answered as if the program
were not installed. Of the home directories it knows that of whoever runs it.
-/

namespace CrateDoc.Main

/-- Adds a file to a tree if it can be read. -/
def addFile (tree : FileTree) (path : Path) : IO FileTree := do
  try
    let bytes ← IO.FS.readBinFile path.toString
    return ⟨Entries.put path.parts (.file bytes.toList) tree.entries⟩
  catch _ => return tree

/-- The files that arguments lead to. -/
def filesOf (base : Standpoint) (arguments : CommandLine.Arguments) : List Path :=
  let manifest := base.canonical (Path.ofString arguments.manifestPath)
  let named (path : Option String) : List Path :=
    ((CommandLine.givenPath path).map base.directory.resolve).toList
  let documentation : List Path := match arguments.command with
    | .build _ _ => []
    | .test _ fromJson => named fromJson
  [manifest, manifest.parent / configName] ++ named arguments.logFile ++ documentation

/-- The tree of the files that arguments lead to. -/
def collect (base : Standpoint) (arguments : List String) : IO FileTree := do
  let empty : FileTree := ⟨[(base.directory.parts, .directory)]⟩
  match CommandLine.Arguments.ofList arguments with
  | .ok a => (filesOf base a).foldlM addFile empty
  | .error _ => return empty

/-- Writes the files of a tree that differ from those of another. -/
def writeChanges (before after : FileTree) : IO Unit :=
  after.entries.forM fun (place, entry) =>
    match entry with
    | .file bytes =>
      if Entries.get? place before.entries = some (.file bytes) then pure ()
      else IO.FS.writeBinFile (Path.toString ⟨.single, place⟩) ⟨bytes.toArray⟩
    | .directory => pure ()

/-- The status of a run. -/
def status : CommandLine.Ending → UInt32
  | .exited code => UInt32.ofNat code
  | .brokenOff _ => 1

end CrateDoc.Main

open CrateDoc in
/-- Runs the program. -/
def main (arguments : List String) : IO UInt32 := do
  let directory := Path.ofString (← IO.currentDir).toString
  let home := (← IO.getEnv "HOME").map Path.ofString
  let base : Standpoint := ⟨directory, fun name => if name.isEmpty then home else none⟩
  let tree ← Main.collect base arguments
  let surroundings : Surroundings :=
    { base with
      scratch := Path.ofString "/tmp/rsdoc-doctest"
      time := toString (← IO.monoMsNow)
      runner := fun call => .error (.notFound (call.args.headD "")) }
  let result := CommandLine.run arguments surroundings { tree := tree }
  IO.print result.stdout
  IO.eprint result.stderr
  Main.writeChanges tree result.session.tree
  return Main.status result.ending
