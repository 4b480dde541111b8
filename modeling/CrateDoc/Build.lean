import CrateDoc.Analysis.Snapshot
import CrateDoc.Cargo.Command
import CrateDoc.JsonApi.Writer

/-!
# Building documentations

The documentation of a project is built from the analysis that cargo is made to write, for the
target that its metadata name, and written as one file.
-/

namespace CrateDoc

/-- The name of the file of a documentation. -/
def dataFileName : String := "data.json"

/-- A project, and the documentation of its target. -/
structure Documented where
  config : Config
  target : Cargo.Target
  documentation : Documentation

/-- The target of a project that is to be documented. -/
def resolveTarget (manifest : Path) (config : Config) : Action Cargo.Target := do
  let metadata ← Cargo.metadata config.cargo manifest
  let (target, warnings) ← Action.ofExcept .cargo (Cargo.Target.choose metadata)
  Action.logAll warnings
  Action.log ⟨.debug, "orchestrator",
    "Documenting target " ++ target.name ++ " (" ++ target.kind.name ++ ")"⟩
  return target

/-- The manifest that a path leads to, with the settings and the target of its project. -/
def openProject (manifest : Path) : Action (Path × Config × Cargo.Target) := do
  let manifest ← Cargo.checkManifest (← Action.canonical manifest)
  let base := (← read).toStandpoint
  let config ← Action.withTree .config (Config.load · base manifest.parent)
  return (manifest, config, ← resolveTarget manifest config)

/-- The graph of a crate by the snapshots of a project. -/
def buildGraph (root : Path) (crate : String) (workers : Option Int) : Action Documentation := do
  let (records, loaded) := SnapshotSource.discover (← get).tree root
  Action.logAll records
  let source ← Action.ofExcept (.graph ∘ .analysis) loaded
  let ((built, records), _) :=
    (Graph.build SnapshotSource.toSource source.records.length workers crate).run source
  Action.logAll records
  Action.ofExcept .graph built

/-- Builds the documentation of a project. No workers are the same as none asked for. -/
def document (manifest : Path) (workers : Option Int) (verbose : Bool) : Action Documented := do
  let (manifest, config, target) ← openProject manifest
  Action.log ⟨.info, "orchestrator", "Generating save-analysis data for " ++ target.crateName⟩
  Cargo.analyse config.cargo manifest verbose
  let documentation ← buildGraph config.root target.crateName
    ((workers.filter (· ≠ 0)).or config.workers)
  return ⟨config, target, documentation⟩

/-- Builds the documentation of a project and writes it: the path of the file. -/
def build (manifest : Path) (output : Option Path) (workers : Option Int) (verbose : Bool) :
    Action Path := do
  let documented ← document manifest workers verbose
  let destination := output.getD documented.config.outputDir
  let place ← Action.absolute destination
  Action.changeTree (·.makeDirectory place)
  Action.changeTree (·.write (place / dataFileName)
    (Text.Utf8.encode documented.documentation.toText.toList))
  Action.log ⟨.info, "orchestrator", "Wrote " ++ (destination / dataFileName).toString⟩
  return destination / dataFileName

end CrateDoc
