import CrateDoc.Config
import CrateDoc.Proofs.FileTree.Frame
import CrateDoc.Proofs.FirstFault

/-!
# The settings that are loaded

Settings belong to the directory that their file stands in, and never ask for less than one worker
(`isFor_of_load`). In a directory they depend on nothing but what bears the name of their file
(`load_congr`): without it they are those of `Config.default` (`load_of_at?_eq_none`).
-/

namespace CrateDoc.Config

open CrateDoc.Text

variable {tree later : FileTree} {base : Standpoint} {path root : Path} {config : Config}

/-! ### Any settings -/

/-- What all settings of a project have in common. -/
structure IsFor (config : Config) (root : Path) : Prop where
  root : config.root = root
  workers : config.workers.any (· < 1) = false

theorem isFor_default (root : Path) : (default root).IsFor root := ⟨rfl, rfl⟩

theorem isFor_of_ofValue {value : Yaml.Value} (h : ofValue root value = .ok config) :
    config.IsFor root := by
  rw [ofValue.eq_def] at h
  by_cases hnothing : value.isNothing = true
  · rw [if_pos hnothing] at h
    cases h
    exact isFor_default root
  rw [if_neg hnothing] at h
  cases value with
  | mapping entries =>
    obtain ⟨outputDir, -, h⟩ := bind_eq_ok_iff.1 h
    dsimp only at h
    split_ifs at h with hworkers
    · cases h
    obtain ⟨doctest, -, h⟩ := bind_eq_ok_iff.1 h
    obtain ⟨cargo, -, h⟩ := bind_eq_ok_iff.1 h
    cases h
    refine ⟨rfl, ?_⟩
    rcases hcount : int? (setting "workers" entries) with - | n
    · rfl
    · simpa [hcount] using hworkers
  | _ => cases h

theorem isFor_of_ofText {text : List Char} (h : ofText root text = .ok config) :
    config.IsFor root := by
  rw [ofText] at h
  split at h
  · cases h
    exact isFor_default root
  · obtain ⟨value, -, h⟩ := bind_eq_ok_iff.1 h
    exact isFor_of_ofValue h

theorem isFor_of_load (h : load tree base path = .ok config) :
    ∃ file, locate? tree base path = some file ∧ config.IsFor file.parent := by
  rw [load] at h
  rcases hfile : locate? tree base path with - | file
  · rw [hfile] at h
    cases h
  rw [hfile] at h
  refine ⟨file, rfl, ?_⟩
  dsimp only at h
  split_ifs at h
  · obtain ⟨bytes, -, h⟩ := bind_eq_ok_iff.1 h
    obtain ⟨text, -, h⟩ := bind_eq_ok_iff.1 h
    exact isFor_of_ofText h
  · cases h
    exact isFor_default _

/-- Without settings a documentation is written below the project. -/
theorem outputDir_default (root : Path) :
    (default root).outputDir = ⟨root.root, root.parts ++ ["target", "doc"]⟩ := by
  have htarget : Path.IsComponent "target" := ⟨by decide, by decide, by decide, by decide⟩
  have hdoc : Path.IsComponent "doc" := ⟨by decide, by decide, by decide, by decide⟩
  rw [default, Path.div_eq_of_isComponent _ hdoc, Path.div_eq_of_isComponent _ htarget,
    List.append_assoc]
  rfl

/-! ### Settings of a directory -/

theorem isComponent_configName : Path.IsComponent configName :=
  ⟨by decide, by decide, by decide, by decide⟩

section

variable {directory : Path} {place : List String} (habsolute : directory.isAbsolute = true)
  (hdown : ".." ∉ directory.parts)

include habsolute hdown in
/-- The file of a directory stands in it. -/
theorem locate?_of_isAt (hat : tree.IsAt directory place) (base : Standpoint) :
    locate? tree base directory = some (directory / configName) := by
  have hfile : directory / configName = ⟨directory.root, directory.parts ++ [configName]⟩ :=
    Path.div_eq_of_isComponent directory isComponent_configName
  have habsolute' : (directory / configName).isAbsolute = true := by
    rw [hfile]
    exact habsolute
  have hdown' : ".." ∉ (directory / configName).parts := by
    rw [hfile, List.mem_append, List.mem_singleton]
    exact not_or.2 ⟨hdown, by decide⟩
  rw [locate?, base.expand?_eq_self habsolute, Option.map_some,
    Path.join_eq_self base.directory habsolute, if_pos hat.isDirectory,
    Path.resolve_eq_self base.directory habsolute' hdown']

include habsolute hdown in
/-- The settings of a directory are the same when the same bears the name of their file. -/
theorem load_congr (hat : tree.IsAt directory place) (hlater : later.IsAt directory place)
    (hsame : later.at? (place ++ [configName]) = tree.at? (place ++ [configName]))
    (base : Standpoint) :
    load later base directory = load tree base directory := by
  have hfile := hat.locate_component isComponent_configName
  have hfile' := hlater.locate_component isComponent_configName
  simp only [load, locate?_of_isAt habsolute hdown hat, locate?_of_isAt habsolute hdown hlater,
    FileTree.has, FileTree.entry?, FileTree.read, hfile, hfile', hsame, bind, Except.bind]

include habsolute hdown in
/-- Without a file the settings are the default ones. -/
theorem load_of_at?_eq_none (hat : tree.IsAt directory place)
    (hnone : tree.at? (place ++ [configName]) = none) (base : Standpoint) :
    load tree base directory = .ok (default directory) := by
  have hhas : tree.has (directory / configName) = false := by
    rw [FileTree.has, FileTree.entry?, hat.locate_component isComponent_configName]
    dsimp only
    rw [hnone]
    rfl
  rw [load, locate?_of_isAt habsolute hdown hat]
  dsimp only
  rw [hhas, Path.parent_div directory isComponent_configName]
  rfl

end

end CrateDoc.Config
