import CrateDoc.Doctest.Program
import CrateDoc.Path

/-!
# Test suites

A suite is a directory with one file for each test program and a file that gathers them as
modules of one crate. Programs may have equal names; `ModuleNames.allocate` makes the names of the
modules distinct by appending numbers.
-/

namespace CrateDoc.Doctest

/-- The file that gathers the programs of a suite. -/
def aggregatorFile : String := "main.rs"

/-- The file that a suite is compiled to. -/
def binaryName : String := "rsdoc-test"

/-- How often each name of a module was asked for. -/
abbrev ModuleNames := Entries String Nat

namespace ModuleNames

/-- Allocates a name, or the next one of the form `name_number` that is free; `fuel` bounds the
number of names that are tried. -/
def allocateWith : Nat → ModuleNames → String → String × ModuleNames
  | 0, names, name => (name, names)
  | fuel + 1, names, name =>
    let count := (Entries.get? name names).getD 0
    let names := Entries.put name (count + 1) names
    if count = 0 then (name, names)
    else allocateWith fuel names (name ++ "_" ++ toString count)

/-- Allocates a name. Every name that is tried and not free is a longer name of the table, so
there are never more tries than names in the table and one. -/
def allocate (names : ModuleNames) (name : String) : String × ModuleNames :=
  allocateWith (names.length + 1) names name

/-- Allocates one name after the other. -/
def allocateAll : ModuleNames → List String → List String
  | _, [] => []
  | names, name :: rest =>
    let (name, names) := allocate names name
    name :: allocateAll names rest

end ModuleNames

/-- A directory of test programs. -/
structure Suite where
  crate : String
  directory : Path
  /-- The names of the modules, one for each program. -/
  modules : List String
  /-- The names and texts of the files, in the order in which they are written. -/
  files : List (String × String)

namespace Suite

/-- The file of a module. -/
def fileOf (name : String) : String := name ++ ".rs"

/-- The suite of programs for a crate. -/
def ofPrograms (programs : List Program) (directory : Path) (crate : String)
    (templates : Templates := .builtIn) : Suite :=
  let modules := ModuleNames.allocateAll [] (programs.map (·.name))
  let aggregator := templates.aggregator.render
    [("crate_name", .text crate), ("modules", .texts modules)]
  { crate := crate
    directory := directory
    modules := modules
    files := (modules.map fileOf).zip (programs.map (·.source)) ++
      [(aggregatorFile, aggregator)] }

/-- The file that a suite is compiled to. -/
def binary (s : Suite) : Path := s.directory / binaryName

end Suite

end CrateDoc.Doctest
