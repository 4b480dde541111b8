import CrateDoc.FileTree
import CrateDoc.Text.Digit
import CrateDoc.Text.Lines
import CrateDoc.Text.LowerCase
import CrateDoc.Yaml.Value

/-!
# Configuration

The settings of a project, which stand in the file `.rsdoc.yml` next to its manifest. All of them
may be left out.

* `Config.ofValue` reads the settings off the value of the file. A setting whose value is of a
  kind that it cannot have counts as left out; only the number of workers is checked further.
* `Config.load` looks the file up and reads it.
-/

namespace CrateDoc

open CrateDoc.Text

/-- Why there is no configuration. -/
inductive ConfigError
  /-- The file cannot be read. -/
  | unreadable (error : FileError)
  /-- The file is no text. -/
  | notText (fault : Utf8.DecodeError)
  /-- The text of the file cannot be read as values. -/
  | yaml (fault : Yaml.Fault)
  /-- The file holds something else than named settings. -/
  | notMapping
  /-- There are to be no workers. -/
  | noWorkers
  /-- A number is too long to be written out. -/
  | longNumber
  /-- The path to the project cannot be followed. -/
  | path (error : PathError)
  deriving DecidableEq

/-- The name of the file. -/
def configName : String := ".rsdoc.yml"

/-- The error in words. -/
def ConfigError.message : ConfigError → String
  | .unreadable error => error.message
  | .notText fault => fault.message
  | .yaml fault => fault.message?.getD ("Failed to parse " ++ configName)
  | .notMapping => configName ++ " must contain a mapping at the root"
  | .noWorkers => "workers must be a positive integer"
  | .longNumber => "Exceeds the limit (4300 digits) for integer string conversion; " ++
      "use sys.set_int_max_str_digits() to increase the limit"
  | .path error => error.message

/-- How documentation tests are compiled and run. -/
structure DoctestConfig where
  compiler : String := "rustc"
  edition : Option String := none
  keepScratch : Bool := false
  testArgs : List String := []
  deriving DecidableEq, Repr

/-- The settings of a project. -/
structure Config where
  root : Path
  outputDir : Path
  workers : Option Int := none
  cargo : String := "cargo"
  doctest : DoctestConfig := {}
  deriving DecidableEq

namespace Config

/-- The settings of a project without a file. -/
def default (root : Path) : Config :=
  { root := root, outputDir := root / "target" / "doc" }

/-! ### Values of settings -/

/-- The text of a whole number. -/
def integerText (n : Int) : Except ConfigError String :=
  if Nat.pow 10 maxDigits ≤ n.natAbs then .error .longNumber else .ok (toString n)

/-- A setting that is a text; a number counts as its text. -/
def text? : Yaml.Value → Except ConfigError (Option String)
  | .text s => .ok (some s)
  | .int n => (integerText n).map some
  | .float x => .ok (some x.text)
  | _ => .ok none

/-- A setting that is a whole number; a text counts as the number that it spells. -/
def int? : Yaml.Value → Option Int
  | .int n => some n
  | .text s => readInt? s.toList
  | _ => none

/-- A setting that is true or false; some words count as the one or the other. -/
def bool? : Yaml.Value → Option Bool
  | .bool b => some b
  | .text s =>
    match String.ofList (lowerCase (strip s.toList)) with
    | "true" | "yes" | "1" => some true
    | "false" | "no" | "0" => some false
    | _ => none
  | _ => none

/-- An item of a setting that is a list; items that are no scalars do not count. -/
def item? : Yaml.Value → Except ConfigError (Option String)
  | .bool b => .ok (some (if b then "True" else "False"))
  | value => text? value

/-- A setting that is a list of texts; a text counts as the list of it alone. -/
def texts : Yaml.Value → Except ConfigError (List String)
  | .text s => .ok [s]
  | .bytes bytes => .ok (bytes.map toString)
  | .list items => (items.mapM item?).map (·.filterMap id)
  | _ => .ok []

/-- The text of a setting unless it is empty. -/
def nonempty (s : Option String) : Option String := s.filter (· ≠ "")

/-- The value of a setting. -/
def setting (key : String) (entries : List (Yaml.Value × Yaml.Value)) : Yaml.Value :=
  (Yaml.Value.get? key entries).getD .null

/-- The settings for documentation tests. -/
def doctestOf : Yaml.Value → Except ConfigError DoctestConfig
  | .mapping [] => .ok {}
  | .mapping entries => do
    let compiler ← text? (setting "compiler" entries)
    let edition ← text? (setting "edition" entries)
    let testArgs ← texts (setting "test_args" entries)
    return {
      compiler := (nonempty compiler).getD "rustc"
      edition := edition
      keepScratch := (bool? (setting "keep_scratch" entries)).getD false
      testArgs := testArgs }
  | _ => .ok {}

/-- The settings of a project by the value of its file; a value that counts as nothing stands for
no settings. -/
def ofValue (root : Path) (value : Yaml.Value) : Except ConfigError Config :=
  if value.isNothing then .ok (default root)
  else match value with
    | .mapping entries => do
      let outputDir ← text? (setting "output_dir" entries)
      let workers := int? (setting "workers" entries)
      if (workers.map fun n => decide (n < 1)).getD false then throw .noWorkers
      let doctest ← doctestOf (setting "doctest" entries)
      let cargo ← text? (setting "cargo" entries)
      return {
        root := root
        outputDir := ((nonempty outputDir).map (root / ·)).getD (default root).outputDir
        workers := workers
        cargo := (nonempty cargo).getD "cargo"
        doctest := doctest }
    | _ => .error .notMapping

/-! ### The file -/

/-- How deep into the value of a file settings lie. -/
def depth : Nat := 4

/-- The settings of a project by the text of its file. -/
def ofText (root : Path) (text : List Char) : Except ConfigError Config :=
  if (strip text).isEmpty then .ok (default root)
  else ((Yaml.Value.ofText depth text).mapError .yaml).bind (ofValue root)

/-- Where the file lies: in a directory, or beside a file. -/
def locate? (tree : FileTree) (base : Standpoint) (path : Path) : Option Path :=
  (base.expand? path).map fun path =>
    base.directory.resolve <|
      if tree.isDirectory (base.directory.join path) then path / configName
      else if path.name ≠ configName then path.parent / configName
      else path

/-- The settings of the project that a directory or file belongs to. -/
def load (tree : FileTree) (base : Standpoint) (path : Path) : Except ConfigError Config :=
  match locate? tree base path with
  | none => .error (.path .homeless)
  | some file =>
    if tree.has file then do
      let bytes ← (tree.read file).mapError .unreadable
      let text ← (Utf8.decode bytes).mapError .notText
      ofText file.parent (unifyNewlines text)
    else .ok (default file.parent)

end Config

end CrateDoc
