import CrateDoc.Proofs.Config.Document
import CrateDoc.Proofs.Text.Numeral

/-!
# Settings one by one

A mapping is read setting by setting (`Setting`): each has a key, among those for documentation
tests or beside them, and is read off the value under its key alone (`Setting.read`). The settings
of a project are what is read so, and the first setting that cannot be read is why there are none
(`ofValue_mapping`).

So the settings that are loaded are valid (`Config.IsValid`), and what is read under one key does
not depend on the others. Two things keep a mapping from being loaded: fewer than one worker, and a
number that is too long to be written out where a text is meant. Of the two the output directory
comes first, which is why fewer than one worker are not always reported
(`load_settings_valid_and_independent`, `not_ofValue_eq_noWorkers_iff`).
-/

namespace CrateDoc

open CrateDoc.Text Config

/-- The settings of a project. -/
inductive Setting
  | outputDir
  | workers
  | compiler
  | edition
  | keepScratch
  | testArgs
  | cargo
  deriving DecidableEq

namespace Setting

variable {root : Path} {entries : List (Yaml.Value × Yaml.Value)} {s : Setting} {e : ConfigError}
  {v : Yaml.Value}

/-- The key of a setting. -/
def key : Setting → String
  | .outputDir => "output_dir"
  | .workers => "workers"
  | .compiler => "compiler"
  | .edition => "edition"
  | .keepScratch => "keep_scratch"
  | .testArgs => "test_args"
  | .cargo => "cargo"

/-- Whether a setting stands among those for documentation tests. -/
def isForTests : Setting → Bool
  | .outputDir | .workers | .cargo => false
  | .compiler | .edition | .keepScratch | .testArgs => true

/-- The entries of a value; a value that is no mapping has none. -/
def entriesOf : Yaml.Value → List (Yaml.Value × Yaml.Value)
  | .mapping entries => entries
  | _ => []

/-- The value of a setting in a mapping. -/
def valueIn (s : Setting) (entries : List (Yaml.Value × Yaml.Value)) : Yaml.Value :=
  setting s.key (if s.isForTests then entriesOf (setting "doctest" entries) else entries)

/-- What a setting is. -/
abbrev Field : Setting → Type
  | .outputDir => Path
  | .workers => Option ℤ
  | .compiler | .cargo => String
  | .edition => Option String
  | .keepScratch => Bool
  | .testArgs => List String

/-- A setting of a project. -/
def of : (s : Setting) → Config → s.Field
  | .outputDir, config => config.outputDir
  | .workers, config => config.workers
  | .compiler, config => config.doctest.compiler
  | .edition, config => config.doctest.edition
  | .keepScratch, config => config.doctest.keepScratch
  | .testArgs, config => config.doctest.testArgs
  | .cargo, config => config.cargo

/-- A setting by the value under its key. -/
def read (root : Path) : (s : Setting) → Yaml.Value → Except ConfigError s.Field
  | .outputDir, v =>
    (text? v).map fun s ↦ ((nonempty s).map (root / ·)).getD (default root).outputDir
  | .workers, v => if (int? v).any (· < 1) then .error .noWorkers else .ok (int? v)
  | .compiler, v => (text? v).map fun s ↦ (nonempty s).getD "rustc"
  | .edition, v => text? v
  | .keepScratch, v => .ok ((bool? v).getD false)
  | .testArgs, v => texts v
  | .cargo, v => (text? v).map fun s ↦ (nonempty s).getD "cargo"

/-- The settings for documentation tests one by one, in the order in which they are read. -/
def readTests (root : Path) (entries : List (Yaml.Value × Yaml.Value)) :
    Except ConfigError DoctestConfig := do
  let compiler ← Setting.compiler.read root (Setting.compiler.valueIn entries)
  let edition ← Setting.edition.read root (Setting.edition.valueIn entries)
  let testArgs ← Setting.testArgs.read root (Setting.testArgs.valueIn entries)
  let keepScratch ← Setting.keepScratch.read root (Setting.keepScratch.valueIn entries)
  return {
    compiler := compiler
    edition := edition
    keepScratch := keepScratch
    testArgs := testArgs }

/-- The settings of a project one by one, in the order in which they are read. -/
def readAll (root : Path) (entries : List (Yaml.Value × Yaml.Value)) :
    Except ConfigError Config := do
  let outputDir ← Setting.outputDir.read root (Setting.outputDir.valueIn entries)
  let workers ← Setting.workers.read root (Setting.workers.valueIn entries)
  let doctest ← readTests root entries
  let cargo ← Setting.cargo.read root (Setting.cargo.valueIn entries)
  return {
    root := root
    outputDir := outputDir
    workers := workers
    cargo := cargo
    doctest := doctest }

/-- The settings of the tests are read by the list of settings. -/
theorem doctestOf_eq_readTests (root : Path) (entries : List (Yaml.Value × Yaml.Value)) :
    doctestOf (setting "doctest" entries) = readTests root entries := by
  simp only [readTests, read, valueIn, isForTests, key, if_true]
  generalize setting "doctest" entries = v
  fun_cases doctestOf v with
  | case1 => rfl
  | case2 inner =>
    simp only [entriesOf]
    rcases text? (setting "compiler" inner) with e | compiler
    · rfl
    rcases text? (setting "edition" inner) with e | edition
    · rfl
    rcases texts (setting "test_args" inner) with e | testArgs
    · rfl
    rfl
  | case3 v hempty hmapping =>
    cases v with
    | mapping inner => exact absurd rfl (hmapping inner)
    | _ => rfl

theorem ofValue_mapping (root : Path) (entries : List (Yaml.Value × Yaml.Value)) :
    ofValue root (.mapping entries) = readAll root entries := by
  rcases entries with - | ⟨entry, entries⟩
  · rfl
  have hany (workers : Option ℤ) : (workers.map fun n ↦ decide (n < 1)).getD false =
      workers.any (· < 1) := by
    cases workers <;> rfl
  rw [ofValue.eq_def, if_neg (by simp [Yaml.Value.isNothing])]
  simp only [readAll, read, valueIn, isForTests, key, ← doctestOf_eq_readTests, hany, if_false,
    Bool.false_eq_true]
  rcases text? (setting "output_dir" (entry :: entries)) with e | outputDir
  · rfl
  by_cases hfew : (int? (setting "workers" (entry :: entries))).any (· < 1) = true
  · simp only [hfew, if_true]
    rfl
  simp only [hfew]
  rcases doctestOf (setting "doctest" (entry :: entries)) with e | doctest
  · rfl
  rcases text? (setting "cargo" (entry :: entries)) with e | cargo
  · rfl
  rfl

/-! ### What cannot be read -/

/-- Values that a setting is not read off. -/
def Refuses : Setting → Yaml.Value → Prop
  | .workers, v => ∃ n, int? v = some n ∧ n < 1
  | .keepScratch, _ => False
  | .testArgs, v => ∃ items, v = .list items ∧ ∃ n, .int n ∈ items ∧ IsLong n
  | .outputDir, v | .compiler, v | .edition, v | .cargo, v => ∃ n, v = .int n ∧ IsLong n

/-- Why a setting is not read. -/
def fault : Setting → ConfigError
  | .workers => .noWorkers
  | _ => .longNumber

/-- An integer is written out unless it is too long to be. -/
theorem integerText_eq (n : ℤ) :
    integerText n = if IsLong n then .error .longNumber else .ok (toString n) :=
  if_congr isLong_iff.symm rfl rfl

/-- Only a number too long to be written is no text. -/
theorem text?_eq_error_iff :
    text? v = .error e ↔ (∃ n, v = .int n ∧ IsLong n) ∧ e = .longNumber := by
  cases v with
  | int n =>
    rw [text?, integerText_eq]
    split_ifs with hlong
    · constructor
      · rintro ⟨⟩
        exact ⟨⟨n, rfl, hlong⟩, rfl⟩
      · rintro ⟨-, rfl⟩
        rfl
    · constructor
      · rintro ⟨⟩
      · rintro ⟨⟨m, hm, hlong'⟩, -⟩
        cases hm
        exact absurd hlong' hlong
  | _ => simp [text?]

theorem item?_eq_error_iff :
    item? v = .error e ↔ (∃ n, v = .int n ∧ IsLong n) ∧ e = .longNumber := by
  fun_cases item? v with
  | case1 b => simp
  | case2 v hbool => exact text?_eq_error_iff

/-- A list is refused because of one such item. -/
theorem texts_eq_error_iff : texts v = .error e ↔
    (∃ items, v = .list items ∧ ∃ n, .int n ∈ items ∧ IsLong n) ∧ e = .longNumber := by
  fun_cases texts v with
  | case3 items =>
    rw [map_eq_error_iff]
    constructor
    · intro h
      obtain ⟨item, hmem, hitem⟩ := exists_mem_of_mapM_eq_error h
      obtain ⟨⟨n, rfl, hlong⟩, rfl⟩ := item?_eq_error_iff.1 hitem
      exact ⟨⟨items, rfl, n, hmem, hlong⟩, rfl⟩
    · rintro ⟨⟨_, ⟨⟩, n, hmem, hlong⟩, rfl⟩
      have hitem : item? (.int n) = .error .longNumber :=
        item?_eq_error_iff.2 ⟨⟨n, rfl, hlong⟩, rfl⟩
      rcases hread : items.mapM item? with e' | read
      · obtain ⟨item, -, hother⟩ := exists_mem_of_mapM_eq_error hread
        rw [(item?_eq_error_iff.1 hother).2]
      · obtain ⟨text, htext⟩ := exists_eq_ok_of_mapM_eq_ok hread hmem
        rw [hitem] at htext
        cases htext
  | case1 | case2 | case4 => simp_all

/-- **A setting is refused exactly by the values it refuses**, with its own fault. -/
theorem read_eq_error_iff : s.read root v = .error e ↔ s.Refuses v ∧ e = s.fault := by
  cases s with
  | outputDir | compiler | cargo => exact map_eq_error_iff.trans text?_eq_error_iff
  | edition => exact text?_eq_error_iff
  | testArgs => exact texts_eq_error_iff
  | keepScratch => simp [read, Refuses]
  | workers =>
    rw [read, Refuses, fault]
    rcases int? v with - | n
    · simp
    · by_cases hn : n < 1
      · simp [hn, eq_comm]
      · simp [hn]

/-! ### All settings together -/

theorem readTests_eq_ok_iff {doctest : DoctestConfig} :
    readTests root entries = .ok doctest ↔
      Setting.compiler.read root (Setting.compiler.valueIn entries) = .ok doctest.compiler ∧
      Setting.edition.read root (Setting.edition.valueIn entries) = .ok doctest.edition ∧
      Setting.keepScratch.read root (Setting.keepScratch.valueIn entries) =
        .ok doctest.keepScratch ∧
      Setting.testArgs.read root (Setting.testArgs.valueIn entries) = .ok doctest.testArgs := by
  simp only [readTests, bind_eq_ok_iff]
  constructor
  · rintro ⟨compiler, hcompiler, edition, hedition, testArgs, htestArgs, keepScratch, hkeep, ⟨⟩⟩
    exact ⟨hcompiler, hedition, hkeep, htestArgs⟩
  · rintro ⟨hcompiler, hedition, hkeep, htestArgs⟩
    exact ⟨_, hcompiler, _, hedition, _, htestArgs, _, hkeep, rfl⟩

/-- The settings of a project are read if each of them is, and they are what is read. -/
theorem readAll_eq_ok_iff {config : Config} : readAll root entries = .ok config ↔
    config.root = root ∧ ∀ s : Setting, s.read root (s.valueIn entries) = .ok (s.of config) := by
  simp only [readAll, bind_eq_ok_iff, readTests_eq_ok_iff]
  constructor
  · rintro ⟨outputDir, houtputDir, workers, hworkers, doctest, ⟨hcompiler, hedition, hkeep, hargs⟩,
      cargo, hcargo, ⟨⟩⟩
    refine ⟨rfl, fun s ↦ ?_⟩
    cases s with
    | outputDir => exact houtputDir
    | workers => exact hworkers
    | compiler => exact hcompiler
    | edition => exact hedition
    | keepScratch => exact hkeep
    | testArgs => exact hargs
    | cargo => exact hcargo
  · rintro ⟨rfl, h⟩
    exact ⟨_, h .outputDir, _, h .workers, _,
      ⟨h .compiler, h .edition, h .keepScratch, h .testArgs⟩, _, h .cargo, rfl⟩

/-- Where the settings are not read, one of them is to blame; the output directory is read first. -/
theorem exists_of_readAll_eq_error (h : readAll root entries = .error e) :
    ∃ s : Setting, s.read root (s.valueIn entries) = .error e ∧
      (s ≠ .outputDir → ¬ Setting.outputDir.Refuses (Setting.outputDir.valueIn entries)) := by
  rw [readAll] at h
  rcases bind_eq_error_iff.1 h with hout | ⟨outputDir, hout, h⟩
  · exact ⟨.outputDir, hout, fun hne ↦ absurd rfl hne⟩
  have hfirst : ¬ Setting.outputDir.Refuses (Setting.outputDir.valueIn entries) := fun hrefuses ↦ by
    rw [read_eq_error_iff.2 ⟨hrefuses, rfl⟩] at hout
    cases hout
  rcases bind_eq_error_iff.1 h with hworkers | ⟨_, -, h⟩
  · exact ⟨.workers, hworkers, fun _ ↦ hfirst⟩
  rcases bind_eq_error_iff.1 h with htests | ⟨_, -, h⟩
  · rw [readTests] at htests
    rcases bind_eq_error_iff.1 htests with hcompiler | ⟨_, -, htests⟩
    · exact ⟨.compiler, hcompiler, fun _ ↦ hfirst⟩
    rcases bind_eq_error_iff.1 htests with hedition | ⟨_, -, htests⟩
    · exact ⟨.edition, hedition, fun _ ↦ hfirst⟩
    rcases bind_eq_error_iff.1 htests with hargs | ⟨_, -, htests⟩
    · exact ⟨.testArgs, hargs, fun _ ↦ hfirst⟩
    cases htests
  rcases bind_eq_error_iff.1 h with hcargo | ⟨_, -, h⟩
  · exact ⟨.cargo, hcargo, fun _ ↦ hfirst⟩
  cases h

/-- The settings are read exactly if no value is refused. -/
theorem exists_readAll_eq_ok_iff : (∃ config, readAll root entries = .ok config) ↔
    ∀ s : Setting, ¬ s.Refuses (s.valueIn entries) := by
  constructor
  · rintro ⟨config, h⟩ s hrefuses
    have hread := (readAll_eq_ok_iff.1 h).2 s
    rw [read_eq_error_iff.2 ⟨hrefuses, rfl⟩] at hread
    cases hread
  · intro h
    rcases hread : readAll root entries with e | config
    · obtain ⟨s, hs, -⟩ := exists_of_readAll_eq_error hread
      exact absurd (read_eq_error_iff.1 hs).1 (h s)
    · exact ⟨config, rfl⟩

/-- Fewer than one worker are reported unless the output directory has been refused before. -/
theorem readAll_eq_noWorkers_iff : readAll root entries = .error .noWorkers ↔
    Setting.workers.Refuses (Setting.workers.valueIn entries) ∧
      ¬ Setting.outputDir.Refuses (Setting.outputDir.valueIn entries) := by
  constructor
  · intro h
    obtain ⟨s, hs, hfirst⟩ := exists_of_readAll_eq_error h
    obtain ⟨hrefuses, hfault⟩ := read_eq_error_iff.1 hs
    cases s with
    | workers => exact ⟨hrefuses, hfirst nofun⟩
    | _ => cases hfault
  · rintro ⟨hworkers, hfirst⟩
    rcases hout : Setting.outputDir.read root (Setting.outputDir.valueIn entries) with e | outputDir
    · exact absurd (read_eq_error_iff.1 hout).1 hfirst
    · simp only [readAll, hout, read_eq_error_iff.2 ⟨hworkers, rfl⟩]
      rfl

end Setting

/-! ### Valid settings -/

namespace Config

variable {tree : FileTree} {base : Standpoint} {path root : Path}
  {entries : List (Yaml.Value × Yaml.Value)}

/-- Settings that a project at `root` can have. -/
structure IsValid (config : Config) (root : Path) : Prop where
  root_eq : config.root = root
  outputDir_eq : config.outputDir = (default root).outputDir ∨
    ∃ name, name ≠ "" ∧ config.outputDir = root / name
  one_le_workers : ∀ n ∈ config.workers, 1 ≤ n
  cargo_ne : config.cargo ≠ ""
  compiler_ne : config.doctest.compiler ≠ ""

/-- What is kept as not empty is not. -/
theorem ne_empty_of_mem_nonempty {s : Option String} {name : String} (h : name ∈ nonempty s) :
    name ≠ "" := by
  have hkept := (Option.filter_eq_some_iff.1 h).2
  simpa using hkept

theorem getD_nonempty_ne_empty (s : Option String) {name : String} (h : name ≠ "") :
    (nonempty s).getD name ≠ "" := by
  rcases hs : nonempty s with - | given
  · exact h
  · exact ne_empty_of_mem_nonempty hs

/-- What is read setting by setting is valid. -/
theorem isValid_of_readAll {config : Config} (h : Setting.readAll root entries = .ok config) :
    config.IsValid root := by
  obtain ⟨hroot, hread⟩ := Setting.readAll_eq_ok_iff.1 h
  refine ⟨hroot, ?_, ?_, ?_, ?_⟩
  · obtain ⟨given, -, hout⟩ := map_eq_ok_iff.1 (hread .outputDir)
    rcases hname : nonempty given with - | name
    · rw [hname] at hout
      exact .inl hout.symm
    · rw [hname] at hout
      exact .inr ⟨name, ne_empty_of_mem_nonempty hname, hout.symm⟩
  · intro n hn
    have hworkers : Setting.workers.read root (Setting.workers.valueIn entries) =
        .ok config.workers := hread .workers
    rw [Setting.read] at hworkers
    split_ifs at hworkers with hfew
    · have hcount : int? (Setting.workers.valueIn entries) = config.workers :=
        Except.ok.inj hworkers
      rw [hcount, Option.mem_def.1 hn] at hfew
      simpa using hfew
  · obtain ⟨given, -, hcargo⟩ := map_eq_ok_iff.1 (hread .cargo)
    have hgiven : (nonempty given).getD "cargo" = config.cargo := hcargo
    exact hgiven ▸ getD_nonempty_ne_empty given (by decide)
  · obtain ⟨given, -, hcompiler⟩ := map_eq_ok_iff.1 (hread .compiler)
    have hgiven : (nonempty given).getD "rustc" = config.doctest.compiler := hcompiler
    exact hgiven ▸ getD_nonempty_ne_empty given (by decide)

/-- **Settings that are loaded are valid, and keys are independent.** From a file that holds a
mapping valid settings are loaded, exactly if no value is refused: fewer than one worker, and where
a text is meant a number that is too long to be written out. Fewer than one worker are what is
reported unless the output directory is refused too. What is loaded from two mappings with the same
value under a key has the same setting there. -/
theorem load_settings_valid_and_independent (h : Holds tree base path root (.mapping entries)) :
    (∀ config, load tree base path = .ok config → config.IsValid root) ∧
      ((∃ config, load tree base path = .ok config) ↔
        ∀ s : Setting, ¬ s.Refuses (s.valueIn entries)) ∧
      (load tree base path = .error .noWorkers ↔
        Setting.workers.Refuses (Setting.workers.valueIn entries) ∧
          ¬ Setting.outputDir.Refuses (Setting.outputDir.valueIn entries)) ∧
      (∀ e, load tree base path = .error e → e = .noWorkers ∨ e = .longNumber) ∧
      ∀ (other : FileTree) (base' : Standpoint) (path' : Path)
        (entries' : List (Yaml.Value × Yaml.Value))
        (config config' : Config), Holds other base' path' root (.mapping entries') →
        load tree base path = .ok config → load other base' path' = .ok config' →
        ∀ s : Setting, s.valueIn entries = s.valueIn entries' → s.of config = s.of config' := by
  rw [load_of_holds h, Setting.ofValue_mapping]
  refine ⟨fun config ↦ isValid_of_readAll, Setting.exists_readAll_eq_ok_iff,
    Setting.readAll_eq_noWorkers_iff, fun e he ↦ ?_, ?_⟩
  · obtain ⟨s, hs, -⟩ := Setting.exists_of_readAll_eq_error he
    rw [(Setting.read_eq_error_iff.1 hs).2]
    cases s with
    | workers => exact .inl rfl
    | _ => exact .inr rfl
  · intro other base' path' entries' config config' hother hload hload' s hvalue
    rw [load_of_holds hother, Setting.ofValue_mapping] at hload'
    -- each setting is read from its own value, and both files give it the same one
    have hread := (Setting.readAll_eq_ok_iff.1 hload).2 s
    have hread' := (Setting.readAll_eq_ok_iff.1 hload').2 s
    rw [hvalue, hread'] at hread
    exact (Except.ok.inj hread).symm

/-- Two files with four workers, in one of which the command is given too. -/
theorem load_sampleWorkers_valid_and_independent :
    ∃ config config', load (sampleTree "workers: 4\n") sampleBase sampleRoot = .ok config ∧
      load (sampleTree "cargo: c\nworkers: 4\n") sampleBase sampleRoot = .ok config' ∧
        config.IsValid sampleRoot ∧ config.workers = config'.workers := by
  have hholds : Holds (sampleTree "workers: 4\n") sampleBase sampleRoot sampleRoot
      (.mapping [(.text "workers", .int 4)]) :=
    holds_sampleTree (by decide) (by decide) (by decide +kernel)
  have hholds' : Holds (sampleTree "cargo: c\nworkers: 4\n") sampleBase sampleRoot sampleRoot
      (.mapping [(.text "cargo", .text "c"), (.text "workers", .int 4)]) :=
    holds_sampleTree (by decide) (by decide) (by decide +kernel)
  obtain ⟨hvalid, -, -, -, hindependent⟩ := load_settings_valid_and_independent hholds
  have hload : load (sampleTree "workers: 4\n") sampleBase sampleRoot =
      .ok { default sampleRoot with workers := some 4 } := (load_of_holds hholds).trans rfl
  have hload' : load (sampleTree "cargo: c\nworkers: 4\n") sampleBase sampleRoot =
      .ok { default sampleRoot with workers := some 4, cargo := "c" } :=
    (load_of_holds hholds').trans rfl
  exact ⟨_, _, hload, hload', hvalid _ hload,
    hindependent _ _ _ _ _ _ hholds' hload hload' .workers rfl⟩

/-- No workers at all are not reported where the output directory is a number that is too long. -/
theorem not_ofValue_eq_noWorkers_iff :
    ¬ ∀ (root : Path) (entries : List (Yaml.Value × Yaml.Value)),
      ofValue root (.mapping entries) = .error .noWorkers ↔
        Setting.workers.Refuses (Setting.workers.valueIn entries) := by
  intro h
  have hlong : IsLong (Nat.pow 10 maxDigits) := isLong_iff.2 (Int.natAbs_natCast _).ge
  have hreported := (h sampleRoot
    [(.text "output_dir", .int (Nat.pow 10 maxDigits)), (.text "workers", .int 0)]).2
      ⟨0, rfl, by decide⟩
  rw [Setting.ofValue_mapping, Setting.readAll_eq_noWorkers_iff] at hreported
  exact hreported.2 ⟨_, rfl, hlong⟩

end Config

end CrateDoc
