import CrateDoc.Proofs.Config
import CrateDoc.Proofs.Text.Blank
import CrateDoc.Proofs.Text.Lines
import CrateDoc.Proofs.Text.Utf8
import CrateDoc.Proofs.Yaml.Value

/-!
# What the file with the settings holds

The settings of a project depend on its file only through the text that the file holds
(`Config.Stores`, `load_of_stores`), and on a text that is not blank only through the value that it
stands for (`Config.Holds`, `load_of_holds`).

A value that is no mapping is refused, unless it counts as nothing; then it stands for the default
settings, as a blank text and the null value do (`load_of_root`). Not only the null value counts as
nothing: neither do an empty list, an empty text, `false` and zero lead to an error
(`not_load_refuses_void`).
-/

namespace CrateDoc.Config

open CrateDoc.Text

variable {tree : FileTree} {base : Standpoint} {path root : Path} {text : List Char}
  {value : Yaml.Value}

/-- The file with the settings of the project at `root` is there, and `text` is what it holds. -/
structure Stores (tree : FileTree) (base : Standpoint) (path root : Path) (text : List Char) :
    Prop where
  located : ∃ file, locate? tree base path = some file ∧ file.parent = root ∧
    tree.has file = true ∧ ∃ bytes written, tree.read file = .ok bytes ∧
      Utf8.decode bytes = .ok written ∧ unifyNewlines written = text

/-- The file with the settings of the project at `root` holds a text that stands for a value. -/
def Holds (tree : FileTree) (base : Standpoint) (path root : Path) (value : Yaml.Value) : Prop :=
  ∃ text, Stores tree base path root text ∧ ¬ AllBlank text ∧
    Yaml.Value.ofText depth text = .ok value

theorem load_of_stores (h : Stores tree base path root text) :
    load tree base path = ofText root text := by
  obtain ⟨file, hfile, hroot, hhas, bytes, written, hread, hdecode, htext⟩ := h.located
  simp only [load, hfile, hhas, if_true, hread, hdecode, htext, hroot, Except.mapError, bind,
    Except.bind]

theorem ofText_of_blank (root : Path) (h : AllBlank text) : ofText root text = .ok (default root) :=
  if_pos (by rw [strip_eq_nil_iff.2 h]; rfl)

theorem ofText_of_value (root : Path) (h : ¬ AllBlank text)
    (hvalue : Yaml.Value.ofText depth text = .ok value) :
    ofText root text = ofValue root value := by
  have hstrip : ¬ (strip text).isEmpty = true := by
    rw [List.isEmpty_iff, strip_eq_nil_iff]
    exact h
  rw [ofText, if_neg hstrip, hvalue]
  rfl

/-- The settings depend on nothing but the value that the file holds. -/
theorem load_of_holds (h : Holds tree base path root value) :
    load tree base path = ofValue root value := by
  obtain ⟨text, hstores, hblank, hvalue⟩ := h
  rw [load_of_stores hstores, ofText_of_value root hblank hvalue]

theorem ofValue_of_isNothing (root : Path) (h : value.isNothing = true) :
    ofValue root value = .ok (default root) := by
  rw [ofValue.eq_def, if_pos h]

theorem ofValue_of_not_isMapping (root : Path) (hmapping : ¬ value.IsMapping)
    (h : value.isNothing = false) : ofValue root value = .error .notMapping := by
  rw [ofValue.eq_def, if_neg (by simp [h])]
  cases value with
  | mapping entries => exact absurd ⟨entries, rfl⟩ hmapping
  | _ => rfl

/-- **What stands at the root of the file decides.** A blank text and the null value stand for the
default settings. Any other value that is no mapping is refused exactly if it is not void, and
stands for the default settings if it is. -/
theorem load_of_root (h : Stores tree base path root text) :
    (AllBlank text → load tree base path = .ok (default root)) ∧
      ∀ value, ¬ AllBlank text → Yaml.Value.ofText depth text = .ok value →
        (value = .null → load tree base path = .ok (default root)) ∧
          (¬ value.IsMapping → value ≠ .null →
            (load tree base path = .error .notMapping ↔ ¬ value.IsVoid) ∧
              (value.IsVoid → load tree base path = .ok (default root))) := by
  rw [load_of_stores h]
  refine ⟨ofText_of_blank root, fun value hblank hvalue ↦ ?_⟩
  rw [ofText_of_value root hblank hvalue]
  refine ⟨?_, fun hmapping hnull ↦ ?_⟩
  · rintro rfl
    exact ofValue_of_isNothing root rfl
  have hnothing : value.isNothing = true ↔ value.IsVoid := by
    rw [Yaml.Value.isNothing_iff hmapping, or_iff_right hnull]
  have hvoid : value.IsVoid → ofValue root value = .ok (default root) :=
    fun hvoid ↦ ofValue_of_isNothing root (hnothing.2 hvoid)
  refine ⟨⟨fun hrefused hvalue ↦ ?_, fun hvalue ↦ ?_⟩, hvoid⟩
  · rw [hvoid hvalue] at hrefused
    cases hrefused
  · exact ofValue_of_not_isMapping root hmapping (Bool.eq_false_iff.2 (mt hnothing.1 hvalue))

/-! ### Files that hold lists -/

/-- The directory of a project. -/
def sampleRoot : Path := ⟨.single, ["p"]⟩

/-- It is the working directory. -/
def sampleBase : Standpoint := { directory := sampleRoot }

/-- A project whose file with the settings holds a text. -/
def sampleTree (text : String) : FileTree :=
  ⟨[(["p", configName], .file (Utf8.encode text.toList))]⟩

theorem stores_sampleTree {text : String} (h : '\r' ∉ text.toList) :
    Stores (sampleTree text) sampleBase sampleRoot sampleRoot text.toList where
  located := by
    have hat : (sampleTree text).IsAt sampleRoot ["p"] := by
      constructor <;> rfl
    exact ⟨_, locate?_of_isAt rfl (by decide) hat _,
      Path.parent_div sampleRoot isComponent_configName, rfl, _, _, rfl,
      Utf8.decode_encode text.toList, unifyNewlines_eq_self h⟩

theorem holds_sampleTree {text : String} (h : '\r' ∉ text.toList) (hblank : ¬ AllBlank text.toList)
    (hvalue : (Yaml.Value.ofText depth text.toList).toOption = some value) :
    Holds (sampleTree text) sampleBase sampleRoot sampleRoot value :=
  ⟨text.toList, stores_sampleTree h, hblank, eq_ok_of_toOption hvalue⟩

/-- A list with items is refused. -/
theorem load_of_sampleList :
    Stores (sampleTree "- just\n- a list\n") sampleBase sampleRoot sampleRoot
        "- just\n- a list\n".toList ∧
      load (sampleTree "- just\n- a list\n") sampleBase sampleRoot = .error .notMapping := by
  have hstores : Stores (sampleTree "- just\n- a list\n") sampleBase sampleRoot sampleRoot
      "- just\n- a list\n".toList := stores_sampleTree (by decide)
  have hvalue : Yaml.Value.ofText depth "- just\n- a list\n".toList =
      .ok (.list [.text "just", .text "a list"]) := eq_ok_of_toOption (by decide +kernel)
  obtain ⟨-, hroot⟩ := load_of_root hstores
  obtain ⟨-, hother⟩ := hroot _ (by decide) hvalue
  exact ⟨hstores, (hother (by rintro ⟨_, ⟨⟩⟩) nofun).1.2 nofun⟩

/-- An empty list is not. -/
theorem not_load_refuses_void :
    ¬ ∀ (tree : FileTree) (base : Standpoint) (path root : Path) (value : Yaml.Value),
      Holds tree base path root value → ¬ value.IsMapping → value ≠ .null →
        load tree base path = .error .notMapping := by
  intro h
  have hholds : Holds (sampleTree "[]\n") sampleBase sampleRoot sampleRoot (.list []) :=
    holds_sampleTree (by decide) (by decide) (by decide +kernel)
  have hrefused := h _ _ _ _ _ hholds (by rintro ⟨_, ⟨⟩⟩) nofun
  rw [load_of_holds hholds] at hrefused
  cases hrefused

end CrateDoc.Config
