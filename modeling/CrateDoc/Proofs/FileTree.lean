import CrateDoc.FileTree
import CrateDoc.Proofs.Entries
import CrateDoc.Proofs.Path
import Mathlib.Data.List.Basic

/-!
# Writing files into a directory

What stands at the places of a tree after something was put at one of them (`at?_put_of_ne`). A
directory that was made is there (`isAt_of_makeDirectory`); a file that is written into it is read
back, and the other names in the directory stay as they were (`exists_write_component`). So files of
different names are all there when the last of them is written (`exists_foldlM_write`).
-/

namespace CrateDoc.FileTree

/-! ### Places -/

/-- The tree with something at a place. -/
def putAt (tree : FileTree) (place : List String) (entry : Entry) : FileTree :=
  ⟨Entries.put place entry tree.entries⟩

theorem at?_putAt_self (tree : FileTree) (place : List String) (entry : Entry) :
    (tree.putAt place entry).at? place = some entry := by
  rw [putAt, at?, Entries.get?_put_self]

/-- Elsewhere a tree stays as it is, but on the way to the place there are directories now. -/
theorem at?_putAt_of_ne (tree : FileTree) {place other : List String} (entry : Entry)
    (hne : other ≠ place) :
    (tree.putAt place entry).at? other =
      (tree.at? other).or (if other.isPrefixOf place then some .directory else none) := by
  have hkey : (place == other) = false := beq_eq_false_iff_ne.2 (Ne.symm hne)
  rw [putAt, at?, at?, Entries.get?_put_of_ne _ _ hkey]
  rcases Entries.get? other tree.entries with - | found
  · dsimp only
    rw [Entries.any_put (fun key ↦ other.isPrefixOf key)]
    by_cases hbefore :
        (other.isEmpty || tree.entries.any fun e ↦ other.isPrefixOf e.1) = true
    · rw [← Bool.or_assoc, hbefore]
      simp
    · rw [← Bool.or_assoc, Bool.eq_false_iff.2 hbefore]
      simp
  · rfl

/-- What is not on the way to a place stays as it is. -/
theorem at?_putAt_of_off_way (tree : FileTree) {place other : List String} (entry : Entry)
    (h : ¬ other <+: place) : (tree.putAt place entry).at? other = tree.at? other := by
  have hne : other ≠ place := by
    rintro rfl
    exact h List.prefix_rfl
  have hbefore : other.isPrefixOf place = false := by
    rwa [Bool.eq_false_iff, Ne, List.isPrefixOf_iff_prefix]
  rw [at?_putAt_of_ne tree entry hne, hbefore]
  simp

/-- Nothing is at a place when no entry stands there or below. -/
theorem at?_eq_none_iff {tree : FileTree} {place : List String} :
    tree.at? place = none ↔ place ≠ [] ∧ ∀ entry ∈ tree.entries, ¬ place <+: entry.1 := by
  have hany : (place.isEmpty || tree.entries.any fun e ↦ place.isPrefixOf e.1) = true ↔
      place = [] ∨ ∃ entry ∈ tree.entries, place <+: entry.1 := by
    simp only [Bool.or_eq_true, List.isEmpty_iff, List.any_eq_true, List.isPrefixOf_iff_prefix]
  rw [at?]
  rcases hget : Entries.get? place tree.entries with - | entry
  · dsimp only
    split_ifs with hthere
    · have habove := hany.1 hthere
      simp only [false_iff]
      rintro ⟨hne, hbelow⟩
      rcases habove with hnil | ⟨entry, hentry, hbefore⟩
      · exact hne hnil
      · exact hbelow entry hentry hbefore
    · rw [hany, not_or, not_exists] at hthere
      exact ⟨fun _ ↦ ⟨hthere.1, fun entry hentry hbefore ↦ hthere.2 entry ⟨hentry, hbefore⟩⟩,
        fun _ ↦ rfl⟩
  · obtain ⟨key, hmem, hkey⟩ := Entries.exists_mem_of_get?_eq_some hget
    obtain rfl := eq_of_beq hkey
    simp only [reduceCtorEq, false_iff]
    rintro ⟨-, hbelow⟩
    exact hbelow _ hmem List.prefix_rfl

/-- Below nothing there is nothing. -/
theorem at?_below_eq_none {tree : FileTree} {place below : List String}
    (h : tree.at? place = none) (hbefore : place <+: below) : tree.at? below = none := by
  obtain ⟨hne, hfree⟩ := at?_eq_none_iff.1 h
  refine at?_eq_none_iff.2 ⟨?_, fun entry hentry hbelow ↦ ?_⟩
  · rintro rfl
    exact hne (List.prefix_nil.1 hbefore)
  · exact hfree entry hentry (hbefore.trans hbelow)

/-- The root is a directory, or at least something. -/
theorem at?_nil_ne_none (tree : FileTree) : tree.at? [] ≠ none :=
  fun hnone ↦ (at?_eq_none_iff.1 hnone).1 rfl

/-- What is a directory in the one tree is one in the other. -/
def KeepsDirectories (tree later : FileTree) : Prop :=
  ∀ place, tree.at? place = some .directory → later.at? place = some .directory

theorem KeepsDirectories.refl (tree : FileTree) : tree.KeepsDirectories tree := fun _ h ↦ h

theorem KeepsDirectories.trans {tree later last : FileTree} (h : tree.KeepsDirectories later)
    (h' : later.KeepsDirectories last) : tree.KeepsDirectories last :=
  fun place hplace ↦ h' place (h place hplace)

/-- What is put where no directory is leaves the directories alone. -/
theorem keepsDirectories_putAt {tree : FileTree} {place : List String} (entry : Entry)
    (h : tree.at? place ≠ some .directory) : tree.KeepsDirectories (tree.putAt place entry) := by
  intro other hother
  have hne : other ≠ place := by
    rintro rfl
    exact h hother
  rw [at?_putAt_of_ne tree entry hne, hother]
  rfl

/-! ### Ways -/

/-- The next place on a way is a matter of the component alone, and the way there is a directory. -/
theorem walk_cons {tree : FileTree} {place last rest : List String} {part : String}
    (h : tree.walk place (part :: rest) = .ok last) : tree.at? place = some .directory ∧
      tree.walk (if part = ".." then place.dropLast else place ++ [part]) rest = .ok last := by
  rw [walk] at h
  rcases hplace : tree.at? place with - | entry
  · rw [hplace] at h
    cases h
  · rw [hplace] at h
    rcases entry with bytes | -
    · cases h
    · exact ⟨rfl, h⟩

theorem KeepsDirectories.walk {tree later : FileTree} (h : tree.KeepsDirectories later)
    {place last : List String} {parts : List String} (hwalk : tree.walk place parts = .ok last) :
    later.walk place parts = .ok last := by
  induction parts generalizing place with
  | nil => exact hwalk
  | cons part rest ih =>
    obtain ⟨hplace, hrest⟩ := walk_cons hwalk
    rw [FileTree.walk, h place hplace]
    exact ih hrest

/-- A way goes on from the directory that it leads to. -/
theorem walk_append {tree : FileTree} {place last : List String} {parts : List String}
    (hwalk : tree.walk place parts = .ok last) (more : List String) :
    tree.walk place (parts ++ more) = tree.walk last more := by
  induction parts generalizing place with
  | nil =>
    cases hwalk
    rfl
  | cons part rest ih =>
    obtain ⟨hplace, hrest⟩ := walk_cons hwalk
    rw [List.cons_append, FileTree.walk, hplace]
    exact ih hrest

/-- A way in two parts leads from where the first of them leads. -/
theorem exists_walk_of_append {tree : FileTree} {place last : List String}
    {parts more : List String}
    (h : tree.walk place (parts ++ more) = .ok last) :
    ∃ between, tree.walk place parts = .ok between ∧ tree.walk between more = .ok last := by
  induction parts generalizing place with
  | nil => exact ⟨place, rfl, h⟩
  | cons part rest ih =>
    obtain ⟨hplace, hrest⟩ := walk_cons h
    rw [walk, hplace]
    exact ih hrest

/-- A path leads to a directory at a place. -/
structure IsAt (tree : FileTree) (path : Path) (place : List String) : Prop where
  walk : tree.walk [] path.parts = .ok place
  directory : tree.at? place = some .directory

theorem IsAt.keep {tree later : FileTree} {path : Path} {place : List String}
    (h : tree.IsAt path place) (hkeep : tree.KeepsDirectories later) : later.IsAt path place :=
  ⟨hkeep.walk h.walk, hkeep place h.directory⟩

theorem IsAt.locate {tree : FileTree} {path : Path} {place : List String}
    (h : tree.IsAt path place) : tree.locate path = .ok place := by
  rw [FileTree.locate, h.walk]
  rfl

/-- A name in a directory leads one step further. -/
theorem IsAt.locate_component {tree : FileTree} {path : Path} {place : List String}
    (h : tree.IsAt path place) {name : String} (hname : Path.IsComponent name) :
    tree.locate (path / name) = .ok (place ++ [name]) := by
  rw [FileTree.locate, Path.div_eq_of_isComponent path hname, walk_append h.walk, FileTree.walk,
    h.directory]
  dsimp only
  rw [FileTree.walk, if_neg hname.ne_up]
  rfl

/-! ### Making a directory -/

/-- The tree in which a directory stands at a place on the way, unless something is there. -/
def entered (tree : FileTree) (place : List String) : FileTree :=
  ⟨if place.isEmpty then tree.entries else
    if (tree.at? place).isSome then tree.entries else Entries.put place .directory tree.entries⟩

theorem entered_spec {tree : FileTree} {place : List String}
    (h : ∀ bytes, tree.at? place ≠ some (.file bytes)) :
    tree.KeepsDirectories (tree.entered place) ∧
      (tree.entered place).at? place = some .directory := by
  rcases hplace : tree.at? place with - | entry
  · have hne : place.isEmpty = false := by
      rw [List.isEmpty_eq_false_iff]
      rintro rfl
      exact tree.at?_nil_ne_none hplace
    have hput : tree.entered place = tree.putAt place .directory := by
      rw [entered, hplace, hne]
      rfl
    rw [hput]
    exact ⟨keepsDirectories_putAt .directory (by rw [hplace]; exact nofun), at?_putAt_self ..⟩
  · have hsame : tree.entered place = tree := by
      rw [entered, hplace]
      split <;> rfl
    rw [hsame]
    rcases entry with bytes | -
    · exact absurd hplace (h bytes)
    · exact ⟨.refl tree, hplace⟩

/-- From a place on, a directory is made at the end of the way, which can be gone then. -/
theorem makeDirectory_go_spec {path : Path} {parts : List String} {tree made : FileTree}
    {place : List String} (h : makeDirectory.go path tree place parts = .ok made) :
    tree.KeepsDirectories made ∧
      ∃ last, made.walk place parts = .ok last ∧ made.at? last = some .directory := by
  -- Each step enters a directory of a tree that has at least the directories of the one before.
  induction parts generalizing tree place with
  | nil =>
    rw [makeDirectory.go] at h
    rcases hplace : tree.at? place with - | entry
    · rw [hplace] at h
      cases h
      exact ⟨keepsDirectories_putAt .directory (by rw [hplace]; exact nofun), place, rfl,
        at?_putAt_self ..⟩
    rcases entry with bytes | -
    · rw [hplace] at h
      cases h
    · rw [hplace] at h
      cases h
      exact ⟨.refl _, place, rfl, hplace⟩
  | cons part rest ih =>
    rw [makeDirectory.go] at h
    split at h
    · cases h
    · rename_i hfile
      obtain ⟨hkeep, hplace⟩ := entered_spec fun bytes heq ↦ hfile bytes heq
      obtain ⟨hmade, last, hwalk, hlast⟩ := ih h
      refine ⟨hkeep.trans hmade, last, ?_, hlast⟩
      rw [walk, hmade place hplace]
      exact hwalk

/-- A directory that was made is there. -/
theorem isAt_of_makeDirectory {tree made : FileTree} {path : Path}
    (h : tree.makeDirectory path = .ok made) : ∃ place, made.IsAt path place := by
  obtain ⟨-, last, hwalk, hlast⟩ := makeDirectory_go_spec h
  exact ⟨last, hwalk, hlast⟩

/-- In an empty directory nothing has a name. -/
theorem at?_append_of_names_eq_nil {tree : FileTree} {path : Path} {place : List String}
    (h : tree.IsAt path place) (hempty : tree.names path = []) (name : String) :
    tree.at? (place ++ [name]) = none := by
  have hbelow : ∀ entry ∈ tree.entries, ¬ place ++ [name] <+: entry.1 := by
    intro entry hentry hbefore
    obtain ⟨behind, hbehind⟩ := hbefore
    have hmem : name ∈ tree.names path := by
      rw [names, h.locate]
      refine List.mem_eraseDups.2 (List.mem_filterMap.2 ⟨entry, hentry, ?_⟩)
      rw [if_pos, ← hbehind]
      · simp
      · rw [List.isPrefixOf_iff_prefix, ← hbehind, List.append_assoc]
        exact List.prefix_append _ _
    rw [hempty] at hmem
    cases hmem
  exact at?_eq_none_iff.2 ⟨by simp, hbelow⟩

/-! ### Files in a directory -/

section Files

variable {tree : FileTree} {path : Path} {place : List String}

/-- A file that stands in a directory is read. -/
theorem IsAt.read_component (h : tree.IsAt path place) {name : String}
    (hname : Path.IsComponent name) {bytes : List UInt8}
    (hfile : tree.at? (place ++ [name]) = some (.file bytes)) :
    tree.read (path / name) = .ok bytes := by
  rw [read, h.locate_component hname]
  simp only [bind, Except.bind, hfile]

/-- Where no directory has the name, a file is written into a directory, beside what stands there
under other names. -/
theorem IsAt.exists_write_component (h : tree.IsAt path place) {name : String}
    (hname : Path.IsComponent name) (hfree : tree.at? (place ++ [name]) ≠ some .directory)
    (bytes : List UInt8) :
    ∃ later, tree.write (path / name) bytes = .ok later ∧ later.IsAt path place ∧
      later.at? (place ++ [name]) = some (.file bytes) ∧
      ∀ other, other ≠ name → later.at? (place ++ [other]) = tree.at? (place ++ [other]) := by
  refine ⟨tree.putAt (place ++ [name]) (.file bytes), ?_,
    h.keep (keepsDirectories_putAt _ hfree), at?_putAt_self .., fun other hother ↦ ?_⟩
  · rw [write, h.locate_component hname]
    simp only [bind, Except.bind, List.dropLast_concat, h.directory]
    rcases hthere : tree.at? (place ++ [name]) with - | entry
    · rfl
    rcases entry with old | -
    · rfl
    · exact absurd hthere hfree
  · refine at?_putAt_of_off_way tree _ fun hbefore ↦ hother ?_
    simpa using hbefore.eq_of_length (by simp)

/-- Files of different names are written into a directory one after the other and are all there
afterwards. -/
theorem IsAt.exists_foldlM_write (h : tree.IsAt path place) {files : List (String × List UInt8)}
    (hnames : (files.map Prod.fst).Nodup) (hcomponents : ∀ f ∈ files, Path.IsComponent f.1)
    (hfree : ∀ f ∈ files, tree.at? (place ++ [f.1]) ≠ some .directory) :
    ∃ later, files.foldlM (fun tree f ↦ tree.write (path / f.1) f.2) tree = .ok later ∧
      later.IsAt path place ∧
      (∀ f ∈ files, later.at? (place ++ [f.1]) = some (.file f.2)) ∧
      ∀ other, other ∉ files.map Prod.fst →
        later.at? (place ++ [other]) = tree.at? (place ++ [other]) := by
  induction files generalizing tree with
  | nil => exact ⟨tree, rfl, h, by simp, fun _ _ ↦ rfl⟩
  | cons f files ih =>
    obtain ⟨hfirst, hrest⟩ := List.nodup_cons.1 hnames
    obtain ⟨next, hwrite, hnext, hf, hothers⟩ := h.exists_write_component
      (hcomponents f List.mem_cons_self) (hfree f List.mem_cons_self) f.2
    have hne : ∀ g ∈ files, g.1 ≠ f.1 := fun g hg heq ↦
      hfirst (heq ▸ List.mem_map_of_mem hg)
    obtain ⟨later, hfold, hlater, hfiles, hkept⟩ := ih hnext hrest
      (fun g hg ↦ hcomponents g (List.mem_cons_of_mem f hg))
      fun g hg ↦ by
        rw [hothers g.1 (hne g hg)]
        exact hfree g (List.mem_cons_of_mem f hg)
    refine ⟨later, ?_, hlater, fun g hg ↦ ?_, fun other hother ↦ ?_⟩
    · rw [List.foldlM_cons, hwrite]
      exact hfold
    · rcases List.mem_cons.1 hg with rfl | hg
      · rw [hkept g.1 hfirst, hf]
      · exact hfiles g hg
    · rw [List.map_cons, List.mem_cons, not_or] at hother
      rw [hkept other hother.2, hothers other hother.1]

end Files

end CrateDoc.FileTree
