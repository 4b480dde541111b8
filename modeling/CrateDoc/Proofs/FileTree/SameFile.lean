import CrateDoc.Proofs.FileTree.Frame

/-!
# The file at a place

`SameFile` compares what file two trees have at one place, and not which directories they have.
Making a directory leaves all files (`sameFile_makeDirectory`), and writing one leaves those of
other names (`sameFile_write`). A directory that was not there before may be removed again
(`SameFile.remove`): with it go only files that came after it.
-/

namespace CrateDoc.FileTree

variable {place : List String} {tree later last : FileTree} {path : Path} {name : String}
  {bytes : List UInt8}

/-- The same file stands at a place of both trees, or at neither. -/
def SameFile (place : List String) (tree later : FileTree) : Prop :=
  ∀ bytes, later.at? place = some (.file bytes) ↔ tree.at? place = some (.file bytes)

theorem SameFile.refl (place : List String) (tree : FileTree) : SameFile place tree tree :=
  fun _ ↦ Iff.rfl

theorem SameFile.trans (h : SameFile place tree later) (h' : SameFile place later last) :
    SameFile place tree last := fun bytes ↦ (h' bytes).trans (h bytes)

theorem SameFile.of_at?_eq (h : later.at? place = tree.at? place) : SameFile place tree later :=
  fun bytes ↦ by rw [h]

theorem KeepsBelow.sameFile (h : KeepsBelow place tree later) : SameFile place tree later :=
  .of_at?_eq (h.below place List.prefix_rfl)

/-- What is made is a directory, and in the place of no file. -/
theorem sameFile_makeDirectory (h : tree.makeDirectory path = .ok later) (place : List String) :
    SameFile place tree later := by
  intro bytes
  refine ⟨fun hlater ↦ ?_, keepsEntries_makeDirectory h place _⟩
  rcases at?_makeDirectory_go_cases h place with hsame | hmade
  · rw [← hsame, hlater]
  · cases hlater.symm.trans hmade

/-- A name in a directory leads to a place of that name. -/
theorem getLast?_of_locate (hname : Path.IsComponent name)
    (h : tree.locate (path / name) = .ok place) : place.getLast? = some name := by
  have hwalk := walk_of_locate h
  rw [Path.div_eq_of_isComponent path hname] at hwalk
  obtain ⟨between, -, hlast⟩ := exists_walk_of_append hwalk
  obtain ⟨-, hlast⟩ := walk_cons hlast
  rw [if_neg hname.ne_up] at hlast
  cases hlast
  exact List.getLast?_concat

/-- A file is written in the place of none that has another name. -/
theorem sameFile_write (hname : Path.IsComponent name) (hplace : place.getLast? ≠ some name)
    (hwrite : tree.write (path / name) bytes = .ok later) : SameFile place tree later := by
  obtain ⟨target, hlocate, -⟩ := bind_eq_ok_iff.1 hwrite
  refine .of_at?_eq (at?_write_of_ne hlocate hwrite ?_)
  rintro rfl
  exact hplace (getLast?_of_locate hname hlocate)

/-- A path that leads to a file still does so when a file is written, be it that one. -/
theorem FileApart.of_write {log : Path} (h : FileApart place log tree)
    (hwrite : tree.write path bytes = .ok later) : FileApart place log later := by
  obtain ⟨file, old, hlog, hfile, hapart⟩ := h
  obtain ⟨target, hlocate, -⟩ := bind_eq_ok_iff.1 hwrite
  have hlater := (keepsDirectories_write hwrite).locate hlog
  by_cases hne : file = target
  · obtain ⟨-, -, rfl⟩ := write_eq_ok hlocate hwrite
    exact ⟨file, bytes, hlater, hne ▸ at?_putAt_self .., hapart⟩
  · exact ⟨file, old, hlater, (at?_write_of_ne hlocate hwrite hne).trans hfile, hapart⟩

/-- Files are entries; only directories can be there by what is below them. -/
theorem at?_eq_file_iff :
    tree.at? place = some (.file bytes) ↔ Entries.get? place tree.entries = some (.file bytes) := by
  rw [at?]
  rcases Entries.get? place tree.entries with - | entry
  · dsimp only
    split <;> simp
  · rfl

/-- Where nothing was at first, a directory may be removed together with what is below it. -/
theorem SameFile.remove {at_ : List String} (h : SameFile place tree later)
    (hparent : tree.IsAt path at_) (hname : Path.IsComponent name)
    (hfree : tree.at? (at_ ++ [name]) = none) :
    SameFile place tree (later.remove (path / name)) := by
  rw [FileTree.remove]
  split
  · exact h
  rename_i target hlocate
  obtain rfl : at_ ++ [name] = target :=
    walk_unique (walk_of_locate (hparent.locate_component hname)) (walk_of_locate hlocate)
  intro bytes
  rw [at?_eq_file_iff]
  by_cases hbelow : at_ ++ [name] <+: place
  -- Below the directory there was nothing, and nothing is left.
  · refine iff_of_false (fun hthere ↦ ?_) ?_
    · obtain ⟨key, hmem, hkey⟩ := Entries.exists_mem_of_get?_eq_some hthere
      obtain rfl := eq_of_beq hkey
      have hkept := (List.mem_filter.1 hmem).2
      rw [List.isPrefixOf_iff_prefix.2 hbelow] at hkept
      cases hkept
    · rw [at?_below_eq_none hfree hbelow]
      rintro ⟨⟩
  · have hkeeps : ∀ other, (other == place) = true →
        (!(at_ ++ [name]).isPrefixOf other) = true := by
      intro other hother
      obtain rfl := eq_of_beq hother
      rwa [Bool.not_eq_true', Bool.eq_false_iff, Ne, List.isPrefixOf_iff_prefix]
    rw [Entries.get?_filter hkeeps, ← at?_eq_file_iff]
    exact h bytes

end CrateDoc.FileTree
