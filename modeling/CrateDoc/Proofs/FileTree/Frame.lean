import CrateDoc.Proofs.FileTree
import CrateDoc.Proofs.FirstFault

/-!
# What stays where it is

A directory that comes and goes while other files are written. `KeepsBelow` says that a change of
the tree keeps all directories, and everything at and below a place: writing at the end of a file
does so if the file stands elsewhere (`keepsBelow_append`), and files that are written below the
place leave it elsewhere (`FileApart.foldlM_write`).

A directory is made under a name that is free (`makeDirectory_component`), once
(`makeDirectory_of_isAt`), and is gone when it is removed (`isDirectory_remove`).
-/

namespace CrateDoc.FileTree

/-! ### Ways lead to one place -/

/-- Ways of the same components lead to the same place, in whatever trees. -/
theorem walk_unique {tree later : FileTree} {place last last' : List String} {parts : List String}
    (h : tree.walk place parts = .ok last) (h' : later.walk place parts = .ok last') :
    last = last' := by
  induction parts generalizing place with
  | nil =>
    cases h
    cases h'
    rfl
  | cons part rest ih => exact ih (walk_cons h).2 (walk_cons h').2

/-- A place that is located was walked to from the root. -/
theorem walk_of_locate {tree : FileTree} {path : Path} {place : List String}
    (h : tree.locate path = .ok place) : tree.walk [] path.parts = .ok place := by
  rw [locate] at h
  rcases hwalk : tree.walk [] path.parts with cause | last
  · rw [hwalk] at h
    cases h
  · rw [hwalk] at h
    cases h
    rfl

/-- A tree that keeps its directories locates every path where it did before. -/
theorem KeepsDirectories.locate {tree later : FileTree} (h : tree.KeepsDirectories later)
    {path : Path} {place : List String} (hlocate : tree.locate path = .ok place) :
    later.locate path = .ok place := by
  rw [FileTree.locate, h.walk (walk_of_locate hlocate)]
  rfl

/-- A way that only goes down leads to the place of its components. -/
theorem eq_append_of_walk {last parts : List String} {place : List String} {tree : FileTree}
    (h : tree.walk place parts = .ok last) (hdown : ".." ∉ parts) : last = place ++ parts := by
  induction parts generalizing place with
  | nil =>
    cases h
    exact (List.append_nil _).symm
  | cons part rest ih =>
    obtain ⟨hpart, hdown⟩ := not_or.1 (mt List.mem_cons.2 hdown)
    have hrest := (walk_cons h).2
    rw [if_neg (Ne.symm hpart)] at hrest
    rw [ih hrest hdown, List.append_assoc]
    rfl

/-! ### At and below a place -/

/-- All directories stay, and everything at and below a place. -/
structure KeepsBelow (place : List String) (tree later : FileTree) : Prop where
  directories : tree.KeepsDirectories later
  below : ∀ other, place <+: other → later.at? other = tree.at? other

variable {place : List String} {tree later last : FileTree}

theorem KeepsBelow.refl (place : List String) (tree : FileTree) : KeepsBelow place tree tree :=
  ⟨.refl tree, fun _ _ ↦ rfl⟩

theorem KeepsBelow.trans (h : KeepsBelow place tree later) (h' : KeepsBelow place later last) :
    KeepsBelow place tree last :=
  ⟨h.directories.trans h'.directories,
    fun other hother ↦ (h'.below other hother).trans (h.below other hother)⟩

/-- A path leads to a file that is not at or below a place. -/
def FileApart (place : List String) (path : Path) (tree : FileTree) : Prop :=
  ∃ at_ bytes, tree.locate path = .ok at_ ∧ tree.at? at_ = some (.file bytes) ∧ ¬ place <+: at_

/-- Where a file stands, another may take its place, and nothing else changes. -/
theorem keepsBelow_putAt_file {file : List String} {old : List UInt8}
    (hfile : tree.at? file = some (.file old)) (hapart : ¬ place <+: file) (bytes : List UInt8) :
    KeepsBelow place tree (tree.putAt file (.file bytes)) := by
  refine ⟨keepsDirectories_putAt _ (by rw [hfile]; exact nofun), fun other hother ↦ ?_⟩
  exact at?_putAt_of_off_way tree _ fun hbefore ↦ hapart (hother.trans hbefore)

/-- A file is written into a directory, and not in the place of one. -/
theorem write_eq_ok {path : Path} {bytes : List UInt8} {target : List String}
    (hlocate : tree.locate path = .ok target) (hwrite : tree.write path bytes = .ok later) :
    tree.at? target.dropLast = some .directory ∧ tree.at? target ≠ some .directory ∧
      later = tree.putAt target (.file bytes) := by
  simp only [write, hlocate, bind, Except.bind] at hwrite
  split at hwrite
  · cases hwrite
  · rename_i hparent hdirectory
    cases hwrite
    exact ⟨hparent, hdirectory, rfl⟩
  · cases hwrite
  · cases hwrite

/-- Writing a file leaves the directories. -/
theorem keepsDirectories_write {path : Path} {bytes : List UInt8}
    (hwrite : tree.write path bytes = .ok later) : tree.KeepsDirectories later := by
  obtain ⟨target, hlocate, -⟩ := bind_eq_ok_iff.1 hwrite
  obtain ⟨-, hfree, rfl⟩ := write_eq_ok hlocate hwrite
  exact keepsDirectories_putAt _ hfree

/-- Appending to a file keeps every directory. -/
theorem keepsDirectories_append {path : Path} {bytes : List UInt8}
    (happend : tree.append path bytes = .ok later) : tree.KeepsDirectories later := by
  rw [append] at happend
  split at happend
  · exact keepsDirectories_write happend
  · exact keepsDirectories_write happend

/-- Elsewhere everything stays when a file is written. -/
theorem at?_write_of_ne {path : Path} {bytes : List UInt8} {target other : List String}
    (hlocate : tree.locate path = .ok target) (hwrite : tree.write path bytes = .ok later)
    (hne : other ≠ target) : later.at? other = tree.at? other := by
  obtain ⟨hparent, -, rfl⟩ := write_eq_ok hlocate hwrite
  by_cases hbefore : other <+: target
  -- On the way to a file there are directories already.
  · have hthere : tree.at? other ≠ none := by
      intro hnone
      have hparents : other <+: target.dropLast := by
        rcases List.eq_nil_or_concat' target with rfl | ⟨init, last, rfl⟩
        · exact hbefore
        · rw [List.dropLast_concat]
          exact (List.prefix_concat_iff.1 hbefore).resolve_left hne
      cases (at?_below_eq_none hnone hparents).symm.trans hparent
    obtain ⟨entry, hentry⟩ := Option.ne_none_iff_exists'.1 hthere
    rw [at?_putAt_of_ne tree _ hne, hentry]
    rfl
  · exact at?_putAt_of_off_way tree _ hbefore

/-- Writing at the end of a file that stands elsewhere keeps what is at a place. -/
theorem keepsBelow_append {path : Path} {bytes : List UInt8} (h : FileApart place path tree)
    (happend : tree.append path bytes = .ok later) :
    KeepsBelow place tree later ∧ FileApart place path later := by
  obtain ⟨file, old, hlocate, hfile, hapart⟩ := h
  have hput : later = tree.putAt file (.file (old ++ bytes)) := by
    have hread : tree.read path = .ok old := by
      rw [read, hlocate]
      simp only [bind, Except.bind, hfile]
    rw [append, hread] at happend
    exact (write_eq_ok hlocate happend).2.2
  subst hput
  have hkeeps := keepsBelow_putAt_file hfile hapart (old ++ bytes)
  exact ⟨hkeeps, file, old ++ bytes, hkeeps.directories.locate hlocate, at?_putAt_self .., hapart⟩

/-- What keeps a place keeps files elsewhere where they are, if it keeps files. -/
theorem FileApart.putAt {path : Path} {other : List String} (h : FileApart place path tree)
    (hbelow : place <+: other) (entry : Entry) (hentry : tree.at? other ≠ some .directory) :
    FileApart place path (tree.putAt other entry) := by
  obtain ⟨file, bytes, hlocate, hfile, hapart⟩ := h
  refine ⟨file, bytes, (keepsDirectories_putAt entry hentry).locate hlocate, ?_, hapart⟩
  have hne : file ≠ other := by
    rintro rfl
    exact hapart hbelow
  rw [at?_putAt_of_ne tree entry hne, hfile]
  rfl

/-- A file that is written below a place leaves the files elsewhere. -/
theorem FileApart.write {target : List String} {log path : Path} {bytes : List UInt8}
    (h : FileApart place log tree) (hlocate : tree.locate path = .ok target)
    (hbelow : place <+: target) (hwrite : tree.write path bytes = .ok later) :
    FileApart place log later ∧ tree.KeepsDirectories later := by
  obtain ⟨-, hfree, rfl⟩ := write_eq_ok hlocate hwrite
  exact ⟨h.putAt hbelow _ hfree, keepsDirectories_putAt _ hfree⟩

/-- A file is apart from a place also when another one is written. -/
theorem FileApart.write_other {target : List String} {log path : Path} {bytes : List UInt8}
    (h : FileApart place log tree) (hother : FileApart target log tree)
    (hlocate : tree.locate path = .ok target) (hwrite : tree.write path bytes = .ok later) :
    FileApart place log later := by
  obtain ⟨file, old, hlog, hfile, hapart⟩ := h
  obtain ⟨file', -, hlog', -, hne⟩ := hother
  cases hlog.symm.trans hlog'
  have hsame := at?_write_of_ne hlocate hwrite fun heq ↦ hne (heq ▸ List.prefix_rfl)
  obtain ⟨-, hfree, rfl⟩ := write_eq_ok hlocate hwrite
  exact ⟨file, old, (keepsDirectories_putAt _ hfree).locate hlog, hsame.trans hfile, hapart⟩

/-- A file that stands apart from a place stays so while files are written directly below the
place. -/
theorem FileApart.foldlM_write {log path : Path} {files : List (String × List UInt8)}
    (h : FileApart place log tree) (hplace : tree.IsAt path place)
    (hcomponents : ∀ f ∈ files, Path.IsComponent f.1)
    (hfold : files.foldlM (fun tree f ↦ tree.write (path / f.1) f.2) tree = .ok later) :
    FileApart place log later := by
  induction files generalizing tree with
  | nil =>
    cases hfold
    exact h
  | cons f files ih =>
    rw [List.foldlM_cons] at hfold
    obtain ⟨next, hwrite, hrest⟩ := bind_eq_ok_iff.1 hfold
    obtain ⟨hapart, hkeep⟩ := h.write (hplace.locate_component (hcomponents f List.mem_cons_self))
      (List.prefix_append place [f.1]) hwrite
    exact ih hapart (hplace.keep hkeep) (fun g hg ↦ hcomponents g (List.mem_cons_of_mem f hg)) hrest

/-! ### What is there when a directory is made -/

/-- Whatever is in the one tree is in the other. -/
def KeepsEntries (tree later : FileTree) : Prop :=
  ∀ place entry, tree.at? place = some entry → later.at? place = some entry

theorem KeepsEntries.directories (h : tree.KeepsEntries later) : tree.KeepsDirectories later :=
  fun place ↦ h place .directory

/-- What leads to a file still leads there in a tree that keeps everything. -/
theorem FileApart.keepEntries {path : Path} (h : FileApart place path tree)
    (hkeep : tree.KeepsEntries later) : FileApart place path later := by
  obtain ⟨file, bytes, hlocate, hfile, hapart⟩ := h
  exact ⟨file, bytes, hkeep.directories.locate hlocate, hkeep file _ hfile, hapart⟩

/-- A new entry at a free place changes no other. -/
theorem keepsEntries_putAt (entry : Entry) (h : tree.at? place = none) :
    tree.KeepsEntries (tree.putAt place entry) := by
  intro other found hother
  have hne : other ≠ place := by
    rintro rfl
    cases h.symm.trans hother
  rw [at?_putAt_of_ne tree entry hne, hother]
  rfl

/-- A place is entered by leaving the tree as it is, or by putting a directory where nothing was. -/
theorem entered_cases (tree : FileTree) (place : List String) :
    tree.entered place = tree ∨
      tree.at? place = none ∧ tree.entered place = tree.putAt place .directory := by
  rw [entered]
  split
  · exact .inl rfl
  split
  · exact .inl rfl
  · rename_i hnone
    exact .inr ⟨Option.not_isSome_iff_eq_none.1 hnone, rfl⟩

/-- A directory is made at the end of a way, where it is entered. -/
theorem makeDirectory_go_nil {path : Path}
    (h : makeDirectory.go path tree place [] = .ok later) :
    later = tree ∨ tree.at? place = none ∧ later = tree.putAt place .directory := by
  rw [makeDirectory.go] at h
  split at h
  · cases h
  · cases h
    exact .inl rfl
  · rename_i hnone
    cases h
    exact .inr ⟨hnone, rfl⟩

theorem makeDirectory_go_cons {path : Path} {part : String} {rest : List String}
    (h : makeDirectory.go path tree place (part :: rest) = .ok later) :
    makeDirectory.go path (tree.entered place)
      (if part = ".." then place.dropLast else place ++ [part]) rest = .ok later := by
  rw [makeDirectory.go] at h
  split at h
  · cases h
  · exact h

/-- The directories made on the way leave what there was. -/
theorem keepsEntries_makeDirectory_go {path : Path} {parts : List String}
    (h : makeDirectory.go path tree place parts = .ok later) : tree.KeepsEntries later := by
  induction parts generalizing tree place with
  | nil =>
    rcases makeDirectory_go_nil h with rfl | ⟨hnone, rfl⟩
    · exact fun _ _ hother ↦ hother
    · exact keepsEntries_putAt _ hnone
  | cons part rest ih =>
    have hrest := ih (makeDirectory_go_cons h)
    rcases tree.entered_cases place with hsame | ⟨hnone, hput⟩
    · rwa [hsame] at hrest
    · rw [hput] at hrest
      exact fun other entry hother ↦ hrest other entry
        (keepsEntries_putAt _ hnone other entry hother)

/-- When a directory is made, everything stays. -/
theorem keepsEntries_makeDirectory {path : Path} (h : tree.makeDirectory path = .ok later) :
    tree.KeepsEntries later := keepsEntries_makeDirectory_go h

/-- What comes when a directory is made is a directory. -/
theorem at?_makeDirectory_go_cases {path : Path} {parts : List String}
    (h : makeDirectory.go path tree place parts = .ok later) (other : List String) :
    later.at? other = tree.at? other ∨ later.at? other = some .directory := by
  -- a directory is put where nothing is, so it replaces no entry
  have hput : ∀ (t : FileTree) (place : List String),
      (t.putAt place .directory).at? other = t.at? other ∨
        (t.putAt place .directory).at? other = some .directory := by
    intro t place
    by_cases hne : other = place
    · exact .inr (hne ▸ at?_putAt_self ..)
    · rw [at?_putAt_of_ne t _ hne]
      rcases t.at? other with - | entry
      · split
        · exact .inr rfl
        · exact .inl rfl
      · exact .inl rfl
  induction parts generalizing tree place with
  | nil =>
    rcases makeDirectory_go_nil h with rfl | ⟨-, rfl⟩
    · exact .inl rfl
    · exact hput tree place
  | cons part rest ih =>
    rcases ih (makeDirectory_go_cons h) with hsame | hmade
    · rcases tree.entered_cases place with hentered | ⟨-, hentered⟩
      · exact .inl (hentered ▸ hsame)
      · exact (hput tree place).imp (hentered ▸ hsame).trans (hentered ▸ hsame).trans
    · exact .inr hmade

/-- Off a way that only goes down nothing is made. -/
theorem at?_makeDirectory_go {path : Path} {parts other : List String}
    (h : makeDirectory.go path tree place parts = .ok later) (hdown : ".." ∉ parts)
    (hoff : ¬ other <+: place ++ parts) : later.at? other = tree.at? other := by
  induction parts generalizing tree place with
  | nil =>
    rw [List.append_nil] at hoff
    rcases makeDirectory_go_nil h with rfl | ⟨-, rfl⟩
    · rfl
    · exact at?_putAt_of_off_way tree _ hoff
  | cons part rest ih =>
    obtain ⟨hpart, hdown⟩ := not_or.1 (mt List.mem_cons.2 hdown)
    have hgo := makeDirectory_go_cons h
    rw [if_neg (Ne.symm hpart)] at hgo
    rw [ih hgo hdown (by rwa [List.append_assoc])]
    rcases tree.entered_cases place with hsame | ⟨-, hput⟩
    · rw [hsame]
    · rw [hput]
      exact at?_putAt_of_off_way tree _ fun hbefore ↦
        hoff (hbefore.trans (List.prefix_append _ _))

/-- What is not on the way of the made directory is as it was. -/
theorem at?_makeDirectory_of_off_way {path : Path} {other : List String}
    (h : tree.makeDirectory path = .ok later) (hdown : ".." ∉ path.parts)
    (hoff : ¬ other <+: path.parts) : later.at? other = tree.at? other :=
  at?_makeDirectory_go h hdown hoff

/-! ### A directory that comes -/

/-- On a way of directories nothing has to be made. -/
theorem makeDirectory_go_of_walk (path : Path) {place last : List String} {parts : List String}
    (h : tree.walk place parts = .ok last) (more : List String) :
    makeDirectory.go path tree place (parts ++ more) = makeDirectory.go path tree last more := by
  induction parts generalizing place with
  | nil =>
    cases h
    rfl
  | cons part rest ih =>
    obtain ⟨hplace, hrest⟩ := walk_cons h
    have hsame : tree.entered place = tree := by
      rw [entered, hplace]
      split <;> rfl
    rw [entered, hplace] at hsame
    rw [List.cons_append, makeDirectory.go, hplace]
    dsimp only
    rw [hsame]
    exact ih hrest

/-- A directory that is there is made without a change. -/
theorem makeDirectory_of_isAt {path : Path} (h : tree.IsAt path place) :
    tree.makeDirectory path = .ok tree := by
  have hgo := makeDirectory_go_of_walk path h.walk []
  rw [List.append_nil] at hgo
  rw [makeDirectory, hgo, makeDirectory.go, h.directory]

section Component

variable {path : Path} {name : String}

/-- A name that is free in a directory becomes a directory. -/
theorem makeDirectory_component (h : tree.IsAt path place) (hname : Path.IsComponent name)
    (hfree : tree.at? (place ++ [name]) = none) :
    tree.makeDirectory (path / name) = .ok (tree.putAt (place ++ [name]) .directory) := by
  rw [makeDirectory, Path.div_eq_of_isComponent path hname, makeDirectory_go_of_walk _ h.walk,
    makeDirectory.go, h.directory]
  have hsame : tree.entered place = tree := by
    rw [entered, h.directory]
    split <;> rfl
  rw [entered, h.directory] at hsame
  dsimp only
  rw [hsame, if_neg hname.ne_up, makeDirectory.go, hfree]
  rfl

/-- A directory put at a free name stands where its path says. -/
theorem isAt_putAt_directory (h : tree.IsAt path place) (hname : Path.IsComponent name)
    (hfree : tree.at? (place ++ [name]) = none) :
    (tree.putAt (place ++ [name]) .directory).IsAt (path / name) (place ++ [name]) := by
  have hkeep : tree.KeepsDirectories (tree.putAt (place ++ [name]) .directory) :=
    keepsDirectories_putAt _ (by rw [hfree]; exact nofun)
  refine ⟨?_, at?_putAt_self ..⟩
  exact walk_of_locate ((h.keep hkeep).locate_component hname)

/-- Below a directory that was just made there is nothing. -/
theorem at?_putAt_directory_below (hfree : tree.at? place = none) {other : List String}
    (hbefore : place <+: other) (hne : other ≠ place) :
    (tree.putAt place .directory).at? other = none := by
  rw [at?_putAt_of_off_way tree _ fun hafter ↦
    hne (hafter.eq_of_length (Nat.le_antisymm hafter.length_le hbefore.length_le))]
  exact at?_below_eq_none hfree hbefore

/-! ### Whether something is there -/

/-- A file that a name leads to stands in a directory. -/
theorem exists_isAt_of_isFile (hname : Path.IsComponent name)
    (h : tree.isFile (path / name) = true) :
    ∃ place bytes, tree.IsAt path place ∧ tree.at? (place ++ [name]) = some (.file bytes) := by
  rw [isFile, entry?] at h
  rcases hlocate : tree.locate (path / name) with e | target
  · simp [hlocate] at h
  have hwalk := walk_of_locate hlocate
  rw [Path.div_eq_of_isComponent path hname] at hwalk
  obtain ⟨place, hplace, hname'⟩ := exists_walk_of_append hwalk
  obtain ⟨hthere, hlast⟩ := walk_cons hname'
  rw [if_neg hname.ne_up] at hlast
  cases hlast
  rw [hlocate] at h
  dsimp only at h
  rcases hfile : tree.at? (place ++ [name]) with - | entry
  · simp [hfile] at h
  rcases entry with bytes | -
  · exact ⟨place, bytes, ⟨hplace, hthere⟩, hfile⟩
  · simp [hfile] at h

/-- The entry below a directory of known place is found by its path. -/
theorem IsAt.isFile (h : tree.IsAt path place) (hname : Path.IsComponent name) {bytes : List UInt8}
    (hfile : tree.at? (place ++ [name]) = some (.file bytes)) :
    tree.isFile (path / name) = true := by
  simp only [FileTree.isFile, entry?, h.locate_component hname, hfile]

theorem IsAt.isDirectory (h : tree.IsAt path place) : tree.isDirectory path = true := by
  simp only [FileTree.isDirectory, entry?, h.locate, h.directory]

/-- A path leads to a directory when it leads to a place where one is. -/
theorem exists_isAt_of_isDirectory (h : tree.isDirectory path = true) :
    ∃ place, tree.IsAt path place := by
  rw [isDirectory, entry?] at h
  rcases hlocate : tree.locate path with e | place
  · rw [hlocate] at h
    cases h
  · rw [hlocate] at h
    rcases hplace : tree.at? place with - | entry
    · simp [hplace] at h
    rcases entry with bytes | -
    · simp [hplace] at h
    · exact ⟨place, walk_of_locate hlocate, hplace⟩

/-- What is free is no directory. -/
theorem isDirectory_of_free (h : tree.IsAt path place) (hname : Path.IsComponent name)
    (hfree : tree.at? (place ++ [name]) = none) : tree.isDirectory (path / name) = false := by
  simp only [isDirectory, entry?, h.locate_component hname, hfree]

/-- A directory is gone when it was removed. -/
theorem isDirectory_remove (h : tree.IsAt path place) (hne : place ≠ []) :
    (tree.remove path).isDirectory path = false := by
  rw [Bool.eq_false_iff]
  intro hthere
  obtain ⟨place', hplace'⟩ := exists_isAt_of_isDirectory hthere
  -- The path leads to where the directory was, and no entry is left there.
  obtain rfl := walk_unique h.walk hplace'.walk
  have hgone : (tree.remove path).at? place = none := by
    refine at?_eq_none_iff.2 ⟨hne, fun entry hentry hbefore ↦ ?_⟩
    rw [remove, h.locate] at hentry
    have hkept := (List.mem_filter.1 hentry).2
    rw [List.isPrefixOf_iff_prefix.2 hbefore] at hkept
    cases hkept
  rw [hplace'.directory] at hgone
  cases hgone

end Component

end CrateDoc.FileTree
