import CrateDoc.Doctest.Run
import CrateDoc.Proofs.Doctest.Snippets
import CrateDoc.Proofs.FileTree
import CrateDoc.Proofs.Session
import Mathlib

/-!
# The files of a suite

A suite that is written into an empty directory has one module for each test of a documentation, in
their order, and keeps all of them: the names of the modules are different names that modules can
have, each file holds its own program when all are written, and the file that gathers the modules
names them in the same order (`Suite.write_keeps_tests`).
-/

namespace CrateDoc.Doctest

open CrateDoc.Text

/-- The file that declares modules of a crate. -/
def gathering (crate : String) (modules : List String) : String :=
  "extern crate " ++ crate ++ ";\n" ++
    String.join (modules.map fun name ↦ "mod " ++ name ++ ";\n") ++ "fn main() \x7b\x7d\n"

theorem render_aggregator (crate : String) (modules : List String) :
    Templates.builtIn.aggregator.render [("crate_name", .text crate), ("modules", .texts modules)] =
      gathering crate modules := by
  have hcrate : Entries.get? "crate_name" [("crate_name", Template.Value.text crate),
      ("modules", .texts modules)] = some (.text crate) := rfl
  have hmodules : Entries.get? "modules" [("crate_name", Template.Value.text crate),
      ("modules", .texts modules)] = some (.texts modules) := rfl
  have hmodule : ∀ (name : String) (scope : Template.Scope),
      Entries.get? "module" (("module", .text name) :: scope) = some (.text name) :=
    fun _ _ ↦ rfl
  unfold gathering
  simp only [Templates.builtIn, Template.render, Template.renderParts,
    Template.Part.render, hcrate, hmodules, hmodule, Template.Value.print, Template.Value.items,
    Option.map_some, Option.getD_some, String.append_empty, String.append_assoc]

/-! ### Names of files -/

theorem toList_fileOf (name : String) :
    (Suite.fileOf name).toList = name.toList ++ ['.', 'r', 's'] := by
  rw [Suite.fileOf, String.toList_append]
  rfl

theorem fileOf_injective : Function.Injective Suite.fileOf := by
  intro name other h
  have hlists := congrArg String.toList h
  rw [toList_fileOf, toList_fileOf] at hlists
  exact String.toList_inj.1 (List.append_cancel_right hlists)

/-- The file of a module is a file in the directory of the suite. -/
theorem isComponent_fileOf {name : String} (h : IsName name) :
    Path.IsComponent (Suite.fileOf name) := by
  have hr : 'r' ∈ (Suite.fileOf name).toList := by
    rw [toList_fileOf]
    exact List.mem_append_right _ (by decide)
  have hother : ∀ s : String, 'r' ∉ s.toList → Suite.fileOf name ≠ s := by
    rintro s hs rfl
    exact hs hr
  refine ⟨fun hslash ↦ ?_, hother _ (by decide), hother _ (by decide), hother _ (by decide)⟩
  rw [toList_fileOf] at hslash
  rcases List.mem_append.1 hslash with hslash | hslash
  · have hclass := h _ hslash
    revert hclass
    decide
  · revert hslash
    decide

/-! ### Writing -/

/-- What the writing of files does to the tree, seen from the work that does it. -/
theorem returns_forM_write {surroundings : Surroundings} {directory : Path}
    {files : List (String × String)} {session : Session} {tree : FileTree}
    (h : (files.map fun f ↦ (f.1, Utf8.encode f.2.toList)).foldlM
      (fun tree f ↦ tree.write (directory / f.1) f.2) session.tree = .ok tree) :
    Action.Returns (files.forM fun (name, text) ↦
        Action.changeTree (·.write (directory / name) (Utf8.encode text.toList)))
      surroundings session () { session with tree := tree } := by
  induction files generalizing session with
  | nil =>
    cases h
    exact Action.returns_pure () session
  | cons f files ih =>
    rw [List.map_cons, List.foldlM_cons] at h
    rcases hwrite : session.tree.write (directory / f.1) (Utf8.encode f.2.toList) with e | next
    · rw [hwrite] at h
      cases h
    · rw [hwrite] at h
      have hfirst : Action.Returns
          (Action.changeTree (·.write (directory / f.1) (Utf8.encode f.2.toList)))
          surroundings session () { session with tree := next } := Action.returns_changeTree hwrite
      exact hfirst.bind (ih h)

/-- A suite is written where its directory can be made, if no directory stands under a name of its
files, and the names are different names of files in a directory; all files stand there then. -/
theorem Suite.exists_foldlM_write (s : Suite) {surroundings : Surroundings} {session : Session}
    {made : FileTree} {place : List String} (hnames : (s.files.map Prod.fst).Nodup)
    (hcomponents : ∀ f ∈ s.files, Path.IsComponent f.1)
    (hmade : session.tree.makeDirectory (surroundings.directory.join s.directory) = .ok made)
    (hplace : made.IsAt (surroundings.directory.join s.directory) place)
    (hfree : ∀ name, made.at? (place ++ [name]) = none) :
    ∃ tree, Action.Returns s.write surroundings session () { session with tree := tree } ∧
      (s.files.map fun f ↦ (f.1, Utf8.encode f.2.toList)).foldlM (fun tree f ↦
        tree.write (surroundings.directory.join s.directory / f.1) f.2) made = .ok tree ∧
      tree.IsAt (surroundings.directory.join s.directory) place ∧
      ∀ f ∈ s.files, tree.at? (place ++ [f.1]) = some (.file (Utf8.encode f.2.toList)) := by
  have hmap : (s.files.map fun f ↦ (f.1, Utf8.encode f.2.toList)).map Prod.fst =
      s.files.map Prod.fst := by
    rw [List.map_map]
    rfl
  have hfiles : ∀ f ∈ s.files.map fun f ↦ (f.1, Utf8.encode f.2.toList),
      Path.IsComponent f.1 := by
    intro f hf
    obtain ⟨g, hg, rfl⟩ := List.mem_map.1 hf
    exact hcomponents g hg
  -- the directory is empty and the names differ, so no file is written over another
  obtain ⟨tree, hfold, hlater, hthere, -⟩ := hplace.exists_foldlM_write (hmap ▸ hnames) hfiles
    fun f _ ↦ by
      rw [hfree]
      exact nofun
  have hdirectory : Action.Returns
      (Action.changeTree (·.makeDirectory (surroundings.directory.join s.directory)))
      surroundings session () { session with tree := made } := Action.returns_changeTree hmade
  exact ⟨tree, (Action.returns_absolute s.directory session).bind
    (hdirectory.bind (returns_forM_write hfold)), hfold, hlater, fun f hf ↦
      hthere _ (List.mem_map_of_mem (f := fun f ↦ (f.1, Utf8.encode f.2.toList)) hf)⟩

/-- A suite is written where its directory can be made and is empty, if its files are files in a
directory and have different names; all of them are there then. -/
theorem Suite.exists_returns_write (s : Suite) {surroundings : Surroundings} {session : Session}
    {made : FileTree} (hnames : (s.files.map Prod.fst).Nodup)
    (hcomponents : ∀ f ∈ s.files, Path.IsComponent f.1)
    (hmade : session.tree.makeDirectory (surroundings.directory.join s.directory) = .ok made)
    (hempty : made.names (surroundings.directory.join s.directory) = []) :
    ∃ tree, Action.Returns s.write surroundings session () { session with tree := tree } ∧
      ∀ f ∈ s.files, tree.read (surroundings.directory.join s.directory / f.1) =
        .ok (Utf8.encode f.2.toList) := by
  obtain ⟨place, hplace⟩ := FileTree.isAt_of_makeDirectory hmade
  -- Nothing stands under any name in the empty directory, so no directory is in the way of a file.
  obtain ⟨tree, hwrite, -, hlater, hthere⟩ := s.exists_foldlM_write hnames hcomponents hmade hplace
    fun name ↦ FileTree.at?_append_of_names_eq_nil hplace hempty name
  exact ⟨tree, hwrite, fun f hf ↦ hlater.read_component (hcomponents f hf) (hthere f hf)⟩

/-! ### The suite of some programs -/

section OfPrograms

variable {programs : List Program} {directory : Path} {crate : String}

theorem length_modules :
    (Suite.ofPrograms programs directory crate).modules.length = programs.length := by
  have h := (ModuleNames.forall₂_isNumbered_allocateAll [] (programs.map (·.name))).length_eq
  rw [List.length_map] at h
  exact h.symm

theorem files_ofPrograms :
    (Suite.ofPrograms programs directory crate).files =
      ((Suite.ofPrograms programs directory crate).modules.zip programs).map
          (fun pair ↦ (Suite.fileOf pair.1, pair.2.source)) ++
        [(aggregatorFile,
          gathering crate (Suite.ofPrograms programs directory crate).modules)] := by
  rw [Suite.ofPrograms]
  dsimp only
  rw [render_aggregator, List.zip_map]
  rfl

/-- The names of the files are those of the modules, and that of the gathering file. -/
theorem map_fst_files_ofPrograms :
    (Suite.ofPrograms programs directory crate).files.map Prod.fst =
      ((Suite.ofPrograms programs directory crate).modules ++ ["main"]).map Suite.fileOf := by
  have hfst : ((Suite.ofPrograms programs directory crate).modules.zip programs).map Prod.fst =
      (Suite.ofPrograms programs directory crate).modules :=
    List.map_fst_zip (Nat.le_of_eq length_modules)
  rw [files_ofPrograms, List.map_append, List.map_append, List.map_map]
  -- The name of the gathering file is that of a module `main`, so only the modules are left.
  congr 1
  conv_rhs => rw [← hfst, List.map_map]
  rfl

/-- Each snippet's program has a module with a name that modules can have. -/
theorem names_modules {snippets : List Snippet}
    (h : programs.map (·.name) = snippets.map (·.name)) :
    List.Forall₂ (fun name snippet ↦ IsModuleName snippet.documentId name)
      (Suite.ofPrograms programs directory crate).modules snippets := by
  have hnumbered := ModuleNames.forall₂_isNumbered_allocateAll [] (programs.map (·.name))
  rw [h, List.forall₂_map_left_iff, ← h] at hnumbered
  exact (hnumbered.imp fun _ _ ↦ isModuleName_of_isNumbered).flip

variable (directory crate) in
/-- All files of a suite have different names, which are names of files in a directory. -/
theorem nodup_files {snippets : List Snippet} (h : programs.map (·.name) = snippets.map (·.name)) :
    ((Suite.ofPrograms programs directory crate).files.map Prod.fst).Nodup ∧
      ∀ f ∈ (Suite.ofPrograms programs directory crate).files, Path.IsComponent f.1 := by
  have hmodules : ∀ name ∈ (Suite.ofPrograms programs directory crate).modules,
      name ≠ "main" ∧ Path.IsComponent (Suite.fileOf name) :=
    ((List.forall₂_and_left _ _).1 ((names_modules h).imp fun name snippet hname ↦
      ⟨⟨hname.ne_main, isComponent_fileOf hname.isName⟩, hname⟩)).1
  constructor
  · rw [map_fst_files_ofPrograms]
    refine List.Nodup.map fileOf_injective (List.nodup_append.2 ⟨?_, List.nodup_singleton _, ?_⟩)
    · exact ModuleNames.nodup_allocateAll [] _
    · intro name hname other hother
      rw [List.mem_singleton.1 hother]
      exact (hmodules name hname).1
  · intro f hf
    have hmem := List.mem_map_of_mem (f := Prod.fst) hf
    rw [map_fst_files_ofPrograms] at hmem
    obtain ⟨name, hname, heq⟩ := List.mem_map.1 hmem
    rw [← heq]
    rcases List.mem_append.1 hname with hname | hname
    · exact (hmodules name hname).2
    · rw [List.mem_singleton.1 hname]
      exact isComponent_fileOf (by decide)

end OfPrograms

/-! ### Suites of a documentation -/

/-- A suite keeps the tests it was made from: each snippet has a module, each module's file in the
directory holds the program of its snippet, and one more file gathers the modules. -/
structure Suite.Keeps (s : Suite) (snippets : List Snippet) (programs : List Program)
    (directory : Path) (tree : FileTree) : Prop where
  names : List.Forall₂ (fun name snippet ↦ IsModuleName snippet.documentId name) s.modules snippets
  nodup : s.modules.Nodup
  sources : List.Forall₂ (fun name program ↦
    tree.read (directory / Suite.fileOf name) = .ok (Utf8.encode program.source.toList))
    s.modules programs
  gathering : tree.read (directory / aggregatorFile) =
    .ok (Utf8.encode (gathering s.crate s.modules).toList)

/-- A suite whose files are all read back keeps its tests. -/
theorem keeps_ofPrograms {snippets : List Snippet} {programs : List Program}
    {directory place : Path}
    {crate : String} {tree : FileTree} (h : programs.map (·.name) = snippets.map (·.name))
    (hread : ∀ f ∈ (Suite.ofPrograms programs directory crate).files,
      tree.read (place / f.1) = .ok (Utf8.encode f.2.toList)) :
    (Suite.ofPrograms programs directory crate).Keeps snippets programs place tree := by
  rw [files_ofPrograms] at hread
  refine ⟨names_modules h, ModuleNames.nodup_allocateAll [] _,
    List.forall₂_iff_zip.2 ⟨length_modules, fun {name program} hmem ↦ ?_⟩, ?_⟩
  · exact hread (Suite.fileOf name, program.source)
      (List.mem_append_left _ (List.mem_map.2 ⟨(name, program), hmem, rfl⟩))
  · exact hread (aggregatorFile, gathering crate _)
      (List.mem_append_right _ (List.mem_singleton.2 rfl))

/-- The programs of the tests of a documentation. -/
def programsOf (documentation : Documentation) (language : String) (crate? : Option String) :
    List Program :=
  (Snippet.ofDocumentation documentation language).map fun s ↦ (Program.ofSnippet s crate?).1

theorem map_name_programsOf (documentation : Documentation) (language : String)
    (crate? : Option String) :
    (programsOf documentation language crate?).map (·.name) =
      (Snippet.ofDocumentation documentation language).map (·.name) := by
  have hname : ∀ s : Snippet, (Program.ofSnippet s crate?).1.name = s.name := fun _ ↦ rfl
  rw [programsOf, List.map_map]
  exact List.map_congr_left fun s _ ↦ hname s

/-- A suite of the tests of a documentation has one module for each block that is a test, in the
order of the documents and of the blocks in them, and in a directory that is empty when it has been
made all its files are written: none is refused, and none takes the place of another. What the
blocks of a document are is settled by `exists_divides` and `Divides.unique`. -/
theorem Suite.write_keeps_tests (documentation : Documentation) (language : String)
    (crate? : Option String) (crate : String) (directory : Path) (surroundings : Surroundings)
    (session : Session) {blocksOf : Document → List Block} {made : FileTree}
    (hblocks : ∀ d ∈ documentation.documents, Divides (lines (docsOf d)) (blocksOf d))
    (hmade : session.tree.makeDirectory (surroundings.directory.join directory) = .ok made)
    (hempty : made.names (surroundings.directory.join directory) = []) :
    (Snippet.ofDocumentation documentation language).map (fun s ↦ (s.documentId, s.source.toList)) =
        (documentation.documents.flatMap fun d ↦
          ((blocksOf d).filter fun b ↦ IsFor language.toList b.fence.info).map fun b ↦
            (d.id, b.source)) ∧
      (Suite.ofPrograms (programsOf documentation language crate?) directory crate).modules.length =
        (documentation.documents.map fun d ↦
          (blocksOf d).countP fun b ↦ IsFor language.toList b.fence.info).sum ∧
      ∃ tree, Action.Returns
          (Suite.ofPrograms (programsOf documentation language crate?) directory crate).write
          surroundings session () { session with tree := tree } ∧
        (Suite.ofPrograms (programsOf documentation language crate?) directory crate).Keeps
          (Snippet.ofDocumentation documentation language)
          (programsOf documentation language crate?) (surroundings.directory.join directory)
          tree := by
  have hsnippets := Snippet.map_ofDocumentation documentation language hblocks
  have hnames := map_name_programsOf documentation language crate?
  refine ⟨hsnippets, ?_, ?_⟩
  · -- snippets are counted in their list, and blocks document by document
    have hlength := congrArg List.length hsnippets
    rw [List.length_map, List.length_flatMap] at hlength
    rw [length_modules, programsOf, List.length_map, hlength]
    refine congrArg List.sum (List.map_congr_left fun d _ ↦ ?_)
    rw [List.length_map, List.countP_eq_length_filter]
  · obtain ⟨hnodup, hcomponents⟩ := nodup_files directory crate hnames
    obtain ⟨tree, hwrite, hread⟩ := Suite.exists_returns_write
      (Suite.ofPrograms (programsOf documentation language crate?) directory crate) hnodup
      hcomponents hmade hempty
    exact ⟨tree, hwrite, keeps_ofPrograms hnames hread⟩

/-- Documents whose tests ask for the same name, and for a name that another test was given. -/
def sampleDocumentation : Documentation where
  data :=
    { type := "crate"
      id := "a::b"
      attributes := [("docs", "\x60\x60\x60\nf();\n\x60\x60\x60\n")] }
  included :=
    [{ type := "module", id := "a_b", attributes := [("docs", "~~~ rust\ng();\n~~~\n~~~ text")] },
      { type := "module", id := "a_b_0", attributes := [("docs", "~~~\n~~~\n~~~\nh();")] }]

/-- Surroundings in which no other program can be run. -/
def sampleSurroundings : Surroundings where
  directory := ⟨.single, ["w"]⟩
  scratch := ⟨.single, ["t"]⟩
  time := ""
  runner := fun _ ↦ .error .notExecutable

/-- The suite of these tests. -/
def sampleSuite : Suite :=
  Suite.ofPrograms (programsOf sampleDocumentation "rust" none) ⟨.none, ["s"]⟩ "a"

theorem write_sampleSuite_keeps_tests :
    ∃ blocksOf : Document → List Block,
      (∀ d ∈ sampleDocumentation.documents, Divides (lines (docsOf d)) (blocksOf d)) ∧
      FileTree.makeDirectory {} ⟨.single, ["w", "s"]⟩ =
        .ok ⟨[(["w"], .directory), (["w", "s"], .directory)]⟩ ∧
      FileTree.names ⟨[(["w"], .directory), (["w", "s"], .directory)]⟩ ⟨.single, ["w", "s"]⟩ = [] ∧
      sampleSuite.modules = ["a_b_0", "a_b_0_1", "a_b_0_0", "a_b_0_1_1"] ∧
      ∃ tree,
        Action.Returns sampleSuite.write sampleSurroundings { tree := {} } () { tree := tree } ∧
        sampleSuite.Keeps (Snippet.ofDocumentation sampleDocumentation "rust")
          (programsOf sampleDocumentation "rust" none) ⟨.single, ["w", "s"]⟩ tree := by
  have hblocks := fun d : Document ↦ (exists_divides (lines (docsOf d))).choose_spec
  obtain ⟨-, -, tree, hwrite, hkeeps⟩ := Suite.write_keeps_tests sampleDocumentation "rust" none "a"
    ⟨.none, ["s"]⟩ sampleSurroundings { tree := {} } (fun d _ ↦ hblocks d) rfl rfl
  exact ⟨_, fun d _ ↦ hblocks d, rfl, rfl, by decide +kernel, tree, hwrite, hkeeps⟩

end CrateDoc.Doctest
