import CrateDoc.Proofs.Analysis.Crates
import CrateDoc.Proofs.Doctest.Rendering
import CrateDoc.Proofs.Doctest.SuiteFiles
import CrateDoc.Proofs.Text.Words

/-!
# The crates that tests declare

The crate that a test declares is read off the id of its document, up to the first two colons. By
itself nothing says that this is the crate that was asked for, since the names in a snapshot may be
any texts. It is the crate as long as its name has no colon: a source of snapshots files everything
under its crate, so that each id is the crate's name or goes on behind it with two colons
(`SnapshotSource.Filed.ids_of_build`), and there the id is cut (`crateNameOf_eq`).

`snippets_name_their_crate` puts this together with the text of programs: those that bring no crate
of their own declare the crate that the file around them declares.
-/

namespace CrateDoc.Doctest

open CrateDoc.Rust CrateDoc.Text

/-- The line in which a program declares a crate; there is none for the standard one. -/
def declaration (crate : String) : String :=
  if crate = "std" then "" else "    extern crate " ++ crate ++ ";\n"

/-- The program of a source is put together from its texts and the declaration of a crate, if the
source is a list of declarations and none of them declares a crate. -/
def DeclaresCrate (parser : List Char → Option (List Node)) (crate source program : String) :
    Prop :=
  ∀ s nodes, Parsed.ofParser parser source = .structured s → parser source.toList = some nodes →
    (∀ node ∈ nodes, node.type ≠ "extern_crate_declaration") →
      program = onLines s.crateAttributes ++ "#[test]\nfn a_doc_test() \x7b\n" ++
        declaration crate ++ onLines s.items ++ callLine nodes ++ "\x7d\n"

/-- An id is cut behind the name of its crate. -/
theorem crateNameOf_eq {crate id : String} (hcolon : ':' ∉ crate.toList)
    (h : id = crate ∨ ∃ rest, id = crate ++ "::" ++ rest) : Snippet.crateNameOf id = crate := by
  rcases h with rfl | ⟨rest, rfl⟩
  · rw [Snippet.crateNameOf, cutAt?_eq_none hcolon]
  · have hlist : (crate ++ "::" ++ rest).toList =
        crate.toList ++ (':' :: [':'] ++ rest.toList) := by
      rw [String.append_assoc, String.toList_append, String.toList_append]
      rfl
    rw [Snippet.crateNameOf, hlist, cutAt?_append hcolon]
    exact String.ofList_toList

/-- A snippet belongs to a document of the documentation. -/
theorem exists_document_of_mem_ofDocumentation {documentation : Documentation} {language : String}
    {snippet : Snippet} (h : snippet ∈ Snippet.ofDocumentation documentation language) :
    ∃ document ∈ documentation.documents, snippet.documentId = document.id := by
  obtain ⟨document, hdocument, hsnippet⟩ := List.mem_flatMap.1 h
  obtain ⟨block, -, rfl⟩ := List.mem_map.1 hsnippet
  exact ⟨document, hdocument, rfl⟩

/-- With a parser that lays its nodes out, what the built-in templates render declares the crate. -/
theorem declaresCrate_render {parser : List Char → Option (List Node)} (hparser : LaysOut parser)
    {crate : String} (hcrate : crate ≠ "") (source : String) :
    DeclaresCrate parser crate source ((Parsed.ofParser parser source).render .builtIn crate) := by
  intro s nodes hparsed hnodes hnone
  obtain ⟨nodes', hnodes', hprogram⟩ := Parsed.programOf_eq hparser hparsed crate
  obtain rfl : nodes = nodes' := Option.some.inj (hnodes.symm.trans hnodes')
  have hline : crateLine nodes crate = declaration crate := by
    by_cases hstd : crate = "std"
    · rw [crateLine, declaration, if_pos hstd, if_neg fun h ↦ h.2 hstd]
    · rw [crateLine, declaration, if_neg hstd, if_pos ⟨hnone, hstd⟩]
  rw [hparsed, Parsed.render_builtIn_structured s hcrate, hprogram, hline]

/-- **Snippets name the crate that they document.** In a graph of a source of snapshots every id is
the crate's name, or goes on behind it with two colons. So every snippet names the crate, and its
program declares it unless the snippet declares one itself; the file that gathers the programs
declares the same crate. -/
theorem snippets_name_their_crate {source : SnapshotSource} (hsource : source.Arises)
    {crate : String} (hcolon : ':' ∉ crate.toList) {workers : Option Int} {graph : Documentation}
    (hbuild : ((Graph.build SnapshotSource.toSource source.records.length workers crate).run
      source).1.1 = .ok graph) :
    (∀ document ∈ graph.documents,
      document.id = crate ∨ ∃ rest, document.id = crate ++ "::" ++ rest) ∧
    (∀ language, ∀ snippet ∈ Snippet.ofDocumentation graph language,
      snippet.crateName = crate ∧
        DeclaresCrate nodes? crate snippet.source (Program.ofSnippet snippet).1.source ∧
        ∀ parser, LaysOut parser → DeclaresCrate parser crate snippet.source
          ((Parsed.ofParser parser snippet.source).render .builtIn snippet.crateName)) ∧
    ∀ programs directory,
      (aggregatorFile, gathering crate (Suite.ofPrograms programs directory crate).modules) ∈
        (Suite.ofPrograms programs directory crate).files := by
  obtain ⟨hcrate, hids⟩ := hsource.filed.ids_of_build hbuild
  refine ⟨hids, fun language snippet hsnippet ↦ ?_, fun programs directory ↦ ?_⟩
  · obtain ⟨document, hdocument, hid⟩ := exists_document_of_mem_ofDocumentation hsnippet
    have hname : snippet.crateName = crate := by
      rw [Snippet.crateName, hid]
      exact crateNameOf_eq hcolon (hids document hdocument)
    have hprogram : (Program.ofSnippet snippet).1.source =
        (Parsed.ofParser nodes? snippet.source).render .builtIn snippet.crateName := rfl
    rw [hprogram, hname]
    exact ⟨rfl, declaresCrate_render laysOut_nodes? hcrate snippet.source,
      fun parser hparser ↦ declaresCrate_render hparser hcrate snippet.source⟩
  · rw [files_ofPrograms]
    exact List.mem_append_right _ (List.mem_singleton_self _)

/-- A snapshot of a crate with a function, whose name is written without colons in front of it. -/
def documentedSnapshot : Json.Value :=
  let field (name text : String) : String × Json.Value := (name, .text text)
  SnapshotSource.sampleSnapshot "c" [SnapshotSource.sampleRecord 1 "Mod" "::" [2],
    .object [("id", .object [("krate", .int 0), ("index", .int 2)]), field "kind" "Function",
      field "qualname" "f", field "name" "f",
      field "docs" "\x60\x60\x60\nuse c::f;\n\x60\x60\x60"]]

/-- The test of the function declares the crate of the snapshot. -/
theorem snippets_of_documentedSnapshot_name_their_crate :
    ∃ source graph, SnapshotSource.addSnapshot {} documentedSnapshot = .ok source ∧
      source.Arises ∧ ':' ∉ "c".toList ∧
      ((Graph.build SnapshotSource.toSource source.records.length none "c").run source).1.1 =
        .ok graph ∧
      Snippet.ofDocumentation graph "rust" = [⟨"c::f", 0, "use c::f;"⟩] ∧
      (Program.ofSnippet ⟨"c::f", 0, "use c::f;"⟩).1.source =
        "#[test]\nfn a_doc_test() \x7b\n    extern crate c;\nuse c::f;\n\x7d\n" := by
  obtain ⟨source, hload, hsnippets⟩ : ∃ source,
      SnapshotSource.addSnapshot {} documentedSnapshot = .ok source ∧
        (((Graph.build SnapshotSource.toSource source.records.length none "c").run source).1.1.map
          (Snippet.ofDocumentation · "rust")).toOption = some [⟨"c::f", 0, "use c::f;"⟩] :=
    ⟨_, rfl, by decide +kernel⟩
  obtain ⟨graph, hbuild, hsnippets⟩ := map_eq_ok_iff.1 (eq_ok_of_toOption hsnippets)
  have harises := SnapshotSource.Arises.load .empty hload
  have hcolon : ':' ∉ "c".toList := by decide
  refine ⟨source, graph, hload, harises, hcolon, hbuild, hsnippets, ?_⟩
  have hnames := snippets_name_their_crate harises hcolon hbuild
  obtain ⟨-, hprogram, -⟩ := hnames.2.1 "rust" ⟨"c::f", 0, "use c::f;"⟩
    (hsnippets ▸ List.mem_singleton_self _)
  exact hprogram { items := ["use c::f;"] } [⟨{ type := "use_declaration" }, "use c::f;".toList⟩]
    (by decide +kernel) (by decide +kernel) (by decide)

end CrateDoc.Doctest
