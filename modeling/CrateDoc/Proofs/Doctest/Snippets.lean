import CrateDoc.Proofs.Doctest.Blocks
import CrateDoc.Proofs.Doctest.ModuleNames
import Mathlib.Data.List.Basic

/-!
# Snippets and the names of their modules

The snippets of a documentation are the blocks of its documents that are tests, in their order
(`map_ofDocumentation`). A snippet's name, alone or with numbers behind it, can be the name of a
module beside the file that gathers the modules (`isModuleName_of_isNumbered`).
-/

namespace CrateDoc.Doctest

open CrateDoc.Text

/-- The text of a document that may hold tests. -/
def docsOf (d : Document) : List Char := ((d.attribute? "docs").getD "").toList

namespace Snippet

theorem map_ofDocument (d : Document) (language : String) :
    (ofDocument d language).map (fun s ↦ (s.documentId, s.source.toList)) =
      (testBlocks (docsOf d) language.toList).map fun source ↦ (d.id, source) := by
  rw [ofDocument, List.map_map, docsOf]
  generalize testBlocks _ _ = sources
  calc sources.zipIdx.map _
      = sources.zipIdx.map ((fun source ↦ (d.id, source)) ∘ Prod.fst) :=
        List.map_congr_left fun pair _ ↦ by simp
    _ = sources.map fun source ↦ (d.id, source) := by
        rw [← List.map_map, List.zipIdx_map_fst]

/-- The snippets of a documentation are the tests among the blocks of its documents, in the order of
the documents and of the blocks in them. -/
theorem map_ofDocumentation (documentation : Documentation) (language : String)
    {blocksOf : Document → List Block}
    (hblocks : ∀ d ∈ documentation.documents, Divides (lines (docsOf d)) (blocksOf d)) :
    (ofDocumentation documentation language).map (fun s ↦ (s.documentId, s.source.toList)) =
      documentation.documents.flatMap fun d ↦
        ((blocksOf d).filter fun b ↦ IsFor language.toList b.fence.info).map fun b ↦
          (d.id, b.source) := by
  rw [ofDocumentation, List.map_flatMap]
  refine List.flatMap_congr fun d hd ↦ ?_
  rw [map_ofDocument, testBlocks_of_divides (hblocks d hd), List.map_map]
  rfl

end Snippet

/-! ### Names -/

/-- A name of ASCII letters, digits and underscores. -/
def IsName (name : String) : Prop :=
  ∀ c ∈ name.toList, isAsciiLetter c = true ∨ isAsciiDigit c = true ∨ c = '_'

instance (name : String) : Decidable (IsName name) :=
  List.decidableBAll (fun c ↦ isAsciiLetter c = true ∨ isAsciiDigit c = true ∨ c = '_') name.toList

/-- What the name of a module that is made from a document is like. -/
structure IsModuleName (documentId name : String) : Prop where
  isName : IsName name
  /-- A digit at the start is the document's own. -/
  head : ∀ c ∈ name.toList.head?, isAsciiDigit c = true → c ∈ documentId.toList.head?
  ne_main : name ≠ "main"

theorem nameChar_eq_or (c : Char) :
    (Snippet.nameChar c = c ∧ (isAsciiLetter c = true ∨ isAsciiDigit c = true ∨ c = '_')) ∨
      Snippet.nameChar c = '_' := by
  rw [Snippet.nameChar]
  split_ifs with h
  · refine .inl ⟨rfl, ?_⟩
    simpa [or_assoc] using h
  · exact .inr rfl

theorem mem_joinPath {c : Char} (hc : c ≠ ':') {s : List Char} (h : c ∈ s) :
    c ∈ Snippet.joinPath s := by
  fun_induction Snippet.joinPath s with
  | case1 rest ih =>
    simp only [List.mem_cons, hc, false_or] at h
    exact List.mem_cons_of_mem _ (ih h)
  | case2 d rest _ ih =>
    rcases List.mem_cons.1 h with rfl | h
    · exact List.mem_cons_self
    · exact List.mem_cons_of_mem _ (ih h)
  | case3 => cases h

theorem head?_joinPath (s : List Char) :
    (Snippet.joinPath s).head? = some '_' ∨ (Snippet.joinPath s).head? = s.head? := by
  fun_cases Snippet.joinPath s with
  | case1 rest => exact .inl rfl
  | case2 c rest => exact .inr rfl
  | case3 => exact .inr rfl

/-- A snippet's name holds an underscore. -/
theorem underscore_mem_name (s : Snippet) : '_' ∈ s.name.toList := by
  rw [Snippet.name, String.toList_ofList]
  refine List.mem_map.2 ⟨'_', mem_joinPath (by decide) ?_, by decide⟩
  exact List.mem_append_right _ List.mem_cons_self

/-- A digit at the start of a snippet's name is the document's own. -/
theorem head_name {s : Snippet} {c : Char} (h : c ∈ s.name.toList.head?)
    (hdigit : isAsciiDigit c = true) : c ∈ s.documentId.toList.head? := by
  rw [Snippet.name, String.toList_ofList, List.head?_map] at h
  obtain ⟨d, hd, rfl⟩ := Option.map_eq_some_iff.1 h
  -- A character that was exchanged has become an underscore, which is no digit.
  have hsame : Snippet.nameChar d = d := by
    rcases nameChar_eq_or d with ⟨hsame, -⟩ | hmark
    · exact hsame
    · rw [hmark] at hdigit
      cases hdigit
  rw [hsame] at hdigit ⊢
  have hunderscore : d ≠ '_' := by
    rintro rfl
    cases hdigit
  rcases head?_joinPath (s.documentId.toList ++ '_' :: (toString s.index).toList) with hj | hj
  · rw [hj] at hd
    exact absurd (Option.some.inj hd).symm hunderscore
  · rw [hj] at hd
    rcases hid : s.documentId.toList with - | ⟨e, id⟩
    · rw [hid] at hd
      exact absurd (Option.some.inj hd).symm hunderscore
    · rw [hid] at hd
      exact hd

/-- A snippet's name, alone or with numbers behind it, can be the name of a module. -/
theorem isModuleName_of_isNumbered {s : Snippet} {name : String} (h : IsNumbered s.name name) :
    IsModuleName s.documentId name := by
  obtain ⟨marks, hmarks, heq⟩ := h
  have hunderscore := underscore_mem_name s
  refine ⟨fun c hc ↦ ?_, fun c hc ↦ ?_, ?_⟩
  · rw [heq] at hc
    rcases List.mem_append.1 hc with hc | hc
    · rw [Snippet.name, String.toList_ofList] at hc
      obtain ⟨d, -, rfl⟩ := List.mem_map.1 hc
      rcases nameChar_eq_or d with ⟨hsame, hd⟩ | hmark
      · rwa [hsame]
      · exact .inr (.inr hmark)
    · exact .inr (hmarks c hc)
  · rw [heq, List.head?_append_of_ne_nil _ (List.ne_nil_of_mem hunderscore)] at hc
    exact head_name hc
  · rintro rfl
    have hmem : '_' ∈ "main".toList := heq ▸ List.mem_append_left marks hunderscore
    revert hmem
    decide

end CrateDoc.Doctest
