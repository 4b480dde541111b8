import CrateDoc.Proofs.Doctest.Blocks
import CrateDoc.Proofs.Text.Lines

/-!
# Blocks of texts that are put together

A text whose fences are all closed is done with when it ends (`DividesClosed`): the blocks of what
stands behind it are not its own (`DividesClosed.append`). Where the last fence of a text is left
open (`LeavesOpen`), what stands behind it goes on with that block and with no other
(`LeavesOpen.exists_divides_append`). Every text is of the one kind or of the other
(`Divides.closed_or_leavesOpen`).

`testBlocks_append_newline` says this of the tests of two texts with a newline between them.
-/

namespace CrateDoc.Doctest

open CrateDoc.Text

/-- The lines of a text divide into prose and these blocks, all of which are closed. -/
inductive DividesClosed : List (List Char) → List Block → Prop
  | nil : DividesClosed [] []
  | prose {line : List Char} {rest : List (List Char)} {blocks : List Block} :
      ¬ OpensFence line → DividesClosed rest blocks → DividesClosed (line :: rest) blocks
  | closed {fence : Fence} {info opening closing : List Char} {body rest : List (List Char)}
      {blocks : List Block} : fence.OpenedBy info opening →
      (∀ l ∈ body, ¬ ClosesFence fence.mark fence.size l) →
      ClosesFence fence.mark fence.size closing → DividesClosed rest blocks →
      DividesClosed (opening :: (body ++ closing :: rest)) (⟨fence, body⟩ :: blocks)

/-- The lines of a text divide into prose, these closed blocks, and a last block that is left
open. -/
inductive LeavesOpen : List (List Char) → List Block → Block → Prop
  | intro {before body : List (List Char)} {blocks : List Block} {fence : Fence}
      {info opening : List Char} : DividesClosed before blocks → fence.OpenedBy info opening →
      (∀ l ∈ body, ¬ ClosesFence fence.mark fence.size l) →
      LeavesOpen (before ++ opening :: body) blocks ⟨fence, body⟩

/-- Every fence that a text opens is also closed. -/
def ClosesFences (docs : List Char) : Prop := ∃ blocks, DividesClosed (lines docs) blocks

/-- The sources of the blocks that are tests for a language. -/
def testsOf (language : List Char) (blocks : List Block) : List (List Char) :=
  (blocks.filter fun b ↦ IsFor language b.fence.info).map Block.source

theorem testsOf_append (language : List Char) (blocks more : List Block) :
    testsOf language (blocks ++ more) = testsOf language blocks ++ testsOf language more := by
  rw [testsOf, List.filter_append, List.map_append, testsOf, testsOf]

variable {ls more : List (List Char)} {blocks others : List Block} {block : Block}

/-! ### Behind closed blocks -/

/-- What stands behind closed blocks divides as it does by itself. -/
theorem DividesClosed.append (h : DividesClosed ls blocks) (hmore : Divides more others) :
    Divides (ls ++ more) (blocks ++ others) := by
  induction h with
  | nil => exact hmore
  | prose hline _ ih => exact .prose hline ih
  | closed hopened hbody hclosing _ ih =>
    rw [List.cons_append, List.append_assoc, List.cons_append]
    exact .closed hopened hbody hclosing ih

theorem DividesClosed.divides (h : DividesClosed ls blocks) : Divides ls blocks := by
  have happend := h.append .nil
  rwa [List.append_nil, List.append_nil] at happend

/-! ### Behind a block that is left open -/

theorem LeavesOpen.divides (h : LeavesOpen ls blocks block) : Divides ls (blocks ++ [block]) := by
  cases h with
  | intro hbefore hopened hbody => exact hbefore.append (.unclosed hopened hbody)

/-- A block that is left open goes on, up to its end, in what stands behind the text. -/
theorem LeavesOpen.exists_divides_append (h : LeavesOpen ls blocks block)
    (more : List (List Char)) : ∃ continued others,
      Divides (ls ++ more) (blocks ++ ⟨block.fence, block.body ++ continued⟩ :: others) := by
  cases h with
  | @intro before body blocks fence info opening hbefore hopened hbody =>
    simp only [List.append_assoc, List.cons_append]
    by_cases hclosing : ∃ l ∈ more, fence.closes l = true
    · obtain ⟨l, hl, hcloses⟩ := hclosing
      obtain ⟨closing, continued, behind, hcontinued, hclosing, rfl, -⟩ :=
        List.exists_of_eraseP hl hcloses
      obtain ⟨others, hothers⟩ := exists_divides behind
      refine ⟨continued, others, hbefore.append ?_⟩
      rw [← List.append_assoc]
      refine .closed hopened (fun l hl ↦ ?_) (hopened.closes_iff.1 hclosing) hothers
      rcases List.mem_append.1 hl with hl | hl
      · exact hbody l hl
      · exact mt hopened.closes_iff.2 (hcontinued l hl)
    · refine ⟨more, [], hbefore.append (.unclosed hopened fun l hl ↦ ?_)⟩
      rcases List.mem_append.1 hl with hl | hl
      · exact hbody l hl
      · exact fun hcloses ↦ hclosing ⟨l, hl, hopened.closes_iff.2 hcloses⟩

/-- The last block of a text is the only one that may be left open. -/
theorem Divides.closed_or_leavesOpen (h : Divides ls blocks) :
    DividesClosed ls blocks ∨
      ∃ closed block, blocks = closed ++ [block] ∧ LeavesOpen ls closed block := by
  induction h with
  | nil => exact .inl .nil
  | prose hline _ ih =>
    refine ih.imp (.prose hline) ?_
    rintro ⟨closed, block, rfl, ⟨hbefore, hopened, hbody⟩⟩
    exact ⟨closed, _, rfl, .intro (.prose hline hbefore) hopened hbody⟩
  | @closed fence info opening closing body rest blocks hopened hbody hclosing _ ih =>
    refine ih.imp (.closed hopened hbody hclosing) ?_
    rintro ⟨closed, block, rfl, ⟨hbefore, hopened', hbody'⟩⟩
    refine ⟨⟨fence, body⟩ :: closed, _, rfl, ?_⟩
    have hopen := LeavesOpen.intro (.closed hopened hbody hclosing hbefore) hopened' hbody'
    rwa [List.cons_append, List.append_assoc, List.cons_append] at hopen
  | @unclosed fence info opening body hopened hbody =>
    have hopen := LeavesOpen.intro .nil hopened hbody
    exact .inr ⟨[], ⟨fence, body⟩, rfl, hopen⟩

/-! ### Tests -/

theorem testBlocks_eq_testsOf {docs language : List Char} (h : Divides (lines docs) blocks) :
    testBlocks docs language = testsOf language blocks := testBlocks_of_divides h

/-- Every text closes its fences, or leaves the last one open. -/
theorem closesFences_or_leavesOpen (docs : List Char) :
    ClosesFences docs ∨ ∃ closed block, LeavesOpen (lines docs) closed block := by
  obtain ⟨blocks, hblocks⟩ := exists_divides (lines docs)
  rcases hblocks.closed_or_leavesOpen with hclosed | ⟨closed, block, -, hopen⟩
  · exact .inl ⟨blocks, hclosed⟩
  · exact .inr ⟨closed, block, hopen⟩

/-- An empty line between two texts changes nothing. -/
theorem exists_divides_append_newline (docs : List Char) :
    ∃ empty, (∀ docs', lines (docs ++ '\n' :: docs') = lines docs ++ (empty ++ lines docs')) ∧
      ∀ {more : List (List Char)} {blocks : List Block},
        Divides more blocks → Divides (empty ++ more) blocks := by
  obtain ⟨empty, hempty, hlines⟩ := exists_lines_append_newline docs
  refine ⟨empty, hlines, fun hblocks ↦ hblocks.prose_append fun l hl ↦ ?_⟩
  rw [hempty l hl]
  decide

/-- **The tests of a text stand apart from what follows it.** Behind a text that closes all its
fences, and a newline, the tests of another text are added to its own, for every language. Where the
last block of a text is left open, only that block goes on in the other text: the tests before it
stay, and those of the other text come behind it. -/
theorem testBlocks_append_newline (docs docs' language : List Char) :
    (ClosesFences docs → testBlocks (docs ++ '\n' :: docs') language =
        testBlocks docs language ++ testBlocks docs' language) ∧
      ∀ closed block, LeavesOpen (lines docs) closed block → ∃ continued others,
        testBlocks docs language = testsOf language closed ++ testsOf language [block] ∧
        testBlocks (docs ++ '\n' :: docs') language = testsOf language closed ++
          testsOf language (⟨block.fence, block.body ++ continued⟩ :: others) := by
  obtain ⟨empty, hlines, hempty⟩ := exists_divides_append_newline docs
  constructor
  · rintro ⟨blocks, hblocks⟩
    obtain ⟨others, hothers⟩ := exists_divides (lines docs')
    have htogether : Divides (lines (docs ++ '\n' :: docs')) (blocks ++ others) := by
      rw [hlines]
      exact hblocks.append (hempty hothers)
    rw [testBlocks_eq_testsOf htogether, testsOf_append, testBlocks_eq_testsOf hblocks.divides,
      testBlocks_eq_testsOf hothers]
  · intro closed block hopen
    obtain ⟨continued, others, htogether⟩ := hopen.exists_divides_append (empty ++ lines docs')
    rw [← hlines] at htogether
    refine ⟨continued, others, ?_, ?_⟩
    · rw [testBlocks_eq_testsOf hopen.divides, testsOf_append]
    · rw [testBlocks_eq_testsOf htogether, testsOf_append]

/-- A closed block, with a carriage return at the end that a newline may meet. -/
def closedText : List Char := "```\n~~~\n```\r".toList

/-- The same block, and one behind it that is left open. -/
def openText : List Char := "```\n~~~\n```\n~~~ rust\nlet a = 1;".toList

/-- The block that both texts begin with. -/
def tildesBlock : Block := ⟨⟨'\x60', 3, 0, []⟩, [['~', '~', '~']]⟩

/-- The block that is left open. -/
def openBlock : Block := ⟨⟨'~', 3, 0, "rust".toList⟩, ["let a = 1;".toList]⟩

theorem testBlocks_openText_append_newline :
    ClosesFences closedText ∧ LeavesOpen (lines openText) [tildesBlock] openBlock ∧
      testBlocks (closedText ++ '\n' :: openText) hostLanguage.toList =
        testBlocks closedText hostLanguage.toList ++ testBlocks openText hostLanguage.toList ∧
      ∃ continued others, testBlocks (openText ++ '\n' :: closedText) hostLanguage.toList =
        testsOf hostLanguage.toList [tildesBlock] ++ testsOf hostLanguage.toList
          (⟨openBlock.fence, openBlock.body ++ continued⟩ :: others) := by
  have hticks : Fence.OpenedBy tildesBlock.fence [] ['\x60', '\x60', '\x60'] :=
    ⟨by decide, .inl rfl, by decide, ⟨by decide, by decide⟩, rfl, rfl⟩
  have htildes : Fence.OpenedBy openBlock.fence " rust".toList "~~~ rust".toList :=
    ⟨by decide, .inr rfl, by decide, ⟨by decide, by decide⟩, by decide, by decide⟩
  have hbody : ∀ l ∈ tildesBlock.body, ¬ ClosesFence '\x60' 3 l := by
    intro l hl hcloses
    rw [List.mem_singleton.1 hl] at hcloses
    exact absurd (hticks.closes_iff.2 hcloses) (by decide)
  have hbody' : ∀ l ∈ openBlock.body, ¬ ClosesFence '~' 3 l := by
    intro l hl hcloses
    rw [List.mem_singleton.1 hl] at hcloses
    exact absurd (htildes.closes_iff.2 hcloses) (by decide)
  have hclosing : ClosesFence '\x60' 3 ['\x60', '\x60', '\x60'] := hticks.closes_iff.1 (by decide)
  have hblock : DividesClosed (['\x60', '\x60', '\x60'] :: (tildesBlock.body ++
      ['\x60', '\x60', '\x60'] :: [])) [tildesBlock] := .closed hticks hbody hclosing .nil
  have hclosed : ClosesFences closedText := ⟨[tildesBlock], hblock⟩
  have hopen : LeavesOpen (lines openText) [tildesBlock] openBlock :=
    .intro hblock htildes hbody'
  -- the two halves of the theorem, for a text that closes its blocks and one that does not
  refine ⟨hclosed, hopen, (testBlocks_append_newline _ _ _).1 hclosed, ?_⟩
  obtain ⟨continued, others, -, htests⟩ :=
    (testBlocks_append_newline openText closedText hostLanguage.toList).2 _ _ hopen
  exact ⟨continued, others, htests⟩

end CrateDoc.Doctest
