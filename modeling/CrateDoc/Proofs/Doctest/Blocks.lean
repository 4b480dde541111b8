import CrateDoc.Proofs.Doctest.Fence
import Mathlib.Data.List.TakeWhile
import Mathlib.Tactic.SplitIfs

/-!
# Blocks of a text

How the lines of a text divide into prose and fenced blocks (`Divides`), said without a reader.
Every text divides (`exists_divides`), in one way only (`Divides.unique`), and what is read from it
are the sources of its blocks for the language, in their order (`testBlocks_of_divides`).
-/

namespace CrateDoc.Doctest

open CrateDoc.Text

/-- A fenced block as it stands in a text. -/
structure Block where
  fence : Fence
  body : List (List Char)

/-- The lines of the body as they are compiled. -/
def Block.sourceLines (b : Block) : List (List Char) :=
  b.body.map fun l ↦ reveal (b.fence.dedent l)

/-- The source of a block. -/
def Block.source (b : Block) : List Char := joinWith ['\n'] b.sourceLines

/-- The lines of a text divide into prose and these blocks: a block reaches from the line that opens
it to the first line that closes it, or to the end of the text. -/
inductive Divides : List (List Char) → List Block → Prop
  | nil : Divides [] []
  | prose {line : List Char} {rest : List (List Char)} {blocks : List Block} :
      ¬ OpensFence line → Divides rest blocks → Divides (line :: rest) blocks
  | closed {fence : Fence} {info opening closing : List Char} {body rest : List (List Char)}
      {blocks : List Block} : fence.OpenedBy info opening →
      (∀ l ∈ body, ¬ ClosesFence fence.mark fence.size l) →
      ClosesFence fence.mark fence.size closing → Divides rest blocks →
      Divides (opening :: (body ++ closing :: rest)) (⟨fence, body⟩ :: blocks)
  | unclosed {fence : Fence} {info opening : List Char} {body : List (List Char)} :
      fence.OpenedBy info opening → (∀ l ∈ body, ¬ ClosesFence fence.mark fence.size l) →
      Divides (opening :: body) [⟨fence, body⟩]

/-- Lines that open no block are prose. -/
theorem Divides.prose_append {before rest : List (List Char)} {blocks : List Block}
    (hbefore : IsProse before) (h : Divides rest blocks) :
    Divides (before ++ rest) blocks := by
  induction before with
  | nil => exact h
  | cons l before ih =>
    exact .prose (hbefore l List.mem_cons_self)
      (ih fun l' hl' ↦ hbefore l' (List.mem_cons_of_mem l hl'))

/-! ### Reading a block -/

section Reading

variable {fence : Fence} {info opening : List Char}

theorem Fence.OpenedBy.closes_iff (h : fence.OpenedBy info opening) {line : List Char} :
    fence.closes line = true ↔ ClosesFence fence.mark fence.size line :=
  CrateDoc.Doctest.closes_iff h.isFenceMark (Nat.lt_of_lt_of_le (by decide) h.three_le_size)

theorem Fence.OpenedBy.closes_eq_false (h : fence.OpenedBy info opening)
    {body : List (List Char)} (hbody : ∀ l ∈ body, ¬ ClosesFence fence.mark fence.size l) :
    ∀ l ∈ body, (!fence.closes l) = true := by
  intro l hl
  rw [Bool.not_eq_true', Bool.eq_false_iff, Ne, h.closes_iff]
  exact hbody l hl

/-- A block that is closed ends at the first line that closes it. -/
theorem Fence.OpenedBy.span_closed (h : fence.OpenedBy info opening) {body : List (List Char)}
    (hbody : ∀ l ∈ body, ¬ ClosesFence fence.mark fence.size l) {closing : List Char}
    (hclosing : ClosesFence fence.mark fence.size closing) (rest : List (List Char)) :
    (body ++ closing :: rest).takeWhile (!fence.closes ·) = body ∧
      (body ++ closing :: rest).dropWhile (!fence.closes ·) = closing :: rest := by
  have hbody := h.closes_eq_false hbody
  have hclosing := h.closes_iff.2 hclosing
  rw [List.takeWhile_append_of_pos hbody, List.dropWhile_append_of_pos hbody]
  constructor
  · rw [List.takeWhile_cons_of_neg (by simp [hclosing]), List.append_nil]
  · rw [List.dropWhile_cons_of_neg (by simp [hclosing])]

/-- A block that is not closed goes on to the end. -/
theorem Fence.OpenedBy.span_unclosed (h : fence.OpenedBy info opening) {body : List (List Char)}
    (hbody : ∀ l ∈ body, ¬ ClosesFence fence.mark fence.size l) :
    body.takeWhile (!fence.closes ·) = body ∧ body.dropWhile (!fence.closes ·) = [] :=
  ⟨List.takeWhile_eq_self_iff.2 (h.closes_eq_false hbody),
    List.dropWhile_eq_nil_iff.2 (h.closes_eq_false hbody)⟩

/-- Every text divides into prose and blocks. -/
theorem exists_divides (ls : List (List Char)) : ∃ blocks, Divides ls blocks := by
  induction hn : ls.length using Nat.strongRecOn generalizing ls with
  | ind n ih =>
    subst hn
    rcases ls with - | ⟨line, rest⟩
    · exact ⟨[], .nil⟩
    by_cases hline : OpensFence line
    · obtain ⟨fence, info, hopened⟩ := hline
      by_cases hclosing : ∃ l ∈ rest, fence.closes l = true
      -- The body ends at the first line that closes the block.
      · obtain ⟨l, hl, hcloses⟩ := hclosing
        obtain ⟨closing, body, behind, hbody, hclosing, rfl, -⟩ :=
          List.exists_of_eraseP hl hcloses
        obtain ⟨blocks, hblocks⟩ := ih behind.length (by simp; omega) behind rfl
        exact ⟨⟨fence, body⟩ :: blocks,
          .closed hopened (fun l hl h ↦ hbody l hl (hopened.closes_iff.2 h))
            (hopened.closes_iff.1 hclosing) hblocks⟩
      · exact ⟨[⟨fence, rest⟩],
          .unclosed hopened fun l hl h ↦ hclosing ⟨l, hl, hopened.closes_iff.2 h⟩⟩
    · obtain ⟨blocks, hblocks⟩ := ih rest.length (by simp) rest rfl
      exact ⟨blocks, .prose hline hblocks⟩

/-- A text divides in one way only. -/
theorem Divides.unique {ls : List (List Char)} {blocks blocks' : List Block}
    (h : Divides ls blocks) (h' : Divides ls blocks') : blocks = blocks' := by
  induction h generalizing blocks' with
  | nil =>
    cases h'
    rfl
  | prose hline _ ih =>
    cases h' with
    | prose _ hrest => exact ih hrest
    | closed hopened => exact absurd ⟨_, _, hopened⟩ hline
    | unclosed hopened => exact absurd ⟨_, _, hopened⟩ hline
  | @closed fence info opening closing body rest blocks hopened hbody hclosing _ ih =>
    -- Both divisions open the block by the same line, so they end its body at the same line.
    obtain ⟨htake, hdrop⟩ := hopened.span_closed hbody hclosing rest
    generalize body ++ closing :: rest = tail at h' htake hdrop
    cases h' with
    | prose hline => exact absurd ⟨_, _, hopened⟩ hline
    | @closed _ _ _ _ body' rest' _ hopened' hbody' hclosing' hrest' =>
      obtain rfl := Option.some.inj (hopened.ofLine?.symm.trans hopened'.ofLine?)
      obtain ⟨htake', hdrop'⟩ := hopened.span_closed hbody' hclosing' rest'
      rw [htake'] at htake
      rw [hdrop', List.cons.injEq] at hdrop
      rw [htake, ih (hdrop.2 ▸ hrest')]
    | unclosed hopened' hbody' =>
      obtain rfl := Option.some.inj (hopened.ofLine?.symm.trans hopened'.ofLine?)
      rw [(hopened.span_unclosed hbody').2] at hdrop
      cases hdrop
  | @unclosed fence info opening body hopened hbody =>
    have hdrop := (hopened.span_unclosed hbody).2
    cases h' with
    | prose hline => exact absurd ⟨_, _, hopened⟩ hline
    | @closed _ _ _ _ body' rest' _ hopened' hbody' hclosing' =>
      obtain rfl := Option.some.inj (hopened.ofLine?.symm.trans hopened'.ofLine?)
      rw [(hopened.span_closed hbody' hclosing' rest').2] at hdrop
      cases hdrop
    | unclosed hopened' hbody' =>
      obtain rfl := Option.some.inj (hopened.ofLine?.symm.trans hopened'.ofLine?)
      rfl

/-- What is read from lines are the blocks for the language, in their order. -/
theorem blocksOfLines_of_divides {language : List Char} {ls : List (List Char)}
    {blocks : List Block} (h : Divides ls blocks) :
    blocksOfLines language ls =
      (blocks.filter fun b ↦ IsFor language b.fence.info).map Block.sourceLines := by
  have htest : ∀ fence : Fence,
      fence.isTest language = decide (IsFor language fence.info) := by
    intro fence
    rw [Bool.eq_iff_iff, isTest_iff, decide_eq_true_eq]
  induction h with
  | nil =>
    rw [blocksOfLines]
    rfl
  | prose hline _ ih => rw [blocksOfLines, ofLine?_eq_none_iff.2 hline, ih]
  | @closed fence info opening closing body rest blocks hopened hbody hclosing _ ih =>
    obtain ⟨htake, hdrop⟩ := hopened.span_closed hbody hclosing rest
    rw [blocksOfLines, hopened.ofLine?]
    dsimp only
    rw [htake, hdrop, List.drop_succ_cons, List.drop_zero, ih, htest, List.filter_cons]
    split_ifs <;> rfl
  | @unclosed fence info opening body hopened hbody =>
    obtain ⟨htake, hdrop⟩ := hopened.span_unclosed hbody
    rw [blocksOfLines, hopened.ofLine?]
    dsimp only
    rw [htake, hdrop, List.drop_nil, blocksOfLines, htest, List.filter_cons]
    split_ifs <;> rfl

end Reading

/-- The tests of a text are the sources of its blocks for the language, in their order. -/
theorem testBlocks_of_divides {docs language : List Char} {blocks : List Block}
    (h : Divides (lines docs) blocks) :
    testBlocks docs language =
      (blocks.filter fun b ↦ IsFor language b.fence.info).map Block.source := by
  rw [testBlocks, blocksOfLines_of_divides h, List.map_map]
  rfl

end CrateDoc.Doctest
