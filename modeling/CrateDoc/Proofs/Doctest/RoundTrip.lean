import CrateDoc.Proofs.Doctest.Blocks
import CrateDoc.Proofs.Text.Lines
import Mathlib.Tactic.SplitIfs

/-!
# Written blocks are read back

How source lines are written into a fenced block (`SourceLine.written`, `WrittenBlock.lines`), and
that reading gives them back.

Main statements:

* `reveal_written` — the mark that hides or escapes a line is taken off again, whatever the line;
* `WrittenBlock.divides`, `WrittenBlock.source_block` — a written block stands among other lines as
  a block of the source that was written;
* `testBlocks_writtenBlock` — so a text that holds it between two stretches of prose is read as that
  source.
-/

namespace CrateDoc.Doctest

open CrateDoc.Text

/-! ### Writing a line -/

/-- A line as it is written to be shown as it stands: a marker that would be taken off is written
twice. -/
def escape (text : List Char) : List Char :=
  let behind := text.dropWhile isBlank
  if ['#', '#'].isPrefixOf behind || ['#', ' '].isPrefixOf behind then
    text.takeWhile isBlank ++ '#' :: behind
  else text

/-- A line of a program, and whether the documentation hides it. -/
structure SourceLine where
  hidden : Bool
  text : List Char
  isLine : IsLine text

/-- The line in the body of a block. -/
def SourceLine.written (l : SourceLine) : List Char :=
  if l.hidden then '#' :: ' ' :: l.text else escape l.text

/-- Escaping a line leaves it on one line. -/
theorem isLine_escape {s : List Char} (hs : IsLine s) : IsLine (escape s) := by
  rw [escape]
  split_ifs
  · refine IsLine.append (fun c hc ↦ hs c ((List.takeWhile_prefix _).subset hc)) ?_
    exact IsLine.cons (fun c hc ↦ hs c ((List.dropWhile_suffix _).subset hc)) (by decide)
  · exact hs

/-- A line of source is written on one line. -/
theorem SourceLine.isLine_written (l : SourceLine) : IsLine l.written := by
  rw [SourceLine.written]
  split_ifs
  · exact (l.isLine.cons (by decide)).cons (by decide)
  · exact isLine_escape l.isLine

/-! ### Reading a line -/

/-- White space before a marker is the white space at the start of the line. -/
theorem takeWhile_dropWhile_blank {leading : List Char} (h : ∀ c ∈ leading, isBlank c = true)
    (rest : List Char) :
    (leading ++ '#' :: rest).takeWhile isBlank = leading ∧
      (leading ++ '#' :: rest).dropWhile isBlank = '#' :: rest := by
  have hmarker : ¬ isBlank '#' = true := by decide
  rw [List.takeWhile_append_of_pos h, List.dropWhile_append_of_pos h,
    List.takeWhile_cons_of_neg hmarker, List.dropWhile_cons_of_neg hmarker, List.append_nil]
  exact ⟨rfl, rfl⟩

/-- Of two number signs one is shown. -/
theorem reveal_double {leading : List Char} (h : ∀ c ∈ leading, isBlank c = true)
    (rest : List Char) :
    reveal (leading ++ '#' :: '#' :: rest) = leading ++ '#' :: rest := by
  obtain ⟨htake, hdrop⟩ := takeWhile_dropWhile_blank h ('#' :: rest)
  simp only [reveal, htake, hdrop]

/-- A number sign and its blank are taken off a hidden line. -/
theorem reveal_marker {leading : List Char} (h : ∀ c ∈ leading, isBlank c = true)
    (rest : List Char) : reveal (leading ++ '#' :: ' ' :: rest) = leading ++ rest := by
  obtain ⟨htake, hdrop⟩ := takeWhile_dropWhile_blank h (' ' :: rest)
  simp only [reveal, htake, hdrop]

/-- A line without a marker behind its white space is left alone. -/
theorem reveal_eq_self {s : List Char} (hdouble : ¬ ['#', '#'] <+: s.dropWhile isBlank)
    (hmarker : ¬ ['#', ' '] <+: s.dropWhile isBlank) : reveal s = s := by
  fun_cases reveal s with
  | case1 _ rest heq => exact absurd ⟨rest, heq.symm⟩ hdouble
  | case2 _ rest heq => exact absurd ⟨rest, heq.symm⟩ hmarker
  | case3 => rfl

/-- A line that was escaped is revealed as it was. -/
theorem reveal_escape (s : List Char) : reveal (escape s) = s := by
  have hleading : ∀ c ∈ s.takeWhile isBlank, isBlank c = true :=
    fun c hc ↦ List.all_eq_true.1 List.all_takeWhile c hc
  have hsplit : s.takeWhile isBlank ++ s.dropWhile isBlank = s := List.takeWhile_append_dropWhile
  rw [escape]
  split_ifs with h
  -- Whichever marker it is, two of them stand behind the white space now.
  · obtain ⟨rest, hrest⟩ : ∃ rest, s.dropWhile isBlank = '#' :: rest := by
      rcases (Bool.or_eq_true _ _).mp h with h | h
      · obtain ⟨rest, hrest⟩ := List.isPrefixOf_iff_prefix.1 h
        exact ⟨'#' :: rest, hrest.symm⟩
      · obtain ⟨rest, hrest⟩ := List.isPrefixOf_iff_prefix.1 h
        exact ⟨' ' :: rest, hrest.symm⟩
    rw [hrest] at hsplit ⊢
    rw [reveal_double hleading, hsplit]
  · have h : ¬ (['#', '#'] <+: s.dropWhile isBlank ∨ ['#', ' '] <+: s.dropWhile isBlank) := by
      simpa [List.isPrefixOf_iff_prefix] using h
    exact reveal_eq_self (fun hd ↦ h (.inl hd)) fun hm ↦ h (.inr hm)

/-- A written line is read as the line it was. -/
theorem reveal_written (l : SourceLine) : reveal l.written = l.text := by
  rw [SourceLine.written]
  split_ifs
  · have hnone : ∀ c ∈ ([] : List Char), isBlank c = true := by simp
    exact reveal_marker hnone l.text
  · exact reveal_escape l.text

/-- The indentation of the fence is taken off a line that has it, and no more. -/
theorem dedent_replicate (fence : Fence) (line : List Char) :
    fence.dedent (List.replicate fence.indent ' ' ++ line) = line := by
  have hle : fence.indent ≤
      ((List.replicate fence.indent ' ' ++ line).takeWhile (· == ' ')).length := by
    rw [List.takeWhile_append_of_pos fun c hc ↦ by simp [List.eq_of_mem_replicate hc]]
    simp
  rw [Fence.dedent, Nat.min_eq_left hle, List.drop_left' (List.length_replicate ..)]

/-! ### Blocks -/

/-- A block as an author writes it: its source lines between a line that opens it and a line that
closes it, indented like the line that opens it. No line of the body closes the block. -/
structure WrittenBlock where
  mark : Char
  /-- How many marks open the block. -/
  size : ℕ
  indent : ℕ
  /-- What follows the marks. -/
  info : List Char
  body : List SourceLine
  /-- The line that closes the block. -/
  closing : List Char
  isFenceMark : IsFenceMark mark
  three_le_size : 3 ≤ size
  indent_le_three : indent ≤ 3
  isInfo : IsInfo mark info
  isLine_info : IsLine info
  closes : ClosesFence mark size closing
  body_open : ∀ l ∈ body, ¬ ClosesFence mark size (List.replicate indent ' ' ++ l.written)

namespace WrittenBlock

variable (b : WrittenBlock)

/-- The lines of the body as they are written. -/
def bodyLines : List (List Char) :=
  b.body.map fun l ↦ List.replicate b.indent ' ' ++ l.written

/-- The line that opens the block. -/
def opening : List Char := fenceLine b.indent b.mark b.size b.info

/-- The lines of the block as they are written. -/
def lines : List (List Char) := b.opening :: b.bodyLines ++ [b.closing]

/-- The source that was written. -/
def source : List Char := joinWith ['\n'] (b.body.map (·.text))

/-- What is read off the line that opens the block. -/
def fence : Fence := ⟨b.mark, b.size, b.indent, strip b.info⟩

/-- The opening line of a written block opens its fence. -/
theorem openedBy : b.fence.OpenedBy b.info b.opening :=
  ⟨b.indent_le_three, b.isFenceMark, b.three_le_size, b.isInfo, rfl, rfl⟩

/-- The block as it stands in the text. -/
def block : Block := ⟨b.fence, b.bodyLines⟩

/-- The body is read as the source lines that were written. -/
theorem source_block : b.block.source = b.source := by
  have hlines : b.block.sourceLines = b.body.map (·.text) := by
    rw [Block.sourceLines, block, bodyLines, List.map_map]
    refine List.map_congr_left fun l _ ↦ ?_
    show reveal (b.fence.dedent (List.replicate b.fence.indent ' ' ++ l.written)) = l.text
    rw [dedent_replicate, reveal_written]
  rw [Block.source, hlines, source]

/-- Lines that begin with the block divide into it and the blocks behind it. -/
theorem divides {rest : List (List Char)} {blocks : List Block} (h : Divides rest blocks) :
    Divides (b.lines ++ rest) (b.block :: blocks) := by
  have hlines : b.lines ++ rest = b.opening :: (b.bodyLines ++ b.closing :: rest) := by
    simp [lines]
  rw [hlines]
  refine .closed b.openedBy (fun l hl ↦ ?_) b.closes h
  obtain ⟨source, hsource, rfl⟩ := List.mem_map.1 hl
  exact b.body_open source hsource

end WrittenBlock

/-! ### Texts -/

/-- A fence fits on one line. -/
theorem isLine_fenceLine {indent size : ℕ} {mark : Char} {rest : List Char}
    (hmark : IsFenceMark mark) (hrest : IsLine rest) :
    IsLine (fenceLine indent mark size rest) := by
  refine (isLine_replicate (by decide) indent).append ((isLine_replicate ?_ size).append hrest)
  rcases hmark with rfl | rfl <;> decide

theorem ClosesFence.isLine {mark : Char} {size : ℕ} {line : List Char} (hmark : IsFenceMark mark)
    (h : ClosesFence mark size line) : IsLine line := by
  obtain ⟨indent, count, rest, -, -, hrest, rfl⟩ := h
  refine isLine_fenceLine hmark fun c hc ↦ ?_
  rcases hrest c hc with rfl | rfl <;> decide

theorem ClosesFence.ne_nil {mark : Char} {size : ℕ} (hsize : 0 < size) {line : List Char}
    (h : ClosesFence mark size line) : line ≠ [] := by
  obtain ⟨indent, count, rest, -, hcount, -, rfl⟩ := h
  have hcount : count ≠ 0 := by omega
  simp [fenceLine, hcount]

namespace WrittenBlock

variable (b : WrittenBlock)

theorem isLine_opening : IsLine b.opening := isLine_fenceLine b.isFenceMark b.isLine_info

/-- Every line of a written block is one line. -/
theorem isLine_of_mem_lines : ∀ l ∈ b.lines, IsLine l := by
  intro l hl
  rcases List.mem_append.1 hl with hl | hl
  · rcases List.mem_cons.1 hl with rfl | hl
    · exact b.isLine_opening
    · obtain ⟨source, -, rfl⟩ := List.mem_map.1 hl
      exact (isLine_replicate (by decide) b.indent).append source.isLine_written
  · rw [List.mem_singleton.1 hl]
    exact b.closes.isLine b.isFenceMark

end WrittenBlock

/-- The lines of a text that ends with a block, or goes on behind it. -/
theorem lines_joinWith_writtenBlock (b : WrittenBlock) (after : Option (List Char)) :
    lines (joinWith ['\n'] (b.lines ++ after.toList)) = b.lines ++ lines (after.getD []) := by
  have hlines := b.isLine_of_mem_lines
  rcases after with - | after
  · have hclosing : lines b.closing = [b.closing] :=
      lines_of_isLine (b.closes.isLine b.isFenceMark)
        (b.closes.ne_nil (Nat.lt_of_lt_of_le (by decide) b.three_le_size))
    rw [Option.toList_none, List.append_nil, Option.getD_none, lines, List.append_nil,
      WrittenBlock.lines, lines_joinWith_newline, hclosing]
    exact fun l hl ↦ hlines l (List.mem_append_left _ hl)
  · rw [Option.toList_some, Option.getD_some, lines_joinWith_newline hlines]

/-- A block begins with a character that ends no line. -/
theorem head?_joinWith_writtenBlock (b : WrittenBlock) (more : List (List Char)) :
    (joinWith ['\n'] (b.lines ++ more)).head? ≠ some '\n' := by
  intro h
  -- The text begins with its opening line, which is not empty and holds no line end.
  have hopening : b.opening ≠ [] := by
    have hsize := b.three_le_size
    rw [WrittenBlock.opening, fenceLine]
    simp
    omega
  rw [WrittenBlock.lines, List.cons_append, List.cons_append, joinWith_newline_cons _ (by simp),
    List.head?_append_of_ne_nil _ hopening] at h
  have hend := b.isLine_opening _ (List.mem_of_mem_head? h)
  rw [isLineEnd_newline] at hend
  cases hend

/-- A text that holds one block between two stretches of prose has one test, the source of that
block, if the block is for the language, and none otherwise. -/
theorem testBlocks_writtenBlock (b : WrittenBlock) (language : List Char) {before : List Char}
    (after : Option (List Char)) (hends : EndsLine before)
    (hbefore : IsProse (lines before)) (hafter : IsProse (lines (after.getD []))) :
    (IsFor language b.info →
        testBlocks (before ++ joinWith ['\n'] (b.lines ++ after.toList)) language = [b.source]) ∧
      (¬ IsFor language b.info →
        testBlocks (before ++ joinWith ['\n'] (b.lines ++ after.toList)) language = []) := by
  have hdivides : Divides (lines (before ++ joinWith ['\n'] (b.lines ++ after.toList)))
      [b.block] := by
    rw [lines_append_of_endsLine hends (head?_joinWith_writtenBlock b _),
      lines_joinWith_writtenBlock]
    have hrest := Divides.prose_append hafter .nil
    rw [List.append_nil] at hrest
    exact .prose_append hbefore (b.divides hrest)
  have hfor : IsFor language b.block.fence.info ↔ IsFor language b.info := isFor_strip_iff
  rw [testBlocks_of_divides hdivides, ← hfor]
  constructor
  · intro h
    simp [h, b.source_block]
  · intro h
    simp [h]

/-- Lines that look like markers or fences, among them white space and nothing at all. -/
def sampleBody : List SourceLine :=
  [⟨true, "use a::B;".toList, by decide⟩, ⟨false, "## two".toList, by decide⟩,
    ⟨false, "  # let x = 1;".toList, by decide⟩, ⟨true, [], by decide⟩, ⟨false, [], by decide⟩,
    ⟨false, " \t ".toList, by decide⟩, ⟨false, "#[derive(Debug)]".toList, by decide⟩,
    ⟨false, "\x60\x60\x60\x60\x60".toList, by decide⟩, ⟨false, "~~~".toList, by decide⟩,
    ⟨false, "  ~~~~".toList, by decide⟩, ⟨true, "~~~~".toList, by decide⟩]

/-- A block of tildes whose body holds other fences. -/
def sampleBlock : WrittenBlock where
  mark := '~'
  size := 4
  indent := 2
  info := " rust ~ \x60x\x60".toList
  body := sampleBody
  closing := "   ~~~~~ \t".toList
  isFenceMark := .inr rfl
  three_le_size := by decide
  indent_le_three := by decide
  isInfo := ⟨by decide, by decide⟩
  isLine_info := by decide
  closes := ⟨3, 5, [' ', '\t'], by decide, by decide, by simp, by decide⟩
  body_open := by
    have hopen : sampleBody.all (fun l ↦
        !(⟨'~', 4, 2, []⟩ : Fence).closes (List.replicate 2 ' ' ++ l.written)) = true := by
      decide
    intro l hl hcloses
    have hl := List.all_eq_true.1 hopen l hl
    rw [(closes_iff (.inr rfl) (by decide)).2 hcloses] at hl
    cases hl

theorem testBlocks_sampleBlock :
    EndsLine "Prose:\r\n".toList ∧ IsProse (lines "Prose:\r\n".toList) ∧
      IsProse (lines "    ~~~\n".toList) ∧
      testBlocks ("Prose:\r\n".toList ++
        joinWith ['\n'] (sampleBlock.lines ++ ["    ~~~\n".toList])) hostLanguage.toList =
          [sampleBlock.source] ∧
      testBlocks ("Prose:\r\n".toList ++
        joinWith ['\n'] (sampleBlock.lines ++ ["    ~~~\n".toList])) "text".toList = [] := by
  have hends : EndsLine "Prose:\r\n".toList := by decide
  have hbefore : IsProse (lines "Prose:\r\n".toList) := by decide
  have hafter : IsProse (lines "    ~~~\n".toList) := by decide
  exact ⟨hends, hbefore, hafter,
    (testBlocks_writtenBlock sampleBlock hostLanguage.toList (some "    ~~~\n".toList)
      hends hbefore hafter).1 (by decide),
    (testBlocks_writtenBlock sampleBlock "text".toList (some "    ~~~\n".toList)
      hends hbefore hafter).2 (by decide)⟩

end CrateDoc.Doctest
