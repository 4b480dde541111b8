import CrateDoc.Proofs.Doctest.RoundTrip

/-!
# Source texts between two fences

A source text that is put between two lines of marks (`fenced`) is the one test of the text that
this makes, character for character, if each of its lines stands there for itself (`IsVerbatim`).
Lines are told apart at every line end, though, and put together with newlines, so that what is read
as a test holds no other line end (`eq_newline_of_mem_testBlocks`). A source text that holds one
does not come back, and `testBlocks_fenced_eq_iff` says that no other is lost.
-/

namespace CrateDoc.Doctest

open CrateDoc.Text

/-- A source text between a line of marks that opens a block and a line of marks that closes it. -/
def fenced (mark : Char) (size : ℕ) (source : List Char) : List Char :=
  List.replicate size mark ++ '\n' :: (source ++ '\n' :: List.replicate size mark)

/-- A line stands in a block for itself: it does not close the block, and behind its white space is
no marker that would be taken off or reduced. -/
structure IsVerbatim (mark : Char) (size : ℕ) (line : List Char) : Prop where
  noReturn : '\r' ∉ line
  noDouble : ¬ ['#', '#'] <+: line.dropWhile isBlank
  noHidden : ¬ ['#', ' '] <+: line.dropWhile isBlank
  isOpen : ¬ ClosesFence mark size line

/-! ### Line ends of a test -/

/-- A line loses characters when its marker is taken off or reduced, and gains none. -/
theorem reveal_sublist (line : List Char) : (reveal line).Sublist line := by
  have hsplit : line.takeWhile isBlank ++ line.dropWhile isBlank = line :=
    List.takeWhile_append_dropWhile
  fun_cases reveal line with
  | case1 leading rest heq =>
    rw [heq] at hsplit
    have hrest : ('#' :: rest).Sublist ('#' :: '#' :: rest) := List.sublist_cons_self _ _
    exact hsplit ▸ hrest.append_left (line.takeWhile isBlank)
  | case2 leading rest heq =>
    rw [heq] at hsplit
    have hrest : rest.Sublist ('#' :: ' ' :: rest) := (List.sublist_cons_self _ _).cons _
    exact hsplit ▸ hrest.append_left (line.takeWhile isBlank)
  | case3 => exact List.Sublist.refl line

/-- The body of a block stands among the lines that divide into it and others. -/
theorem Divides.mem_of_mem_body {ls : List (List Char)} {blocks : List Block} {block : Block}
    (h : Divides ls blocks) (hblock : block ∈ blocks) : ∀ l ∈ block.body, l ∈ ls := by
  induction h with
  | nil => cases hblock
  | prose _ _ ih => exact fun l hl ↦ List.mem_cons_of_mem _ (ih hblock l hl)
  | @closed fence info opening closing body rest blocks _ _ _ _ ih =>
    intro l hl
    rcases List.mem_cons.1 hblock with rfl | hblock
    · exact List.mem_cons_of_mem _ (List.mem_append_left _ hl)
    · have hrest : l ∈ closing :: rest := List.mem_cons_of_mem _ (ih hblock l hl)
      exact List.mem_cons_of_mem _ (List.mem_append_right _ hrest)
  | unclosed _ _ =>
    intro l hl
    rw [List.mem_singleton.1 hblock] at hl
    exact List.mem_cons_of_mem _ hl

/-- The source lines of a block are lines, if those of the text are. -/
theorem Divides.isLine_of_mem_sourceLines {ls : List (List Char)} {blocks : List Block}
    {block : Block} (h : Divides ls blocks) (hls : ∀ l ∈ ls, IsLine l) (hblock : block ∈ blocks) :
    ∀ l ∈ block.sourceLines, IsLine l := by
  intro l hl
  obtain ⟨line, hline, rfl⟩ := List.mem_map.1 hl
  have hkept : (reveal (block.fence.dedent line)).Sublist line :=
    (reveal_sublist _).trans (List.drop_sublist _ _)
  exact fun c hc ↦ hls line (h.mem_of_mem_body hblock line hline) c (hkept.subset hc)

/-- Every line end in a test is a newline. -/
theorem eq_newline_of_mem_testBlocks {docs language source : List Char}
    (h : source ∈ testBlocks docs language) :
    ∀ c ∈ source, isLineEnd c = true → c = '\n' := by
  obtain ⟨blocks, hblocks⟩ := exists_divides (lines docs)
  rw [testBlocks_of_divides hblocks] at h
  obtain ⟨block, hblock, rfl⟩ := List.mem_map.1 h
  have hlines := hblocks.isLine_of_mem_sourceLines (fun l hl ↦ isLine_of_mem_lines hl)
    (List.mem_of_mem_filter hblock)
  intro c hc hend
  rcases mem_joinWith_newline hc with hnewline | ⟨l, hl, hmem⟩
  · exact hnewline
  · rw [hlines l hl c hmem] at hend
    cases hend

/-! ### Reading a fenced source -/

variable {mark : Char} {size : ℕ} {source : List Char}

/-- The fence that a line of marks opens. -/
def plainFence (mark : Char) (size : ℕ) : Fence := ⟨mark, size, 0, []⟩

theorem plainFence_openedBy (hmark : IsFenceMark mark) (hsize : 3 ≤ size) :
    (plainFence mark size).OpenedBy [] (List.replicate size mark) where
  indent_le_three := Nat.zero_le 3
  isFenceMark := hmark
  three_le_size := hsize
  isInfo := ⟨by simp, by simp⟩
  info_eq := rfl
  line_eq := by simp [plainFence, fenceLine]

theorem closesFence_replicate (mark : Char) (size : ℕ) :
    ClosesFence mark size (List.replicate size mark) :=
  ⟨0, size, [], by omega, le_refl size, by simp, by simp [fenceLine]⟩

/-- Where every line end of the source is a newline, the lines of the fenced source are those of the
source between the two lines of marks. -/
theorem lines_fenced (hmark : IsFenceMark mark) (hsize : 3 ≤ size)
    (hends : ∀ c ∈ source, isLineEnd c = true → c = '\n') :
    lines (fenced mark size source) =
      List.replicate size mark :: (newlineLines source ++ [List.replicate size mark]) := by
  have hmarks : IsLine (List.replicate size mark) := (closesFence_replicate mark size).isLine hmark
  have hne : List.replicate size mark ≠ [] := by
    rw [Ne, List.replicate_eq_nil_iff]
    omega
  have hlines : newlineLines source ≠ [] := pieces_ne_nil _ source
  have htext : source ++ '\n' :: List.replicate size mark =
      joinWith ['\n'] (newlineLines source ++ [List.replicate size mark]) := by
    rw [joinWith_newline_append_singleton hlines, joinWith_newlineLines]
  rw [fenced, lines_append_newline hmarks, htext,
    lines_joinWith_newline (fun l hl ↦ isLine_of_mem_newlineLines hends hl),
    lines_of_isLine hmarks hne]

/-- Lines that stand for themselves are the source that is read from a block of them. -/
theorem source_of_isVerbatim {body : List (List Char)}
    (h : ∀ l ∈ body, IsVerbatim mark size l) :
    Block.source ⟨plainFence mark size, body⟩ = joinWith ['\n'] body := by
  have hlines : ∀ l ∈ body, reveal ((plainFence mark size).dedent l) = l := by
    intro l hl
    have hdedent : (plainFence mark size).dedent l = l := dedent_replicate (plainFence mark size) l
    rw [hdedent]
    exact reveal_eq_self (h l hl).noDouble (h l hl).noHidden
  rw [Block.source, Block.sourceLines, List.map_congr_left hlines, List.map_id']

/-- A fenced source whose line ends are newlines is read as it was written. -/
theorem testBlocks_fenced (hmark : IsFenceMark mark) (hsize : 3 ≤ size)
    (hlines : ∀ l ∈ newlineLines source, IsVerbatim mark size l)
    (hends : ∀ c ∈ source, isLineEnd c = true → c = '\n') (language : List Char) :
    testBlocks (fenced mark size source) language = [source] := by
  have hopen : ∀ l ∈ newlineLines source, ¬ ClosesFence mark size l :=
    fun l hl ↦ (hlines l hl).isOpen
  have hdivides : Divides (lines (fenced mark size source))
      [⟨plainFence mark size, newlineLines source⟩] := by
    rw [lines_fenced hmark hsize hends]
    exact .closed (plainFence_openedBy hmark hsize) hopen (closesFence_replicate mark size) .nil
  have hfor : IsFor language (plainFence mark size).info := by
    simp [IsFor, plainFence, words, pieces]
  rw [testBlocks_of_divides hdivides]
  simp [hfor, source_of_isVerbatim hlines, joinWith_newlineLines]

/-- **A fenced source is kept character for character**, for every language, exactly if no line end
stands in it but the newline and the carriage return. The source is put between lines of three or
more marks, and each of its lines, as newlines divide it, stands there for itself. -/
theorem testBlocks_fenced_eq_iff (hmark : IsFenceMark mark) (hsize : 3 ≤ size)
    (hlines : ∀ l ∈ newlineLines source, IsVerbatim mark size l) (language : List Char) :
    testBlocks (fenced mark size source) language = [source] ↔
      ∀ c ∈ source, c ∉ otherLineEnds := by
  constructor
  · intro h c hc hother
    have hmem : source ∈ testBlocks (fenced mark size source) language := by simp [h]
    have hnewline : c = '\n' :=
      eq_newline_of_mem_testBlocks hmem c hc (isLineEnd_iff.2 (.inr (.inr hother)))
    rw [hnewline] at hother
    exact absurd hother (by decide)
  · intro h
    refine testBlocks_fenced hmark hsize hlines (fun c hc hend ↦ ?_) language
    rcases isLineEnd_iff.1 hend with hnewline | hreturn | hother
    · exact hnewline
    · rw [← joinWith_newlineLines source] at hc
      rcases mem_joinWith_newline hc with hnewline | ⟨l, hl, hmem⟩
      · exact hnewline
      · exact absurd (hreturn ▸ hmem) (hlines l hl).noReturn
    · exact absurd hother (h c hc)

/-! ### A source that holds a line separator -/

/-- A program with a character between two words of a text, an attribute, and marks of another
fence. -/
def sampleSource (between : Char) : List Char :=
  "let a = \"x".toList ++ between :: "y\";\n  #[b]\n\t~~~\n``".toList

theorem isVerbatim_sampleSource {between : Char} (h : between = '\t' ∨ between = '\u2028') :
    ∀ l ∈ newlineLines (sampleSource between), IsVerbatim '\x60' 3 l := by
  have hopened : (plainFence '\x60' 3).OpenedBy [] (List.replicate 3 '\x60') :=
    plainFence_openedBy (.inl rfl) (le_refl 3)
  have hall : ∀ l ∈ newlineLines (sampleSource between),
      '\r' ∉ l ∧ ¬ ['#', '#'] <+: l.dropWhile isBlank ∧ ¬ ['#', ' '] <+: l.dropWhile isBlank ∧
        (plainFence '\x60' 3).closes l = false := by
    rcases h with rfl | rfl
    · decide
    · decide
  intro l hl
  obtain ⟨hreturn, hdouble, hhidden, hcloses⟩ := hall l hl
  refine ⟨hreturn, hdouble, hhidden, fun h ↦ ?_⟩
  rw [hopened.closes_iff.2 h] at hcloses
  cases hcloses

/-- With a tab between the words the program is kept. -/
theorem testBlocks_fenced_sampleSource :
    IsFenceMark '\x60' ∧ (∀ l ∈ newlineLines (sampleSource '\t'), IsVerbatim '\x60' 3 l) ∧
      testBlocks (fenced '\x60' 3 (sampleSource '\t')) hostLanguage.toList =
        [sampleSource '\t'] := by
  have hlines : ∀ l ∈ newlineLines (sampleSource '\t'), IsVerbatim '\x60' 3 l :=
    isVerbatim_sampleSource (.inl rfl)
  have hall : (sampleSource '\t').all (fun c ↦ !otherLineEnds.contains c) = true := by decide
  have hends : ∀ c ∈ sampleSource '\t', c ∉ otherLineEnds := by
    intro c hc
    simpa using List.all_eq_true.1 hall c hc
  exact ⟨.inl rfl, hlines,
    (testBlocks_fenced_eq_iff (.inl rfl) (le_refl 3) hlines hostLanguage.toList).2 hends⟩

/-- With a line separator between the words it is not. -/
theorem not_testBlocks_fenced :
    ¬ ∀ source : List Char, (∀ l ∈ newlineLines source, IsVerbatim '\x60' 3 l) →
      testBlocks (fenced '\x60' 3 source) hostLanguage.toList = [source] := by
  intro h
  have hkept := h (sampleSource '\u2028') (isVerbatim_sampleSource (.inr rfl))
  have hmem : sampleSource '\u2028' ∈
      testBlocks (fenced '\x60' 3 (sampleSource '\u2028')) hostLanguage.toList := by
    rw [hkept]
    exact List.mem_singleton_self _
  have hnewline : '\u2028' = '\n' :=
    eq_newline_of_mem_testBlocks hmem '\u2028' (by decide) (by decide)
  exact absurd hnewline (by decide)

end CrateDoc.Doctest
