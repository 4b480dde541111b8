import CrateDoc.Markdown.Page
import CrateDoc.Proofs.Markdown.Paragraphs

/-!
# The page of prose

No pattern fits anywhere in prose (`inert_patterns`), so that the text of its paragraphs is left as
it is, and nothing in it has to be escaped. `toHtml_prose` says what comes of it: the paragraphs,
each between its tags, on lines of their own.
-/

namespace CrateDoc.Markdown

open CrateDoc.Text

variable {s : List Char} {last c : Char}

/-! ### Patterns -/

/-- A pattern that fits nowhere in prose. -/
def Inert (pattern : Pattern) : Prop :=
  ∀ before last s, IsProseBehind before s → pattern last s = .nothing

theorem IsProseBehind.ne_cons (h : IsProseBehind last s)
    (hc : (isAsciiLetter c || c == '\n' || c == ' ') = false) (rest : List Char) : s ≠ c :: rest :=
  fun heq ↦ h.notMem hc (heq ▸ List.mem_cons_self)

theorem inert_codePattern : Inert codePattern := by
  intro before last s h
  rw [codePattern, ite_self]
  · exact h.ne_cons (by decide)
  · exact h.ne_cons (by decide)

theorem inert_escapePattern : Inert escapePattern := by
  intro before last s h
  rw [escapePattern]
  exact fun c rest ↦ h.ne_cons (by decide) _

theorem inert_onBracket (read? : List Char → List Char → Option Found) :
    Inert (onBracket read?) := by
  intro before last s h
  rw [onBracket]
  exact h.ne_cons (by decide)

theorem inert_onImage (read? : List Char → List Char → Option Found) : Inert (onImage read?) := by
  intro before last s h
  rw [onImage]
  exact fun rest ↦ h.ne_cons (by decide) _

/-- No address in angle brackets begins in prose. -/
theorem angled?_prose (h : IsProseBehind last s) : angled? s = none := by
  rw [angled?]
  exact h.ne_cons (by decide)

theorem inert_webPattern : Inert webPattern := by
  intro before last s h
  rw [webPattern, angled?_prose h]

theorem inert_mailPattern : Inert mailPattern := by
  intro before last s h
  rw [mailPattern, angled?_prose h]

/-- No two spaces stand together. -/
theorem inert_breakPattern : Inert breakPattern := by
  intro before last s h
  rw [breakPattern]
  rintro rest rfl
  obtain ⟨-, h⟩ := isProseBehind_cons_iff.1 h
  rcases (isProseBehind_cons_iff.1 h).1 with h | h | ⟨-, h⟩
  · cases h
  · cases h
  · cases h

theorem inert_htmlPattern : Inert htmlPattern := by
  intro before last s h
  have hcomment : inlineComment? s = none := by
    rw [inlineComment?, if_neg]
    intro hprefix
    obtain ⟨rest, hrest⟩ := List.isPrefixOf_iff_prefix.1 hprefix
    exact h.ne_cons (by decide) _ hrest.symm
  rw [htmlPattern, hcomment, angled?_prose h]

theorem inert_entityPattern : Inert entityPattern := by
  intro before last s h
  rw [entityPattern]
  exact h.ne_cons (by decide)

theorem inert_lonePattern : Inert lonePattern := by
  intro before last s h
  rcases s with - | ⟨mark, rest⟩
  · rfl
  · have hasterisk : mark ≠ '*' := by
      rintro rfl
      exact h.ne_cons (by decide) rest rfl
    have hunderscore : mark ≠ '_' := by
      rintro rfl
      exact h.ne_cons (by decide) rest rfl
    simp [lonePattern, hasterisk, hunderscore]

theorem inert_emphasisPattern {mark : Char}
    (hmark : (isAsciiLetter mark || mark == '\n' || mark == ' ') = false) :
    Inert (emphasisPattern mark) := by
  intro before last s h
  have hhead : s.head? ≠ some mark := fun hhead ↦ h.notMem hmark (List.mem_of_mem_head? hhead)
  rw [emphasisPattern, if_neg hhead]

/-- No pattern fits anywhere in prose. -/
theorem inert_patterns (references : References) :
    ∀ pattern ∈ patterns references, Inert pattern := by
  simp only [patterns, List.forall_mem_cons, List.not_mem_nil, false_imp_iff, implies_true,
    inert_codePattern, inert_escapePattern, inert_onBracket, inert_onImage, inert_webPattern,
    inert_mailPattern, inert_breakPattern, inert_htmlPattern, inert_entityPattern,
    inert_lonePattern, true_and]
  exact ⟨inert_emphasisPattern (by decide), inert_emphasisPattern (by decide), trivial⟩

/-! ### Formatting -/

/-- A pattern that is inert finds nothing in prose. -/
theorem firstFound?_prose {pattern : Pattern} (hpattern : Inert pattern) (fuel : ℕ)
    (before : Option Char) (h : IsProseBehind last s) :
    firstFound? pattern fuel before s = none := by
  induction fuel generalizing before last s with
  | zero => rfl
  | succ fuel ih =>
    rcases s with - | ⟨c, s⟩
    · simp only [firstFound?, hpattern last before [] h]
    · simp only [firstFound?, hpattern last before (c :: s) h]
      show ((firstFound? pattern fuel (some c) s).map _) = none
      rw [ih _ (isProseBehind_cons_iff.1 h).2]
      rfl

/-- Prose is formatted without a change, whatever the patterns, if they are inert. -/
theorem format_prose (h : IsProseBehind last s) (fuel : ℕ) {patterns : List Pattern}
    (hpatterns : ∀ pattern ∈ patterns, Inert pattern) : format fuel patterns s = pure s := by
  induction fuel generalizing patterns with
  | zero => rw [format]
  | succ fuel ih =>
    rcases patterns with - | ⟨pattern, later⟩
    · rw [format]
    · obtain ⟨hpattern, hlater⟩ := List.forall_mem_cons.1 hpatterns
      rw [format, firstFound?_prose hpattern _ _ h]
      exact ih hlater

/-! ### Text without marks -/

theorem splitMarks_of_notMem (hs : s ≠ []) (h : markOpen ∉ s) : splitMarks s = [.plain s] := by
  have hne : ∀ c ∈ s, decide (c ≠ markOpen) = true := fun c hc ↦
    decide_eq_true fun heq ↦ h (heq ▸ hc)
  have htake : s.takeWhile (· ≠ markOpen) = s := List.takeWhile_eq_self_iff.2 hne
  have hdrop : s.dropWhile (· ≠ markOpen) = [] := List.dropWhile_eq_nil_iff.2 hne
  rw [splitMarks, splitMarksWithin]
  simp only [htake, hdrop, List.isEmpty_iff, hs, if_false]

theorem fillMarks_of_notMem (h : markOpen ∉ s) (fill : Mark → Option (List Char)) :
    fillMarks fill s = s := by
  rcases s with - | ⟨c, s⟩
  · rfl
  · rw [fillMarks, splitMarks_of_notMem (List.cons_ne_nil c s) h]
    exact List.append_nil _

theorem place_of_notMem (spans : Array Span) (fuel : ℕ) (hs : s ≠ []) (h : markOpen ∉ s) :
    place spans (fuel + 1) ⟨s, false⟩ = { lead := ⟨s, false⟩ } := by
  rw [place]
  simp [splitMarks_of_notMem hs h, Row.addText, Content.append, hs]

theorem read?_of_notMem (h : markOpen ∉ s) : Mark.read? s = none := by
  rw [Mark.read?]
  exact fun kind rest heq ↦ h (heq ▸ List.mem_cons_self)

theorem fillHtml_of_notMem (stash : Stash) (fuel : ℕ) (h : markOpen ∉ s) :
    fillHtml stash fuel s = s := by
  induction fuel generalizing s with
  | zero => rw [fillHtml]
  | succ fuel ih =>
    rcases s with - | ⟨c, s⟩
    · rw [fillHtml]
    · have hdrop : ∀ n, markOpen ∉ (c :: s).drop n := fun n hmem ↦ h (List.mem_of_mem_drop hmem)
      rw [fillHtml]
      simp only [read?_of_notMem h, read?_of_notMem (hdrop _), Option.bind_none, ite_self]
      exact congrArg (c :: ·) (ih (hdrop 1))

theorem fillAllHtml_of_notMem (stash : Stash) (fuel : ℕ) (h : markOpen ∉ s) :
    fillAllHtml stash fuel s = s := by
  cases fuel with
  | zero => rw [fillAllHtml]
  | succ fuel => rw [fillAllHtml, fillHtml_of_notMem stash _ h, if_pos rfl]

/-! ### The page -/

/-- The formatted text of prose is the text, in front of no span. -/
theorem formatted_prose (references : References) (hs : s ≠ []) (h : IsProse s) :
    formatted references ⟨s, false⟩ = pure { lead := ⟨s, false⟩ } := by
  rw [formatted, if_neg (by simpa using hs)]
  simp only [Bool.false_eq_true, if_false]
  rw [format_prose h _ (inert_patterns references)]
  funext state
  exact congrArg (·, state) (place_of_notMem state.spans _ hs (h.notMem (by decide)))

/-- Paragraphs of prose are what they are after formatting. -/
theorem formatAll_prose (references : References) (fuel : ℕ) {paragraphs : List (List Char)}
    (h : ∀ s ∈ paragraphs, IsParagraph s) :
    formatAll references fuel (paragraphs.map (.ofText "p")) =
      pure (paragraphs.map (.ofText "p")) := by
  induction fuel generalizing paragraphs with
  | zero => rw [formatAll]
  | succ fuel ih =>
    rcases paragraphs with - | ⟨s, paragraphs⟩
    · rw [List.map_nil, formatAll]
    · obtain ⟨hs, hrest⟩ := List.forall_mem_cons.1 h
      have hcontent := formatted_prose references hs.ne_nil hs.isProse
      have htail : formatted references {} = pure {} := rfl
      rw [List.map_cons, formatAll]
      simp only [Element.ofText, Element.content, Element.tail, Element.children, hcontent, htail,
        Bool.false_eq_true, if_false, pure_bind, List.isEmpty_nil, if_true, List.mapM_nil,
        List.nil_append]
      rw [ih hrest]
      rfl

/-- A paragraph on a line of its own. -/
def paragraphLine (s : List Char) : Element := .node "p" ⟨s, false⟩ [] Element.newline

theorem isBlockTag_p : isBlockTag ['p'] = true := by decide

/-- A paragraph is laid out on a line of its own. -/
theorem layOut_paragraph (s : List Char) :
    Element.layOut true (.ofText "p" s) = paragraphLine s := by
  simp [Element.ofText, Element.layOut, paragraphLine, isBlockTag_p, Element.layOutAll,
    Element.isBlankText]

theorem layOutAll_paragraphs (paragraphs : List (List Char)) :
    Element.layOutAll true (paragraphs.map (.ofText "p")) = paragraphs.map paragraphLine := by
  induction paragraphs with
  | nil => rfl
  | cons s paragraphs ih =>
    rw [List.map_cons, Element.layOutAll, layOut_paragraph, ih, List.map_cons]

theorem escapeText_of_notMem (hampersand : '&' ∉ s) (hopen : '<' ∉ s) (hclose : '>' ∉ s) :
    escapeText s = s := by
  fun_induction escapeText s with
  | case1 => rfl
  | case2 => exact absurd List.mem_cons_self hampersand
  | case3 => exact absurd List.mem_cons_self hopen
  | case4 => exact absurd List.mem_cons_self hclose
  | case5 c rest _ _ _ ih =>
    rw [ih (mt (List.mem_cons_of_mem c) hampersand) (mt (List.mem_cons_of_mem c) hopen)
      (mt (List.mem_cons_of_mem c) hclose)]

/-- A page of paragraphs is laid out line by line. -/
theorem layOut_paragraphPage {paragraphs : List (List Char)} (hne : paragraphs ≠ []) :
    Element.layOut true (paragraphPage paragraphs) =
      .node "div" Element.newline (paragraphs.map paragraphLine) Element.newline := by
  obtain ⟨s, paragraphs, rfl⟩ := List.exists_cons_of_ne_nil hne
  have hdiv : isBlockTag ['d', 'i', 'v'] = true := by decide
  have hchildren := layOutAll_paragraphs (s :: paragraphs)
  have htag : (Element.ofText "p" s).tag = "p" := rfl
  rw [List.map_cons] at hchildren
  simp [paragraphPage, Element.layOut, hdiv, hchildren, Element.isBlankText, htag, isBlockTag_p]

/-- Nothing is restored in paragraphs without marks. -/
theorem restoredAll_paragraphs {paragraphs : List (List Char)}
    (h : ∀ s ∈ paragraphs, markOpen ∉ s) :
    restoredAll (paragraphs.map paragraphLine) = paragraphs.map paragraphLine := by
  induction paragraphs with
  | nil => rfl
  | cons s paragraphs ih =>
    obtain ⟨hs, hrest⟩ := List.forall_mem_cons.1 h
    rw [List.map_cons, restoredAll, ih hrest]
    have hnewline : fillLiterals ['\n'] = ['\n'] := fillMarks_of_notMem (by decide) _
    have hliterals : fillLiterals s = s := fillMarks_of_notMem hs _
    simp [paragraphLine, restored, hliterals, Element.newline, hnewline, restoredAll]

/-- What a page of paragraphs is before it is written: every paragraph on a line of its own. -/
theorem restored_layOut_paragraphPage {paragraphs : List (List Char)} (hne : paragraphs ≠ [])
    (h : ∀ s ∈ paragraphs, markOpen ∉ s) :
    restored (Element.layOut true (paragraphPage paragraphs)) =
      .node "div" Element.newline (paragraphs.map paragraphLine) Element.newline := by
  have hnewline : fillLiterals ['\n'] = ['\n'] := fillMarks_of_notMem (by decide) _
  rw [layOut_paragraphPage hne]
  simp [restored, restoredAll_paragraphs h, Element.newline, hnewline]

/-- A paragraph as HTML. -/
def paragraphHtml (s : List Char) : List Char := paragraphTags.1 ++ s ++ paragraphTags.2

/-- A paragraph of prose is written between its tags. -/
theorem write_paragraphLine (h : IsProse s) :
    (paragraphLine s).write = paragraphHtml s ++ ['\n'] := by
  have hescape := escapeText_of_notMem (h.notMem (by decide)) (h.notMem (by decide))
    (h.notMem (by decide))
  simp [paragraphLine, Element.write, Element.isVoid, hescape, Element.writeAll, paragraphHtml,
    paragraphTags, Element.newline, escapeText]

/-- Paragraphs are written one below the other. -/
theorem writeAll_paragraphs {paragraphs : List (List Char)} (hne : paragraphs ≠ [])
    (h : ∀ s ∈ paragraphs, IsProse s) :
    Element.writeAll (paragraphs.map paragraphLine) =
      joinWith ['\n'] (paragraphs.map paragraphHtml) ++ ['\n'] := by
  induction paragraphs with
  | nil => exact absurd rfl hne
  | cons s paragraphs ih =>
    obtain ⟨hs, hrest⟩ := List.forall_mem_cons.1 h
    rw [List.map_cons, Element.writeAll, write_paragraphLine hs, List.map_cons]
    rcases eq_or_ne paragraphs [] with rfl | hmore
    · simp [joinWith, Element.writeAll]
    · rw [ih hmore hrest, joinWith_newline_cons _ (by simpa using hmore)]
      simp

/-- A page of paragraphs begins and ends with a tag, so nothing is stripped off it. -/
theorem isStripped_joinWith {paragraphs : List (List Char)} (hne : paragraphs ≠ []) :
    IsStripped (joinWith ['\n'] (paragraphs.map paragraphHtml)) where
  not_blank_head := by
    obtain ⟨s, paragraphs, rfl⟩ := List.exists_cons_of_ne_nil hne
    obtain ⟨behind, hbehind⟩ :=
      exists_joinWith_cons (paragraphHtml s) (paragraphs.map paragraphHtml)
    rw [List.map_cons, hbehind]
    intro c hc
    have hopen : '<' = c := Option.some_inj.1 hc
    rw [← hopen]
    decide
  not_blank_last := by
    rcases List.eq_nil_or_concat paragraphs with rfl | ⟨paragraphs, s, rfl⟩
    · exact absurd rfl hne
    have hlast : (paragraphHtml s).getLast? = some '>' :=
      List.getLast?_append_of_ne_nil _ (List.cons_ne_nil '<' _)
    have hjoin : (joinWith ['\n'] ((paragraphs.concat s).map paragraphHtml)).getLast? =
        some '>' := by
      rw [List.concat_eq_append, List.map_append, List.map_singleton]
      rcases eq_or_ne paragraphs [] with rfl | hmore
      · simpa [joinWith] using hlast
      · rw [joinWith_newline_append_singleton (by simpa using hmore), List.getLast?_append,
          List.getLast?_cons, hlast]
        rfl
    rw [hjoin]
    intro c hc
    have hclose : '>' = c := Option.some_inj.1 hc
    rw [← hclose]
    decide

/-- No mark is left in the page. -/
theorem notMem_joinWith_paragraphs {paragraphs : List (List Char)}
    (h : ∀ s ∈ paragraphs, markOpen ∉ s) :
    markOpen ∉ joinWith ['\n'] (paragraphs.map paragraphHtml) := by
  intro hmem
  rcases mem_joinWith_newline hmem with hnewline | ⟨html, hhtml, hmem⟩
  · exact absurd hnewline (by decide)
  · obtain ⟨s, hs, rfl⟩ := List.mem_map.1 hhtml
    have hopens : markOpen ∉ paragraphTags.1 := by decide
    have hcloses : markOpen ∉ paragraphTags.2 := by decide
    simp [paragraphHtml, hopens, hcloses, h s hs] at hmem

/-- **The page of prose is its paragraphs**, each between its tags, and a newline between them. -/
theorem toHtml_prose (h : IsProse s) (hblank : ¬ AllBlank s) :
    toHtml s = .ok (joinWith ['\n'] ((paragraphs (s ++ ['\n', '\n'])).map paragraphHtml)) := by
  obtain ⟨newlines, first, more, behind, heq, -⟩ := exists_paragraphs_eq_cons h hblank
  have hne : paragraphs (s ++ ['\n', '\n']) ≠ [] := heq ▸ List.cons_ne_nil first more
  have hend := h.append_newlines
  have hnot : ∀ {c : Char}, (isAsciiLetter c || c == '\n' || c == ' ') = false →
      c ∉ s ++ ['\n', '\n'] := fun hc ↦ hend.notMem hc
  have hparagraph : ∀ t ∈ paragraphs (s ++ ['\n', '\n']), IsParagraph t := fun t ht ↦
    isParagraph_of_mem_paragraphs hend ht
  have hmark : ∀ t ∈ paragraphs (s ++ ['\n', '\n']), markOpen ∉ t := fun t ht ↦
    (hparagraph t ht).isProse.notMem (by decide)
  rw [toHtml, if_neg (by simpa [strip_eq_nil_iff] using hblank), normalise_prose h,
    takeFences_of_notMem (hnot (by decide)) (hnot (by decide))]
  have hlong : s ++ ['\n', '\n'] ≠ [] :=
    List.append_ne_nil_of_right_ne_nil s (List.cons_ne_nil '\n' ['\n'])
  simp only [takeHtmlBlocks_of_notMem [] hlong (hnot (by decide)) (hnot (by decide)),
    structured_prose hend, bind, Except.bind]
  -- from here on nothing but the paragraphs matters
  generalize paragraphs (s ++ ['\n', '\n']) = ps at hne hparagraph hmark
  have hchildren : (paragraphPage ps).children = ps.map (.ofText "p") := rfl
  have hpage : (paragraphPage ps).withChildren (ps.map (.ofText "p")) = paragraphPage ps := rfl
  have hhtml := notMem_joinWith_paragraphs hmark
  have hstripped := (isStripped_joinWith hne).strip_eq
  rw [hchildren, formatAll_prose _ _ hparagraph, StateT.run_pure]
  refine congrArg Except.ok ?_
  show strip (fillMarks _ (fillAllHtml [] _ (strip _))) = _
  rw [hpage, restored_layOut_paragraphPage hne hmark]
  have hnewline : AllBlank ['\n'] := by decide
  show strip (fillMarks _ (fillAllHtml [] _ (strip
    (['\n'] ++ Element.writeAll (ps.map paragraphLine))))) = _
  rw [writeAll_paragraphs hne fun t ht ↦ (hparagraph t ht).isProse, strip_allBlank_append hnewline,
    strip_append_of_allBlank _ hnewline, hstripped, fillAllHtml_of_notMem _ _ hhtml,
    fillMarks_of_notMem hhtml, hstripped]

end CrateDoc.Markdown
