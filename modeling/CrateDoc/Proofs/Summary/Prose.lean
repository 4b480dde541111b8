import CrateDoc.Proofs.Html.FirstBlock
import CrateDoc.Proofs.Markdown.ProsePage
import CrateDoc.Proofs.Summary.Paragraph

/-!
# Both summaries of prose

A text of words with single spaces between them, on lines that may be empty (`IsWordLine`), is
prose, so that its page is known (`toHtml_prose`). All of that page can be read
(`isReadable_paragraphs`), and the text of its first block is the first paragraph with its lines
joined (`firstBlock_of_paragraph`). The summary of the source is that paragraph too:
`plainSummary_eq_exchange_summary` says that they agree up to newlines.
-/

namespace CrateDoc

open CrateDoc.Text CrateDoc.Html CrateDoc.Markdown

/-- A line of words of letters with single spaces between them. An empty line has no words. -/
def IsWordLine (line : List Char) : Prop :=
  ∃ words : List (List Char), (∀ w ∈ words, w ≠ [] ∧ ∀ c ∈ w, isAsciiLetter c = true) ∧
    line = joinWith [' '] words

variable {s docs : List Char}

/-! ### Lines of words -/

/-- Letters are prose behind whatever character. -/
theorem isProseBehind_of_letters {last : Char} (h : ∀ c ∈ s, isAsciiLetter c = true) :
    IsProseBehind last s := by
  induction s generalizing last with
  | nil => exact .nil
  | cons c s ih =>
    obtain ⟨hc, hs⟩ := List.forall_mem_cons.1 h
    exact isProseBehind_cons_iff.2 ⟨.inl hc, ih hs⟩

/-- Behind a letter, a word may end in a space. -/
theorem isProseBehind_append_space {last : Char} (hlast : isAsciiLetter last = true)
    (hs : ∀ c ∈ s, isAsciiLetter c = true) {t : List Char} (ht : IsProseBehind ' ' t) :
    IsProseBehind last (s ++ ' ' :: t) := by
  induction s generalizing last with
  | nil => exact isProseBehind_cons_iff.2 ⟨.inr (.inr ⟨rfl, hlast⟩), ht⟩
  | cons c s ih =>
    obtain ⟨hc, hs⟩ := List.forall_mem_cons.1 hs
    exact isProseBehind_cons_iff.2 ⟨.inl hc, ih hc hs⟩

/-- Words of letters, one blank apart, are prose. -/
theorem isProseBehind_joinWith {words : List (List Char)} (last : Char)
    (h : ∀ w ∈ words, w ≠ [] ∧ ∀ c ∈ w, isAsciiLetter c = true) :
    IsProseBehind last (joinWith [' '] words) := by
  induction words generalizing last with
  | nil => exact .nil
  | cons w words ih =>
    obtain ⟨⟨hne, hletters⟩, hwords⟩ := List.forall_mem_cons.1 h
    rcases eq_or_ne words [] with rfl | hmore
    · simpa [joinWith] using isProseBehind_of_letters hletters
    · obtain ⟨c, w, rfl⟩ := List.exists_cons_of_ne_nil hne
      obtain ⟨hc, hw⟩ := List.forall_mem_cons.1 hletters
      rw [joinWith, List.intercalate_cons_of_ne_nil hmore, List.append_assoc]
      exact isProseBehind_cons_iff.2 ⟨.inl hc, isProseBehind_append_space hc hw (ih ' ' hwords)⟩

/-- A line of words is prose. -/
theorem IsWordLine.isProse (h : IsWordLine s) : IsProse s := by
  obtain ⟨words, hwords, rfl⟩ := h
  exact isProseBehind_joinWith '\n' hwords

theorem isProse_joinWith {lines : List (List Char)} (h : ∀ line ∈ lines, IsProse line) :
    IsProse (joinWith ['\n'] lines) := by
  induction lines with
  | nil => exact .nil
  | cons line lines ih =>
    obtain ⟨hline, hlines⟩ := List.forall_mem_cons.1 h
    rcases eq_or_ne lines [] with rfl | hmore
    · simpa [joinWith] using hline
    · rw [joinWith_newline_cons line hmore]
      exact hline.append_newline (ih hlines)

/-- Lines of words are prose. -/
theorem isProse_of_isWordLine (h : ∀ line ∈ newlineLines docs, IsWordLine line) :
    IsProse docs := by
  rw [← joinWith_newlineLines docs]
  exact isProse_joinWith fun line hline ↦ (h line hline).isProse

/-! ### Reading the page -/

/-- A cursor before the end of a tag skips nothing that does not go past it. -/
theorem skip_close {p : Char → Bool} (hclose : p '>' = false) (last : Char) (rest : List Char) :
    Cursor.skip p ⟨last, '>' :: rest⟩ = ⟨last, '>' :: rest⟩ := by
  simp [Cursor.skip, hclose]

/-- Behind the name of a tag that ends at once there are no attributes. -/
theorem readAttributes_close (setting : Html.Setting) (stop fuel : ℕ) (rest : List Char) :
    readAttributes setting stop fuel ⟨'p', '>' :: rest⟩ = ([], ⟨'p', '>' :: rest⟩) := by
  have hlast : (isQuote 'p' || isBlank 'p' || 'p' == '/') = false := by decide
  cases fuel with
  | zero => rfl
  | succ fuel =>
    simp only [readAttributes, hlast, Bool.and_false, Bool.false_and, Bool.false_eq_true, if_false]

/-- The opening tag of a paragraph is read as one. -/
theorem read_opening (rest : List Char) :
    Opening.read .page ('<' :: 'p' :: '>' :: rest) =
      .ok (.tag ['p'] ['<', 'p', '>'] false rest) := by
  have hname : ('p' :: '>' :: rest).takeWhile (fun c ↦ !endsTagName .page c) = ['p'] := by
    have hletter : endsTagName .page 'p' = false := by decide
    have hclose : endsTagName .page '>' = true := by decide
    simp [hletter, hclose]
  have hgap : skipGap 'p' ('>' :: rest) = ⟨'p', '>' :: rest⟩ := rfl
  have hlower : asciiLower 'p' = 'p' := rfl
  have hmark : strip ['>'] = ['>'] := by decide
  have hlength : rest.length + 1 + 1 + 1 - rest.length = 3 := by omega
  rw [Opening.read]
  simp only [List.drop_succ_cons, List.drop_zero, hname, List.getLast?_singleton,
    Option.getD_some, List.length_singleton]
  rw [skip_close (by decide), readAttributes_close, skip_close (by decide)]
  simp only [hgap, readAttributes_close]
  -- There are no values, so no reference in one can be wrong.
  simp [hmark, hlower, hlength, pure, Except.pure, bind, Except.bind]

theorem read_closing (rest : List Char) : Closing.read ('p' :: '>' :: rest) = .tag ['p'] rest := by
  have hcut : cutAt? ['>'] ('p' :: '>' :: rest) = some (['p'], rest) :=
    cutAt?_append (s := ['p']) (by decide) [] rest
  have hmark : strip ['p'] = ['p'] := by decide
  have hletter : isAsciiLetter 'p' = true := by decide
  have hend : isEndTagCharacter 'p' = true := by decide
  have hlower : asciiLower 'p' = 'p' := rfl
  simp [Closing.read, hcut, hmark, hletter, hend, hlower]

theorem ofMarkup_opening (rest : List Char) :
    Event.ofMarkup ('<' :: 'p' :: '>' :: rest) = .ok ([.opened "p"], rest) := by
  have hletter : isAsciiLetter 'p' = true := by decide
  have hraw : Event.isRawElement ['p'] = false := by decide
  simp [Event.ofMarkup, hletter, read_opening, hraw, bind, Except.bind, pure, Except.pure]

theorem ofMarkup_closing (rest : List Char) :
    Event.ofMarkup ('<' :: '/' :: 'p' :: '>' :: rest) = .ok ([.closed "p"], rest) := by
  simp [Event.ofMarkup, read_closing]

section

variable {rest behind : List Char} {events : List Event}

/-- Text without references is an event as it stands. -/
theorem ofContent_of_notMem (hampersand : '&' ∉ s) :
    Event.ofContent s = .ok (if s.isEmpty then [] else [.text s]) := by
  have hread : unescape s = .ok s := unescapeWithin_of_notMem hampersand
  rw [Event.ofContent, hread]
  split_ifs
  · rfl
  · rfl

/-- Text up to the next tag is read in one piece. -/
theorem ofTextWithin_append (fuel : ℕ) (hangle : '<' ∉ s) (hampersand : '&' ∉ s)
    (hmarkup : Event.ofMarkup ('<' :: rest) = .ok (events, behind)) :
    Event.ofTextWithin (fuel + 1) (s ++ '<' :: rest) =
      (Event.ofTextWithin fuel behind).map fun more ↦
        (if s.isEmpty then [] else [.text s]) ++ events ++ more := by
  have hkept : ∀ c ∈ s, decide (c ≠ '<') = true := fun c hc ↦
    decide_eq_true fun heq ↦ hangle (heq ▸ hc)
  have hcontent : (s ++ '<' :: rest).takeWhile (· ≠ '<') = s := by
    rw [List.takeWhile_append_of_pos hkept, List.takeWhile_cons_of_neg (by decide),
      List.append_nil]
  have hbehind : (s ++ '<' :: rest).dropWhile (· ≠ '<') = '<' :: rest := by
    rw [List.dropWhile_append_of_pos hkept, List.dropWhile_cons_of_neg (by decide)]
  rw [Event.ofTextWithin, hcontent, hbehind, ofContent_of_notMem hampersand]
  simp only [bind, Except.bind, List.isEmpty_cons, Bool.false_eq_true, if_false, hmarkup]
  rcases Event.ofTextWithin fuel behind with e | more
  · rfl
  · rfl

/-- A page in which nothing is met that cannot be read, however far it is read. -/
def IsReadable (page : List Char) : Prop :=
  ∀ fuel, ∃ events, Event.ofTextWithin fuel page = .ok events

/-- Text without markup is readable. -/
theorem isReadable_of_notMem (hangle : '<' ∉ s) (hampersand : '&' ∉ s) : IsReadable s := by
  intro fuel
  rcases fuel with - | fuel
  · exact ⟨[], rfl⟩
  have hkept : ∀ c ∈ s, decide (c ≠ '<') = true := fun c hc ↦
    decide_eq_true fun heq ↦ hangle (heq ▸ hc)
  have hcontent : s.takeWhile (· ≠ '<') = s := List.takeWhile_eq_self_iff.2 hkept
  have hbehind : s.dropWhile (· ≠ '<') = [] := List.dropWhile_eq_nil_iff.2 hkept
  refine ⟨if s.isEmpty then [] else [.text s], ?_⟩
  rw [Event.ofTextWithin, hcontent, hbehind, ofContent_of_notMem hampersand]
  rfl

/-- A readable page stays readable with a tag before it, and text before that. -/
theorem IsReadable.append (hbehind : IsReadable behind) (hangle : '<' ∉ s) (hampersand : '&' ∉ s)
    (hmarkup : Event.ofMarkup ('<' :: rest) = .ok (events, behind)) :
    IsReadable (s ++ '<' :: rest) := by
  intro fuel
  rcases fuel with - | fuel
  · exact ⟨[], rfl⟩
  obtain ⟨more, hmore⟩ := hbehind fuel
  rw [ofTextWithin_append fuel hangle hampersand hmarkup, hmore]
  exact ⟨_, rfl⟩

end

/-- A paragraph in front of a text is its tags around its own text. -/
theorem paragraphHtml_append (s rest : List Char) : paragraphHtml s ++ rest =
    '<' :: 'p' :: '>' :: (s ++ '<' :: '/' :: 'p' :: '>' :: rest) := by
  simp [paragraphHtml, paragraphTags]

/-- Paragraphs without markup in them are readable, with a text before them. -/
theorem isReadable_paragraphs {ps : List (List Char)} {gap : List Char}
    (hps : ∀ p ∈ ps, '<' ∉ p ∧ '&' ∉ p) (hangle : '<' ∉ gap) (hampersand : '&' ∉ gap) :
    IsReadable (gap ++ joinWith ['\n'] (ps.map paragraphHtml)) := by
  induction ps generalizing gap with
  | nil =>
    rw [List.map_nil, joinWith, List.intercalate_nil, List.append_nil]
    exact isReadable_of_notMem hangle hampersand
  | cons p ps ih =>
    obtain ⟨⟨hp, hp'⟩, hps⟩ := List.forall_mem_cons.1 hps
    obtain ⟨behind, hjoin, hbehind⟩ : ∃ behind,
        joinWith ['\n'] ((p :: ps).map paragraphHtml) = paragraphHtml p ++ behind ∧
          IsReadable behind := by
      rcases eq_or_ne ps [] with rfl | hmore
      · exact ⟨[], by simp [joinWith], isReadable_of_notMem List.not_mem_nil List.not_mem_nil⟩
      · refine ⟨['\n'] ++ joinWith ['\n'] (ps.map paragraphHtml), ?_,
          ih hps (by decide) (by decide)⟩
        rw [List.map_cons, joinWith_newline_cons _ (by simpa using hmore)]
        rfl
    rw [hjoin, paragraphHtml_append]
    exact (hbehind.append hp hp' (ofMarkup_closing behind)).append hangle hampersand
      (ofMarkup_opening _)

/-- The events of a page that begins with a paragraph begin with those of the paragraph. -/
theorem exists_ofText_paragraph (hs : s ≠ []) (hangle : '<' ∉ s) (hampersand : '&' ∉ s)
    {rest : List Char} (hrest : IsReadable rest) : ∃ more, Event.ofText (paragraphHtml s ++ rest) =
      .ok (.opened "p" :: .text s :: .closed "p" :: more) := by
  obtain ⟨fuel, hfuel⟩ : ∃ fuel, (paragraphHtml s ++ rest).length = fuel + 2 :=
    ⟨_, by rw [paragraphHtml_append, List.length_cons, List.length_cons]⟩
  obtain ⟨more, hmore⟩ := hrest (fuel + 1)
  refine ⟨more, ?_⟩
  have hempty : s.isEmpty = false := by simpa using hs
  rw [Event.ofText, hfuel, paragraphHtml_append]
  show Event.ofTextWithin (fuel + 1 + 1 + 1) ([] ++ '<' :: _) = _
  rw [ofTextWithin_append _ List.not_mem_nil List.not_mem_nil (ofMarkup_opening _),
    ofTextWithin_append _ hangle hampersand (ofMarkup_closing rest), hmore, hempty]
  rfl

/-- What is collected from a page that begins with a paragraph is the paragraph on one line. -/
theorem firstBlock_of_paragraph (s : List Char) (more : List Event) :
    firstBlock (.opened "p" :: .text s :: .closed "p" :: more) = strip (exchange '\n' ' ' s) := by
  have hpage : (Beginning.inside (.whole .empty) "p" (.text .empty s)).events =
      upToBlockEnd (.opened "p" :: .text s :: .closed "p" :: more) := rfl
  have hcode : "code" ∉ (Beginning.inside (.whole .empty) "p" (.text .empty s)).opens := by
    simp [Beginning.opens]
  rw [firstBlock_eq_strip_said hpage hcode]
  rfl

/-! ### Summaries -/

/-- Newlines and blanks are stripped alike, so they may be exchanged before or after. -/
theorem strip_exchange (s : List Char) :
    strip (exchange '\n' ' ' s) = exchange '\n' ' ' (strip s) := by
  have hmap : ∀ t : List Char,
      exchange '\n' ' ' t = t.flatMap fun c ↦ [if c = '\n' then ' ' else c] := fun t ↦
    List.map_eq_flatMap
  rw [hmap, hmap]
  refine strip_flatMap (fun c hc ↦ ?_) (fun c hc ↦ ?_) s
  · split_ifs
    · decide
    · exact fun d hd ↦ (List.mem_singleton.1 hd).symm ▸ hc
  · rw [if_neg]
    rintro rfl
    cases hc

/-- In prose nothing but a newline or a letter stands behind a newline. -/
theorem not_holdsBreak_of_isProse (h : IsProse s) (hpair : ¬ ['\n', '\n'] <:+: s) :
    ¬ HoldsBreak s := by
  rintro ⟨_, ⟨gap, hgap, rfl⟩, hinfix⟩
  rcases gap with - | ⟨c, gap⟩
  · exact hpair hinfix
  · have hchain := List.IsChain.infix (List.IsChain.of_cons h) hinfix
    have hfollow : isAsciiLetter c = true ∨ c = '\n' ∨ c = ' ' ∧ isAsciiLetter '\n' = true :=
      (List.isChain_cons_cons.1 hchain).1
    rcases hgap c List.mem_cons_self with rfl | rfl
    · exact absurd hfollow (by decide)
    · exact absurd hfollow (by decide)

/-- The first paragraph of prose is what both summaries are made of, and behind it in the page
stands nothing that cannot be read. -/
theorem exists_firstParagraph (h : IsProse docs) (hblank : ¬ AllBlank docs) :
    ∃ first, IsParagraph first ∧ summary docs = strip first ∧
      ∃ behind, toHtml docs = .ok (paragraphHtml first ++ behind) ∧ IsReadable behind := by
  obtain ⟨newlines, first, more, behind, hparagraphs, hnewlines, htext, hpair⟩ :=
    exists_paragraphs_eq_cons h hblank
  have hparagraph : ∀ p ∈ first :: more, IsParagraph p := fun p hp ↦
    isParagraph_of_mem_paragraphs h.append_newlines (hparagraphs ▸ hp)
  have hfirst := hparagraph first List.mem_cons_self
  have hend : AllBlank ['\n', '\n'] := by decide
  have hsummary : summary docs = strip first := by
    have hstrip : strip docs = strip (first ++ '\n' :: '\n' :: behind) := by
      rw [← strip_append_of_allBlank docs hend, htext, strip_allBlank_append hnewlines]
    rw [summary, hstrip, ← summary, summary_append_emptyLine hfirst.not_allBlank
      (not_holdsBreak_of_isProse hfirst.isProse hpair)]
  have hmarkup : ∀ p ∈ more, '<' ∉ p ∧ '&' ∉ p := fun p hp ↦
    have hprose := (hparagraph p (List.mem_cons_of_mem first hp)).isProse
    ⟨hprose.notMem (by decide), hprose.notMem (by decide)⟩
  refine ⟨first, hfirst, hsummary, ?_⟩
  rw [toHtml_prose h hblank, hparagraphs, List.map_cons]
  -- behind the first paragraph nothing or the other paragraphs stand
  rcases eq_or_ne more [] with rfl | hmore
  · exact ⟨[], by simp [joinWith], isReadable_of_notMem List.not_mem_nil List.not_mem_nil⟩
  · rw [joinWith_newline_cons _ (by simpa using hmore)]
    have hangle : '<' ∉ ['\n'] := by decide
    have hampersand : '&' ∉ ['\n'] := by decide
    exact ⟨_, rfl, isReadable_paragraphs hmarkup hangle hampersand⟩

/-- **The summaries of prose agree**: the plain summary is the summary with its lines joined. -/
theorem plainSummary_eq_exchange_summary (h : ∀ line ∈ newlineLines docs, IsWordLine line) :
    plainSummary docs = .ok (exchange '\n' ' ' (summary docs)) := by
  have hprose := isProse_of_isWordLine h
  by_cases hblank : AllBlank docs
  · have hstrip := strip_eq_nil_iff.2 hblank
    rw [plainSummary, summary, hstrip]
    rfl
  · obtain ⟨first, hfirst, hsummary, behind, hpage, hbehind⟩ := exists_firstParagraph hprose hblank
    obtain ⟨more, hevents⟩ := exists_ofText_paragraph hfirst.ne_nil
      (hfirst.isProse.notMem (by decide)) (hfirst.isProse.notMem (by decide)) hbehind
    rw [plainSummary, if_neg (by simpa [strip_eq_nil_iff] using hblank), hpage, hsummary,
      ← strip_exchange, ← firstBlock_of_paragraph first more]
    show (Event.ofText (paragraphHtml first ++ behind) >>= fun events ↦ _) = _
    rw [hevents]
    rfl

/-- Empty lines, a paragraph of two lines, two empty lines, and another paragraph. -/
def twoParagraphs : List Char := "\n\nReads a crate\nand its modules\n\n\nSee also".toList

theorem plainSummary_twoParagraphs :
    (∀ line ∈ newlineLines twoParagraphs, IsWordLine line) ∧
      plainSummary twoParagraphs = .ok "Reads a crate and its modules".toList := by
  have hlines : ∀ line ∈ newlineLines twoParagraphs, IsWordLine line := by
    have hempty : IsWordLine [] := ⟨[], nofun, rfl⟩
    have hfirst : IsWordLine "Reads a crate".toList :=
      ⟨["Reads".toList, "a".toList, "crate".toList], by simp [isAsciiLetter], by decide⟩
    have hsecond : IsWordLine "and its modules".toList :=
      ⟨["and".toList, "its".toList, "modules".toList], by simp [isAsciiLetter], by decide⟩
    have hthird : IsWordLine "See also".toList :=
      ⟨["See".toList, "also".toList], by simp [isAsciiLetter], by decide⟩
    have hsplit : newlineLines twoParagraphs =
        [[], [], "Reads a crate".toList, "and its modules".toList, [], [], "See also".toList] := by
      decide
    rw [hsplit]
    simp only [List.forall_mem_cons]
    exact ⟨hempty, hempty, hfirst, hsecond, hempty, hempty, hthird, nofun⟩
  exact ⟨hlines, (plainSummary_eq_exchange_summary hlines).trans (by decide)⟩

end CrateDoc
