import CrateDoc.Markdown.Block
import CrateDoc.Proofs.Markdown.Prose

/-!
# The paragraphs of prose

A block of prose is empty, begins with a newline, or begins with a letter (`IsParagraph`). No rule
applies to a block of the last kind but the one for paragraphs (`findSome?_rules_of_isParagraph`),
and `structured_prose` says what follows for a whole text: its tree is a list of paragraphs, one for
every block that holds a letter.
-/

namespace CrateDoc.Markdown

open CrateDoc.Text

variable {s t : List Char} {last c : Char}

/-! ### Blocks -/

/-- The blocks of prose are prose. -/
theorem IsProseBehind.splitBlocks (h : IsProseBehind last s) :
    ∃ first more, splitBlocks s = first :: more ∧ IsProseBehind last first ∧
      ∀ block ∈ more, IsProse block := by
  fun_induction Markdown.splitBlocks s generalizing last with
  | case1 => exact ⟨[], [], rfl, .nil, nofun⟩
  | case2 rest ih =>
    obtain ⟨first, more, heq, hfirst, hmore⟩ := ih (isProseBehind_cons_iff.1
      (isProseBehind_cons_iff.1 h).2).2
    exact ⟨[], _, rfl, .nil, heq ▸ List.forall_mem_cons.2 ⟨hfirst, hmore⟩⟩
  | case3 c rest hpair heq ih =>
    obtain ⟨first, more, hcons, -⟩ := ih (isProseBehind_cons_iff.1 h).2
    rw [heq] at hcons
    cases hcons
  | case4 c rest hpair block more heq ih =>
    obtain ⟨hc, hrest⟩ := isProseBehind_cons_iff.1 h
    obtain ⟨first, more', hcons, hfirst, hmore⟩ := ih hrest
    rw [heq] at hcons
    obtain ⟨rfl, rfl⟩ := List.cons.inj hcons
    exact ⟨_, _, rfl, isProseBehind_cons_iff.2 ⟨hc, hfirst⟩, hmore⟩

/-- What can be read at no place of a text cannot be read at a line of it. -/
theorem atLine?_eq_none {α : Type} {read? : List Char → Option α}
    (h : ∀ t, t <:+ s → read? t = none) : atLine? read? s = none := by
  have hsearch : ∀ t, t <:+ s → atLine?.search read? t = none := by
    intro t ht
    fun_induction atLine?.search read? t with
    | case1 => rfl
    | case2 rest found heq =>
      rw [h rest ((List.suffix_cons _ _).trans ht)] at heq
      cases heq
    | case3 rest _ ih => rw [ih ((List.suffix_cons _ _).trans ht)]; rfl
    | case4 c rest _ ih => rw [ih ((List.suffix_cons _ _).trans ht)]; rfl
  rw [atLine?, h s (List.suffix_refl s)]
  exact hsearch s (List.suffix_refl s)

/-- A margin takes characters away and adds none. -/
theorem mem_of_mem_dropMargin {s : List Char} (h : c ∈ dropMargin s) : c ∈ s :=
  List.mem_of_mem_drop h

section Rules

variable {setting : Setting}

/-- A block of prose that begins with a letter. -/
structure IsParagraph (s : List Char) : Prop where
  isProse : IsProse s
  letter : ∃ c ∈ s.head?, isAsciiLetter c = true

theorem IsParagraph.exists_cons (h : IsParagraph s) :
    ∃ c rest, s = c :: rest ∧ isAsciiLetter c = true := by
  obtain ⟨c, hc, hletter⟩ := h.letter
  obtain ⟨rest, rfl⟩ := List.head?_eq_some_iff.1 hc
  exact ⟨c, rest, rfl, hletter⟩

theorem IsParagraph.ne_nil (h : IsParagraph s) : s ≠ [] := by
  obtain ⟨c, rest, rfl, -⟩ := h.exists_cons
  exact List.cons_ne_nil c rest

theorem IsParagraph.not_blank_head (h : IsParagraph s) : ∀ c ∈ s.head?, isBlank c = false := by
  obtain ⟨c, rest, rfl, hletter⟩ := h.exists_cons
  intro d hd
  rw [← Option.some_inj.1 hd]
  exact isBlank_of_isAsciiLetter hletter

theorem IsParagraph.not_allBlank (h : IsParagraph s) : ¬ AllBlank s := by
  obtain ⟨c, rest, rfl, hletter⟩ := h.exists_cons
  intro hblank
  have hc := isBlank_of_isAsciiLetter hletter
  rw [hblank c List.mem_cons_self] at hc
  cases hc

/-- A paragraph is not indented, since it begins with a letter. -/
theorem isIndented_of_isParagraph (h : IsParagraph s) : isIndented s = false := by
  obtain ⟨c, rest, rfl, hletter⟩ := h.exists_cons
  have hspace := ne_of_isAsciiLetter hletter (d := ' ') (by decide)
  simp [isIndented, indentWidth, List.replicate, List.isPrefixOf, hspace.symm]

theorem emptyRule_of_isParagraph (h : IsParagraph setting.block) : emptyRule setting = none := by
  obtain ⟨c, rest, hrest, hletter⟩ := h.exists_cons
  have hnewline := ne_of_isAsciiLetter hletter (d := '\n') (by decide)
  rw [emptyRule, hrest]
  split
  · simp_all
  · simp_all
  · rfl

theorem indentRule_of_isParagraph (h : IsParagraph setting.block) : indentRule setting = none := by
  simp [indentRule, isIndented_of_isParagraph h]

theorem codeRule_of_isParagraph (h : IsParagraph setting.block) : codeRule setting = none := by
  simp [codeRule, isIndented_of_isParagraph h]

theorem headingRule_of_notMem (h : '#' ∉ setting.block) : headingRule setting = none := by
  have hline : ∀ t, t <:+ setting.block → heading? t = none := by
    intro t ht
    have hmarks : t.takeWhile (· == '#') = [] := by
      rcases t with - | ⟨c, t⟩
      · rfl
      · have hc : c ≠ '#' := fun heq ↦ h (ht.subset (heq ▸ List.mem_cons_self))
        exact List.takeWhile_cons_of_neg (by simpa using hc)
    simp [heading?, hmarks]
  rw [headingRule, atLine?_eq_none hline]
  rfl

theorem underlineRule_of_notMem (hequals : '=' ∉ setting.block) (hhyphen : '-' ∉ setting.block) :
    underlineRule setting = none := by
  rw [underlineRule]
  split
  · rename_i first second more heq
    have hmem : ∀ c ∈ dropTrailing (· == ' ') second, c ∈ setting.block := fun c hc ↦
      (of_mem_pieces (heq ▸ by simp : second ∈ newlineLines setting.block) c
        ((List.rdropWhile_prefix _ second).subset hc)).1
    -- The first of the marks would be a hyphen or an equals sign.
    rcases hmarks : dropTrailing (· == ' ') second with - | ⟨mark, marks⟩
    · simp
    · have hmark := hmem mark (hmarks ▸ List.mem_cons_self)
      have hne : mark ≠ '=' := fun heq ↦ hequals (heq ▸ hmark)
      have hne' : mark ≠ '-' := fun heq ↦ hhyphen (heq ▸ hmark)
      simp [hne, hne']
  · rfl

theorem isRuleLine_of_notMem {line : List Char} (hhyphen : '-' ∉ line) (hunderscore : '_' ∉ line)
    (hasterisk : '*' ∉ line) : isRuleLine line = false := by
  rw [isRuleLine]
  rcases hbody : dropTrailing (· == ' ') (dropMargin line) with - | ⟨mark, body⟩
  · rfl
  · have hmark : mark ∈ line := mem_of_mem_dropMargin
      ((List.rdropWhile_prefix _ (dropMargin line)).subset (hbody ▸ List.mem_cons_self))
    have hne : mark ≠ '-' := fun heq ↦ hhyphen (heq ▸ hmark)
    have hne' : mark ≠ '_' := fun heq ↦ hunderscore (heq ▸ hmark)
    have hne'' : mark ≠ '*' := fun heq ↦ hasterisk (heq ▸ hmark)
    simp [hne, hne', hne'']

theorem horizontalRule_of_notMem (hhyphen : '-' ∉ setting.block)
    (hunderscore : '_' ∉ setting.block) (hasterisk : '*' ∉ setting.block) :
    horizontalRule setting = none := by
  have hlines : (newlineLines setting.block).takeWhile (!isRuleLine ·) =
      newlineLines setting.block := by
    refine List.takeWhile_eq_self_iff.2 fun line hline ↦ ?_
    have hmem : ∀ c, c ∈ line → c ∈ setting.block := fun c hc ↦ (of_mem_pieces hline c hc).1
    simp [isRuleLine_of_notMem (mt (hmem _) hhyphen) (mt (hmem _) hunderscore)
      (mt (hmem _) hasterisk)]
  rw [horizontalRule]
  simp only [hlines, List.drop_length]

theorem itemBody?_of_notMem (ordered unordered : Bool) (hasterisk : '*' ∉ s) (hplus : '+' ∉ s)
    (hhyphen : '-' ∉ s) (hdot : '.' ∉ s) : itemBody? ordered unordered s = none := by
  rcases s with - | ⟨c, s⟩
  · rfl
  · have hasterisk' := (List.ne_of_not_mem_cons hasterisk).symm
    have hplus' := (List.ne_of_not_mem_cons hplus).symm
    have hhyphen' := (List.ne_of_not_mem_cons hhyphen).symm
    have hdot' : ∀ n, (c :: s)[n]? ≠ some '.' := fun n hget ↦ hdot (List.mem_of_getElem? hget)
    simp [itemBody?, hasterisk', hplus', hhyphen', hdot']

theorem listRule_of_notMem (tag : String) (ordered : Bool) (hasterisk : '*' ∉ setting.block)
    (hplus : '+' ∉ setting.block) (hhyphen : '-' ∉ setting.block) (hdot : '.' ∉ setting.block) :
    listRule tag ordered setting = none := by
  rw [listRule, itemBody?_of_notMem ordered (!ordered) (mt mem_of_mem_dropMargin hasterisk)
    (mt mem_of_mem_dropMargin hplus) (mt mem_of_mem_dropMargin hhyphen)
    (mt mem_of_mem_dropMargin hdot)]
  rfl

theorem quoteRule_of_notMem (h : '>' ∉ setting.block) : quoteRule setting = none := by
  have hline : ∀ t, t <:+ setting.block → quoted? t = none := by
    intro t ht
    have hmark : ∀ rest, dropMargin t ≠ '>' :: rest := fun rest heq ↦
      h (ht.subset (mem_of_mem_dropMargin (heq ▸ List.mem_cons_self)))
    rw [quoted?]
    split
    · exact absurd ‹_› (hmark _)
    · exact absurd ‹_› (hmark _)
    · rfl
  rw [quoteRule, atLine?_eq_none hline]
  rfl

theorem definitionRule_of_notMem (h : '[' ∉ setting.block) : definitionRule setting = none := by
  have hline : ∀ t, t <:+ setting.block → definition? t = none := by
    intro t ht
    have hmark : ∀ rest, dropMargin t ≠ '[' :: rest := fun rest heq ↦
      h (ht.subset (mem_of_mem_dropMargin (heq ▸ List.mem_cons_self)))
    rw [definition?]
    split
    · exact absurd ‹_› (hmark _)
    · rfl
  rw [definitionRule, atLine?_eq_none hline]
  rfl

/-- What is left is the rule for paragraphs, which adds the block to the page. -/
theorem paragraphRule_of_isParagraph (h : IsParagraph setting.block)
    (hnesting : setting.nesting.head? ≠ some .list) :
    paragraphRule setting =
      some (pure (addChild setting.parent (.ofText "p" setting.block), setting.rest)) := by
  rw [paragraphRule, if_neg (by simpa [strip_eq_nil_iff] using h.not_allBlank), if_neg hnesting,
    stripLeft_eq_self h.not_blank_head]

/-- Of all rules only the last one takes up a paragraph. -/
theorem findSome?_rules_of_isParagraph (h : IsParagraph setting.block)
    (hnesting : setting.nesting.head? ≠ some .list) :
    rules.findSome? (· setting) =
      some (pure (addChild setting.parent (.ofText "p" setting.block), setting.rest)) := by
  have hnot : ∀ {c : Char}, (isAsciiLetter c || c == '\n' || c == ' ') = false →
      c ∉ setting.block := fun hc ↦ h.isProse.notMem hc
  simp only [rules, List.findSome?_cons, emptyRule_of_isParagraph h, indentRule_of_isParagraph h,
    codeRule_of_isParagraph h, headingRule_of_notMem (hnot (by decide)),
    underlineRule_of_notMem (hnot (by decide)) (hnot (by decide)),
    horizontalRule_of_notMem (hnot (by decide)) (hnot (by decide)) (hnot (by decide)),
    listRule_of_notMem _ _ (hnot (by decide)) (hnot (by decide)) (hnot (by decide))
      (hnot (by decide)), quoteRule_of_notMem (hnot (by decide)),
    definitionRule_of_notMem (hnot (by decide)), paragraphRule_of_isParagraph h hnesting]

end Rules

/-- The paragraphs of blocks of prose: each without the newlines before it, and none that is
empty. -/
def paragraphsOf (blocks : List (List Char)) : List (List Char) :=
  (blocks.map dropNewlines).filter (!·.isEmpty)

theorem paragraphsOf_cons_newline (s : List Char) (blocks : List (List Char)) :
    paragraphsOf (('\n' :: s) :: blocks) = paragraphsOf (s :: blocks) := rfl

/-- What is put back is a block again, unless it is empty. -/
theorem paragraphsOf_putBack (s : List Char) (blocks : List (List Char)) :
    paragraphsOf (putBack s blocks) = paragraphsOf (s :: blocks) := by
  rw [putBack]
  split_ifs with hs
  · rw [List.isEmpty_iff.1 hs]
    rfl
  · rfl

theorem paragraphsOf_cons (h : IsParagraph s) (blocks : List (List Char)) :
    paragraphsOf (s :: blocks) = s :: paragraphsOf blocks := by
  obtain ⟨c, rest, rfl, hletter⟩ := h.exists_cons
  have hnewline := ne_of_isAsciiLetter hletter (d := '\n') (by decide)
  simp [paragraphsOf, dropNewlines, hnewline]

/-- A page that consists of paragraphs. -/
def paragraphPage (paragraphs : List (List Char)) : Element :=
  .node "div" {} (paragraphs.map (.ofText "p")) {}

/-- A page of paragraphs grows by a paragraph at its end. -/
theorem addChild_paragraphPage (paragraphs : List (List Char)) (s : List Char) :
    addChild (paragraphPage paragraphs) (.ofText "p" s) = paragraphPage (paragraphs ++ [s]) := by
  simp [addChild, paragraphPage, Element.withChildren, Element.children]

theorem lastCode?_paragraphPage (paragraphs : List (List Char)) :
    lastCode? (paragraphPage paragraphs) = none := by
  rcases List.eq_nil_or_concat paragraphs with rfl | ⟨paragraphs, s, rfl⟩
  · rfl
  · simp [lastCode?, lastChild?, paragraphPage, Element.children, codeOf?, Element.ofText]

theorem emptyRule_nil {setting : Setting} (hblock : setting.block = [])
    (hcode : lastCode? setting.parent = none) :
    emptyRule setting = some (pure (setting.parent, setting.rest)) := by
  simp [emptyRule, hblock, hcode]

/-- A newline at the start of a block is taken off. -/
theorem emptyRule_newline {setting : Setting} (hblock : setting.block = '\n' :: s)
    (hcode : lastCode? setting.parent = none) :
    emptyRule setting = some (pure (setting.parent, putBack s setting.rest)) := by
  simp [emptyRule, hblock, hcode]

/-- A block that a rule takes up at once leaves a parent and blocks to go on with. -/
theorem structureBlocks_cons {fuel : ℕ} {nesting : List Nesting} {parent next : Element}
    {block : List Char} {blocks left : List (List Char)}
    (h : rules.findSome? (· ⟨structureBlocks fuel, nesting, parent, block, blocks⟩) =
      some (pure (next, left))) :
    structureBlocks (fuel + 1) nesting parent (block :: blocks) =
      structureBlocks fuel nesting next left := by
  rw [structureBlocks, h]
  rfl

/-- How many steps it takes at most to take up blocks. -/
def stepsFor : List (List Char) → ℕ
  | [] => 0
  | block :: blocks => block.length + 1 + stepsFor blocks

/-- What is put back takes no more steps than its characters. -/
theorem stepsFor_putBack_le (s : List Char) (blocks : List (List Char)) :
    stepsFor (putBack s blocks) ≤ s.length + 1 + stepsFor blocks := by
  rw [putBack]
  split_ifs
  · omega
  · rw [stepsFor]

/-- Nothing is put back but the text itself. -/
theorem mem_putBack {s t : List Char} {blocks : List (List Char)} (h : t ∈ putBack s blocks) :
    t = s ∨ t ∈ blocks := by
  rw [putBack] at h
  split_ifs at h
  · exact .inr h
  · exact List.mem_cons.1 h

/-- Blocks of prose are taken up as paragraphs. -/
theorem structureBlocks_prose {fuel : ℕ} {blocks : List (List Char)}
    (hblocks : ∀ block ∈ blocks, IsProse block) (hfuel : stepsFor blocks ≤ fuel)
    (paragraphs : List (List Char)) :
    structureBlocks fuel [] (paragraphPage paragraphs) blocks =
      pure (paragraphPage (paragraphs ++ paragraphsOf blocks)) := by
  induction fuel generalizing blocks paragraphs with
  | zero =>
    rcases blocks with - | ⟨block, blocks⟩
    · rw [structureBlocks, paragraphsOf, List.map_nil, List.filter_nil, List.append_nil]
    · rw [stepsFor] at hfuel
      omega
  | succ fuel ih =>
    rcases blocks with - | ⟨block, blocks⟩
    · rw [structureBlocks, paragraphsOf, List.map_nil, List.filter_nil, List.append_nil]
    obtain ⟨hblock, hrest⟩ := List.forall_mem_cons.1 hblocks
    rw [stepsFor] at hfuel
    have hcode := lastCode?_paragraphPage paragraphs
    -- a block of prose is empty, begins with a newline, or is a paragraph
    rcases hblock.cases with rfl | ⟨more, rfl, hmore⟩ | ⟨c, more, hcons, hletter, -⟩
    · rw [structureBlocks_cons (by rw [rules, List.findSome?_cons, emptyRule_nil rfl hcode]),
        ih hrest (by omega)]
      rfl
    · have hput : ∀ block ∈ putBack more blocks, IsProse block := fun block hmem ↦
        (mem_putBack hmem).elim (· ▸ hmore) (hrest block)
      have hsteps := stepsFor_putBack_le more blocks
      rw [List.length_cons] at hfuel
      rw [structureBlocks_cons (by rw [rules, List.findSome?_cons, emptyRule_newline rfl hcode]),
        ih hput (by omega), paragraphsOf_putBack, paragraphsOf_cons_newline]
    · have hparagraph : IsParagraph block := ⟨hblock, c, hcons ▸ rfl, hletter⟩
      rw [structureBlocks_cons (findSome?_rules_of_isParagraph hparagraph (by nofun)),
        addChild_paragraphPage, ih hrest (by omega), paragraphsOf_cons hparagraph]
      simp

/-- The blocks of a text take no more steps than its characters and one. -/
theorem stepsFor_splitBlocks_le (s : List Char) : stepsFor (splitBlocks s) ≤ s.length + 1 := by
  fun_induction splitBlocks s with
  | case1 => simp [stepsFor]
  | case2 rest ih => simp [stepsFor]; omega
  | case3 c rest _ heq ih => simp [stepsFor]
  | case4 c rest _ block more heq ih =>
    rw [heq, stepsFor] at ih
    simp [stepsFor]
    omega

/-- The paragraphs of prose. -/
def paragraphs (s : List Char) : List (List Char) := paragraphsOf (splitBlocks s)

/-- A newline at the start makes no difference. -/
theorem paragraphs_cons_newline (s : List Char) : paragraphs ('\n' :: s) = paragraphs s := by
  induction s with
  | nil => rfl
  | cons c s ih =>
    by_cases hc : c = '\n'
    · subst hc
      rw [ih]
      rfl
    · have hpair : ∀ rest, '\n' = '\n' → c :: s ≠ '\n' :: rest := fun rest _ heq ↦
        hc (List.cons.inj heq).1
      rw [paragraphs, paragraphs, splitBlocks.eq_3 _ _ hpair]
      rcases splitBlocks (c :: s) with - | ⟨block, more⟩
      · rfl
      · exact paragraphsOf_cons_newline block more

/-- The first block reaches to the first pair of newlines. -/
theorem exists_splitBlocks_append (s rest : List Char) :
    ∃ first more behind, splitBlocks (s ++ '\n' :: '\n' :: rest) = first :: more ∧
      s ++ '\n' :: '\n' :: rest = first ++ '\n' :: '\n' :: behind ∧
      ¬ ['\n', '\n'] <:+: first := by
  induction s with
  | nil => exact ⟨[], _, rest, rfl, rfl, by simp⟩
  | cons c s ih =>
    obtain ⟨first, more, behind, hsplit, htext, hpair⟩ := ih
    by_cases hstart : ∃ u, c :: (s ++ '\n' :: '\n' :: rest) = '\n' :: '\n' :: u
    · obtain ⟨u, hu⟩ := hstart
      exact ⟨[], splitBlocks u, u, by rw [List.cons_append, hu, splitBlocks], hu, by simp⟩
    · have hne : ∀ u, c = '\n' → s ++ '\n' :: '\n' :: rest ≠ '\n' :: u := fun u hc heq ↦
        hstart ⟨u, by rw [hc, heq]⟩
      refine ⟨c :: first, more, behind, ?_, by rw [List.cons_append, htext, List.cons_append],
        fun h ↦ ?_⟩
      · rw [List.cons_append, splitBlocks.eq_3 _ _ hne, hsplit]
      · rcases List.infix_cons_iff.1 h with ⟨u, hu⟩ | h
        · obtain ⟨hc, hfirst⟩ := List.cons.inj hu
          refine hne (u ++ '\n' :: '\n' :: behind) hc.symm ?_
          rw [htext, ← hfirst]
          rfl
        · exact hpair h

/-- What stands before the first newlines of a text that begins with a letter is a paragraph. -/
theorem isParagraph_of_cons_eq_append {first behind : List Char} (hprose : IsProse first)
    (hletter : isAsciiLetter c = true) (htext : c :: t = first ++ '\n' :: behind) :
    IsParagraph first := by
  rcases first with - | ⟨d, first⟩
  · exact absurd (List.cons.inj htext).1 (ne_of_isAsciiLetter hletter (by decide))
  · obtain ⟨rfl, -⟩ := List.cons.inj htext
    exact ⟨hprose, c, rfl, hletter⟩

/-- A text that holds a letter has a first paragraph. Only newlines stand before it, and it reaches
to the first pair of newlines behind its start. -/
theorem exists_paragraphs_eq_cons (h : IsProse s) (hblank : ¬ AllBlank s) :
    ∃ newlines first more behind, paragraphs (s ++ ['\n', '\n']) = first :: more ∧
      AllBlank newlines ∧ s ++ ['\n', '\n'] = newlines ++ (first ++ '\n' :: '\n' :: behind) ∧
      ¬ ['\n', '\n'] <:+: first := by
  induction s with
  | nil => exact absurd (fun _ hc ↦ by cases hc) hblank
  | cons c s ih =>
    -- newlines in front are passed over until the first letter begins a paragraph
    rcases h.cases with hnil | ⟨rest, hcons, hrest⟩ | ⟨d, rest, hcons, hletter, hrest⟩
    · cases hnil
    · obtain ⟨rfl, rfl⟩ := List.cons.inj hcons
      have hblank' : ¬ AllBlank s := fun hs ↦
        hblank (List.forall_mem_cons.2 ⟨by decide, hs⟩)
      obtain ⟨newlines, first, more, behind, hparagraphs, hnewlines, htext, hpair⟩ :=
        ih hrest hblank'
      refine ⟨'\n' :: newlines, first, more, behind, ?_,
        List.forall_mem_cons.2 ⟨by decide, hnewlines⟩, ?_, hpair⟩
      · rw [List.cons_append, paragraphs_cons_newline, hparagraphs]
      · rw [List.cons_append, htext, List.cons_append]
    · obtain ⟨rfl, rfl⟩ := List.cons.inj hcons
      obtain ⟨first, more, behind, hsplit, htext, hpair⟩ := exists_splitBlocks_append (c :: s) []
      obtain ⟨block, _, hblocks, hprose, -⟩ := IsProseBehind.splitBlocks h.append_newlines
      obtain ⟨rfl, -⟩ := List.cons.inj (hsplit.symm.trans hblocks)
      have hfirst := isParagraph_of_cons_eq_append hprose hletter htext
      refine ⟨[], first, paragraphsOf more, behind, ?_, nofun, htext, hpair⟩
      rw [paragraphs, hsplit, paragraphsOf_cons hfirst]

theorem IsProse.dropNewlines (h : IsProse s) : IsProse (dropNewlines s) := by
  induction s with
  | nil => exact h
  | cons c s ih =>
    rw [Markdown.dropNewlines, List.dropWhile_cons]
    split_ifs with hc
    · obtain rfl := eq_of_beq hc
      exact ih (isProseBehind_cons_iff.1 h).2
    · exact h

/-- Every paragraph of prose begins with a letter. -/
theorem isParagraph_of_mem_paragraphs (h : IsProse s) (ht : t ∈ paragraphs s) :
    IsParagraph t := by
  obtain ⟨first, more, heq, hfirst, hmore⟩ := IsProseBehind.splitBlocks h
  obtain ⟨hmem, hne⟩ := List.mem_filter.1 ht
  obtain ⟨block, hblock, rfl⟩ := List.mem_map.1 hmem
  have hprose : IsProse block := by
    rw [heq] at hblock
    exact List.forall_mem_cons.2 ⟨hfirst, hmore⟩ block hblock
  rcases hprose.dropNewlines.cases with hnil | ⟨rest, hcons, -⟩ | ⟨c, rest, hcons, hletter, -⟩
  · simp [hnil] at hne
  · have hhead := List.head?_dropWhile_not (· == '\n') block
    rw [← dropNewlines, hcons] at hhead
    cases hhead
  · exact ⟨hprose.dropNewlines, c, hcons ▸ rfl, hletter⟩

/-- **The tree of prose is its paragraphs**, and no reference is defined. -/
theorem structured_prose (h : IsProse s) : structured s = (paragraphPage (paragraphs s), []) := by
  obtain ⟨first, more, heq, hfirst, hmore⟩ := IsProseBehind.splitBlocks h
  have hblocks : ∀ block ∈ splitBlocks s, IsProse block :=
    heq ▸ List.forall_mem_cons.2 ⟨hfirst, hmore⟩
  have hfuel : stepsFor (splitBlocks s) ≤ 4 * s.length + 16 :=
    (stepsFor_splitBlocks_le s).trans (by omega)
  show (structureBlocks _ [] (paragraphPage []) _).run [] = _
  rw [structureBlocks_prose hblocks hfuel]
  rfl

end CrateDoc.Markdown
