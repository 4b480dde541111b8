import CrateDoc.Proofs.Text.Blank
import CrateDoc.Summary
import Mathlib.Data.List.Chain
import Mathlib.Data.List.Infix

/-!
# The first paragraph

Paragraphs are divided by a newline, spaces and tabs, and another newline (`IsBreak`). The summary
of a text is what stands before the first break of the stripped text, without white space at its
end, and `isSummary_summary` says what follows from that for every text: a break behind a text that
holds none makes that text the summary, and a summary is its own.

Line ends of two characters are not seen. A text in which a carriage return stands before every
newline holds no break, so all of it is its summary (`summary_withReturns`), and
`summary_withReturns_eq_iff` says for which texts the line ends make no difference.
-/

namespace CrateDoc

open CrateDoc.Text

/-- What divides two paragraphs. -/
def IsBreak (mark : List Char) : Prop :=
  ∃ gap : List Char, (∀ c ∈ gap, c = ' ' ∨ c = '\t') ∧ mark = '\n' :: (gap ++ ['\n'])

/-- A break between paragraphs stands somewhere in the text. -/
def HoldsBreak (s : List Char) : Prop := ∃ mark, IsBreak mark ∧ mark <:+: s

/-- What the summary of a text is. -/
structure IsSummary (docs s : List Char) : Prop where
  isPrefix : s <+: strip docs
  noBreak : ¬ HoldsBreak s
  isStripped : IsStripped s
  /-- A summary is its own summary. -/
  summary_eq : summary s = s
  /-- What stands before an empty line is the summary, if it is not blank and holds no break. -/
  eq_of_emptyLine : ∀ p rest, docs = p ++ '\n' :: '\n' :: rest → ¬ AllBlank p → ¬ HoldsBreak p →
    s = strip p

/-- The text with a carriage return before every newline. -/
def withReturns (s : List Char) : List Char :=
  s.flatMap fun c ↦ if c = '\n' then ['\r', '\n'] else [c]

variable {s t : List Char}

/-! ### Breaks -/

/-- A break is noticed where one of its marks begins. -/
theorem startsParagraphBreak_iff :
    startsParagraphBreak s = true ↔ ∃ mark, IsBreak mark ∧ mark <+: s := by
  constructor
  · intro h
    obtain ⟨rest, rfl⟩ : ∃ rest, s = '\n' :: rest := by
      by_contra hother
      rw [startsParagraphBreak.eq_2 s fun rest hs ↦ hother ⟨rest, hs⟩] at h
      cases h
    obtain ⟨behind, hbehind⟩ := List.head?_eq_some_iff.1 (eq_of_beq h)
    refine ⟨_, ⟨rest.takeWhile fun c ↦ c == ' ' || c == '\t', fun c hc ↦ ?_, rfl⟩, behind, ?_⟩
    · simpa using List.mem_takeWhile_imp hc
    · rw [List.cons_append, List.append_assoc, List.singleton_append, ← hbehind,
        List.takeWhile_append_dropWhile]
  · rintro ⟨_, ⟨gap, hgap, rfl⟩, rest, rfl⟩
    have hspace : ∀ c ∈ gap, (c == ' ' || c == '\t') = true := by simpa using hgap
    rw [List.cons_append, List.append_assoc, startsParagraphBreak,
      List.dropWhile_append_of_pos hspace]
    rfl

/-- A text holds the breaks of its parts. -/
theorem HoldsBreak.of_infix (h : HoldsBreak s) (hst : s <:+: t) : HoldsBreak t := by
  obtain ⟨mark, hmark, hinfix⟩ := h
  exact ⟨mark, hmark, hinfix.trans hst⟩

/-- A break stands at the start of a text or behind its first character. -/
theorem holdsBreak_cons_iff {c : Char} :
    HoldsBreak (c :: s) ↔ startsParagraphBreak (c :: s) = true ∨ HoldsBreak s := by
  simp only [startsParagraphBreak_iff, HoldsBreak, List.infix_cons_iff, and_or_left, exists_or]

theorem not_holdsBreak_nil : ¬ HoldsBreak [] := by
  rintro ⟨_, ⟨gap, -, rfl⟩, hinfix⟩
  cases List.infix_nil.1 hinfix

/-! ### Up to the first break -/

/-- The first paragraph stands at the front of the text. -/
theorem firstParagraph_isPrefix (s : List Char) : firstParagraph s <+: s := by
  fun_induction firstParagraph s with
  | case1 => exact List.prefix_refl []
  | case2 c rest _ => exact List.nil_prefix
  | case3 c rest _ ih => exact (List.prefix_cons_inj c).2 ih

/-- The first paragraph holds no break. -/
theorem not_holdsBreak_firstParagraph (s : List Char) : ¬ HoldsBreak (firstParagraph s) := by
  fun_induction firstParagraph s with
  | case1 => exact not_holdsBreak_nil
  | case2 c rest _ => exact not_holdsBreak_nil
  | case3 c rest hstart ih =>
    intro h
    rcases holdsBreak_cons_iff.1 h with h | h
    · obtain ⟨mark, hmark, hprefix⟩ := startsParagraphBreak_iff.1 h
      have hlonger : c :: firstParagraph rest <+: c :: rest :=
        (List.prefix_cons_inj c).2 (firstParagraph_isPrefix rest)
      exact hstart (startsParagraphBreak_iff.2 ⟨mark, hmark, hprefix.trans hlonger⟩)
    · exact ih h

/-- The first paragraph is the whole text exactly if no break stands in the text. -/
theorem firstParagraph_eq_self_iff : firstParagraph s = s ↔ ¬ HoldsBreak s := by
  constructor
  · intro h
    rw [← h]
    exact not_holdsBreak_firstParagraph s
  · intro h
    induction s with
    | nil => rfl
    | cons c s ih =>
      obtain ⟨hstart, hrest⟩ := not_or.1 (mt holdsBreak_cons_iff.2 h)
      rw [firstParagraph, if_neg hstart, ih hrest]

instance (s : List Char) : Decidable (HoldsBreak s) :=
  decidable_of_iff (¬ firstParagraph s = s) (firstParagraph_eq_self_iff.not.trans not_not)

/-- A newline and what it is followed by to the end of a text without breaks is blank, if an empty
line makes a break of it. -/
theorem allBlank_of_startsParagraphBreak {rest : List Char} (hs : ¬ HoldsBreak s)
    (h : startsParagraphBreak (s ++ '\n' :: '\n' :: rest) = true) : AllBlank s := by
  obtain ⟨_, ⟨gap, hgap, rfl⟩, behind, heq⟩ := startsParagraphBreak_iff.1 h
  have hblank : AllBlank ('\n' :: gap) := by
    intro c hc
    rcases List.mem_cons.1 hc with rfl | hc
    · decide
    · rcases hgap c hc with rfl | rfl
      · decide
      · decide
  -- Either the break ends behind the text, or it is a break of the text.
  rcases List.append_eq_append_iff.1 heq with ⟨more, hmore, -⟩ | ⟨more, hmore, -⟩
  · rw [hmore] at hs
    exact absurd ⟨_, ⟨gap, hgap, rfl⟩, (List.prefix_append _ more).isInfix⟩ hs
  · intro c hc
    have hmem : c ∈ '\n' :: (gap ++ ['\n']) := hmore ▸ List.mem_append_left more hc
    rcases List.mem_cons.1 hmem with rfl | hmem
    · decide
    · rcases List.mem_append.1 hmem with hmem | hmem
      · exact hblank c (List.mem_cons_of_mem _ hmem)
      · rw [List.mem_singleton.1 hmem]
        decide

/-- Before an empty line the first paragraph of a text without breaks ends, or before the white
space in front of it. -/
theorem exists_firstParagraph_append (hs : ¬ HoldsBreak s) (rest : List Char) :
    ∃ blank, AllBlank blank ∧ firstParagraph (s ++ '\n' :: '\n' :: rest) ++ blank = s := by
  induction s with
  | nil => exact ⟨[], nofun, rfl⟩
  | cons c s ih =>
    rw [List.cons_append, firstParagraph]
    split_ifs with hstart
    · exact ⟨c :: s, allBlank_of_startsParagraphBreak hs hstart, rfl⟩
    · obtain ⟨blank, hblank, heq⟩ := ih fun h ↦ hs (holdsBreak_cons_iff.2 (.inr h))
      exact ⟨blank, hblank, by rw [List.cons_append, heq]⟩

/-! ### The summary -/

/-- A summary is the front of the stripped documentation. -/
theorem summary_isPrefix (docs : List Char) : summary docs <+: strip docs :=
  (stripRight_isPrefix _).trans (firstParagraph_isPrefix _)

theorem not_holdsBreak_summary (docs : List Char) : ¬ HoldsBreak (summary docs) := fun h ↦
  not_holdsBreak_firstParagraph (strip docs) (h.of_infix (stripRight_isPrefix _).isInfix)

theorem isStripped_summary (docs : List Char) : IsStripped (summary docs) :=
  isStripped_stripRight_of_prefix (firstParagraph_isPrefix _) (isStripped_strip docs)

/-- A text without breaks is its summary, but for the white space at its ends. -/
theorem summary_eq_strip (h : ¬ HoldsBreak (strip s)) : summary s = strip s := by
  rw [summary, firstParagraph_eq_self_iff.2 h,
    stripRight_eq_self (isStripped_strip s).not_blank_last]

/-- A summary is its own summary. -/
theorem summary_summary (docs : List Char) : summary (summary docs) = summary docs := by
  have hstrip : strip (summary docs) = summary docs := (isStripped_summary docs).strip_eq
  rw [summary_eq_strip (hstrip.symm ▸ not_holdsBreak_summary docs), hstrip]

/-- An empty line ends the summary. -/
theorem summary_append_emptyLine (hblank : ¬ AllBlank s) (hbreak : ¬ HoldsBreak s)
    (rest : List Char) : summary (s ++ '\n' :: '\n' :: rest) = strip s := by
  have hstrip : ¬ HoldsBreak (strip s) := fun h ↦ hbreak (h.of_infix (strip_isInfix s))
  have hleft : ¬ HoldsBreak (stripLeft s) := fun h ↦
    hbreak (h.of_infix (stripLeft_isSuffix s).isInfix)
  have hline : AllBlank ['\n', '\n'] := by decide
  by_cases hrest : AllBlank rest
  · have htext : strip (s ++ '\n' :: '\n' :: rest) = strip s :=
      strip_append_of_allBlank s (hline.append hrest)
    rw [summary_eq_strip (htext.symm ▸ hstrip), htext]
  · have htail : ¬ AllBlank ('\n' :: '\n' :: rest) := fun h ↦
      hrest fun c hc ↦ h c (List.mem_append_right ['\n', '\n'] hc)
    have hright : stripRight ('\n' :: '\n' :: rest) = '\n' :: '\n' :: stripRight rest :=
      stripRight_append_of_not_allBlank ['\n', '\n'] hrest
    obtain ⟨blank, hblank, heq⟩ := exists_firstParagraph_append hleft (stripRight rest)
    rw [summary, strip_append ‹_› htail, hright, strip, ← stripRight_append_of_allBlank _ hblank,
      heq]

/-- **The summary is the first paragraph**, for every text: a start of the stripped text that holds
no break between paragraphs, has no white space at its ends and is its own summary. If the text
begins with one that is not blank and holds no break, and an empty line behind it, the summary is
that text without the white space at its ends. -/
theorem isSummary_summary (docs : List Char) : IsSummary docs (summary docs) where
  isPrefix := summary_isPrefix docs
  noBreak := not_holdsBreak_summary docs
  isStripped := isStripped_summary docs
  summary_eq := summary_summary docs
  eq_of_emptyLine p rest hdocs hblank hbreak := by
    rw [hdocs, summary_append_emptyLine hblank hbreak]

/-- White space of several kinds around the first of three paragraphs. -/
theorem isSummary_threeParagraphs :
    summary "\t A\u2003b\n c.\u00a0\n \n\nD.\n\nE.".toList = "A\u2003b\n c.".toList :=
  (isSummary_summary _).eq_of_emptyLine "\t A\u2003b\n c.\u00a0\n ".toList "D.\n\nE.".toList rfl
    (by decide) (by decide)

/-! ### Line ends of two characters -/

theorem withReturns_cons (c : Char) (s : List Char) :
    withReturns (c :: s) = (if c = '\n' then ['\r', '\n'] else [c]) ++ withReturns s :=
  List.flatMap_cons

/-- A newline never comes first, since a return is put in front of it. -/
theorem head?_withReturns_ne_newline (s : List Char) : (withReturns s).head? ≠ some '\n' := by
  rcases s with - | ⟨c, s⟩
  · nofun
  · rw [withReturns_cons]
    split_ifs with hc
    · simp
    · simpa using hc

/-- Every newline has a carriage return before it. -/
theorem isChain_withReturns (s : List Char) :
    (withReturns s).IsChain fun a b ↦ b = '\n' → a = '\r' := by
  induction s with
  | nil => exact .nil
  | cons c s ih =>
    have hhead : ∀ b ∈ (withReturns s).head?, b ≠ '\n' := by
      rintro b hb rfl
      exact head?_withReturns_ne_newline s hb
    rw [withReturns_cons]
    split_ifs with hc
    · refine List.isChain_cons_cons.2 ⟨fun _ ↦ rfl, List.isChain_cons.2 ⟨?_, ih⟩⟩
      exact fun b hb hnewline ↦ absurd hnewline (hhead b hb)
    · exact List.isChain_cons.2 ⟨fun b hb hnewline ↦ absurd hnewline (hhead b hb), ih⟩

/-- In front of the second newline of a break stands no carriage return. -/
theorem not_holdsBreak_withReturns (s : List Char) : ¬ HoldsBreak (withReturns s) := by
  rintro ⟨_, ⟨gap, hgap, rfl⟩, hinfix⟩
  have hchain := List.IsChain.infix (isChain_withReturns s) hinfix
  rw [← List.cons_append, List.isChain_append] at hchain
  have hlast : ('\n' :: gap).getLast (List.cons_ne_nil _ _) = '\r' :=
    hchain.2.2 _ (List.getLast_mem_getLast? _) '\n' rfl rfl
  have hmem : '\r' ∈ '\n' :: gap := hlast ▸ List.getLast_mem _
  rcases List.mem_cons.1 hmem with hmem | hmem
  · exact absurd hmem (by decide)
  · exact absurd (hgap _ hmem) (by decide)

/-- Stripping does not depend on the line ends. -/
theorem strip_withReturns (s : List Char) : strip (withReturns s) = withReturns (strip s) := by
  refine strip_flatMap (fun c hc ↦ ?_) (fun c hc ↦ if_neg ?_) s
  · split_ifs
    · decide
    · exact fun d hd ↦ (List.mem_singleton.1 hd).symm ▸ hc
  · rintro rfl
    cases hc

/-- No paragraph ends in a text with carriage returns. -/
theorem summary_withReturns (docs : List Char) :
    summary (withReturns docs) = withReturns (strip docs) := by
  rw [summary_eq_strip, strip_withReturns]
  rw [strip_withReturns]
  exact not_holdsBreak_withReturns _

/-- **Line ends of two characters make no difference** to the summary exactly of the texts that have
one paragraph. -/
theorem summary_withReturns_eq_iff (docs : List Char) :
    summary (withReturns docs) = withReturns (summary docs) ↔ ¬ HoldsBreak (strip docs) := by
  rw [summary_withReturns]
  constructor
  · intro h
    obtain ⟨behind, hbehind⟩ := summary_isPrefix docs
    rw [← hbehind, withReturns, List.flatMap_append] at h
    -- What stands behind the summary has no characters.
    have hnil : behind = [] := by
      refine List.eq_nil_iff_forall_not_mem.2 fun c hc ↦ ?_
      have hempty := List.flatMap_eq_nil_iff.1 (List.append_right_eq_self.1 h) c hc
      split_ifs at hempty
    rw [← hbehind, hnil, List.append_nil]
    exact not_holdsBreak_summary docs
  · intro h
    rw [summary_eq_strip h]

/-- The two line ends between two paragraphs are taken for a part of the first. -/
theorem not_summary_withReturns :
    ¬ ∀ docs : List Char, '\r' ∉ docs →
      summary (withReturns docs) = withReturns (summary docs) := by
  intro h
  have hequal : summary "First.\r\n\r\nSecond.".toList = "First.".toList :=
    h "First.\n\nSecond.".toList (by decide)
  exact absurd hequal (by decide)

end CrateDoc
