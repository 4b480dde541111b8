import CrateDoc.Markdown.Block
import CrateDoc.Markdown.RawHtml
import CrateDoc.Proofs.Text.Blank
import CrateDoc.Proofs.Text.Lines
import Mathlib.Data.List.Chain
import Mathlib.Data.List.TakeWhile

/-!
# Prose

Text of letters, single spaces between words, and newlines is read as it stands. A space may stand
behind a letter only (`MayFollow`), which says of a whole text that no line begins with a space and
no two spaces meet (`IsProse`). Before such a text is structured nothing in it is changed
(`normalise_prose`), and neither fenced code (`takeFences_of_notMem`) nor blocks of HTML are found
in it (`takeHtmlBlocks_of_notMem`).
-/

namespace CrateDoc.Markdown

open CrateDoc.Text

/-- In prose, one character may follow another: a letter and a newline any, a space a letter. -/
def MayFollow (a b : Char) : Prop :=
  isAsciiLetter b = true ∨ b = '\n' ∨ b = ' ' ∧ isAsciiLetter a = true

/-- Text that goes on as prose behind a character. -/
def IsProseBehind (last : Char) (s : List Char) : Prop := (last :: s).IsChain MayFollow

/-- Letters, newlines, and spaces behind letters. -/
def IsProse (s : List Char) : Prop := IsProseBehind '\n' s

/-- A character that occurs in prose. -/
def IsPlain (c : Char) : Prop := isAsciiLetter c = true ∨ c = '\n' ∨ c = ' '

variable {s t : List Char} {last c : Char}

/-! ### Characters of prose -/

theorem ne_of_isAsciiLetter {d : Char} (hc : isAsciiLetter c = true)
    (hd : isAsciiLetter d = false) : c ≠ d := by
  rintro rfl
  rw [hc] at hd
  cases hd

theorem IsProseBehind.nil : IsProseBehind last [] := List.isChain_singleton last

/-- Prose is read one character behind the other. -/
theorem isProseBehind_cons_iff :
    IsProseBehind last (c :: s) ↔ MayFollow last c ∧ IsProseBehind c s :=
  List.isChain_cons_cons

/-- What may follow a character of prose is itself plain. -/
theorem MayFollow.isPlain {a b : Char} (h : MayFollow a b) : IsPlain b := by
  rcases h with h | h | ⟨h, -⟩
  · exact .inl h
  · exact .inr (.inl h)
  · exact .inr (.inr h)

/-- Every character of prose is plain. -/
theorem IsProseBehind.isPlain (h : IsProseBehind last s) : ∀ c ∈ s, IsPlain c := by
  induction s generalizing last with
  | nil => nofun
  | cons d s ih =>
    obtain ⟨hd, hs⟩ := isProseBehind_cons_iff.1 h
    intro c hc
    rcases List.mem_cons.1 hc with rfl | hc
    · exact hd.isPlain
    · exact ih hs c hc

/-- A character that has a meaning in markup does not occur in prose. -/
theorem IsProseBehind.notMem (h : IsProseBehind last s)
    (hc : (isAsciiLetter c || c == '\n' || c == ' ') = false) : c ∉ s := by
  intro hmem
  rcases h.isPlain c hmem with hplain | rfl | rfl
  · simp [hplain] at hc
  · cases hc
  · cases hc

theorem IsProse.append_newline (hs : IsProse s) (ht : IsProse t) : IsProse (s ++ '\n' :: t) :=
  List.IsChain.append hs ht fun _ _ _ hb ↦ .inr (.inl (Option.some_inj.1 hb).symm)

/-- Prose begins with a newline or a letter. -/
theorem IsProse.cases (h : IsProse s) :
    s = [] ∨ (∃ rest, s = '\n' :: rest ∧ IsProse rest) ∨
      ∃ c rest, s = c :: rest ∧ isAsciiLetter c = true ∧ IsProseBehind c rest := by
  rcases s with - | ⟨c, s⟩
  · exact .inl rfl
  · obtain ⟨hc, hs⟩ := isProseBehind_cons_iff.1 h
    rcases hc with hc | rfl | ⟨-, hc⟩
    · exact .inr (.inr ⟨c, s, rfl, hc, hs⟩)
    · exact .inr (.inl ⟨s, rfl, hs⟩)
    · exact absurd hc (by decide)

/-! ### The source -/

theorem expandTabs_of_notMem (h : '\t' ∉ s) (column : ℕ) : expandTabs column s = s := by
  induction s generalizing column with
  | nil => rfl
  | cons c s ih =>
    obtain ⟨hc, hs⟩ := not_or.1 (mt List.mem_cons.2 h)
    rw [expandTabs.eq_3 _ _ _ (Ne.symm hc), ih hs]

/-- The pieces between the newlines of prose are prose. -/
theorem IsProseBehind.newlineLines (h : IsProseBehind last s) :
    ∃ first more, newlineLines s = first :: more ∧ IsProseBehind last first ∧
      ∀ l ∈ more, IsProse l := by
  induction s generalizing last with
  | nil => exact ⟨[], [], rfl, .nil, nofun⟩
  | cons c s ih =>
    obtain ⟨hc, hs⟩ := isProseBehind_cons_iff.1 h
    obtain ⟨first, more, heq, hfirst, hmore⟩ := ih hs
    rw [Text.newlineLines] at heq ⊢
    rw [pieces, heq]
    by_cases hnewline : c = '\n'
    · subst hnewline
      refine ⟨[], first :: more, rfl, .nil, fun l hl ↦ ?_⟩
      rcases List.mem_cons.1 hl with rfl | hl
      · exact hfirst
      · exact hmore l hl
    · exact ⟨c :: first, more, if_neg (by simpa using hnewline),
        isProseBehind_cons_iff.2 ⟨hc, hfirst⟩, hmore⟩

/-- A line of prose that holds spaces only is empty. -/
theorem IsProse.eq_nil_of_isSpaces (h : IsProse s) (hs : isSpaces s = true) : s = [] := by
  rcases h.cases with rfl | ⟨rest, rfl, -⟩ | ⟨c, rest, rfl, hc, -⟩
  · rfl
  · cases hs
  · have hspace : c = ' ' := by simpa using List.all_eq_true.1 hs c List.mem_cons_self
    exact absurd hspace (ne_of_isAsciiLetter hc (by decide))

/-- No line of prose is blank, so none is emptied. -/
theorem emptyBlankLines_prose (h : IsProse s) : emptyBlankLines s = s := by
  obtain ⟨first, more, heq, -, hmore⟩ := IsProseBehind.newlineLines h
  have hkept : ∀ l ∈ more, (if isSpaces l then [] else l) = l := by
    intro l hl
    split_ifs with hspaces
    · exact ((hmore l hl).eq_nil_of_isSpaces hspaces).symm
    · rfl
  rw [emptyBlankLines, heq]
  show joinWith ['\n'] (first :: more.map fun l ↦ if isSpaces l then [] else l) = s
  rw [List.map_congr_left hkept, List.map_id', ← heq, joinWith_newlineLines]

theorem IsProse.append_newlines (h : IsProse s) : IsProse (s ++ ['\n', '\n']) := by
  have hline : IsProse ['\n'] := isProseBehind_cons_iff.2 ⟨.inr (.inl rfl), .nil⟩
  exact h.append_newline hline

/-- Of the source of prose nothing is changed but that two newlines are put at its end. -/
theorem normalise_prose (h : IsProse s) : normalise s = s ++ ['\n', '\n'] := by
  have hend := h.append_newlines
  have hclean : s.filter (fun c ↦ c ≠ markOpen && c ≠ markClose) = s := by
    refine List.filter_eq_self.2 fun c hc ↦ ?_
    have hopen : c ≠ markOpen := fun heq ↦ h.notMem (by decide) (heq ▸ hc)
    have hclose : c ≠ markClose := fun heq ↦ h.notMem (by decide) (heq ▸ hc)
    simp [hopen, hclose]
  rw [normalise, hclean, unifyNewlines_eq_self (h.notMem (by decide)),
    expandTabs_of_notMem (hend.notMem (by decide)), emptyBlankLines_prose hend]

/-- A text without the marks of a fence opens none. -/
theorem openingFence?_eq_none (htilde : '~' ∉ s) (hbacktick : '\x60' ∉ s) :
    openingFence? s = none := by
  rcases s with - | ⟨c, s⟩
  · rfl
  · have hc := (List.ne_of_not_mem_cons htilde).symm
    have hc' := (List.ne_of_not_mem_cons hbacktick).symm
    rw [openingFence?, if_neg (by simp [hc, hc'])]

theorem takeFencesWithin_of_notMem (fuel : ℕ) (stash : Stash) (htilde : '~' ∉ s)
    (hbacktick : '\x60' ∉ s) : takeFencesWithin fuel stash s = (s, stash) := by
  induction fuel generalizing s with
  | zero => rfl
  | succ fuel ih =>
    have hsplit : s.takeWhile (· ≠ '\n') ++ s.dropWhile (· ≠ '\n') = s :=
      List.takeWhile_append_dropWhile
    have hhead := List.head?_dropWhile_not (fun c : Char ↦ decide (c ≠ '\n')) s
    rw [takeFencesWithin, openingFence?_eq_none htilde hbacktick]
    simp only [Option.bind_none]
    rcases hdrop : s.dropWhile (· ≠ '\n') with - | ⟨c, rest⟩
    · rw [hdrop, List.append_nil] at hsplit
      exact congrArg (·, stash) hsplit
    · rw [hdrop] at hsplit hhead
      obtain rfl : c = '\n' := by simpa using hhead
      have hrest : ∀ d, d ∉ s → d ∉ rest := fun d hd hmem ↦
        hd (hsplit ▸ List.mem_append_right _ (List.mem_cons_of_mem _ hmem))
      simp only [ih (hrest _ htilde) (hrest _ hbacktick)]
      rw [hsplit]

/-- Without backticks and tildes there is no fenced code. -/
theorem takeFences_of_notMem (htilde : '~' ∉ s) (hbacktick : '\x60' ∉ s) :
    takeFences s = (s, []) :=
  takeFencesWithin_of_notMem _ _ htilde hbacktick

/-- Passing over a text changes the position of the reader and nothing else. -/
theorem BlockReader.exists_pass_eq (r : BlockReader) (text : List Char) :
    ∃ line column, r.pass text = { r with line := line, column := column } := by
  rw [pass]
  induction text using List.reverseRecOn with
  | nil => exact ⟨r.line, r.column, rfl⟩
  | append_singleton text c ih =>
    obtain ⟨line, column, heq⟩ := ih
    rw [List.foldl_append, heq, List.foldl_cons, List.foldl_nil]
    split_ifs
    · exact ⟨line + 1, 0, rfl⟩
    · exact ⟨line, column + 1, rfl⟩

/-- Text in which no markup begins is kept in one piece. -/
theorem BlockReader.exists_read_eq (r : BlockReader) (final : Bool) (fuel : ℕ)
    (hr : r.rawElement = none) (hblock : r.inBlock = false) (hs : s ≠ []) (hangle : '<' ∉ s)
    (hampersand : '&' ∉ s) :
    ∃ line column inTail, r.read final (fuel + 1) s =
      .ok ({ r.keep s with line := line, column := column, inTail := inTail }, []) := by
  have hcontent : s.takeWhile (fun c ↦ c ≠ '<' && c ≠ '&') = s := by
    refine List.takeWhile_eq_self_iff.2 fun c hc ↦ ?_
    have hangle' : c ≠ '<' := fun heq ↦ hangle (heq ▸ hc)
    have hampersand' : c ≠ '&' := fun heq ↦ hampersand (heq ▸ hc)
    simp [hangle', hampersand']
  obtain ⟨line, column, heq⟩ := (r.onText s).exists_pass_eq s
  refine ⟨line, column, r.inTail && !s.contains '\n', ?_⟩
  rw [read, hr]
  simp only [hcontent, List.drop_length, List.isEmpty_nil, if_true]
  rw [if_neg (by simpa using hs), heq, onText, if_neg (by simp [hblock])]
  rfl

/-- Where no markup begins there are no blocks of HTML. -/
theorem takeHtmlBlocks_of_notMem (stash : Stash) (hs : s ≠ []) (hangle : '<' ∉ s)
    (hampersand : '&' ∉ s) : takeHtmlBlocks stash s = .ok (s, stash) := by
  obtain ⟨line, column, inTail, heq⟩ := BlockReader.exists_read_eq
    { stash := stash, held := s } false s.length rfl rfl hs hangle hampersand
  simp only [takeHtmlBlocks, heq, bind, Except.bind]
  simp [BlockReader.read, BlockReader.pass, BlockReader.keep, pure, Except.pure]

end CrateDoc.Markdown
