import CrateDoc.Doctest.Snippet
import CrateDoc.Proofs.Text.Words
import Mathlib.Data.List.Basic

/-!
# Lines that open and close a fenced block

What a line looks like that opens a block (`Fence.OpenedBy`) or closes one (`ClosesFence`), without
reading it: an indentation, a run of one mark, and what follows. `ofLine?_eq_some_iff` and
`closes_iff` say that the readers recognise exactly these lines, and `isTest_iff` which blocks are
tests for a language.
-/

namespace CrateDoc.Doctest

open CrateDoc.Text

/-- A line of an indentation, a run of marks, and what follows them. -/
def fenceLine (indent : ℕ) (mark : Char) (size : ℕ) (rest : List Char) : List Char :=
  List.replicate indent ' ' ++ (List.replicate size mark ++ rest)

/-- The marks of fences. -/
def IsFenceMark (mark : Char) : Prop := mark = '\x60' ∨ mark = '~'

/-- What may follow the run of marks that opens a block: it does not go on with the run, and behind
backticks it holds no backtick. -/
structure IsInfo (mark : Char) (info : List Char) : Prop where
  head : info.head? ≠ some mark
  marks : mark = '\x60' → '\x60' ∉ info

/-- A line that opens a block, taken apart. -/
structure Fence.OpenedBy (fence : Fence) (info line : List Char) : Prop where
  indent_le_three : fence.indent ≤ 3
  isFenceMark : IsFenceMark fence.mark
  three_le_size : 3 ≤ fence.size
  isInfo : IsInfo fence.mark info
  info_eq : fence.info = strip info
  line_eq : line = fenceLine fence.indent fence.mark fence.size info

/-- A line that opens a block. -/
def OpensFence (line : List Char) : Prop := ∃ fence info, Fence.OpenedBy fence info line

/-- A line that closes a block that `size` marks have opened. -/
def ClosesFence (mark : Char) (size : ℕ) (line : List Char) : Prop :=
  ∃ indent count rest, indent ≤ 3 ∧ size ≤ count ∧ (∀ c ∈ rest, c = ' ' ∨ c = '\t') ∧
    line = fenceLine indent mark count rest

/-! ### Runs of one character -/

theorem takeWhile_replicate_append {c : Char} {rest : List Char} (h : rest.head? ≠ some c) (n : ℕ) :
    (List.replicate n c ++ rest).takeWhile (· == c) = List.replicate n c := by
  rw [List.takeWhile_append_of_pos fun d hd ↦ by simp [List.eq_of_mem_replicate hd]]
  rcases rest with - | ⟨d, rest⟩
  · simp
  · have hd : (d == c) = false := by simpa using h
    rw [List.takeWhile_cons_of_neg (by simp [hd]), List.append_nil]

theorem dropWhile_replicate_append {c : Char} {rest : List Char} (h : rest.head? ≠ some c) (n : ℕ) :
    (List.replicate n c ++ rest).dropWhile (· == c) = rest := by
  rw [List.dropWhile_append_of_pos fun d hd ↦ by simp [List.eq_of_mem_replicate hd]]
  rcases rest with - | ⟨d, rest⟩
  · rfl
  · have hd : (d == c) = false := by simpa using h
    rw [List.dropWhile_cons_of_neg (by simp [hd])]

/-- A text is the longest run of a character at its start, and something that does not go on with
the run. -/
theorem exists_replicate_append (c : Char) (s : List Char) :
    ∃ n rest, s = List.replicate n c ++ rest ∧ rest.head? ≠ some c := by
  induction s with
  | nil => exact ⟨0, [], rfl, by simp⟩
  | cons d s ih =>
    by_cases hd : d = c
    · subst hd
      obtain ⟨n, rest, hs, hrest⟩ := ih
      exact ⟨n + 1, rest, by rw [hs, List.replicate_succ, List.cons_append], hrest⟩
    · exact ⟨0, d :: s, rfl, by simpa using hd⟩

/-- Behind a run of spaces a reader that skips them stands at what follows. -/
theorem drop_length_takeWhile_spaces {rest : List Char} (h : rest.head? ≠ some ' ') (n : ℕ) :
    ((List.replicate n ' ' ++ rest).takeWhile (· == ' ')).length = n ∧
      (List.replicate n ' ' ++ rest).drop n = rest := by
  rw [takeWhile_replicate_append h, List.length_replicate]
  exact ⟨rfl, List.drop_left' (List.length_replicate ..)⟩

theorem IsFenceMark.ne_space {mark : Char} (h : IsFenceMark mark) : mark ≠ ' ' := by
  rcases h with rfl | rfl <;> decide

theorem IsFenceMark.ne_tab {mark : Char} (h : IsFenceMark mark) : mark ≠ '\t' := by
  rcases h with rfl | rfl <;> decide

/-- A run of marks does not begin with a space. -/
theorem head?_replicate_append_ne {mark : Char} (hmark : mark ≠ ' ') {size : ℕ} (hsize : 0 < size)
    (rest : List Char) : (List.replicate size mark ++ rest).head? ≠ some ' ' := by
  obtain ⟨n, rfl⟩ := Nat.exists_eq_succ_of_ne_zero (Nat.ne_of_gt hsize)
  rw [List.replicate_succ, List.cons_append, List.head?_cons]
  exact fun h ↦ hmark (Option.some.inj h)

/-! ### Opening lines -/

/-- The reader, on a line of an indentation and something behind it. -/
theorem ofLine?_spaces {indent : ℕ} {mark : Char} {rest : List Char} (hmark : mark ≠ ' ') :
    Fence.ofLine? (List.replicate indent ' ' ++ mark :: rest) =
      if 3 < indent || (rest.takeWhile (· == mark)).length + 1 < 3 then none
      else if mark = '~' ||
          (mark = '\x60' && !(strip (rest.dropWhile (· == mark))).contains '\x60') then
        some ⟨mark, (rest.takeWhile (· == mark)).length + 1, indent,
          strip (rest.dropWhile (· == mark))⟩
      else none := by
  have hhead : (mark :: rest).head? ≠ some ' ' := by simpa using hmark
  obtain ⟨hlength, hdrop⟩ := drop_length_takeWhile_spaces hhead indent
  simp only [Fence.ofLine?, hlength, hdrop]

/-- White space at the ends of a text holds none of its backticks. -/
theorem contains_strip_backtick (s : List Char) :
    (strip s).contains '\x60' = s.contains '\x60' := by
  have hdrop : ∀ t : List Char, (t.dropWhile isBlank).contains '\x60' = t.contains '\x60' := by
    intro t
    induction t with
    | nil => rfl
    | cons c t ih =>
      by_cases hc : isBlank c = true
      · have hne : ('\x60' == c) = false := by
          rw [beq_eq_false_iff_ne]
          rintro rfl
          revert hc
          decide
        rw [List.dropWhile_cons_of_pos hc, ih, List.contains_cons, hne, Bool.false_or]
      · rw [List.dropWhile_cons_of_neg hc]
  rw [strip, stripRight, dropTrailing, List.contains_reverse, hdrop, List.contains_reverse,
    stripLeft, hdrop]

/-- What is read off a line that opens a block. -/
theorem ofLine?_fenceLine {indent size : ℕ} {mark : Char} {info : List Char} (hindent : indent ≤ 3)
    (hmark : IsFenceMark mark) (hsize : 3 ≤ size) (hinfo : IsInfo mark info) :
    Fence.ofLine? (fenceLine indent mark size info) = some ⟨mark, size, indent, strip info⟩ := by
  obtain ⟨n, rfl⟩ : ∃ n, size = n + 1 := ⟨size - 1, by omega⟩
  rw [fenceLine, List.replicate_succ, List.cons_append, ofLine?_spaces hmark.ne_space,
    takeWhile_replicate_append hinfo.head, dropWhile_replicate_append hinfo.head,
    List.length_replicate, contains_strip_backtick, if_neg (by simp; omega), if_pos]
  rcases hmark with rfl | rfl
  · simpa using hinfo.marks rfl
  · rfl

theorem Fence.OpenedBy.ofLine? {fence : Fence} {info line : List Char}
    (h : fence.OpenedBy info line) : Fence.ofLine? line = some fence := by
  rw [h.line_eq, ofLine?_fenceLine h.indent_le_three h.isFenceMark h.three_le_size h.isInfo,
    ← h.info_eq]

/-- A line off which something is read opens a block. -/
theorem opensFence_of_ofLine? {line : List Char} (h : Fence.ofLine? line ≠ none) :
    OpensFence line := by
  obtain ⟨indent, behind, rfl, hbehind⟩ := exists_replicate_append ' ' line
  rcases behind with - | ⟨mark, rest⟩
  · rw [Fence.ofLine?] at h
    simp at h
  have hspace : mark ≠ ' ' := by simpa using hbehind
  obtain ⟨n, info, rfl, hinfo⟩ := exists_replicate_append mark rest
  rw [ofLine?_spaces hspace, takeWhile_replicate_append hinfo, dropWhile_replicate_append hinfo,
    List.length_replicate, contains_strip_backtick] at h
  split_ifs at h with hbounds hmark
  · exact absurd rfl h
  · have hbounds : indent ≤ 3 ∧ 3 ≤ n + 1 := by simpa using hbounds
    refine ⟨⟨mark, n + 1, indent, strip info⟩, info, hbounds.1, ?_, hbounds.2, ⟨hinfo, ?_⟩, rfl,
      rfl⟩
    · rcases (Bool.or_eq_true _ _).mp hmark with htilde | htick
      · exact .inr (of_decide_eq_true htilde)
      · exact .inl (of_decide_eq_true ((Bool.and_eq_true _ _).mp htick).1)
    · rintro rfl
      simpa using hmark
  · exact absurd rfl h

/-- The reader refuses exactly the lines that open no block. -/
theorem ofLine?_eq_none_iff {line : List Char} :
    Fence.ofLine? line = none ↔ ¬ OpensFence line := by
  constructor
  · rintro h ⟨fence, info, hopened⟩
    rw [hopened.ofLine?] at h
    cases h
  · intro h
    by_contra hread
    exact h (opensFence_of_ofLine? hread)

/-- The reader takes exactly the lines that open a block, and takes them apart. -/
theorem ofLine?_eq_some_iff {fence : Fence} {line : List Char} :
    Fence.ofLine? line = some fence ↔ ∃ info, fence.OpenedBy info line := by
  constructor
  · intro h
    obtain ⟨read, info, hopened⟩ := opensFence_of_ofLine? (by rw [h]; exact Option.some_ne_none _)
    rw [hopened.ofLine?, Option.some.injEq] at h
    exact ⟨info, h ▸ hopened⟩
  · rintro ⟨info, hopened⟩
    exact hopened.ofLine?

instance (line : List Char) : Decidable (OpensFence line) :=
  decidable_of_iff (¬ Fence.ofLine? line = none) (by rw [ofLine?_eq_none_iff, not_not])

/-- None of the lines opens a block. -/
def IsProse (ls : List (List Char)) : Prop := ∀ l ∈ ls, ¬ OpensFence l

instance (ls : List (List Char)) : Decidable (IsProse ls) :=
  List.decidableBAll (fun l ↦ ¬ OpensFence l) ls

/-! ### Closing lines -/

/-- The check, on a line of an indentation, a run of marks and something behind them. -/
theorem closes_fenceLine {fence : Fence} {indent count : ℕ} {rest : List Char}
    (hindent : (List.replicate count fence.mark ++ rest).head? ≠ some ' ')
    (hrest : rest.head? ≠ some fence.mark) :
    fence.closes (fenceLine indent fence.mark count rest) = true ↔
      (indent ≤ 3 ∧ fence.size ≤ count) ∧ ∀ c ∈ rest, c = ' ' ∨ c = '\t' := by
  obtain ⟨hlength, hdrop⟩ := drop_length_takeWhile_spaces hindent indent
  simp only [Fence.closes, fenceLine, hlength, hdrop, takeWhile_replicate_append hrest,
    List.length_replicate, List.drop_left' (List.length_replicate ..), Bool.and_eq_true,
    decide_eq_true_eq, List.all_eq_true, Bool.or_eq_true]

/-- A block is closed exactly by the lines that close its fence. -/
theorem closes_iff {fence : Fence} (hmark : IsFenceMark fence.mark) (hsize : 0 < fence.size)
    {line : List Char} : fence.closes line = true ↔ ClosesFence fence.mark fence.size line := by
  constructor
  · intro h
    obtain ⟨indent, behind, rfl, hbehind⟩ := exists_replicate_append ' ' line
    obtain ⟨count, rest, rfl, hrest⟩ := exists_replicate_append fence.mark behind
    obtain ⟨⟨hindent, hcount⟩, hblank⟩ := (closes_fenceLine hbehind hrest).mp h
    exact ⟨indent, count, rest, hindent, hcount, hblank, rfl⟩
  · rintro ⟨indent, count, rest, hindent, hcount, hrest, rfl⟩
    refine (closes_fenceLine
      (head?_replicate_append_ne hmark.ne_space (Nat.lt_of_lt_of_le hsize hcount) rest) ?_).mpr
      ⟨⟨hindent, hcount⟩, hrest⟩
    intro h
    rcases hrest _ (List.mem_of_mem_head? h) with heq | heq
    · exact hmark.ne_space heq
    · exact hmark.ne_tab heq

/-! ### Tests -/

/-- Whether an info string names no language, or names this one first. -/
def IsFor (language info : List Char) : Prop := ∀ w ∈ (words info).head?, w = language

instance (language info : List Char) : Decidable (IsFor language info) :=
  Option.decidableForallMem (words info).head?

theorem isFor_strip_iff {language info : List Char} :
    IsFor language (strip info) ↔ IsFor language info := by
  rw [IsFor, IsFor, words_strip]

/-- A block is a test for the language that it names and, if it names none, for all. -/
theorem isTest_iff {fence : Fence} {language : List Char} :
    fence.isTest language = true ↔ IsFor language fence.info := by
  rw [Fence.isTest, Fence.tag, IsFor]
  rcases h : (words fence.info).head? with - | w
  · simp
  · have hw : w ≠ [] := ne_nil_of_mem_words (List.mem_of_mem_head? h)
    simp [hw]

end CrateDoc.Doctest
