import CrateDoc.Text.Lines
import CrateDoc.Proofs.Text.Words
import Mathlib.Data.List.Basic
import Mathlib.Tactic.SplitIfs

/-!
# Lines of a text that is put together

How `lines` reads what was written line by line: a line without line ends and a newline behind it is
one line more (`lines_append_newline`), lines that are joined by newlines come back
(`lines_joinWith_newline`), and a text that stops at the end of a line is read apart from what
follows it (`lines_append_of_endsLine`). So is any text with a newline behind it, up to an empty
line (`exists_lines_append_newline`).

What lies between newlines may hold other line ends (`otherLineEnds`), a line may not
(`isLine_of_mem_lines`). Joining what lies between the newlines gives the text again
(`joinWith_newlineLines`).

Carriage returns are made newlines piece by piece, if no piece ends within a line end
(`unifyNewlines_append`). The lines that are complete do not depend on what follows them
(`newlineEndedLines_append`).
-/

namespace CrateDoc.Text

/-- A line holds no character at which a line ends. -/
def IsLine (s : List Char) : Prop := ∀ c ∈ s, isLineEnd c = false

/-- A text is empty, or its last character ends a line. -/
def EndsLine (s : List Char) : Prop := ∀ c ∈ s.getLast?, isLineEnd c = true

instance (s : List Char) : Decidable (IsLine s) :=
  List.decidableBAll (fun c ↦ isLineEnd c = false) s

instance (s : List Char) : Decidable (EndsLine s) :=
  Option.decidableForallMem s.getLast?

theorem isLineEnd_newline : isLineEnd '\n' = true := by decide

theorem isLineEnd_return : isLineEnd '\r' = true := by decide

theorem IsLine.cons {c : Char} {s : List Char} (hs : IsLine s) (hc : isLineEnd c = false) :
    IsLine (c :: s) := by
  intro d hd
  rcases List.mem_cons.1 hd with rfl | hd
  · exact hc
  · exact hs d hd

theorem IsLine.append {s t : List Char} (hs : IsLine s) (ht : IsLine t) : IsLine (s ++ t) := by
  intro c hc
  rcases List.mem_append.1 hc with hc | hc
  · exact hs c hc
  · exact ht c hc

/-- A repeated character is a line unless it ends lines. -/
theorem isLine_replicate {c : Char} (hc : isLineEnd c = false) (n : ℕ) :
    IsLine (List.replicate n c) := by
  intro d hd
  rw [List.eq_of_mem_replicate hd]
  exact hc

/-- In a text without carriage returns every line end is a newline already. -/
theorem unifyNewlines_eq_self {s : List Char} (h : '\r' ∉ s) : unifyNewlines s = s := by
  fun_induction unifyNewlines s with
  | case1 => rfl
  | case2 rest => exact absurd List.mem_cons_self h
  | case3 c rest _ ih =>
    obtain ⟨hc, hrest⟩ := not_or.1 (mt List.mem_cons.2 h)
    rw [if_neg (Ne.symm hc), ih hrest]

/-- A text may be cut everywhere but within a line end. -/
theorem unifyNewlines_append {s t : List Char}
    (h : s.getLast? = some '\r' → t.head? ≠ some '\n') :
    unifyNewlines (s ++ t) = unifyNewlines s ++ unifyNewlines t := by
  fun_induction unifyNewlines s with
  | case1 => rfl
  | case2 rest ih =>
    have hrest : rest.getLast? = some '\r' → t.head? ≠ some '\n' := fun hlast ↦
      h (by rw [List.getLast?_cons, List.getLast?_cons, hlast]; rfl)
    rw [List.cons_append, List.cons_append, unifyNewlines, ih hrest]
    rfl
  | case3 c rest hpair ih =>
    have hrest : rest.getLast? = some '\r' → t.head? ≠ some '\n' := fun hlast ↦
      h (by rw [List.getLast?_cons, hlast]; rfl)
    have hcut : ∀ more, c = '\r' → rest ++ t = '\n' :: more → False := by
      rintro more rfl heq
      rcases rest with - | ⟨d, rest⟩
      · exact h rfl (by rw [List.nil_append] at heq; rw [heq]; rfl)
      · cases heq
        exact hpair rest rfl rfl
    rw [List.cons_append, unifyNewlines.eq_3 _ _ hcut, ih hrest]
    rfl

/-- No carriage return is left. -/
theorem return_not_mem_unifyNewlines (s : List Char) : '\r' ∉ unifyNewlines s := by
  fun_induction unifyNewlines s with
  | case1 => exact List.not_mem_nil
  | case2 rest ih => simpa using ih
  | case3 c rest hpair ih =>
    rw [List.mem_cons, not_or]
    refine ⟨?_, ih⟩
    split_ifs with hc
    · decide
    · exact Ne.symm hc

/-- A character that ends no line starts the first line, or is a line of its own. -/
theorem lines_cons_of_not_isLineEnd {c : Char} (hc : isLineEnd c = false) (s : List Char) :
    lines (c :: s) = match lines s with
      | [] => [[c]]
      | line :: more => (c :: line) :: more := by
  have hpair : ∀ rest, c = '\r' → s = '\n' :: rest → False := by
    rintro rest rfl -
    rw [isLineEnd_return] at hc
    cases hc
  exact (lines.eq_3 c s hpair).trans (if_neg (by simp [hc]))

/-- A newline ends the line before it. -/
theorem lines_append_newline {s : List Char} (hs : IsLine s) (rest : List Char) :
    lines (s ++ '\n' :: rest) = s :: lines rest := by
  induction s with
  | nil => rw [List.nil_append, lines.eq_3 _ _ (by simp), if_pos isLineEnd_newline]
  | cons c s ih =>
    rw [List.cons_append, lines_cons_of_not_isLineEnd (hs c List.mem_cons_self),
      ih fun d hd ↦ hs d (List.mem_cons_of_mem c hd)]

/-- A line that is not empty is one line. -/
theorem lines_of_isLine {s : List Char} (hs : IsLine s) (hne : s ≠ []) : lines s = [s] := by
  induction s with
  | nil => exact absurd rfl hne
  | cons c s ih =>
    rw [lines_cons_of_not_isLineEnd (hs c List.mem_cons_self)]
    rcases s with - | ⟨d, s⟩
    · rfl
    · rw [ih (fun d hd ↦ hs d (List.mem_cons_of_mem c hd)) (List.cons_ne_nil d s)]

theorem joinWith_newline_cons (l : List Char) {ls : List (List Char)} (hls : ls ≠ []) :
    joinWith ['\n'] (l :: ls) = l ++ '\n' :: joinWith ['\n'] ls := by
  rw [joinWith, joinWith, List.intercalate_cons_of_ne_nil hls]
  simp

/-- Lines that are joined by newlines come back, the last of them with all that follows. -/
theorem lines_joinWith_newline {ls : List (List Char)} (hls : ∀ l ∈ ls, IsLine l)
    (last : List Char) :
    lines (joinWith ['\n'] (ls ++ [last])) = ls ++ lines last := by
  induction ls with
  | nil => simp [joinWith]
  | cons l ls ih =>
    rw [List.cons_append, joinWith_newline_cons l (by simp),
      lines_append_newline (hls l List.mem_cons_self),
      ih fun l' hl' ↦ hls l' (List.mem_cons_of_mem l hl'), List.cons_append]

theorem lines_ne_nil {s : List Char} (hs : s ≠ []) : lines s ≠ [] := by
  fun_cases lines s with
  | case1 => exact absurd rfl hs
  | case2 rest => exact List.cons_ne_nil _ _
  | case3 c rest => exact List.cons_ne_nil _ _
  | case4 c rest => exact List.cons_ne_nil _ _
  | case5 c rest => exact List.cons_ne_nil _ _

theorem EndsLine.tail {c : Char} {s : List Char} (h : EndsLine (c :: s)) : EndsLine s := by
  intro d hd
  refine h d ?_
  rw [List.getLast?_cons, hd]
  rfl

/-- A text that stops at the end of a line is read apart from what follows, unless a carriage return
and a newline come together there. -/
theorem lines_append_of_endsLine {s t : List Char} (hs : EndsLine s) (ht : t.head? ≠ some '\n') :
    lines (s ++ t) = lines s ++ lines t := by
  fun_induction lines s with
  | case1 => rfl
  | case2 rest ih =>
    rw [List.cons_append, List.cons_append, lines, ih hs.tail.tail, List.cons_append]
  | case3 c rest hpair hend ih =>
    have hpair' : ∀ rest', c = '\r' → rest ++ t = '\n' :: rest' → False := by
      intro rest' hc hrest
      rcases rest with - | ⟨d, rest⟩
      · rw [List.nil_append] at hrest
        exact ht (by rw [hrest]; rfl)
      · rw [List.cons_append, List.cons.injEq] at hrest
        exact hpair rest hc (by rw [hrest.1])
    rw [List.cons_append, lines.eq_3 _ _ hpair', if_pos hend, ih hs.tail, List.cons_append]
  | case4 c rest hpair hend heq ih =>
    -- The last character ends a line, so it is not the only one.
    have hrest : rest ≠ [] := by
      rintro rfl
      exact hend (hs c rfl)
    exact absurd heq (lines_ne_nil hrest)
  | case5 c rest hpair hend line more heq ih =>
    rw [List.cons_append, lines_cons_of_not_isLineEnd (by simpa using hend), ih hs.tail, heq]
    rfl

/-- A text with a newline behind it is read apart from what follows. The newline ends a line that is
empty if it ends none of the text, and none at all where a carriage return before it has done so. -/
theorem exists_lines_append_newline (s : List Char) :
    ∃ empty : List (List Char), (∀ l ∈ empty, l = []) ∧
      ∀ t, lines (s ++ '\n' :: t) = lines s ++ (empty ++ lines t) := by
  fun_induction lines s with
  | case1 => exact ⟨[[]], by simp, fun t ↦ lines_append_newline (s := []) nofun t⟩
  | case2 rest ih =>
    obtain ⟨empty, hempty, hlines⟩ := ih
    refine ⟨empty, hempty, fun t ↦ ?_⟩
    rw [List.cons_append, List.cons_append, lines, hlines, List.cons_append]
  | case3 c rest hpair hend ih =>
    by_cases hmeet : c = '\r' ∧ rest = []
    · obtain ⟨rfl, rfl⟩ := hmeet
      exact ⟨[], nofun, fun t ↦ rfl⟩
    obtain ⟨empty, hempty, hlines⟩ := ih
    refine ⟨empty, hempty, fun t ↦ ?_⟩
    have hpair' : ∀ rest', c = '\r' → rest ++ '\n' :: t = '\n' :: rest' → False := by
      intro rest' hc hrest
      rcases rest with - | ⟨d, rest⟩
      · exact hmeet ⟨hc, rfl⟩
      · rw [List.cons_append, List.cons.injEq] at hrest
        exact hpair rest hc (by rw [hrest.1])
    rw [List.cons_append, lines.eq_3 _ _ hpair', if_pos hend, hlines, List.cons_append]
  | case4 c rest hpair hend heq ih =>
    -- The text ends in a line without an end, which the newline gives it.
    have hrest : rest = [] := by
      by_contra hne
      exact lines_ne_nil hne heq
    subst hrest
    refine ⟨[], nofun, fun t ↦ ?_⟩
    have hline : IsLine [c] := IsLine.cons nofun (by simpa using hend)
    exact lines_append_newline hline t
  | case5 c rest hpair hend line more heq ih =>
    obtain ⟨empty, hempty, hlines⟩ := ih
    refine ⟨empty, hempty, fun t ↦ ?_⟩
    rw [List.cons_append, lines_cons_of_not_isLineEnd (by simpa using hend), hlines, heq]
    rfl

/-! ### What lies between newlines -/

/-- The line ends besides the newline and the carriage return. -/
def otherLineEnds : List Char :=
  ['\x0b', '\x0c', '\x1c', '\x1d', '\x1e', '\u0085', '\u2028', '\u2029']

/-- Lines end at a newline, a return, or one of the rarer line ends. -/
theorem isLineEnd_iff {c : Char} :
    isLineEnd c = true ↔ c = '\n' ∨ c = '\r' ∨ c ∈ otherLineEnds := by
  simp only [isLineEnd, otherLineEnds, List.mem_cons, List.not_mem_nil, or_false,
    ← Char.toNat_inj, Bool.or_eq_true, Bool.and_eq_true, decide_eq_true_eq, beq_iff_eq]
  show _ ↔ c.toNat = 10 ∨ c.toNat = 13 ∨ c.toNat = 11 ∨ c.toNat = 12 ∨ c.toNat = 28 ∨
    c.toNat = 29 ∨ c.toNat = 30 ∨ c.toNat = 0x85 ∨ c.toNat = 0x2028 ∨ c.toNat = 0x2029
  omega

/-- No line holds a character at which a line ends. -/
theorem isLine_of_mem_lines {s l : List Char} (h : l ∈ lines s) : IsLine l := by
  fun_induction lines s generalizing l with
  | case1 => cases h
  | case2 rest ih =>
    rcases List.mem_cons.1 h with rfl | h
    · nofun
    · exact ih h
  | case3 c rest _ _ ih =>
    rcases List.mem_cons.1 h with rfl | h
    · nofun
    · exact ih h
  | case4 c rest _ hc _ ih =>
    rw [List.mem_singleton.1 h]
    exact IsLine.cons nofun (by simpa using hc)
  | case5 c rest _ hc line more heq ih =>
    rw [heq] at ih
    rcases List.mem_cons.1 h with rfl | h
    · exact (ih List.mem_cons_self).cons (by simpa using hc)
    · exact ih (List.mem_cons_of_mem line h)

/-- What is joined from the pieces between newlines is the text that was cut. -/
theorem joinWith_newlineLines (s : List Char) : joinWith ['\n'] (newlineLines s) = s := by
  induction s with
  | nil => rfl
  | cons c s ih =>
    have hne := pieces_ne_nil (· == '\n') s
    rw [newlineLines] at ih ⊢
    rw [pieces]
    split_ifs with hc
    · rw [joinWith_newline_cons _ hne, ih, eq_of_beq hc, List.nil_append]
    · obtain ⟨first, more, heq⟩ := List.exists_cons_of_ne_nil hne
      rw [heq] at ih ⊢
      rw [← ih]
      -- The character stands in the first piece, whether others follow or not.
      rcases more with - | ⟨second, more⟩
      · rfl
      · rfl

theorem joinWith_newline_append_singleton {ls : List (List Char)} (hls : ls ≠ [])
    (last : List Char) : joinWith ['\n'] (ls ++ [last]) = joinWith ['\n'] ls ++ '\n' :: last := by
  induction ls with
  | nil => exact absurd rfl hls
  | cons l ls ih =>
    rcases ls with - | ⟨l', ls⟩
    · simp [joinWith]
    · have hne : l' :: ls ≠ [] := List.cons_ne_nil l' ls
      rw [List.cons_append, joinWith_newline_cons l (by simp), ih hne, joinWith_newline_cons l hne,
        List.append_assoc, List.cons_append]

/-- What is joined begins with the first line. -/
theorem exists_joinWith_cons (l : List Char) (ls : List (List Char)) :
    ∃ behind, joinWith ['\n'] (l :: ls) = l ++ behind := by
  rcases eq_or_ne ls [] with rfl | hls
  · exact ⟨[], by simp [joinWith]⟩
  · exact ⟨_, joinWith_newline_cons l hls⟩

/-- Where lines are joined by newlines, every other character is one of a line. -/
theorem mem_joinWith_newline {c : Char} {ls : List (List Char)} (h : c ∈ joinWith ['\n'] ls) :
    c = '\n' ∨ ∃ l ∈ ls, c ∈ l := by
  induction ls with
  | nil => cases h
  | cons l ls ih =>
    rcases ls with - | ⟨l', ls⟩
    · have hl : joinWith ['\n'] [l] = l := by simp [joinWith]
      exact .inr ⟨l, List.mem_cons_self, hl ▸ h⟩
    · rw [joinWith_newline_cons l (List.cons_ne_nil l' ls)] at h
      rcases List.mem_append.1 h with h | h
      · exact .inr ⟨l, List.mem_cons_self, h⟩
      · rcases List.mem_cons.1 h with h | h
        · exact .inl h
        · refine (ih h).imp_right fun ⟨m, hm, hc⟩ ↦ ⟨m, List.mem_cons_of_mem l hm, hc⟩

/-- Where no line ends but at a newline, what lies between newlines are lines. -/
theorem isLine_of_mem_newlineLines {s l : List Char}
    (hs : ∀ c ∈ s, isLineEnd c = true → c = '\n') (h : l ∈ newlineLines s) : IsLine l := by
  intro c hc
  obtain ⟨hmem, hcut⟩ := of_mem_pieces h c hc
  rw [← Bool.not_eq_true]
  intro hend
  rw [hs c hmem hend] at hcut
  cases hcut

/-! ### Lines with their newlines -/

/-- Lines with newlines behind them: there is one at the end of each and none within. The last line
may have none at its end. -/
inductive AreNewlineEnded : List (List Char) → Prop
  | nil : AreNewlineEnded []
  | last {line : List Char} : line ≠ [] → '\n' ∉ line → AreNewlineEnded [line]
  | cons {line : List Char} {more : List (List Char)} : '\n' ∉ line → AreNewlineEnded more →
    AreNewlineEnded ((line ++ ['\n']) :: more)

/-- Of the lines cut at newlines, only the last may have no newline. -/
theorem areNewlineEnded_newlineEndedLines (s : List Char) :
    AreNewlineEnded (newlineEndedLines s) := by
  fun_induction newlineEndedLines s with
  | case1 => exact .nil
  | case2 rest ih => exact @AreNewlineEnded.cons [] _ List.not_mem_nil ih
  | case3 c rest hc heq ih => exact .last (List.cons_ne_nil c []) (by simpa using Ne.symm hc)
  | case4 c rest hc line more heq ih =>
    rw [heq] at ih
    cases ih with
    | last hne hline => exact .last (List.cons_ne_nil c line) (by simpa using ⟨Ne.symm hc, hline⟩)
    | @cons line _ hline hmore =>
      exact @AreNewlineEnded.cons (c :: line) _ (by simpa using ⟨Ne.symm hc, hline⟩) hmore

/-- The lines that are complete do not depend on what follows. -/
theorem newlineEndedLines_append (s t : List Char) :
    newlineEndedLines (s ++ t) =
      (completeLines s).1 ++ newlineEndedLines ((completeLines s).2 ++ t) := by
  fun_induction completeLines s with
  | case1 => rfl
  | case2 rest ih =>
    rw [List.cons_append, newlineEndedLines, if_pos rfl, ih]
    rfl
  | case3 c rest hc begun heq ih =>
    rw [heq, List.nil_append] at ih
    rw [List.nil_append, List.cons_append, List.cons_append, newlineEndedLines, if_neg hc, ih,
      newlineEndedLines, if_neg hc]
  | case4 c rest hc line more begun heq ih =>
    rw [heq] at ih
    rw [List.cons_append, newlineEndedLines, if_neg hc, ih]
    rfl

end CrateDoc.Text
