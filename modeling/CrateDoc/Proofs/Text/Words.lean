import CrateDoc.Text.Blank
import Mathlib.Tactic.SplitIfs

/-!
# Words and the white space around them

White space at either end of a text does not change its words (`words_strip`), and no word is empty
(`ne_nil_of_mem_words`). A text is cut at a mark where the mark begins for the first time
(`cutAt?_append`).
-/

namespace CrateDoc.Text

theorem pieces_ne_nil (p : Char → Bool) (s : List Char) : pieces p s ≠ [] := by
  fun_cases pieces p s with
  | case1 => exact List.cons_ne_nil _ _
  | case2 => exact List.cons_ne_nil _ _
  | case3 => exact List.cons_ne_nil _ _
  | case4 => exact List.cons_ne_nil _ _

/-- Without a cut there is one piece. -/
theorem pieces_eq_singleton {p : Char → Bool} {s : List Char} (h : ∀ c ∈ s, p c = false) :
    pieces p s = [s] := by
  induction s with
  | nil => rfl
  | cons c s ih =>
    rw [pieces, if_neg (by simp [h c List.mem_cons_self]),
      ih fun d hd ↦ h d (List.mem_cons_of_mem c hd)]

/-- A cut at the end leaves an empty piece behind it. -/
theorem pieces_append_singleton {p : Char → Bool} {c : Char} (hc : p c = true) (s : List Char) :
    pieces p (s ++ [c]) = pieces p s ++ [[]] := by
  induction s with
  | nil => simp [pieces, hc]
  | cons d s ih =>
    rw [List.cons_append, pieces, pieces, ih]
    by_cases hd : p d = true
    · rw [if_pos hd, if_pos hd, List.cons_append]
    · rw [if_neg hd, if_neg hd]
      rcases h : pieces p s with - | ⟨piece, more⟩
      · exact absurd h (pieces_ne_nil p s)
      · rfl

/-- A piece holds characters of the text, and none at which the text is cut. -/
theorem of_mem_pieces {p : Char → Bool} {s piece : List Char} (h : piece ∈ pieces p s) :
    ∀ c ∈ piece, c ∈ s ∧ p c = false := by
  induction s generalizing piece with
  | nil =>
    rw [List.mem_singleton.1 h]
    nofun
  | cons d s ih =>
    have hrest : ∀ {piece}, piece ∈ pieces p s → ∀ c ∈ piece, c ∈ d :: s ∧ p c = false :=
      fun hpiece c hc ↦ (ih hpiece c hc).imp_left (List.mem_cons_of_mem d)
    rw [pieces] at h
    split_ifs at h with hd
    · rcases List.mem_cons.1 h with rfl | h
      · nofun
      · exact hrest h
    · obtain ⟨first, more, heq⟩ := List.exists_cons_of_ne_nil (pieces_ne_nil p s)
      rw [heq] at h hrest
      rcases List.mem_cons.1 h with rfl | h
      · intro c hc
        rcases List.mem_cons.1 hc with rfl | hc
        · exact ⟨List.mem_cons_self, by simpa using hd⟩
        · exact hrest List.mem_cons_self c hc
      · exact hrest (List.mem_cons_of_mem first h)

theorem words_cons_of_isBlank {c : Char} (hc : isBlank c = true) (s : List Char) :
    words (c :: s) = words s := by
  simp [words, pieces, hc]

theorem words_append_of_isBlank (s : List Char) {t : List Char}
    (ht : ∀ c ∈ t, isBlank c = true) : words (s ++ t) = words s := by
  induction t generalizing s with
  | nil => rw [List.append_nil]
  | cons c t ih =>
    have hlast : words (s ++ [c]) = words s := by
      simp [words, pieces_append_singleton (ht c List.mem_cons_self)]
    rw [List.append_cons, ih _ fun d hd ↦ ht d (List.mem_cons_of_mem c hd), hlast]

theorem words_stripLeft (s : List Char) : words (stripLeft s) = words s := by
  induction s with
  | nil => rfl
  | cons c s ih =>
    by_cases hc : isBlank c = true
    · rw [stripLeft, List.dropWhile_cons_of_pos hc, words_cons_of_isBlank hc]
      exact ih
    · rw [stripLeft, List.dropWhile_cons_of_neg hc]

/-- White space at the ends of a text does not change its words. -/
theorem words_strip (s : List Char) : words (strip s) = words s := by
  have htrailing : ∀ c ∈ takeTrailing isBlank (stripLeft s), isBlank c = true := by
    intro c hc
    exact List.all_eq_true.1 List.all_takeWhile c (List.mem_reverse.1 hc)
  rw [strip, stripRight, ← words_append_of_isBlank _ htrailing, dropTrailing_append_takeTrailing,
    words_stripLeft]

theorem ne_nil_of_mem_words {w s : List Char} (h : w ∈ words s) : w ≠ [] := by
  have hw := (List.mem_filter.1 h).2
  rintro rfl
  cases hw

/-! ### Cutting at a mark -/

theorem cutAt?_eq_none {c : Char} {s : List Char} (h : c ∉ s) (mark : List Char) :
    cutAt? (c :: mark) s = none := by
  induction s with
  | nil => rfl
  | cons d s ih =>
    obtain ⟨hd, hs⟩ := not_or.1 (mt List.mem_cons.2 h)
    rw [cutAt?, if_neg (by simp [hd]), ih hs]
    rfl

/-- A text is cut at a mark that stands behind other characters than its first. -/
theorem cutAt?_append {c : Char} {s : List Char} (h : c ∉ s) (mark rest : List Char) :
    cutAt? (c :: mark) (s ++ (c :: mark ++ rest)) = some (s, rest) := by
  induction s with
  | nil =>
    have hprefix : (c :: mark).isPrefixOf (c :: (mark ++ rest)) = true :=
      List.isPrefixOf_iff_prefix.2 (List.prefix_append (c :: mark) rest)
    rw [List.nil_append, List.cons_append, cutAt?, if_pos hprefix]
    simp
  | cons d s ih =>
    obtain ⟨hd, hs⟩ := not_or.1 (mt List.mem_cons.2 h)
    rw [List.cons_append, cutAt?, if_neg (by simp [hd]), ih hs]
    rfl

end CrateDoc.Text
