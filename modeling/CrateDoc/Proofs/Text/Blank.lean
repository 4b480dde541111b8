import CrateDoc.Text.Blank
import Mathlib.Data.List.DropRight

/-!
# White space at the ends of a text

What `strip` leaves has no white space at either end (`isStripped_strip`), and a text that has none
is left as it is (`IsStripped.strip_eq`). White space that is added at an end makes no difference
(`strip_append_of_allBlank`, `strip_allBlank_append`); between two characters that are not white
space nothing is taken off (`strip_append`). Writing white space in another way and leaving all
other characters alone can be done before or after (`strip_flatMap`).

The end of a text is looked at through `List.rdropWhile`, which `dropTrailing` is.
-/

namespace CrateDoc.Text

/-- A text without white space at either end. -/
structure IsStripped (s : List Char) : Prop where
  not_blank_head : ∀ c ∈ s.head?, isBlank c = false
  not_blank_last : ∀ c ∈ s.getLast?, isBlank c = false

/-- White space and nothing else. -/
def AllBlank (s : List Char) : Prop := ∀ c ∈ s, isBlank c = true

instance (s : List Char) : Decidable (AllBlank s) :=
  List.decidableBAll (fun c ↦ isBlank c = true) s

variable {s t : List Char}

theorem isBlank_of_isAsciiLetter {c : Char} (h : isAsciiLetter c = true) : isBlank c = false := by
  have hrange : 97 ≤ c.toNat ∧ c.toNat ≤ 122 ∨ 65 ≤ c.toNat ∧ c.toNat ≤ 90 := by
    simpa [isAsciiLetter, Char.le_def, UInt32.le_iff_toNat_le] using h
  simp only [isBlank, Bool.or_eq_false_iff, Bool.and_eq_false_iff, decide_eq_false_iff_not,
    beq_eq_false_iff_ne]
  omega

theorem AllBlank.append (hs : AllBlank s) (ht : AllBlank t) : AllBlank (s ++ t) := by
  intro c hc
  exact (List.mem_append.1 hc).elim (hs c) (ht c)

/-! ### The end of a text -/

/-- Stripping at the right is what the library calls dropping from the right. -/
theorem stripRight_eq_rdropWhile (s : List Char) : stripRight s = s.rdropWhile isBlank := rfl

theorem stripRight_isPrefix (s : List Char) : stripRight s <+: s := List.rdropWhile_prefix isBlank s

/-- The last character that is left is not blank. -/
theorem not_blank_getLast?_stripRight (s : List Char) :
    ∀ c ∈ (stripRight s).getLast?, isBlank c = false := by
  intro c hc
  obtain ⟨hne, rfl⟩ := List.mem_getLast?_eq_getLast hc
  exact Bool.eq_false_iff.2 (List.rdropWhile_last_not isBlank s hne)

/-- Nothing is stripped off a text that ends in something else than a blank. -/
theorem stripRight_eq_self (h : ∀ c ∈ s.getLast?, isBlank c = false) : stripRight s = s := by
  refine List.rdropWhile_eq_self_iff.2 fun hne ↦ ?_
  rw [h _ (List.getLast?_eq_getLast_of_ne_nil hne)]
  exact Bool.false_ne_true

/-- Where no character is taken off, a text stays as it is. -/
theorem trim_eq_self {p : Char → Bool} (h : ∀ c ∈ s, p c = false) : trim p s = s := by
  have hleft : s.dropWhile p = s := by
    refine List.dropWhile_eq_self_iff.2 fun hpos ↦ ?_
    rw [h _ (List.getElem_mem hpos)]
    exact Bool.false_ne_true
  rw [trim, hleft]
  refine List.rdropWhile_eq_self_iff.2 fun hne ↦ ?_
  rw [h _ (List.getLast_mem hne)]
  exact Bool.false_ne_true

/-- Blanks behind a text are stripped with those at its end. -/
theorem stripRight_append_of_allBlank (s : List Char) (ht : AllBlank t) :
    stripRight (s ++ t) = stripRight s := by
  induction t using List.reverseRecOn with
  | nil => rw [List.append_nil]
  | append_singleton t c ih =>
    have hc : isBlank c = true := ht c (List.mem_append_right t (List.mem_singleton_self c))
    rw [stripRight_eq_rdropWhile, ← List.append_assoc, List.rdropWhile_concat_pos _ _ _ hc]
    exact ih fun d hd ↦ ht d (List.mem_append_left [c] hd)

/-- Stripping the end of a text goes no further than its last part that is not blank. -/
theorem stripRight_append_of_not_allBlank (s : List Char) (ht : ¬ AllBlank t) :
    stripRight (s ++ t) = s ++ stripRight t := by
  induction t using List.reverseRecOn with
  | nil => exact absurd (fun _ hc ↦ by cases hc) ht
  | append_singleton t c ih =>
    simp only [stripRight_eq_rdropWhile, ← List.append_assoc] at ih ⊢
    by_cases hc : isBlank c = true
    · have ht' : ¬ AllBlank t := fun hblank ↦
        ht (hblank.append fun d hd ↦ (List.mem_singleton.1 hd).symm ▸ hc)
      rw [List.rdropWhile_concat_pos _ _ _ hc, List.rdropWhile_concat_pos _ _ _ hc, ih ht']
    · rw [List.rdropWhile_concat_neg _ _ _ hc, List.rdropWhile_concat_neg _ _ _ hc,
        List.append_assoc]

/-! ### The start of a text -/

theorem stripLeft_eq_nil (hs : AllBlank s) : stripLeft s = [] :=
  List.dropWhile_eq_nil_iff.2 hs

/-- Blanks in front of a text are stripped with those at its start. -/
theorem stripLeft_allBlank_append (hs : AllBlank s) (t : List Char) :
    stripLeft (s ++ t) = stripLeft t :=
  List.dropWhile_append_of_pos hs

/-- What is stripped at the left lies in front of the first other character. -/
theorem stripLeft_append_of_not_allBlank (hs : ¬ AllBlank s) (t : List Char) :
    stripLeft (s ++ t) = stripLeft s ++ t := by
  have hne : s.dropWhile isBlank ≠ [] := mt List.dropWhile_eq_nil_iff.1 hs
  rw [stripLeft, List.dropWhile_append, if_neg (by simpa using hne), stripLeft]

/-- Nothing is stripped off a text that begins with something else than a blank. -/
theorem stripLeft_eq_self (h : ∀ c ∈ s.head?, isBlank c = false) : stripLeft s = s := by
  rcases s with - | ⟨c, s⟩
  · rfl
  · exact List.dropWhile_cons_of_neg (by simp [h c rfl])

theorem stripLeft_isSuffix (s : List Char) : stripLeft s <:+ s := List.dropWhile_suffix isBlank

theorem not_allBlank_stripLeft (hs : ¬ AllBlank s) : ¬ AllBlank (stripLeft s) := by
  intro h
  rw [← List.takeWhile_append_dropWhile (p := isBlank) (l := s)] at hs
  exact hs (AllBlank.append (fun c hc ↦ List.mem_takeWhile_imp hc) h)

/-- The first character that is left is not blank. -/
theorem not_blank_head?_stripLeft (s : List Char) :
    ∀ c ∈ (stripLeft s).head?, isBlank c = false := by
  intro c hc
  have hhead := List.head?_dropWhile_not isBlank s
  rw [stripLeft] at hc
  rw [Option.mem_def.1 hc] at hhead
  exact hhead

/-! ### Both ends -/

theorem IsStripped.strip_eq (hs : IsStripped s) : strip s = s := by
  rw [strip, stripLeft_eq_self hs.not_blank_head, stripRight_eq_self hs.not_blank_last]

/-- The start of a text without white space at its start is stripped at its end only. -/
theorem isStripped_stripRight_of_prefix (h : s <+: t) (ht : IsStripped t) :
    IsStripped (stripRight s) where
  not_blank_head c hc := by
    obtain ⟨rest, rfl⟩ := (stripRight_isPrefix s).trans h
    refine ht.not_blank_head c ?_
    rw [List.head?_append, Option.mem_def.1 hc]
    rfl
  not_blank_last := not_blank_getLast?_stripRight s

/-- Nothing is left to strip. -/
theorem isStripped_strip (s : List Char) : IsStripped (strip s) where
  not_blank_head c hc := by
    obtain ⟨rest, hrest⟩ := stripRight_isPrefix (stripLeft s)
    refine not_blank_head?_stripLeft s c ?_
    rw [← hrest, List.head?_append]
    rw [strip] at hc
    rw [Option.mem_def.1 hc]
    rfl
  not_blank_last := not_blank_getLast?_stripRight _

/-- Nothing is left exactly of blanks. -/
theorem strip_eq_nil_iff : strip s = [] ↔ AllBlank s := by
  constructor
  · intro h
    by_contra hs
    exact not_allBlank_stripLeft hs (List.rdropWhile_eq_nil_iff.1 h)
  · intro h
    rw [strip, stripLeft_eq_nil h]
    rfl

/-- Blanks in front of a text do not matter. -/
theorem strip_allBlank_append (hs : AllBlank s) (t : List Char) : strip (s ++ t) = strip t := by
  rw [strip, stripLeft_allBlank_append hs, strip]

theorem strip_append_of_allBlank (s : List Char) (ht : AllBlank t) :
    strip (s ++ t) = strip s := by
  by_cases hs : AllBlank s
  · rw [strip_eq_nil_iff.2 (hs.append ht), strip_eq_nil_iff.2 hs]
  · rw [strip, stripLeft_append_of_not_allBlank hs, stripRight_append_of_allBlank _ ht, strip]

/-- Between characters that are not white space nothing is taken off. -/
theorem strip_append (hs : ¬ AllBlank s) (ht : ¬ AllBlank t) :
    strip (s ++ t) = stripLeft s ++ stripRight t := by
  rw [strip, stripLeft_append_of_not_allBlank hs, stripRight_append_of_not_allBlank _ ht]

/-- What is left is a part of the text. -/
theorem strip_isInfix (s : List Char) : strip s <:+: s :=
  (stripRight_isPrefix _).isInfix.trans (stripLeft_isSuffix s).isInfix

/-! ### Writing white space in another way -/

variable {f : Char → List Char}

/-- Stripping and replacing may be done in either order, if blanks become blanks and other
characters stay. -/
theorem stripLeft_flatMap (hblank : ∀ c, isBlank c = true → AllBlank (f c))
    (hother : ∀ c, isBlank c = false → f c = [c]) (s : List Char) :
    stripLeft (s.flatMap f) = (stripLeft s).flatMap f := by
  induction s with
  | nil => rfl
  | cons c s ih =>
    by_cases hc : isBlank c = true
    · rw [List.flatMap_cons, stripLeft_allBlank_append (hblank c hc), ih, stripLeft, stripLeft,
        List.dropWhile_cons_of_pos hc]
    · have hc' : isBlank c = false := Bool.eq_false_iff.2 hc
      rw [stripLeft, stripLeft, List.dropWhile_cons_of_neg hc, List.flatMap_cons, hother c hc',
        List.singleton_append, List.dropWhile_cons_of_neg hc]

theorem stripRight_flatMap (hblank : ∀ c, isBlank c = true → AllBlank (f c))
    (hother : ∀ c, isBlank c = false → f c = [c]) (s : List Char) :
    stripRight (s.flatMap f) = (stripRight s).flatMap f := by
  induction s using List.reverseRecOn with
  | nil => rfl
  | append_singleton s c ih =>
    rw [List.flatMap_append, List.flatMap_singleton]
    by_cases hc : isBlank c = true
    · rw [stripRight_append_of_allBlank _ (hblank c hc), ih, stripRight_eq_rdropWhile,
        stripRight_eq_rdropWhile, List.rdropWhile_concat_pos _ _ _ hc]
    · rw [hother c (Bool.eq_false_iff.2 hc), stripRight_eq_rdropWhile, stripRight_eq_rdropWhile,
        List.rdropWhile_concat_neg _ _ _ hc, List.rdropWhile_concat_neg _ _ _ hc,
        List.flatMap_append, List.flatMap_singleton, hother c (Bool.eq_false_iff.2 hc)]

/-- A text in which white space is written in another way is stripped as the text is. -/
theorem strip_flatMap (hblank : ∀ c, isBlank c = true → AllBlank (f c))
    (hother : ∀ c, isBlank c = false → f c = [c]) (s : List Char) :
    strip (s.flatMap f) = (strip s).flatMap f := by
  rw [strip, stripLeft_flatMap hblank hother, stripRight_flatMap hblank hother, strip]

end CrateDoc.Text
