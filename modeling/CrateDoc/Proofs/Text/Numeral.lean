import CrateDoc.Proofs.Text.Blank
import CrateDoc.Text.Digit
import CrateDoc.Text.LowerCase
import Mathlib.Data.Int.Notation
import Mathlib.Tactic.SplitIfs

/-!
# Numbers that were written are read back

The decimal numeral of a whole number is read as that number, unless it has too many digits, and
then it is read as none (`readInt?_toString`). There is no white space in a numeral
(`isStripped_toString`), and no letter.
-/

namespace CrateDoc.Text

/-- A whole number that has more digits than may be written. -/
def IsLong (n : ℤ) : Prop := maxDigits < (Nat.toDigits 10 n.natAbs).length

instance (n : ℤ) : Decidable (IsLong n) :=
  inferInstanceAs (Decidable (maxDigits < (Nat.toDigits 10 n.natAbs).length))

/-- A numeral is too long from a fixed power of ten on. -/
theorem isLong_iff {n : ℤ} : IsLong n ↔ Nat.pow 10 maxDigits ≤ n.natAbs := by
  have hlength := Nat.length_toDigits_le_iff (b := 10) (n := n.natAbs) (k := maxDigits)
    (by decide) (by decide)
  rw [IsLong, ← not_le, hlength, not_lt, Nat.pow_eq]

/-- The digits of the standard library are the ASCII ones. -/
theorem isAsciiDigit_of_isDigit {c : Char} (h : c.isDigit = true) : isAsciiDigit c = true := by
  simpa [isAsciiDigit, Char.isDigit, Char.le_def, and_comm] using h

/-- A numeral is written in ASCII digits. -/
theorem isAsciiDigit_of_mem_toDigits {c : Char} {n : ℕ} (h : c ∈ Nat.toDigits 10 n) :
    isAsciiDigit c = true :=
  isAsciiDigit_of_isDigit (Nat.isDigit_of_mem_toDigits (by decide) (by decide) h)

/-- The codes of the digits are next to each other. -/
theorem toNat_range_of_isAsciiDigit {c : Char} (h : isAsciiDigit c = true) :
    48 ≤ c.toNat ∧ c.toNat ≤ 57 := by
  simpa [isAsciiDigit, Char.le_def, UInt32.le_iff_toNat_le] using h

theorem isBlank_of_isAsciiDigit {c : Char} (h : isAsciiDigit c = true) : isBlank c = false := by
  obtain ⟨hleast, hmost⟩ := toNat_range_of_isAsciiDigit h
  simp only [isBlank, Bool.or_eq_false_iff, Bool.and_eq_false_iff, decide_eq_false_iff_not,
    beq_eq_false_iff_ne]
  omega

theorem ne_of_isAsciiDigit {c d : Char} (h : isAsciiDigit c = true) (hd : isAsciiDigit d = false) :
    c ≠ d := by
  rintro rfl
  rw [h] at hd
  cases hd

/-! ### Numerals -/

/-- The characters of a numeral: perhaps a minus, and digits. -/
theorem toList_toString (n : ℤ) :
    (toString n).toList = (if n < 0 then ['-'] else []) ++ Nat.toDigits 10 n.natAbs := by
  rcases n with n | n
  · simp [Int.repr]
  · simp [Int.repr]

/-- A written integer holds digits, and a sign at most. -/
theorem mem_toString {n : ℤ} {c : Char} (h : c ∈ (toString n).toList) :
    c = '-' ∨ isAsciiDigit c = true := by
  rw [toList_toString] at h
  rcases List.mem_append.1 h with hsign | hdigit
  · split_ifs at hsign
    · exact .inl (List.mem_singleton.1 hsign)
    · cases hsign
  · exact .inr (isAsciiDigit_of_mem_toDigits hdigit)

theorem isBlank_of_mem_toString {n : ℤ} {c : Char} (h : c ∈ (toString n).toList) :
    isBlank c = false := by
  rcases mem_toString h with rfl | hdigit
  · decide
  · exact isBlank_of_isAsciiDigit hdigit

theorem isStripped_toString (n : ℤ) : IsStripped (toString n).toList where
  not_blank_head _ hc := isBlank_of_mem_toString (List.mem_of_mem_head? hc)
  not_blank_last _ hc := isBlank_of_mem_toString (List.mem_of_mem_getLast? hc)

/-- A text with a letter is no numeral. -/
theorem toString_ne_of_mem (n : ℤ) {text : String} {c : Char} (hc : c ∈ text.toList)
    (hsign : c ≠ '-') (hdigit : isAsciiDigit c = false) : toString n ≠ text := by
  rintro rfl
  rcases mem_toString hc with rfl | h
  · exact hsign rfl
  · exact ne_of_isAsciiDigit h hdigit rfl

/-- There is nothing in a numeral that has a lower-case form. -/
theorem lowerCase_toString (n : ℤ) : lowerCase (toString n).toList = (toString n).toList := by
  have hsame : ∀ c ∈ (toString n).toList, lowerChar c = [c] := by
    intro c hc
    have hrange : c.toNat < 65 := by
      rcases mem_toString hc with rfl | hdigit
      · decide
      · have hmost := (toNat_range_of_isAsciiDigit hdigit).2
        omega
    have hlower : c.toLower = c := dif_neg fun h ↦ by
      have hleast : 65 ≤ c.toNat := UInt32.le_iff_toNat_le.1 h.1
      omega
    rw [lowerChar, if_pos (by omega), hlower]
  rw [lowerCase, List.flatMap_congr hsame, List.flatMap_singleton']

/-! ### Reading them -/

theorem digitRun?_cons {c : Char} (hc : isAsciiDigit c = true) (after : Bool) (value : ℕ)
    (rest : List Char) :
    digitRun? after value (c :: rest) = digitRun? true (value * 10 + (c.toNat - 48)) rest := by
  have hvalue : digitValue? c = some (c.toNat - 48) := if_pos hc
  rw [digitRun?.eq_3 _ _ _ _ (ne_of_isAsciiDigit hc (by decide)), hvalue]

/-- Behind a digit, digits are read one after the other. -/
theorem digitRun?_of_digits {digits : List Char} (h : ∀ c ∈ digits, isAsciiDigit c = true)
    (value : ℕ) : digitRun? true value digits = some (Nat.ofDigitChars 10 digits value) := by
  induction digits generalizing value with
  | nil => rfl
  | cons c digits ih =>
    rw [digitRun?_cons (h c List.mem_cons_self), ih fun d hd ↦ h d (List.mem_cons_of_mem c hd),
      Nat.ofDigitChars_cons, Nat.mul_comm]
    rfl

/-- The digits of a number are read back as the number. -/
theorem digitRun?_toDigits (n : ℕ) : digitRun? false 0 (Nat.toDigits 10 n) = some n := by
  obtain ⟨c, rest, hdigits⟩ := List.exists_cons_of_ne_nil (Nat.toDigits_ne_nil (n := n) (b := 10))
  have hall : ∀ d ∈ c :: rest, isAsciiDigit d = true := fun d hd ↦
    isAsciiDigit_of_mem_toDigits (hdigits ▸ hd)
  have hc : isAsciiDigit c = true := hall c List.mem_cons_self
  rw [hdigits, digitRun?_cons hc false, ← digitRun?_cons hc true, digitRun?_of_digits hall,
    ← hdigits, Nat.ofDigitChars_ten_toDigits]

/-- Where digits stand behind a minus or alone, they are what is read. -/
theorem readInt?_of_sign {s digits : List Char} {negative : Bool} {n : ℕ}
    (hblank : ∀ c ∈ s, isBlank c = false)
    (hsign : negative = true ∧ s = '-' :: digits ∨ negative = false ∧ s = digits)
    (hdigits : ∀ c ∈ digits, isAsciiDigit c = true) (hrun : digitRun? false 0 digits = some n) :
    readInt? s = if maxDigits < digits.length then none
      else some (if negative then -(n : ℤ) else n) := by
  have htrim : trim isNumberBlank s = s :=
    trim_eq_self fun c hc ↦ by rw [isNumberBlank, hblank c hc, Bool.false_and]
  have hcount : digits.filter (· ≠ '_') = digits := by
    refine List.filter_eq_self.2 fun c hc ↦ ?_
    simpa using ne_of_isAsciiDigit (hdigits c hc) (by decide)
  have hhead {c : Char} {rest : List Char} (hc : isAsciiDigit c = false) : digits ≠ c :: rest := by
    rintro rfl
    exact ne_of_isAsciiDigit (hdigits c List.mem_cons_self) hc rfl
  have hread : readInt? s = if maxDigits < (digits.filter (· ≠ '_')).length then none
      else (digitRun? false 0 digits).map fun n ↦ if negative then -(n : ℤ) else n := by
    rw [readInt?, htrim]
    rcases hsign with ⟨rfl, rfl⟩ | ⟨rfl, rfl⟩
    · rfl
    · split
      case h_1 negative' digits' hpair =>
        split at hpair
        · exact absurd rfl (hhead (by decide))
        · exact absurd rfl (hhead (by decide))
        · cases hpair
          rfl
  rw [hread, hcount, hrun]
  rfl

/-- A numeral is read as its number, or as none if it is too long. -/
theorem readInt?_toString (n : ℤ) :
    readInt? (toString n).toList = if IsLong n then none else some n := by
  have hdigits : ∀ c ∈ Nat.toDigits 10 n.natAbs, isAsciiDigit c = true :=
    fun c ↦ isAsciiDigit_of_mem_toDigits
  by_cases hneg : n < 0
  · have hsign : (toString n).toList = '-' :: Nat.toDigits 10 n.natAbs := by
      rw [toList_toString, if_pos hneg, List.singleton_append]
    have hvalue : -(n.natAbs : ℤ) = n := by omega
    rw [readInt?_of_sign (fun _ ↦ isBlank_of_mem_toString) (.inl ⟨rfl, hsign⟩) hdigits
      (digitRun?_toDigits _), if_pos rfl, hvalue]
    exact if_congr Iff.rfl rfl rfl
  · have hsign : (toString n).toList = Nat.toDigits 10 n.natAbs := by
      rw [toList_toString, if_neg hneg, List.nil_append]
    have hvalue : (n.natAbs : ℤ) = n := by omega
    rw [readInt?_of_sign (fun _ ↦ isBlank_of_mem_toString) (.inr ⟨rfl, hsign⟩) hdigits
      (digitRun?_toDigits _), if_neg Bool.false_ne_true, hvalue]
    exact if_congr Iff.rfl rfl rfl

/-- Only one number has a given numeral, if it is not too long. -/
theorem toString_eq_iff {m n : ℤ} (h : ¬ IsLong m) : toString n = toString m ↔ n = m := by
  refine ⟨fun heq ↦ ?_, fun heq ↦ heq ▸ rfl⟩
  have hread := readInt?_toString n
  rw [heq, readInt?_toString m, if_neg h] at hread
  split_ifs at hread
  exact (Option.some.inj hread).symm

end CrateDoc.Text
