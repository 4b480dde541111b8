import CrateDoc.Text.Utf8
import Mathlib.Data.Nat.Basic

/-!
# UTF-8 that was written is read back

The bytes of a character are a start byte and the six-bit digits behind it (`digit`). Where they
stand at the beginning of some bytes, `next` reads the character and takes them all
(`next_utf8EncodeChar`): the start byte of a character is no lone continuation, and its second byte
is none of those that `isSecond` refuses, since the character is above all shorter ones, is no
surrogate and is a code point. So the bytes of a text are read as that text (`decode_encode`).

Bytes that have arrived are read up to a place from which more bytes may matter; the others are read
together with those (`decodeLossy_append`).
-/

namespace CrateDoc.Text.Utf8

/-! ### Bytes of a character -/

/-- The continuation byte of six bits. -/
def digit (n : ℕ) : UInt8 := UInt8.ofNat (n + 128)

theorem toNat_digit {n : ℕ} (h : n < 64) : (digit n).toNat = n + 128 := by
  rw [digit, UInt8.toNat_ofNat']
  omega

theorem isContinuation_digit {n : ℕ} (h : n < 64) : isContinuation (digit n) = true := by
  rw [isContinuation, Bool.and_eq_true, decide_eq_true_eq, decide_eq_true_eq,
    UInt8.le_iff_toNat_le, UInt8.le_iff_toNat_le, toNat_digit h]
  exact ⟨Nat.le_add_left 128 n, show n + 128 ≤ 191 by omega⟩

theorem bits_digit {n : ℕ} (h : n < 64) : bits (digit n) = n := by
  rw [bits, toNat_digit h]
  omega

/-- A second byte is refused behind four start bytes only. -/
theorem isSecond_digit {a : UInt8} {n : ℕ} (h : n < 64) (hshort₃ : a.toNat = 0xe0 → 0x20 ≤ n)
    (hsurrogate : a.toNat = 0xed → n < 0x20) (hshort₄ : a.toNat = 0xf0 → 0x10 ≤ n)
    (hlast : a.toNat = 0xf4 → n < 0x10) : isSecond a (digit n) = true := by
  have hn := toNat_digit h
  have heq : ∀ b : UInt8, (a == b) = decide (a.toNat = b.toNat) := fun b ↦ by
    rw [Bool.eq_iff_iff, beq_iff_eq, decide_eq_true_eq, UInt8.toNat_inj]
  simp only [isSecond, isContinuation_digit h, heq, UInt8.lt_iff_toNat_lt,
    UInt8.le_iff_toNat_le, hn,
    UInt8.reduceToNat, Bool.true_and, Bool.and_eq_true, Bool.not_eq_true', Bool.and_eq_false_iff,
    decide_eq_false_iff_not]
  omega

/-! ### Reading a character -/

section

variable {a : UInt8} {k m n : ℕ} (rest : List UInt8)

theorem next_one (h : a.toNat < 0x80) : next a rest = .ok (1, Char.ofNat a.toNat) := by
  rw [next.eq_def, if_pos (UInt8.lt_iff_toNat_lt.2 h)]

/-- What a start byte of two bytes or more is compared with. -/
theorem start_spec (hleast : 0xc2 ≤ a.toNat) (hmost : a.toNat < 0xf5) :
    ¬ a < 0x80 ∧ ¬ (decide (a < 0xc2) || decide (0xf5 ≤ a)) = true := by
  rw [Bool.or_eq_true, decide_eq_true_eq, decide_eq_true_eq]
  simp only [UInt8.lt_iff_toNat_lt, UInt8.le_iff_toNat_le, UInt8.reduceToNat]
  omega

theorem next_two (hleast : 0xc2 ≤ a.toNat) (hmost : a.toNat < 0xe0) (hn : n < 64) :
    next a (digit n :: rest) = .ok (2, Char.ofNat (a.toNat % 32 * 64 + n)) := by
  obtain ⟨hmany, hstart⟩ := start_spec hleast (by omega)
  have hsecond : isSecond a (digit n) = true :=
    isSecond_digit hn (by omega) (by omega) (by omega) (by omega)
  rw [next.eq_def, if_neg hmany, if_neg hstart]
  simp only [hsecond, Bool.not_true, Bool.false_eq_true, if_false, bits_digit hn]
  rw [if_pos (UInt8.lt_iff_toNat_lt.2 hmost)]

theorem next_three (hleast : 0xe0 ≤ a.toNat) (hmost : a.toNat < 0xf0) (hm : m < 64) (hn : n < 64)
    (hsecond : isSecond a (digit m) = true) :
    next a (digit m :: digit n :: rest) =
      .ok (3, Char.ofNat ((a.toNat % 16 * 64 + m) * 64 + n)) := by
  obtain ⟨hmany, hstart⟩ := start_spec (show 0xc2 ≤ a.toNat by omega) (by omega)
  have htwo : ¬ a < 0xe0 := fun h ↦ absurd (UInt8.lt_iff_toNat_lt.1 h) (Nat.not_lt.2 hleast)
  rw [next.eq_def, if_neg hmany, if_neg hstart]
  simp only [hsecond, isContinuation_digit hn, Bool.not_true, Bool.false_eq_true, if_false,
    bits_digit hm, bits_digit hn, htwo]
  rw [if_pos (UInt8.lt_iff_toNat_lt.2 hmost)]

theorem next_four (hleast : 0xf0 ≤ a.toNat) (hmost : a.toNat < 0xf5) (hk : k < 64) (hm : m < 64)
    (hn : n < 64) (hsecond : isSecond a (digit k) = true) :
    next a (digit k :: digit m :: digit n :: rest) =
      .ok (4, Char.ofNat (((a.toNat % 8 * 64 + k) * 64 + m) * 64 + n)) := by
  obtain ⟨hmany, hstart⟩ := start_spec (show 0xc2 ≤ a.toNat by omega) hmost
  have htwo : ¬ a < 0xe0 := fun h ↦
    absurd (UInt8.lt_iff_toNat_lt.1 h) (Nat.not_lt.2 (Nat.le_trans (by decide) hleast))
  have hthree : ¬ a < 0xf0 := fun h ↦ absurd (UInt8.lt_iff_toNat_lt.1 h) (Nat.not_lt.2 hleast)
  rw [next.eq_def, if_neg hmany, if_neg hstart]
  simp only [hsecond, isContinuation_digit hm, isContinuation_digit hn, Bool.not_true,
    Bool.false_eq_true, if_false, bits_digit hk, bits_digit hm, bits_digit hn, htwo, hthree]

end

/-- The bytes of a character are read as that character, and all of them are taken. -/
theorem next_utf8EncodeChar (c : Char) (rest : List UInt8) :
    ∃ a behind, String.utf8EncodeChar c = a :: behind ∧
      next a (behind ++ rest) = .ok (behind.length + 1, c) := by
  have hvalid : c.toNat < 0xd800 ∨ 0xdfff < c.toNat ∧ c.toNat < 0x110000 := c.valid
  have hstart : ∀ n < 256, (UInt8.ofNat n).toNat = n := fun n hn ↦ by
    rw [UInt8.toNat_ofNat']
    omega
  have hchar : ∀ v, v = c.toNat → Char.ofNat v = c := fun v hv ↦ by rw [hv, Char.ofNat_toNat]
  rw [String.utf8EncodeChar, Char.toNat_val]
  generalize hv : c.toNat = v at *
  -- one case for each number of bytes
  split_ifs with hone htwo hthree
  · have ha := hstart v (by omega)
    refine ⟨_, [], rfl, ?_⟩
    rw [next_one _ (by omega), ha, hchar v rfl]
    rfl
  · have ha := hstart (v / 64 % 32 + 192) (by omega)
    refine ⟨_, [digit (v % 64)], rfl, ?_⟩
    rw [List.singleton_append, next_two rest (by omega) (by omega) (by omega), ha,
      hchar _ (by omega)]
    rfl
  · have ha := hstart (v / 4096 % 16 + 224) (by omega)
    refine ⟨_, [digit (v / 64 % 64), digit (v % 64)], rfl, ?_⟩
    have hsecond : isSecond (UInt8.ofNat (v / 4096 % 16 + 224)) (digit (v / 64 % 64)) = true :=
      isSecond_digit (by omega) (by omega) (by omega) (by omega) (by omega)
    rw [List.cons_append, List.singleton_append,
      next_three rest (by omega) (by omega) (by omega) (by omega) hsecond, ha, hchar _ (by omega)]
    rfl
  · have ha := hstart (v / 262144 % 8 + 240) (by omega)
    refine ⟨_, [digit (v / 4096 % 64), digit (v / 64 % 64), digit (v % 64)], rfl, ?_⟩
    have hsecond : isSecond (UInt8.ofNat (v / 262144 % 8 + 240)) (digit (v / 4096 % 64)) = true :=
      isSecond_digit (by omega) (by omega) (by omega) (by omega) (by omega)
    rw [List.cons_append, List.cons_append, List.singleton_append,
      next_four rest (by omega) (by omega) (by omega) (by omega) (by omega) hsecond, ha,
      hchar _ (by omega)]
    rfl

/-! ### Reading a text -/

/-- Bytes that belong to the character before are passed over. -/
theorem decodeFrom_append (position : ℕ) (taken rest : List UInt8) :
    decodeFrom position taken.length (taken ++ rest) =
      decodeFrom (position + taken.length) 0 rest := by
  induction taken generalizing position with
  | nil => rfl
  | cons b taken ih =>
    rw [List.length_cons, List.cons_append, decodeFrom, ih]
    congr 1
    omega

theorem decodeFrom_encode (position : ℕ) (s : List Char) :
    decodeFrom position 0 (encode s) = .ok s := by
  induction s generalizing position with
  | nil => rfl
  | cons c s ih =>
    obtain ⟨a, behind, hbytes, hnext⟩ := next_utf8EncodeChar c (encode s)
    have hencode : encode (c :: s) = a :: (behind ++ encode s) := by
      rw [encode, List.flatMap_cons, hbytes]
      rfl
    rw [hencode, decodeFrom, hnext]
    dsimp only
    rw [Nat.add_sub_cancel, decodeFrom_append, ih]
    rfl

/-- The bytes of a text are read as that text. -/
theorem decode_encode (s : List Char) : decode (encode s) = .ok s := decodeFrom_encode 0 s

/-! ### Reading what has arrived -/

/-- What stands at the beginning of some bytes does not depend on the bytes behind them, unless
there are too few. -/
theorem next_append {a : UInt8} {rest : List UInt8}
    (h : ∀ n, next a rest ≠ .error (n, .endOfData)) (more : List UInt8) :
    next a (rest ++ more) = next a rest := by
  revert h
  fun_cases next a rest with
  | case3 | case6 | case9 => exact fun h ↦ absurd rfl (h _)
  | _ => intro; simp [next, *]

/-- How many bytes have been read. -/
def taken : Except (ℕ × Fault) (ℕ × Char) → ℕ
  | .ok (length, _) | .error (length, _) => length

/-- Behind a byte no more is read than there is. -/
theorem taken_next_le (a : UInt8) (rest : List UInt8) : taken (next a rest) - 1 ≤ rest.length := by
  fun_cases next a rest
  all_goals
    simp only [taken, List.length_cons]
    omega

/-- What bytes stand for so far is the beginning of the text, whatever follows them. -/
theorem decodeLossyFrom_append {skip : ℕ} {bytes : List UInt8} (h : skip ≤ bytes.length)
    (more : List UInt8) :
    decodeLossyFrom skip (bytes ++ more) =
      (decodeArrivedFrom skip bytes).1 ++
        decodeLossy ((decodeArrivedFrom skip bytes).2 ++ more) := by
  fun_induction decodeArrivedFrom skip bytes with
  | case1 skip =>
    obtain rfl : skip = 0 := Nat.le_zero.1 h
    rfl
  | case2 skip a rest ih => exact ih (Nat.le_of_succ_le_succ h)
  | case3 a rest length c hnext ih =>
    have hlength : taken (.ok (length, c)) - 1 ≤ rest.length := hnext ▸ taken_next_le a rest
    have hsame : next a (rest ++ more) = next a rest :=
      next_append (fun n ↦ by simp [hnext]) more
    rw [List.cons_append, decodeLossyFrom, hsame, hnext]
    exact congrArg (c :: ·) (ih hlength)
  | case4 a rest n hnext => rfl
  | case5 a rest length fault hfault hnext ih =>
    have hlength : taken (.error (length, fault)) - 1 ≤ rest.length := hnext ▸ taken_next_le a rest
    have hsame : next a (rest ++ more) = next a rest :=
      next_append (fun n heq ↦ hfault (by rw [hnext] at heq; cases heq; rfl)) more
    rw [List.cons_append, decodeLossyFrom, hsame, hnext]
    exact congrArg ('\ufffd' :: ·) (ih hlength)

theorem decodeLossy_append (bytes more : List UInt8) :
    decodeLossy (bytes ++ more) =
      (decodeArrived bytes).1 ++ decodeLossy ((decodeArrived bytes).2 ++ more) :=
  decodeLossyFrom_append (Nat.zero_le _) more

end CrateDoc.Text.Utf8
