import CrateDoc.Proofs.Json.RoundTrip

/-!
# Control characters in written values

The writer escapes the control characters below the space, and leaves all others as they are. So
none of them stands in a value that is written without white space (`forall_mem_write`).
-/

namespace CrateDoc.Json

open Text

variable {v : Value}

theorem forall_mem_writeChar (c : Char) : ∀ d ∈ writeChar c, 0x20 ≤ d.toNat := by
  have hhex : ∀ n < 0x20, (hexPadded 4 n).all (fun d ↦ decide (0x20 ≤ d.toNat)) = true := by
    decide
  rw [writeChar]
  split_ifs with _ _ _ _ _ _ _ hcontrol
  · simp
  · simp
  · simp
  · simp
  · simp
  · simp
  · simp
  · have hdigits := List.all_eq_true.1 (hhex c.toNat hcontrol)
    simp only [decide_eq_true_eq] at hdigits
    exact List.forall_mem_cons.2 ⟨by decide, List.forall_mem_cons.2 ⟨by decide, hdigits⟩⟩
  · simpa using hcontrol

theorem forall_mem_writeText (s : String) : ∀ d ∈ writeText s, 0x20 ≤ d.toNat := by
  have hbody : ∀ d ∈ s.toList.flatMap writeChar, 0x20 ≤ d.toNat := by
    intro d hd
    obtain ⟨c, -, hc⟩ := List.mem_flatMap.1 hd
    exact forall_mem_writeChar c d hc
  rw [writeText, List.cons_append, List.forall_mem_cons, List.forall_mem_append]
  exact ⟨by decide, hbody, by simp⟩

theorem forall_mem_writeItems {level : ℕ} {items : List Value}
    (h : ∀ v ∈ items, ∀ c ∈ write ⟨none⟩ level v, 0x20 ≤ c.toNat) :
    ∀ c ∈ writeItems ⟨none⟩ level items, 0x20 ≤ c.toNat := by
  induction items with
  | nil => simp [writeItems]
  | cons item items ih =>
    rw [writeItems, Layout.lineBreak, List.append_assoc, List.cons_append,
      List.forall_mem_cons, List.nil_append, List.forall_mem_append]
    exact ⟨by decide, h item List.mem_cons_self, ih fun v hv ↦ h v (List.mem_cons_of_mem item hv)⟩

theorem forall_mem_writeFields {level : ℕ} {fields : List (String × Value)}
    (h : ∀ field ∈ fields, ∀ c ∈ write ⟨none⟩ level field.2, 0x20 ≤ c.toNat) :
    ∀ c ∈ writeFields ⟨none⟩ level fields, 0x20 ≤ c.toNat := by
  induction fields with
  | nil => simp [writeFields]
  | cons field fields ih =>
    have hrest := ih fun f hf ↦ h f (List.mem_cons_of_mem field hf)
    rw [writeFields_cons, writeField, List.forall_mem_cons, List.forall_mem_append,
      List.forall_mem_append, List.forall_mem_append, List.forall_mem_append]
    have hcolon : ∀ c ∈ Layout.colon ⟨none⟩, 0x20 ≤ c.toNat := by simp [Layout.colon]
    exact ⟨by decide, List.forall_mem_nil _,
      ⟨⟨forall_mem_writeText field.1, hcolon⟩, h field List.mem_cons_self⟩, hrest⟩

/-- In a value that is written without white space no control character below the space stands. -/
theorem forall_mem_write {n : ℕ} (h : v.Nested n) (level : ℕ) :
    ∀ c ∈ write ⟨none⟩ level v, 0x20 ≤ c.toNat := by
  induction h generalizing level with
  | text n s => exact forall_mem_writeText s
  | @list n items h ih =>
    rcases items with - | ⟨item, items⟩
    · simp [write]
    have hitems := forall_mem_writeItems fun v hv ↦ ih v (List.mem_cons_of_mem item hv) (level + 1)
    have hitem := ih item List.mem_cons_self (level + 1)
    simp only [write, Layout.lineBreak, List.append_nil, List.cons_append,
      List.nil_append, List.forall_mem_cons, List.forall_mem_append]
    exact ⟨by decide, ⟨hitem, hitems⟩, by decide, List.forall_mem_nil _⟩
  | @object n fields hkeys h ih =>
    rcases fields with - | ⟨⟨key, value⟩, fields⟩
    · simp [write]
    have hfields := forall_mem_writeFields fun f hf ↦
      ih f (List.mem_cons_of_mem (key, value) hf) (level + 1)
    have hvalue := ih (key, value) List.mem_cons_self (level + 1)
    have hcolon : ∀ c ∈ Layout.colon ⟨none⟩, 0x20 ≤ c.toNat := by simp [Layout.colon]
    simp only [write, Layout.lineBreak, List.append_nil, List.cons_append,
      List.nil_append, List.forall_mem_cons, List.forall_mem_append]
    exact ⟨by decide, ⟨⟨⟨forall_mem_writeText key, hcolon⟩, hvalue⟩, hfields⟩, by decide,
      List.forall_mem_nil _⟩

end CrateDoc.Json
