import CrateDoc.Json.Reader
import CrateDoc.Json.Writer
import CrateDoc.Proofs.Entries
import Mathlib.Data.List.Nodup
import Mathlib.Tactic.IntervalCases

/-!
# Written JSON is read back

What `write` writes, `readValue` reads, on one line or over several, whatever follows it in the
text. That holds of values of texts, lists and objects (`Value.Nested`): such a value ends with a
mark of its own, so no white space is needed behind it, while a number may go on.

Two conditions are no matter of layout. A reader may bound the depth of what it reads, and it keeps
one field for each key; so `Value.Nested` bounds the depth and asks for distinct keys.

Main statements:

* `readText_writeText` — escaped characters are read as the characters they stand for;
* `Value.Nested.readsBack` — a value is read back from where it is written;
* `Value.Nested.read_write` — so a text that holds the written value alone is read as that value.
-/

namespace CrateDoc.Json

/-! ### Texts -/

section

variable {dialect : Dialect} {left n : ℕ} {c : Char} {s body rest : List Char}

/-- An escape of two characters is read as the one it stands for. -/
theorem textBody_simpleEscape {e : Char} (hu : e ≠ 'u') (he : simpleEscape? e = some c)
    (h : textBody dialect left n s = .ok (body, rest)) :
    textBody dialect left (n + 1) ('\\' :: e :: s) = .ok (c :: body, rest) := by
  rw [textBody]
  · simp only [he, h]
    rfl
  · exact hu

/-- The escape of a control character. -/
theorem unicodeEscape_hexPadded (dialect : Dialect) (hn : n < 0x20) (hs : s ≠ []) :
    unicodeEscape dialect (Text.hexPadded 4 n ++ s) = .ok (Char.ofNat n, s) := by
  have hlength : ¬ (Text.hexPadded 4 n ++ s).length < 5 := by
    have hpos := List.length_pos_iff.2 hs
    have hfour : (Text.hexPadded 4 n).length = 4 := rfl
    rw [List.length_append, hfour]
    omega
  have hhex : hex4? (Text.hexPadded 4 n ++ s) = some (n, s) := by
    interval_cases n <;> rfl
  have hhigh : ¬ 0xd800 ≤ n := by omega
  have hlow : ¬ 0xdc00 ≤ n := by omega
  rw [unicodeEscape, if_neg hlength, hhex]
  simp [hhigh, hlow]

/-- A written character is read as that character, if the text goes on behind it. -/
theorem textBody_writeChar (hs : s ≠ []) (h : textBody dialect left n s = .ok (body, rest)) :
    textBody dialect left (n + 1) (writeChar c ++ s) = .ok (c :: body, rest) := by
  rw [writeChar]
  split_ifs with hquote hslash hnewline hreturn htab hback hfeed hcontrol
  · exact textBody_simpleEscape (by decide) (by rw [hquote]; rfl) h
  · exact textBody_simpleEscape (by decide) (by rw [hslash]; rfl) h
  · exact textBody_simpleEscape (by decide) (by rw [hnewline]; rfl) h
  · exact textBody_simpleEscape (by decide) (by rw [hreturn]; rfl) h
  · exact textBody_simpleEscape (by decide) (by rw [htab]; rfl) h
  · exact textBody_simpleEscape (by decide) (by rw [hback]; rfl) h
  · exact textBody_simpleEscape (by decide) (by rw [hfeed]; rfl) h
  · -- other control characters are written by their number
    rw [List.cons_append, List.cons_append, textBody, unicodeEscape_hexPadded dialect hcontrol hs,
      Char.ofNat_toNat]
    show (textBody dialect left n s >>= fun read ↦ Except.ok (c :: read.1, read.2)) = _
    rw [h]
    rfl
  · rw [List.cons_append, List.nil_append, textBody]
    · rw [if_neg hcontrol, h]
      rfl
    · exact hquote
    · exact fun hc _ ↦ hslash hc
    · exact fun _ hc _ ↦ hslash hc
    · exact fun _ _ hc _ ↦ hslash hc

/-- An escape is at least as long as what it stands for. -/
theorem length_le_length_flatMap_writeChar (cs : List Char) :
    cs.length ≤ (cs.flatMap writeChar).length := by
  have hchar : ∀ c : Char, 1 ≤ (writeChar c).length := by
    intro c
    rw [writeChar]
    split_ifs <;> simp
  induction cs with
  | nil => exact Nat.le_refl 0
  | cons c cs ih =>
    have hc := hchar c
    rw [List.flatMap_cons, List.length_append, List.length_cons]
    omega

/-- **A written text is read back**, up to the mark that closes it. -/
theorem textBody_flatMap_writeChar (cs : List Char) (hn : cs.length < n) :
    textBody dialect left n (cs.flatMap writeChar ++ '\x22' :: rest) = .ok (cs, rest) := by
  induction cs generalizing n with
  | nil =>
    obtain ⟨n, rfl⟩ : ∃ k, n = k + 1 := ⟨n - 1, by omega⟩
    rfl
  | cons c cs ih =>
    rw [List.length_cons] at hn
    obtain ⟨n, rfl⟩ : ∃ k, n = k + 1 := ⟨n - 1, by omega⟩
    rw [List.flatMap_cons, List.append_assoc]
    exact textBody_writeChar (by simp) (ih (by omega))

/-- A written text is read back, behind its opening quote and up to its closing one. -/
theorem readText_writeText (dialect : Dialect) (t : String) (rest : List Char) :
    readText dialect (t.toList.flatMap writeChar ++ '\x22' :: rest) = .ok (t, rest) := by
  have hlength := length_le_length_flatMap_writeChar t.toList
  rw [readText, textBody_flatMap_writeChar t.toList
    (by rw [List.length_append, List.length_cons]; omega)]
  show Except.ok (String.ofList t.toList, rest) = _
  rw [String.ofList_toList]

end

/-! ### White space -/

section

variable (layout : Layout) (level : ℕ) (s : List Char)

/-- The white space before an entry is passed over. -/
theorem skip_lineBreak : skip (layout.lineBreak level ++ s) = skip s := by
  rw [skip, List.dropWhile_append_of_pos, skip]
  intro c hc
  rw [Layout.lineBreak] at hc
  split at hc
  · cases hc
  · rcases List.mem_cons.1 hc with rfl | hc
    · rfl
    · rw [List.eq_of_mem_replicate hc]
      rfl

variable {s} in
theorem skip_cons {c : Char} (hc : isSpace c = false) : skip (c :: s) = c :: s :=
  List.dropWhile_cons_of_neg (by simp [hc])

/-- So is the white space behind the colon. -/
theorem exists_colon_eq_cons :
    ∃ gap, layout.colon = ':' :: gap ∧ ∀ s, skip (gap ++ s) = skip s := by
  rw [Layout.colon]
  split_ifs
  · exact ⟨[' '], rfl, fun _ ↦ rfl⟩
  · exact ⟨[], rfl, fun _ ↦ rfl⟩

end

/-! ### Values -/

/-- A value of texts, lists and objects, nested at most `n` deep, in which no object has two fields
of one key. -/
inductive Value.Nested : ℕ → Value → Prop
  | text (n : ℕ) (s : String) : Nested n (.text s)
  | list {n : ℕ} {items : List Value} (h : ∀ v ∈ items, Nested n v) : Nested (n + 1) (.list items)
  | object {n : ℕ} {fields : List (String × Value)} (hkeys : (fields.map Prod.fst).Nodup)
      (h : ∀ field ∈ fields, Nested n field.2) : Nested (n + 1) (.object fields)

/-- More depth than is needed does no harm. -/
theorem Value.Nested.mono {n m : ℕ} {v : Value} (h : Nested n v) (hnm : n ≤ m) : Nested m v := by
  induction h generalizing m with
  | text n s => exact .text m s
  | @list n items h ih =>
    obtain ⟨m, rfl⟩ : ∃ k, m = k + 1 := ⟨m - 1, by omega⟩
    exact .list fun v hv ↦ ih v hv (by omega)
  | @object n fields hkeys h ih =>
    obtain ⟨m, rfl⟩ : ∃ k, m = k + 1 := ⟨m - 1, by omega⟩
    exact .object hkeys fun field hfield ↦ ih field hfield (by omega)

section

variable {dialect : Dialect} {depth : Option ℕ} {layout : Layout} {level n fuel : ℕ}
  {s rest behind tail : List Char} {v : Value}

/-- The marks with which written values start. -/
def openings : List Char := ['\x22', '[', '{']

/-- None of them is white space, closes a list or marks the byte order. -/
theorem openings_spec :
    ∀ mark ∈ openings, isSpace mark = false ∧ mark ≠ ']' ∧ mark ≠ '\ufeff' := by
  simp [openings, isSpace]

theorem Value.Nested.exists_write_eq_cons (h : Nested n v) (layout : Layout) (level : ℕ) :
    ∃ mark ∈ openings, ∃ s, write layout level v = mark :: s := by
  cases h with
  | text n s => exact ⟨_, by decide, _, rfl⟩
  | @list n items h =>
    rcases items with - | ⟨item, items⟩
    · exact ⟨_, by decide, _, rfl⟩
    · exact ⟨_, by decide, _, rfl⟩
  | @object n fields hkeys h =>
    rcases fields with - | ⟨⟨key, value⟩, fields⟩
    · exact ⟨_, by decide, _, rfl⟩
    · exact ⟨_, by decide, _, rfl⟩

theorem Value.Nested.skip_write (h : Nested n v) :
    skip (write layout level v ++ s) = write layout level v ++ s := by
  obtain ⟨mark, hmark, t, ht⟩ := h.exists_write_eq_cons layout level
  rw [ht, List.cons_append, skip_cons (openings_spec mark hmark).1]

/-- A value is read from where it is written, whatever follows. The bound on the steps need not be
larger than twice the length of what is written. -/
def ReadsBack (dialect : Dialect) (depth : Option ℕ) (layout : Layout) (level : ℕ)
    (v : Value) : Prop :=
  ∀ fuel rest, 2 * (write layout level v).length ≤ fuel →
    readValue dialect depth fuel (write layout level v ++ rest) = .ok (v, rest)

/-! ### Lists -/

/-- The last item of a list stands in front of the closing mark. -/
theorem readItems_of_close {done : List Value}
    (h : readValue dialect depth fuel s = .ok (v, rest)) (hrest : skip rest = ']' :: behind) :
    readItems dialect depth (fuel + 1) done s = .ok (.list (done.reverse ++ [v]), behind) := by
  simp only [readItems, h, hrest, bind, Except.bind, List.reverse_cons]

/-- Behind a comma the next item is read. -/
theorem readItems_of_comma {done : List Value}
    (h : readValue dialect depth fuel s = .ok (v, rest)) (hrest : skip rest = ',' :: behind) :
    readItems dialect depth (fuel + 1) done s =
      readItems dialect depth fuel (v :: done) (skip behind) := by
  simp only [readItems, h, hrest, bind, Except.bind]

/-- The items of a list are read back, from the first to the mark behind the last. -/
theorem readItems_writeItems {items : List Value}
    (hnested : ∀ v ∈ items, ∃ n, Value.Nested n v)
    (hread : ∀ w ∈ v :: items, ReadsBack dialect depth layout level w)
    (hfuel : 2 * (write layout level v ++ writeItems layout level items).length < fuel)
    (htail : skip tail = ']' :: rest) (done : List Value) :
    readItems dialect depth fuel done
        (write layout level v ++ (writeItems layout level items ++ tail)) =
      .ok (.list (done.reverse ++ v :: items), rest) := by
  obtain ⟨fuel, rfl⟩ : ∃ k, fuel = k + 1 := ⟨fuel - 1, by omega⟩
  have hv := hread v List.mem_cons_self fuel (writeItems layout level items ++ tail)
    (by rw [List.length_append] at hfuel; omega)
  induction items generalizing v done fuel with
  | nil => exact readItems_of_close hv htail
  | cons next items ih =>
    have hwritten : writeItems layout level (next :: items) ++ tail = ',' ::
        (layout.lineBreak level ++ (write layout level next ++
          (writeItems layout level items ++ tail))) := by
      simp only [writeItems, List.cons_append, List.append_assoc]
    rw [hwritten] at hv ⊢
    -- The comma is one character more, and pays for the step to the next item.
    have hlength : (writeItems layout level (next :: items)).length =
        1 + (layout.lineBreak level).length +
          (write layout level next ++ writeItems layout level items).length := by
      simp only [writeItems, List.length_append, List.length_cons]
      omega
    rw [List.length_append, hlength] at hfuel
    obtain ⟨fuel, rfl⟩ : ∃ k, fuel = k + 1 := ⟨fuel - 1, by omega⟩
    obtain ⟨n, hnext⟩ := hnested next List.mem_cons_self
    rw [readItems_of_comma hv (skip_cons rfl), skip_lineBreak, hnext.skip_write,
      ih (fun w hw ↦ hnested w (List.mem_cons_of_mem _ hw))
        (fun w hw ↦ hread w (List.mem_cons_of_mem _ hw)) _ fuel (by omega)
        (hread next (by simp) fuel _ (by rw [List.length_append] at hfuel; omega)),
      List.reverse_cons, List.append_assoc, List.singleton_append]

/-! ### Objects -/

/-- A field as it is written behind the white space before it. -/
def writeField (layout : Layout) (level : ℕ) (field : String × Value) : List Char :=
  writeText field.1 ++ layout.colon ++ write layout level field.2

theorem writeFields_cons (layout : Layout) (level : ℕ) (field : String × Value)
    (fields : List (String × Value)) : writeFields layout level (field :: fields) =
      ',' :: (layout.lineBreak level ++ (writeField layout level field ++
        writeFields layout level fields)) := by
  simp only [writeFields, writeField, List.cons_append, List.append_assoc]

/-- A written field is its name, the colon and its value. -/
theorem writeField_append (layout : Layout) (level : ℕ) (field : String × Value)
    (s : List Char) : writeField layout level field ++ s =
      '\x22' :: (field.1.toList.flatMap writeChar ++
        '\x22' :: (layout.colon ++ (write layout level field.2 ++ s))) := by
  simp only [writeField, writeText, List.cons_append, List.append_assoc, List.nil_append]

/-- A field of a new key is read and added behind the others. What follows it is a mark: the closing
one ends the object, and behind a comma the next field is read. -/
theorem readFields_writeField {field : String × Value} {done : List (String × Value)}
    (hnested : field.2.Nested n) (hread : ReadsBack dialect depth layout level field.2)
    (hkey : field.1 ∉ done.map Prod.fst)
    (hfuel : 2 * (write layout level field.2).length ≤ fuel) (s : List Char) :
    (skip s = '}' :: rest → readFields dialect depth (fuel + 1) done
        (writeField layout level field ++ s) = .ok (.object (done ++ [field]), rest)) ∧
      (skip s = ',' :: rest → readFields dialect depth (fuel + 1) done
        (writeField layout level field ++ s) =
          readFields dialect depth fuel (done ++ [field]) (skip rest)) := by
  obtain ⟨gap, hgap, hskip⟩ := exists_colon_eq_cons layout
  have hcolon : skip (layout.colon ++ (write layout level field.2 ++ s)) =
      ':' :: (gap ++ (write layout level field.2 ++ s)) := by
    rw [hgap, List.cons_append, skip_cons rfl]
  have hvalue : readValue dialect depth fuel (skip (gap ++ (write layout level field.2 ++ s))) =
      .ok (field.2, s) := by
    rw [hskip, hnested.skip_write]
    exact hread fuel s hfuel
  have hput : Entries.put field.1 field.2 done = done ++ [field] :=
    Entries.put_of_has_eq_false field.2
      (Bool.eq_false_iff.2 fun h ↦ hkey (Entries.has_eq_true_iff.1 h))
  rw [writeField_append]
  constructor
  · intro hs
    simp only [readFields, readText_writeText, hcolon, hvalue, hs, hput, bind, Except.bind]
  · intro hs
    simp only [readFields, readText_writeText, hcolon, hvalue, hs, hput, bind, Except.bind]

/-- A key that does not come twice is not among those before it. -/
theorem key_not_mem_of_nodup {field : String × Value} {done fields : List (String × Value)}
    (h : ((done ++ field :: fields).map Prod.fst).Nodup) : field.1 ∉ done.map Prod.fst := by
  rw [List.map_append, List.map_cons, List.nodup_middle] at h
  exact fun hmem ↦ (List.nodup_cons.1 h).1 (List.mem_append_left _ hmem)

/-- The fields of an object are read back, from the first to the mark behind the last, if no key
comes twice. -/
theorem readFields_writeFields {field : String × Value} {fields done : List (String × Value)}
    (hnested : ∀ f ∈ field :: fields, f.2.Nested n)
    (hread : ∀ f ∈ field :: fields, ReadsBack dialect depth layout level f.2)
    (hkeys : ((done ++ field :: fields).map Prod.fst).Nodup)
    (hfuel : 2 * (writeField layout level field ++ writeFields layout level fields).length < fuel)
    (htail : skip tail = '}' :: rest) :
    readFields dialect depth fuel done
        (writeField layout level field ++ (writeFields layout level fields ++ tail)) =
      .ok (.object (done ++ field :: fields), rest) := by
  obtain ⟨fuel, rfl⟩ : ∃ k, fuel = k + 1 := ⟨fuel - 1, by omega⟩
  induction fields generalizing field done fuel with
  | nil =>
    have hlength : 2 * (write layout level field.2).length ≤ fuel := by
      simp only [writeField, List.length_append] at hfuel
      omega
    exact (readFields_writeField (hnested field List.mem_cons_self)
      (hread field List.mem_cons_self) (key_not_mem_of_nodup hkeys) hlength tail).1 htail
  | cons next fields ih =>
    rw [writeFields_cons] at hfuel ⊢
    have hlength : 2 * (write layout level field.2).length ≤ fuel ∧
        2 * (writeField layout level next ++
          writeFields layout level fields).length + 1 < fuel := by
      simp only [writeField, List.length_append, List.length_cons] at hfuel ⊢
      omega
    obtain ⟨fuel, rfl⟩ : ∃ k, fuel = k + 1 := ⟨fuel - 1, by omega⟩
    have hstep := (readFields_writeField (hnested field List.mem_cons_self)
      (hread field List.mem_cons_self) (key_not_mem_of_nodup hkeys) hlength.1
      (',' :: (layout.lineBreak level ++
        (writeField layout level next ++ (writeFields layout level fields ++ tail))))).2
      (skip_cons rfl)
    simp only [List.cons_append, List.append_assoc] at hstep ⊢
    -- the field just read joins those done, so the induction goes on with the next one
    rw [hstep, skip_lineBreak, writeField_append, skip_cons rfl, ← writeField_append,
      ih (fun f hf ↦ hnested f (List.mem_cons_of_mem _ hf))
        (fun f hf ↦ hread f (List.mem_cons_of_mem _ hf)) (by simpa using hkeys) fuel (by omega)]
    simp

/-! ### Whole values -/

/-- A list with items is read item by item. -/
theorem readValue_list {mark : Char} (hopen : depth ≠ some 0) (hskip : skip s = mark :: tail)
    (hmark : mark ≠ ']') : readValue dialect depth (fuel + 1) ('[' :: s) =
      readItems dialect (depth.map (· - 1)) fuel [] (mark :: tail) := by
  rw [readValue]
  simp only [if_neg hopen, hskip]
  split
  · next heq => exact absurd (List.cons.inj heq).1 hmark
  · rfl

/-- An object with fields is read field by field. -/
theorem readValue_object (hopen : depth ≠ some 0) (hskip : skip s = '\x22' :: tail) :
    readValue dialect depth (fuel + 1) ('{' :: s) =
      readFields dialect (depth.map (· - 1)) fuel [] ('\x22' :: tail) := by
  rw [readValue]
  simp only [if_neg hopen, hskip]
  rfl

/-- A value is read back by a reader that may go as deep as the value is nested. -/
theorem Value.Nested.readsBack (h : v.Nested n) (hdepth : ∀ d ∈ depth, n ≤ d) :
    ReadsBack dialect depth layout level v := by
  -- Where one more level may be opened, the level below it may be as deep as it needs to be.
  have hbelow : ∀ {depth : Option ℕ} {n : ℕ}, (∀ d ∈ depth, n + 1 ≤ d) →
      depth ≠ some 0 ∧ ∀ d ∈ depth.map (· - 1), n ≤ d := by
    intro depth n hdepth
    refine ⟨fun h0 ↦ absurd (hdepth 0 h0) (by omega), fun d hd ↦ ?_⟩
    obtain ⟨e, he, rfl⟩ := Option.map_eq_some_iff.1 hd
    have := hdepth e he
    omega
  -- The induction is on the value; the depth and the level differ for what is inside of it.
  induction h generalizing depth level with
  | text n s =>
    intro fuel rest hfuel
    obtain ⟨fuel, rfl⟩ : ∃ k, fuel = k + 1 := ⟨fuel - 1, by
      simp only [write, writeText, List.length_append, List.length_cons] at hfuel
      omega⟩
    simp only [write, writeText, List.cons_append, List.append_assoc, List.nil_append, readValue,
      readText_writeText, bind, Except.bind]
  | @list n items h ih =>
    intro fuel rest hfuel
    obtain ⟨hopen, hdepth⟩ := hbelow hdepth
    rcases items with - | ⟨item, items⟩
    · obtain ⟨fuel, rfl⟩ : ∃ k, fuel = k + 1 := ⟨fuel - 1, by simp [write] at hfuel; omega⟩
      rw [write, List.cons_append, List.singleton_append, readValue]
      simp only [if_neg hopen, skip_cons (s := rest) (c := ']') rfl]
    · have hlength : 2 * (write layout (level + 1) item ++
          writeItems layout (level + 1) items).length + 1 < fuel := by
        simp only [write, List.length_append, List.length_cons] at hfuel ⊢
        omega
      obtain ⟨fuel, rfl⟩ : ∃ k, fuel = k + 1 := ⟨fuel - 1, by omega⟩
      obtain ⟨mark, hmark, t, ht⟩ :=
        (h item List.mem_cons_self).exists_write_eq_cons layout (level + 1)
      obtain ⟨hspace, hclose, -⟩ := openings_spec mark hmark
      have htail : skip (layout.lineBreak level ++ ']' :: rest) = ']' :: rest := by
        rw [skip_lineBreak, skip_cons rfl]
      have hread : ∀ w ∈ item :: items,
          ReadsBack dialect (depth.map (· - 1)) layout (level + 1) w := fun w hw ↦ ih w hw hdepth
      have hitems := readItems_writeItems (fun w hw ↦ ⟨n, h w (List.mem_cons_of_mem _ hw)⟩)
        hread (show _ < fuel by omega) htail []
      simp only [write, List.cons_append, List.append_assoc, List.nil_append]
      rw [ht, List.cons_append] at hitems ⊢
      rw [readValue_list hopen (by rw [skip_lineBreak, skip_cons hspace]) hclose, hitems]
      rfl
  | @object n fields hkeys h ih =>
    intro fuel rest hfuel
    obtain ⟨hopen, hdepth⟩ := hbelow hdepth
    rcases fields with - | ⟨field, fields⟩
    · obtain ⟨fuel, rfl⟩ : ∃ k, fuel = k + 1 := ⟨fuel - 1, by simp [write] at hfuel; omega⟩
      rw [write, List.cons_append, List.singleton_append, readValue]
      simp only [if_neg hopen, skip_cons (s := rest) (c := '}') rfl]
    · have hwritten : write layout level (.object (field :: fields)) ++ rest =
          '{' :: (layout.lineBreak (level + 1) ++ (writeField layout (level + 1) field ++
            (writeFields layout (level + 1) fields ++
              (layout.lineBreak level ++ '}' :: rest)))) := by
        simp only [write, writeField, List.cons_append, List.append_assoc, List.nil_append]
      have hlength : 2 * (writeField layout (level + 1) field ++
          writeFields layout (level + 1) fields).length + 1 < fuel := by
        simp only [write, writeField, List.length_append, List.length_cons] at hfuel ⊢
        omega
      obtain ⟨fuel, rfl⟩ : ∃ k, fuel = k + 1 := ⟨fuel - 1, by omega⟩
      have htail : skip (layout.lineBreak level ++ '}' :: rest) = '}' :: rest := by
        rw [skip_lineBreak, skip_cons rfl]
      have hread : ∀ f ∈ field :: fields,
          ReadsBack dialect (depth.map (· - 1)) layout (level + 1) f.2 := fun f hf ↦ ih f hf hdepth
      have hkeys : (([] ++ field :: fields).map Prod.fst).Nodup := hkeys
      have hfields := readFields_writeFields h hread hkeys (show _ < fuel by omega) htail
      rw [writeField_append] at hfields
      rw [hwritten, writeField_append, readValue_object hopen
        (by rw [skip_lineBreak, skip_cons rfl]), hfields]
      rfl

end

/-- A text that holds one written value is read as that value. -/
theorem Value.Nested.read_write {n : ℕ} {v : Value} (h : v.Nested n) {dialect : Dialect}
    (hdepth : ∀ d ∈ dialect.maxDepth, n ≤ d) (layout : Layout) :
    Value.read dialect (write layout 0 v) = .ok v := by
  obtain ⟨mark, hmark, s, hs⟩ := h.exists_write_eq_cons layout 0
  have hhead : ¬ (write layout 0 v).head? = some '\ufeff' := by
    rw [hs]
    exact fun heq ↦ (openings_spec mark hmark).2.2 (Option.some.inj heq)
  have hskip : skip (write layout 0 v ++ []) = write layout 0 v ++ [] := h.skip_write
  have hback : ReadsBack dialect dialect.maxDepth layout 0 v := h.readsBack hdepth
  have hread := hback (2 * (write layout 0 v).length + 2) [] (by omega)
  rw [List.append_nil] at hskip hread
  rw [Value.read, readDocument, if_neg hhead, hskip, hread]
  rfl

end CrateDoc.Json
