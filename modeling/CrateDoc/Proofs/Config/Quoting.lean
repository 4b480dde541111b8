import CrateDoc.Proofs.Config.Settings

/-!
# Quotes around numbers

A number and its numeral in quotes are mostly the same to a setting: where a text is meant the
number is written out, and where a number is meant the numeral is read (`Setting.read_quoted_iff`).
There are three exceptions. A number that is too long is refused where its numeral is a text, and is
a count of workers where its numeral is none. Scratch files are kept for the numeral of one only,
and a lone number is no list of arguments, although its numeral is. So `Setting.IgnoresQuotes` says
when quotes around a number make no difference to the settings of a project (`load_quoted_iff`).
-/

namespace CrateDoc

open CrateDoc.Text Config

namespace Setting

variable {entries entries' : List (Yaml.Value × Yaml.Value)} {s : Setting} {n : ℤ}

/-- Numbers that a setting takes for the same in quotes and without. -/
def IgnoresQuotes : Setting → ℤ → Prop
  | .outputDir, n | .workers, n | .compiler, n | .edition, n | .cargo, n => ¬ IsLong n
  | .keepScratch, n => n ≠ 1
  | .testArgs, _ => False

/-- Two mappings with a number under the key of a setting, which has quotes around it in the second
one, and otherwise with the same values of settings. -/
structure Requoted (s : Setting) (n : ℤ) (plain quoted : List (Yaml.Value × Yaml.Value)) :
    Prop where
  plain_eq : s.valueIn plain = .int n
  quoted_eq : s.valueIn quoted = .text (toString n)
  others : ∀ t : Setting, t ≠ s → t.valueIn plain = t.valueIn quoted

theorem text?_int (n : ℤ) :
    text? (.int n) = if IsLong n then .error .longNumber else .ok (some (toString n)) := by
  rw [text?, integerText_eq]
  split_ifs
  · rfl
  · rfl

theorem int?_numeral (n : ℤ) : int? (.text (toString n)) = if IsLong n then none else some n :=
  readInt?_toString n

/-- Of all numerals only that of one counts as true. -/
theorem bool?_numeral (n : ℤ) : (bool? (.text (toString n))).getD false = decide (n = 1) := by
  have hword : String.ofList (lowerCase (strip (toString n).toList)) = toString n := by
    rw [(isStripped_toString n).strip_eq, lowerCase_toString, String.ofList_toList]
  have hone : toString n = "1" ↔ n = 1 := toString_eq_iff (m := 1) (by decide +kernel)
  simp only [bool?, hword]
  split
  case h_1 h => exact absurd h (toString_ne_of_mem n (c := 't') (by decide) (by decide) (by decide))
  case h_2 h => exact absurd h (toString_ne_of_mem n (c := 'y') (by decide) (by decide) (by decide))
  case h_3 h => exact (decide_eq_true (hone.1 h)).symm
  all_goals
    refine (decide_eq_false fun heq ↦ ?_).symm
    simp_all

/-- Quotes around a number make no difference to what is read off it exactly for the numbers that a
setting takes for the same. -/
theorem read_quoted_iff (root : Path) (s : Setting) (n : ℤ) :
    s.read root (.int n) = s.read root (.text (toString n)) ↔ s.IgnoresQuotes n := by
  cases s with
  | outputDir | compiler | edition | cargo =>
    rw [read, read, text?_int]
    split_ifs with hlong
    · exact iff_of_false (by rintro ⟨⟩) (not_not.2 hlong)
    · exact iff_of_true rfl hlong
  | workers =>
    rw [read, read, int?_numeral, int?]
    by_cases hlong : IsLong n
    · -- Any count differs from none, and so does the refusal of one.
      by_cases hfew : n < 1
      · simp [IgnoresQuotes, hlong, hfew]
      · simp [IgnoresQuotes, hlong, hfew]
    · rw [if_neg hlong]
      exact iff_of_true rfl hlong
  | keepScratch =>
    have hplain : bool? (.int n) = none := rfl
    rw [read, read, bool?_numeral, hplain, Except.ok.injEq, Option.getD_none]
    exact eq_comm.trans decide_eq_false_iff_not
  | testArgs => exact iff_of_false (by rintro ⟨⟩) id

/-- What is read setting by setting depends on nothing else. -/
theorem readAll_congr {root : Path}
    (h : ∀ s : Setting, s.read root (s.valueIn entries) = s.read root (s.valueIn entries')) :
    readAll root entries = readAll root entries' := by
  simp only [readAll, readTests, h]

/-- Quotes around a number make no difference to the settings of a mapping exactly for the numbers
that the setting takes for the same, unless they are not read for another reason. -/
theorem readAll_quoted_iff {root : Path} (h : Requoted s n entries entries') :
    readAll root entries = readAll root entries' ↔
      s.IgnoresQuotes n ∨
        ∃ e, readAll root entries = .error e ∧ readAll root entries' = .error e := by
  constructor
  · intro hsame
    rcases hread : readAll root entries with e | config
    · exact .inr ⟨e, rfl, hsame ▸ hread⟩
    · have hplain := (readAll_eq_ok_iff.1 hread).2 s
      have hquoted := (readAll_eq_ok_iff.1 (hsame ▸ hread)).2 s
      rw [h.plain_eq] at hplain
      rw [h.quoted_eq] at hquoted
      exact .inl ((read_quoted_iff root s n).1 (hplain.trans hquoted.symm))
  · rintro (hignores | ⟨e, hplain, hquoted⟩)
    · refine readAll_congr fun t ↦ ?_
      by_cases hts : t = s
      · subst hts
        rw [h.plain_eq, h.quoted_eq]
        exact (read_quoted_iff root t n).2 hignores
      · rw [h.others t hts]
    · rw [hplain, hquoted]

end Setting

namespace Config

variable {tree tree' : FileTree} {base base' : Standpoint} {path path' root : Path}
  {plain quoted : List (Yaml.Value × Yaml.Value)} {s : Setting} {n : ℤ}

/-- **Quotes around a number matter where it is too long, and to two settings.** Two files with the
same settings, but for a number that has quotes around it in the second one, have the same outcome
exactly if the setting takes the number for the same in quotes, or if both are refused with one
error. The numbers that are not taken for the same are those too long to be written out, one where
it says whether scratch files are kept, and all where arguments are listed. -/
theorem load_quoted_iff (hplain : Holds tree base path root (.mapping plain))
    (hquoted : Holds tree' base' path' root (.mapping quoted)) (h : s.Requoted n plain quoted) :
    load tree base path = load tree' base' path' ↔
      s.IgnoresQuotes n ∨
        ∃ e, load tree base path = .error e ∧ load tree' base' path' = .error e := by
  rw [load_of_holds hplain, load_of_holds hquoted, Setting.ofValue_mapping, Setting.ofValue_mapping]
  exact Setting.readAll_quoted_iff h

/-- Four workers are four workers. -/
theorem load_sampleWorkers_quoted :
    load (sampleTree "workers: 4\n") sampleBase sampleRoot =
      load (sampleTree "workers: '4'\n") sampleBase sampleRoot := by
  have hplain : Holds (sampleTree "workers: 4\n") sampleBase sampleRoot sampleRoot
      (.mapping [(.text "workers", .int 4)]) :=
    holds_sampleTree (by decide) (by decide) (by decide +kernel)
  have hquoted : Holds (sampleTree "workers: '4'\n") sampleBase sampleRoot sampleRoot
      (.mapping [(.text "workers", .text "4")]) :=
    holds_sampleTree (by decide) (by decide) (by decide +kernel)
  have hothers : ∀ t : Setting, t ≠ .workers →
      t.valueIn [(.text "workers", .int 4)] = t.valueIn [(.text "workers", .text "4")] := by
    intro t ht
    cases t with
    | workers => exact absurd rfl ht
    | _ => rfl
  have hrequoted : Setting.workers.Requoted 4 [(.text "workers", .int 4)]
      [(.text "workers", .text "4")] := ⟨rfl, rfl, hothers⟩
  exact (load_quoted_iff hplain hquoted hrequoted).2 (.inl (show ¬ IsLong 4 by decide +kernel))

/-- Scratch files are kept for a one in quotes only. -/
theorem not_load_ignores_quotes :
    ¬ ∀ (tree tree' : FileTree) (base base' : Standpoint) (path path' root : Path)
      (plain quoted : List (Yaml.Value × Yaml.Value)) (s : Setting) (n : ℤ),
      Holds tree base path root (.mapping plain) →
      Holds tree' base' path' root (.mapping quoted) → s.Requoted n plain quoted →
        load tree base path = load tree' base' path' := by
  intro h
  have hplain : Holds (sampleTree "doctest:\n  keep_scratch: 1\n") sampleBase sampleRoot
      sampleRoot (.mapping [(.text "doctest", .mapping [(.text "keep_scratch", .int 1)])]) :=
    holds_sampleTree (by decide) (by decide) (by decide +kernel)
  have hquoted : Holds (sampleTree "doctest:\n  keep_scratch: '1'\n") sampleBase sampleRoot
      sampleRoot (.mapping [(.text "doctest", .mapping [(.text "keep_scratch", .text "1")])]) :=
    holds_sampleTree (by decide) (by decide) (by decide +kernel)
  have hothers : ∀ t : Setting, t ≠ .keepScratch →
      t.valueIn [(.text "doctest", .mapping [(.text "keep_scratch", .int 1)])] =
        t.valueIn [(.text "doctest", .mapping [(.text "keep_scratch", .text "1")])] := by
    intro t ht
    cases t with
    | keepScratch => exact absurd rfl ht
    | _ => rfl
  have hsame := h _ _ _ _ _ _ _ _ _ .keepScratch 1 hplain hquoted ⟨rfl, rfl, hothers⟩
  rw [load_of_holds hplain, load_of_holds hquoted] at hsame
  have hkept : (ofValue sampleRoot (.mapping [(.text "doctest",
      .mapping [(.text "keep_scratch", .text "1")])])).toOption.map (·.doctest.keepScratch) =
        some false := by
    rw [← hsame]
    rfl
  revert hkept
  decide +kernel

end Config

end CrateDoc
