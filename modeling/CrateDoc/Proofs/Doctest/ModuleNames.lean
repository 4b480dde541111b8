import CrateDoc.Doctest.Suite
import CrateDoc.Proofs.Entries
import CrateDoc.Proofs.Text.Numeral
import Mathlib.Data.List.Basic
import Mathlib.Data.List.Count

/-!
# Names of modules

A table of module names knows which names are taken. A search for a free name goes from try to try
(`Finds`): a name that is taken is counted once more, and the name with this count behind it is
tried next. The names that are tried grow, so a table has fewer of them than it has entries
(`tries_lt_of_taken`), and the search comes to an end in time (`finds_allocate`).

It gives a name that was free, the wished one or one with numbers behind it, and takes that name and
no other (`Finds.allocates`). So the names that are allocated one after the other are pairwise
different (`nodup_allocateAll`).
-/

namespace CrateDoc.Doctest

open CrateDoc.Text

/-- A name with numbers behind it, or the name itself. -/
def IsNumbered (name numbered : String) : Prop :=
  ∃ marks : List Char, (∀ c ∈ marks, isAsciiDigit c = true ∨ c = '_') ∧
    numbered.toList = name.toList ++ marks

theorem IsNumbered.refl (name : String) : IsNumbered name name :=
  ⟨[], by simp, by simp⟩

/-- One more number behind a name. -/
theorem IsNumbered.of_append {name numbered : String} {n : ℕ}
    (h : IsNumbered (name ++ "_" ++ toString n) numbered) : IsNumbered name numbered := by
  obtain ⟨marks, hmarks, heq⟩ := h
  refine ⟨'_' :: ((toString n).toList ++ marks), fun c hc ↦ ?_, ?_⟩
  · rcases List.mem_cons.1 hc with rfl | hc
    · exact .inr rfl
    · rcases List.mem_append.1 hc with hc | hc
      · rw [Nat.toString_eq_repr, Nat.toList_repr] at hc
        exact .inl (isAsciiDigit_of_mem_toDigits hc)
      · exact hmarks c hc
  · rw [heq, String.toList_append, String.toList_append]
    simp

theorem length_lt_length_numbered (name : String) (n : ℕ) :
    name.length < (name ++ "_" ++ toString n).length := by
  have hmark : "_".length = 1 := rfl
  rw [String.length_append, String.length_append, hmark]
  omega

namespace ModuleNames

/-- A name that was given away. -/
def Taken (names : ModuleNames) (name : String) : Prop := (Entries.get? name names).getD 0 ≠ 0

/-- A name is taken by counting how often it was asked for. -/
theorem taken_put_iff {names : ModuleNames} {name other : String} {count : ℕ} (hcount : count ≠ 0) :
    Taken (Entries.put name count names) other ↔ Taken names other ∨ other = name := by
  by_cases h : other = name
  · subst h
    simp [Taken, Entries.get?_put_self, hcount]
  · have hne : (name == other) = false := beq_eq_false_iff_ne.2 (Ne.symm h)
    simp [Taken, Entries.get?_put_of_ne count names hne, h]

/-- How many names of the table may still be tried: those that are not shorter than this one. -/
def tries (names : ModuleNames) (name : String) : ℕ :=
  (names.map Prod.fst).countP fun other ↦ name.length ≤ other.length

theorem tries_le_length (names : ModuleNames) (name : String) :
    tries names name ≤ names.length := by
  simpa [tries] using List.countP_le_length (l := names.map Prod.fst)

theorem mem_keys_of_taken {names : ModuleNames} {name : String} (h : Taken names name) :
    name ∈ names.map Prod.fst := by
  rcases hget : Entries.get? name names with - | count
  · exact absurd (by rw [hget]; rfl) h
  · obtain ⟨key, hmem, hkey⟩ := Entries.exists_mem_of_get?_eq_some hget
    rw [← eq_of_beq hkey]
    exact List.mem_map_of_mem hmem

/-- A longer name leaves fewer tries than a taken one. -/
theorem tries_lt_of_taken {names : ModuleNames} {name longer : String} (count : ℕ)
    (h : Taken names name) (hlonger : name.length < longer.length) :
    tries (Entries.put name count names) longer < tries names name := by
  have hkeys : (Entries.put name count names).map Prod.fst = names.map Prod.fst := by
    refine Entries.map_fst_put_of_has count ?_
    rw [Entries.has, Option.isSome_iff_ne_none]
    intro hnone
    exact h (by rw [hnone]; rfl)
  -- The keys stay as they are, and the taken name is not counted among the longer ones.
  have hperm := List.perm_cons_erase (mem_keys_of_taken h)
  rw [tries, tries, hkeys, hperm.countP_eq, hperm.countP_eq, List.countP_cons_of_neg (by simpa),
    List.countP_cons_of_pos (by simp), Nat.lt_succ_iff]
  refine List.countP_mono_left fun other _ hother ↦ ?_
  simp only [decide_eq_true_eq] at hother ⊢
  omega

/-- How often a name was asked for. -/
def count (names : ModuleNames) (name : String) : ℕ := (Entries.get? name names).getD 0

/-- A search for a free name that comes to an end: the name it finds, and the table after it. -/
inductive Finds : ModuleNames → String → String × ModuleNames → Prop
  /-- A free name is found. -/
  | free {names : ModuleNames} {name : String} (h : ¬ Taken names name) :
      Finds names name (name, Entries.put name 1 names)
  /-- A name that is taken is counted once more, and the name with its count is tried. -/
  | taken {names : ModuleNames} {name : String} {result : String × ModuleNames}
      (h : Taken names name)
      (rest : Finds (Entries.put name (count names name + 1) names)
        (name ++ "_" ++ toString (count names name)) result) :
      Finds names name result

/-- With more tries than there are names left to try, the search comes to its end. -/
theorem finds_allocateWith {fuel : ℕ} {names : ModuleNames} {name : String}
    (hfuel : tries names name < fuel) : Finds names name (allocateWith fuel names name) := by
  induction fuel generalizing names name with
  | zero => exact absurd hfuel (Nat.not_lt_zero _)
  | succ fuel ih =>
    rw [allocateWith]
    split_ifs with hcount
    · rw [hcount]
      exact .free fun h ↦ h hcount
    · have hlonger := length_lt_length_numbered name (count names name)
      have hfewer := tries_lt_of_taken (count names name + 1) hcount hlonger
      exact .taken hcount (ih (Nat.lt_of_lt_of_le hfewer (Nat.lt_succ_iff.1 hfuel)))

/-- Every search comes to an end in time. -/
theorem finds_allocate (names : ModuleNames) (name : String) :
    Finds names name (allocate names name) :=
  finds_allocateWith (Nat.lt_succ_of_le (tries_le_length names name))

/-- What an allocation does: the name it gives was free, is the wished one or the wished one with
numbers behind it, and is the only name that is taken by it. -/
structure Allocates (names : ModuleNames) (name : String) (result : String × ModuleNames) :
    Prop where
  free : ¬ Taken names result.1
  taken_iff : ∀ other, Taken result.2 other ↔ Taken names other ∨ other = result.1
  isNumbered : IsNumbered name result.1

theorem Finds.allocates {names : ModuleNames} {name : String} {result : String × ModuleNames}
    (h : Finds names name result) : Allocates names name result := by
  induction h with
  | @free names name hfree =>
    exact ⟨hfree, fun other ↦ taken_put_iff Nat.one_ne_zero, IsNumbered.refl name⟩
  | @taken names name result htaken _ ih =>
    -- The name is taken already, so asking for it once more takes nothing.
    have hsame : ∀ other, Taken (Entries.put name (count names name + 1) names) other ↔
        Taken names other := by
      intro other
      rw [taken_put_iff (Nat.succ_ne_zero _), or_iff_left_of_imp]
      rintro rfl
      exact htaken
    refine ⟨fun h ↦ ih.free ((hsame _).2 h), fun other ↦ ?_, ih.isNumbered.of_append⟩
    rw [ih.taken_iff, hsame]

theorem allocate_allocates (names : ModuleNames) (name : String) :
    Allocates names name (allocate names name) :=
  (finds_allocate names name).allocates

/-! ### Allocating one name after the other -/

/-- Each name is the wished one, maybe with numbers behind it. -/
theorem forall₂_isNumbered_allocateAll (names : ModuleNames) (wished : List String) :
    List.Forall₂ IsNumbered wished (allocateAll names wished) := by
  induction wished generalizing names with
  | nil => exact .nil
  | cons name rest ih => exact .cons (allocate_allocates names name).isNumbered (ih _)

/-- No name that was taken before is given away. -/
theorem not_taken_of_mem_allocateAll {names : ModuleNames} {wished : List String} {name : String}
    (h : name ∈ allocateAll names wished) : ¬ Taken names name := by
  induction wished generalizing names with
  | nil => cases h
  | cons wish rest ih =>
    have hwish := allocate_allocates names wish
    rcases List.mem_cons.1 h with rfl | h
    · exact hwish.free
    · intro htaken
      exact ih h ((hwish.taken_iff name).2 (.inl htaken))

/-- Names that are allocated one after the other are pairwise different. -/
theorem nodup_allocateAll (names : ModuleNames) (wished : List String) :
    (allocateAll names wished).Nodup := by
  induction wished generalizing names with
  | nil => exact List.nodup_nil
  | cons wish rest ih =>
    refine List.nodup_cons.2 ⟨fun hmem ↦ ?_, ih _⟩
    exact not_taken_of_mem_allocateAll hmem
      (((allocate_allocates names wish).taken_iff _).2 (.inr rfl))

end ModuleNames

end CrateDoc.Doctest
