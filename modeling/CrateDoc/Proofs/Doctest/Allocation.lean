import CrateDoc.Proofs.Doctest.ModuleNames
import Mathlib.Data.List.Forall2

/-!
# Allocating names

What a search for a free name does is read off its tries, by induction on `ModuleNames.Finds`:

* `Finds.unique`: it has one outcome;
* `Finds.exists_numbered`: the name it finds is the wished one with numbers behind it;
* `Finds.eq_of_free`: a wished name that is free is found as it is;
* `Finds.map_fst`: the table gets one more key, the name that was found.

`Runs` is one search after the other, each on the table that the searches before it have left, and
`allocateAll_gives` carries these facts along it, from an empty table on.
-/

namespace CrateDoc.Doctest.ModuleNames

/-- A name with numbers behind it. -/
def numbered (name : String) (numbers : List ℕ) : String :=
  numbers.foldl (fun name n ↦ name ++ "_" ++ toString n) name

/-- Names that are searched for one after the other: the names that are found, and the table after
all searches. -/
inductive Runs : ModuleNames → List String → List String → ModuleNames → Prop
  | nil (names : ModuleNames) : Runs names [] [] names
  | cons {names next table : ModuleNames} {name found : String} {wished given : List String}
      (h : Finds names name (found, next)) (rest : Runs next wished given table) :
      Runs names (name :: wished) (found :: given) table

/-! ### One search -/

variable {names table : ModuleNames} {name : String} {result : String × ModuleNames}
  {wished given : List String}

/-- A search has one outcome. -/
theorem Finds.unique {result' : String × ModuleNames} (h : Finds names name result)
    (h' : Finds names name result') : result = result' := by
  induction h with
  | free hfree =>
    cases h' with
    | free => rfl
    | taken htaken => exact absurd htaken hfree
  | taken htaken _ ih =>
    cases h' with
    | free hfree => exact absurd htaken hfree
    | taken _ hrest => exact ih hrest

/-- Each try puts one more number behind the wished name. -/
theorem Finds.exists_numbered (h : Finds names name result) :
    ∃ numbers, result.1 = numbered name numbers := by
  induction h with
  | free => exact ⟨[], rfl⟩
  | @taken names name _ _ _ ih =>
    obtain ⟨numbers, heq⟩ := ih
    exact ⟨count names name :: numbers, heq⟩

/-- A wished name that is free is given as it is. -/
theorem Finds.eq_of_free (h : Finds names name result) (hfree : ¬ Taken names name) :
    result.1 = name := by
  cases h with
  | free => rfl
  | taken htaken => exact absurd htaken hfree

/-- Where only taken names are keys, the name that is found is the next key. -/
theorem Finds.map_fst (h : Finds names name result)
    (hkeys : ∀ key ∈ names.map Prod.fst, Taken names key) :
    result.2.map Prod.fst = names.map Prod.fst ++ [result.1] := by
  induction h with
  | @free names name hfree =>
    have hnew : Entries.has name names = false := by
      rw [← Bool.not_eq_true, Entries.has_eq_true_iff]
      exact fun hmem ↦ hfree (hkeys name hmem)
    rw [Entries.put_of_has_eq_false 1 hnew, List.map_append, List.map_singleton]
  | @taken names name _ htaken _ ih =>
    -- Counting a name that is there leaves the keys as they are.
    have hsame := Entries.map_fst_put_of_has (count names name + 1)
      (Entries.has_eq_true_iff.2 (mem_keys_of_taken htaken))
    rw [hsame] at ih
    exact ih fun key hkey ↦ (taken_put_iff (Nat.succ_ne_zero _)).2 (.inl (hkeys key hkey))

/-! ### One search after the other -/

theorem exists_runs (names : ModuleNames) (wished : List String) :
    ∃ table, Runs names wished (allocateAll names wished) table := by
  induction wished generalizing names with
  | nil => exact ⟨names, .nil names⟩
  | cons name rest ih =>
    obtain ⟨table, hrest⟩ := ih (allocate names name).2
    exact ⟨table, .cons (finds_allocate names name) hrest⟩

theorem Runs.unique {given' : List String} {table' : ModuleNames}
    (h : Runs names wished given table) (h' : Runs names wished given' table') :
    given' = given ∧ table' = table := by
  induction h generalizing given' with
  | nil =>
    cases h'
    exact ⟨rfl, rfl⟩
  | cons hfinds _ ih =>
    cases h' with
    | cons hfinds' hrest' =>
      obtain ⟨rfl, rfl⟩ := Prod.mk.inj (hfinds.unique hfinds')
      obtain ⟨rfl, rfl⟩ := ih hrest'
      exact ⟨rfl, rfl⟩

theorem Runs.forall₂_numbered (h : Runs names wished given table) :
    List.Forall₂ (fun name found ↦ ∃ numbers, found = numbered name numbers) wished given := by
  induction h with
  | nil => exact .nil
  | cons hfinds _ ih => exact .cons hfinds.exists_numbered ih

/-- The names that are given become the keys, in their order. -/
theorem Runs.map_fst (h : Runs names wished given table)
    (hkeys : ∀ key ∈ names.map Prod.fst, Taken names key) :
    table.map Prod.fst = names.map Prod.fst ++ given := by
  induction h with
  | nil => rw [List.append_nil]
  | @cons names next table name found wished given hfinds _ ih =>
    have hnext : next.map Prod.fst = names.map Prod.fst ++ [found] := hfinds.map_fst hkeys
    have htaken : ∀ key ∈ next.map Prod.fst, Taken next key := by
      intro key hkey
      rw [hnext, List.mem_append, List.mem_singleton] at hkey
      exact (hfinds.allocates.taken_iff key).2 (hkey.imp_left (hkeys key))
    rw [ih htaken, hnext, List.append_assoc, List.singleton_append]

/-- A name that is free, and is not given before it is wished for, is given as it is. -/
theorem Runs.getElem?_of_free (h : Runs names wished given table) {i : ℕ}
    (hwished : wished[i]? = some name) (hfree : ¬ Taken names name)
    (hnew : name ∉ given.take i) : given[i]? = some name := by
  induction h generalizing i with
  | nil => cases hwished
  | cons hfinds _ ih =>
    cases i with
    | zero =>
      obtain rfl := Option.some.inj hwished
      exact congrArg some (hfinds.eq_of_free hfree)
    | succ i =>
      rw [List.take_succ_cons, List.mem_cons, not_or] at hnew
      refine ih hwished (fun htaken ↦ ?_) hnew.2
      rcases (hfinds.allocates.taken_iff name).1 htaken with htaken | rfl
      · exact hfree htaken
      · exact hnew.1 rfl

/-- The names that are given when names are wished for one after the other, and the table that is
left. -/
structure Gives (wished given : List String) (table : ModuleNames) : Prop where
  /-- All searches come to an end. -/
  runs : Runs [] wished given table
  unique : ∀ given' table', Runs [] wished given' table' → given' = given ∧ table' = table
  nodup : given.Nodup
  /-- The keys of the table are the names that were given. -/
  keys : table.map Prod.fst = given
  /-- Each name is the wished one with numbers behind it. -/
  numbered : List.Forall₂ (fun name found ↦ ∃ numbers, found = numbered name numbers) wished given
  /-- A wished name that was not given before is given as it is. -/
  unchanged : ∀ i name, wished[i]? = some name → name ∉ given.take i → given[i]? = some name

/-- **Every search for a free name ends, and no name is given twice.** Whatever names are wished
for, one after the other, all searches come to an end, with the names that are allocated and with
one table. These names are pairwise different and are the keys of the table; each is the wished name
with numbers behind it, and the wished name itself if that was not given before. -/
theorem allocateAll_gives (wished : List String) :
    ∃ table, Gives wished (allocateAll [] wished) table := by
  obtain ⟨table, hruns⟩ := exists_runs [] wished
  have hnone : ∀ name, ¬ Taken [] name := fun _ h ↦ h rfl
  exact ⟨table, {
    runs := hruns
    unique := fun _ _ hruns' ↦ hruns.unique hruns'
    nodup := nodup_allocateAll [] wished
    keys := hruns.map_fst nofun
    numbered := hruns.forall₂_numbered
    unchanged := fun _ name hwished hnew ↦ hruns.getElem?_of_free hwished (hnone name) hnew }⟩

/-- The second `a` comes to `a_1`, which is taken by then, and gets a number behind that. -/
theorem collidingNames_give :
    ∃ table, Gives ["a", "a_1", "a", "a"] ["a", "a_1", "a_1_1", "a_2"] table := by
  have hgiven : allocateAll [] ["a", "a_1", "a", "a"] = ["a", "a_1", "a_1_1", "a_2"] := by decide
  exact hgiven ▸ allocateAll_gives ["a", "a_1", "a", "a"]

end CrateDoc.Doctest.ModuleNames
