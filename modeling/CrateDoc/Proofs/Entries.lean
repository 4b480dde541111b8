import CrateDoc.Entries
import Mathlib.Data.List.Nodup
import Mathlib.Tactic.SplitIfs

/-!
# More on keyed entries

What is found under a key stands among the entries, under a key that is equal to it
(`exists_mem_of_get?_eq_some`), a key that is not there is put at the end (`put_of_has_eq_false`),
and one that is there keeps its place (`map_fst_put_of_has`). So keys that are put are distinct
(`nodup_keys_put`), and then the entries are what is found under their keys
(`mem_iff_get?_eq_some`).
-/

namespace CrateDoc.Entries

variable {κ ν : Type} [BEq κ]

/-- A value that is found stands among the entries, under an equal key. -/
theorem exists_mem_of_get?_eq_some {key : κ} {value : ν} {entries : Entries κ ν}
    (h : get? key entries = some value) : ∃ k, (k, value) ∈ entries ∧ (k == key) = true := by
  induction entries with
  | nil => cases h
  | cons entry rest ih =>
    obtain ⟨k, v⟩ := entry
    rw [get?] at h
    split_ifs at h with hk
    · cases h
      exact ⟨k, List.mem_cons_self, hk⟩
    · obtain ⟨k', hmem, hk'⟩ := ih h
      exact ⟨k', List.mem_cons_of_mem _ hmem, hk'⟩

/-- What was put under a key is replaced by what is put there later. -/
theorem put_put [ReflBEq κ] (key : κ) (value later : ν) (entries : Entries κ ν) :
    put key later (put key value entries) = put key later entries := by
  induction entries with
  | nil => simp [put]
  | cons pair rest ih =>
    by_cases h : pair.1 == key
    · simp [put, h]
    · simp [put, h, ih]

/-- A key that is not there is put at the end. -/
theorem put_of_has_eq_false {key : κ} (value : ν) {entries : Entries κ ν}
    (h : has key entries = false) : put key value entries = entries ++ [(key, value)] := by
  induction entries with
  | nil => rfl
  | cons entry rest ih =>
    obtain ⟨k, v⟩ := entry
    rw [has, get?] at h
    split_ifs at h with hk
    · cases h
    · rw [put, if_neg hk, ih h, List.cons_append]

/-- A key that is there keeps its place. -/
theorem map_fst_put_of_has {key : κ} (value : ν) {entries : Entries κ ν}
    (h : has key entries = true) :
    (put key value entries).map Prod.fst = entries.map Prod.fst := by
  induction entries with
  | nil => cases h
  | cons entry rest ih =>
    obtain ⟨k, v⟩ := entry
    rw [has, get?] at h
    rw [put]
    split_ifs at h ⊢ with hk
    · rfl
    · rw [List.map_cons, List.map_cons, ih h]

/-- The keys after a key was put are the keys before, and that key. -/
theorem any_put [LawfulBEq κ] (p : κ → Bool) (key : κ) (value : ν) (entries : Entries κ ν) :
    (put key value entries).any (fun entry ↦ p entry.1) =
      (entries.any (fun entry ↦ p entry.1) || p key) := by
  induction entries with
  | nil => simp [put]
  | cons entry rest ih =>
    obtain ⟨k, v⟩ := entry
    rw [put]
    split_ifs with hk
    · rw [eq_of_beq hk, List.any_cons, List.any_cons]
      cases p key <;> simp
    · rw [List.any_cons, List.any_cons, ih, Bool.or_assoc]

/-- A key is there when it is equal to the key of some entry. -/
theorem has_eq_true_iff_exists {key : κ} {entries : Entries κ ν} :
    has key entries = true ↔ ∃ k ∈ entries.map Prod.fst, (k == key) = true := by
  induction entries with
  | nil => simp [has]
  | cons entry rest ih =>
    obtain ⟨k, v⟩ := entry
    rw [has] at ih
    rw [has, get?]
    split_ifs with hk
    · simp [hk]
    · simp [ih, hk]

/-- Equal keys find the same value. -/
theorem get?_of_beq [PartialEquivBEq κ] {key other : κ} (h : (key == other) = true)
    (entries : Entries κ ν) : get? key entries = get? other entries := by
  have hsame : ∀ k : κ, (k == key) = (k == other) := by
    intro k
    rw [Bool.eq_iff_iff]
    exact ⟨fun hk ↦ PartialEquivBEq.trans hk h,
      fun hk ↦ PartialEquivBEq.trans hk (PartialEquivBEq.symm h)⟩
  induction entries with
  | nil => rfl
  | cons entry rest ih => rw [get?, get?, hsame, ih]

/-- Entries that are read off a list: what is found under a key belongs to the first member of that
key. -/
theorem get?_map {α : Type} (f : α → κ) (g : α → ν) (key : κ) (members : List α) :
    get? key (members.map fun a ↦ (f a, g a)) = (members.find? (f · == key)).map g := by
  induction members with
  | nil => rfl
  | cons a rest ih =>
    rw [List.map_cons, get?, List.find?_cons, ih]
    rcases f a == key with - | -
    · rfl
    · rfl

/-- A key is there when it is the key of some entry. -/
theorem has_eq_true_iff [LawfulBEq κ] {key : κ} {entries : Entries κ ν} :
    has key entries = true ↔ key ∈ entries.map Prod.fst := by
  simp only [has_eq_true_iff_exists, beq_iff_eq, exists_eq_right]

/-! ### The last pair of a key -/

/-- What was put last under a key is found under every key that is equal to it. -/
theorem get?_put_of_beq [PartialEquivBEq κ] {key other : κ} (value : ν) (entries : Entries κ ν)
    (h : (key == other) = true) : get? other (put key value entries) = some value := by
  induction entries with
  | nil => rw [put, get?, if_pos h]
  | cons entry rest ih =>
    obtain ⟨k, v⟩ := entry
    rw [put]
    split_ifs with hk
    · rw [get?, if_pos (PartialEquivBEq.trans hk h)]
    · have hother : (k == other) ≠ true := fun hk' ↦
        hk (PartialEquivBEq.trans hk' (PartialEquivBEq.symm h))
      rw [get?, if_neg hother, ih]

/-- Pairs of other keys leave what is found under a key. -/
theorem get?_foldl_put_of_ne [PartialEquivBEq κ] {key : κ} {pairs : List (κ × ν)}
    (entries : Entries κ ν) (h : ∀ pair ∈ pairs, (pair.1 == key) = false) :
    get? key (pairs.foldl (fun entries pair ↦ put pair.1 pair.2 entries) entries) =
      get? key entries := by
  induction pairs generalizing entries with
  | nil => rfl
  | cons pair rest ih =>
    rw [List.foldl_cons, ih _ fun p hp ↦ h p (List.mem_cons_of_mem _ hp),
      get?_put_of_ne _ _ (h pair List.mem_cons_self)]

/-- Of several pairs of one key the last is found. -/
theorem get?_ofPairs_of_last [PartialEquivBEq κ] {key k : κ} {value : ν}
    {before after : List (κ × ν)} (hk : (k == key) = true)
    (hafter : ∀ pair ∈ after, (pair.1 == key) = false) :
    get? key (ofPairs (before ++ (k, value) :: after)) = some value := by
  rw [ofPairs, List.foldl_append, List.foldl_cons, get?_foldl_put_of_ne _ hafter,
    get?_put_of_beq _ _ hk]

/-- What is found after a value was put is that value, under an equal key, or was there before. -/
theorem get?_put_eq_some [PartialEquivBEq κ] {key other : κ} {value found : ν}
    {entries : Entries κ ν} (h : get? other (put key value entries) = some found) :
    (key == other) = true ∧ found = value ∨ get? other entries = some found := by
  rcases hkey : key == other with - | -
  · rw [get?_put_of_ne value entries hkey] at h
    exact .inr h
  · rw [get?_put_of_beq value entries hkey, Option.some.injEq] at h
    exact .inl ⟨rfl, h.symm⟩

/-- What is found after pairs were put is the value of one of them, or was there before. -/
theorem get?_foldl_put_eq_some [PartialEquivBEq κ] {key : κ} {value : ν} {pairs : List (κ × ν)}
    {entries : Entries κ ν}
    (h : get? key (pairs.foldl (fun entries pair ↦ put pair.1 pair.2 entries) entries) =
      some value) :
    (∃ k, (k, value) ∈ pairs ∧ (k == key) = true) ∨ get? key entries = some value := by
  induction pairs generalizing entries with
  | nil => exact .inr h
  | cons pair rest ih =>
    obtain ⟨k, v⟩ := pair
    rcases ih h with ⟨k', hmem, hk'⟩ | h
    · exact .inl ⟨k', List.mem_cons_of_mem _ hmem, hk'⟩
    · rcases get?_put_eq_some h with ⟨hk, rfl⟩ | h
      · exact .inl ⟨k, List.mem_cons_self, hk⟩
      · exact .inr h

/-- What is found under a key is the value of a pair of that key. -/
theorem exists_mem_of_get?_ofPairs [PartialEquivBEq κ] {key : κ} {value : ν}
    {pairs : List (κ × ν)} (h : get? key (ofPairs pairs) = some value) :
    ∃ k, (k, value) ∈ pairs ∧ (k == key) = true := by
  rcases get?_foldl_put_eq_some h with h | h
  · exact h
  · cases h

/-- Entries of other keys may be left out. -/
theorem get?_filter {key : κ} {p : κ → Bool} (hp : ∀ k, (k == key) = true → p k = true)
    (entries : Entries κ ν) : get? key (entries.filter (p ·.1)) = get? key entries := by
  induction entries with
  | nil => rfl
  | cons entry rest ih =>
    obtain ⟨k, v⟩ := entry
    rw [List.filter_cons, get?]
    rcases hkey : k == key with - | -
    · split
      · rw [get?, hkey, ih]
      · rw [ih]
        rfl
    · rw [if_pos (hp k hkey), get?, hkey, if_pos rfl, if_pos rfl]

/-- Pairs of other keys may be left out. -/
theorem get?_foldl_put_filter [PartialEquivBEq κ] {key : κ} {p : κ → Bool}
    (hp : ∀ k, (k == key) = true → p k = true) (pairs : List (κ × ν))
    {entries entries' : Entries κ ν}
    (h : get? key entries = get? key entries') :
    get? key ((pairs.filter (p ·.1)).foldl (fun entries pair ↦ put pair.1 pair.2 entries) entries) =
      get? key (pairs.foldl (fun entries pair ↦ put pair.1 pair.2 entries) entries') := by
  induction pairs generalizing entries entries' with
  | nil => exact h
  | cons pair rest ih =>
    rw [List.foldl_cons]
    rcases hkey : pair.1 == key with - | -
    · have hput := (get?_put_of_ne pair.2 entries' hkey).symm
      rw [List.filter_cons]
      split_ifs
      · rw [List.foldl_cons]
        exact ih (by rw [get?_put_of_ne pair.2 entries hkey, h, hput])
      · exact ih (h.trans hput)
    · rw [List.filter_cons, if_pos (hp _ hkey), List.foldl_cons]
      exact ih (by rw [get?_put_of_beq _ _ hkey, get?_put_of_beq _ _ hkey])

theorem get?_ofPairs_filter [PartialEquivBEq κ] {key : κ} {p : κ → Bool}
    (hp : ∀ k, (k == key) = true → p k = true) (pairs : List (κ × ν)) :
    get? key (ofPairs (pairs.filter (p ·.1))) = get? key (ofPairs pairs) :=
  get?_foldl_put_filter hp pairs rfl

/-- A key is there after another was put if it was there before, or is equal to that one. -/
theorem has_put [PartialEquivBEq κ] (key other : κ) (value : ν) (entries : Entries κ ν) :
    has other (put key value entries) = (key == other || has other entries) := by
  rcases h : key == other with - | -
  · rw [has, get?_put_of_ne value entries h, Bool.false_or, has]
  · rw [has, get?_put_of_beq value entries h]
    rfl

/-- A key is there after some pairs were put if it is that of one of them, or was there before. -/
theorem has_foldl_put [PartialEquivBEq κ] (key : κ) (pairs : List (κ × ν)) (entries : Entries κ ν) :
    has key (pairs.foldl (fun entries pair ↦ put pair.1 pair.2 entries) entries) =
      (pairs.any (·.1 == key) || has key entries) := by
  induction pairs generalizing entries with
  | nil => rfl
  | cons pair rest ih =>
    rw [List.foldl_cons, ih, has_put, List.any_cons, Bool.or_left_comm, Bool.or_assoc]

/-- Pairs of new and different keys are put behind the entries. -/
theorem foldl_put_eq_append {entries pairs : Entries κ ν}
    (h : (entries ++ pairs).Pairwise fun p q ↦ (p.1 == q.1) = false) :
    pairs.foldl (fun entries pair ↦ put pair.1 pair.2 entries) entries = entries ++ pairs := by
  induction pairs generalizing entries with
  | nil => simp
  | cons pair rest ih =>
    obtain ⟨key, value⟩ := pair
    have hnew : has key entries = false := by
      rw [← Bool.not_eq_true, has_eq_true_iff_exists]
      rintro ⟨k, hk, hbeq⟩
      obtain ⟨entry, hentry, rfl⟩ := List.mem_map.1 hk
      simp [(List.pairwise_append.1 h).2.2 entry hentry _ List.mem_cons_self] at hbeq
    rw [List.append_cons] at h ⊢
    rw [List.foldl_cons, put_of_has_eq_false value hnew, ih h]

/-- Pairs of different keys are entries as they stand. -/
theorem ofPairs_eq_self {pairs : List (κ × ν)}
    (h : pairs.Pairwise fun p q ↦ (p.1 == q.1) = false) : ofPairs pairs = pairs :=
  foldl_put_eq_append h

section Distinct

variable [LawfulBEq κ] {key : κ} {value : ν} {entries : Entries κ ν}

/-- Putting a key that is there changes none, and a new key differs from all others. -/
theorem nodup_keys_put (h : (entries.map Prod.fst).Nodup) :
    ((put key value entries).map Prod.fst).Nodup := by
  rcases hhas : has key entries with - | -
  · rw [put_of_has_eq_false value hhas, List.map_append, List.map_singleton,
      ← List.concat_eq_append, List.nodup_concat]
    exact ⟨fun hmem ↦ by simp [has_eq_true_iff.2 hmem] at hhas, h⟩
  · rwa [map_fst_put_of_has value hhas]

/-- Where keys are distinct, an entry is there when it is found under its key. -/
theorem mem_iff_get?_eq_some (h : (entries.map Prod.fst).Nodup) :
    (key, value) ∈ entries ↔ get? key entries = some value := by
  induction entries with
  | nil => simp
  | cons entry rest ih =>
    obtain ⟨k, v⟩ := entry
    obtain ⟨hk, hrest⟩ := List.nodup_cons.1 h
    rw [List.mem_cons, ih hrest, get?]
    split_ifs with hkey
    · obtain rfl := eq_of_beq hkey
      have hnone : get? k rest ≠ some value := fun hsome ↦
        hk (has_eq_true_iff.1 (by rw [has, hsome]; rfl))
      simp [hnone, eq_comm]
    · have hne : key ≠ k := fun heq ↦ hkey (by rw [heq, beq_self_eq_true])
      simp [hne]

end Distinct

/-- What the values hold together after one was put: what it holds has taken the place of what was
found under its key. -/
theorem flatMap_put_perm {β : Type} (f : ν → List β) (key : κ) (value : ν) (entries : Entries κ ν) :
    ((put key value entries).flatMap (f ·.2) ++ (get? key entries).elim [] f).Perm
      (entries.flatMap (f ·.2) ++ f value) := by
  induction entries with
  | nil => simp [put]
  | cons entry rest ih =>
    obtain ⟨k, v⟩ := entry
    rw [put, get?]
    split_ifs with hk
    · simp only [List.flatMap_cons, Option.elim_some]
      rw [List.append_assoc]
      refine List.perm_append_comm.trans ?_
      exact List.perm_append_comm.append_right (f value)
    · simp only [List.flatMap_cons, List.append_assoc]
      exact ih.append_left (f v)

end CrateDoc.Entries
