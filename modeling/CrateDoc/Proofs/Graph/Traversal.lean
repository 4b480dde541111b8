import CrateDoc.Analysis.Source
import CrateDoc.Document
import Mathlib.Logic.Relation
import Mathlib.Data.List.Basic

/-!
# Walking the definitions of a source

What a source says about the shape of a crate, told without any search: which definition is
enumerated where (`Enumerates`), which are reached from the root through kinds that have documents
(`Reached`, `Shown`), and in which order a breadth-first walk meets them (`level`, `rounds`,
`below`).

Two descriptions of the walk are tied together here:

* `rounds n` is the concatenation of the first `n` levels, and `below n` that of the `n` levels
  below the root;
* `flatMap_shownChildren_rounds` says that `below n` is also the list of the children of all that
  stands in `rounds n`, so what is met is the list of children of what was met before.

Once a level is empty the walk is over, and it has met exactly what is reached
(`mem_rounds_iff_reached`, `mem_below_iff_shown`).
-/

namespace CrateDoc

namespace DefKind

/-- The kinds without documents. -/
def dropped : List DefKind := [.union, .macroRule, .tuple, .method, .localVariable]

theorem isRetained_iff {kind : DefKind} : kind.isRetained = true ↔ kind ∉ dropped := by
  cases kind <;> decide

/-- Exactly the kinds that are dropped have no type of document. -/
theorem documentType?_eq_none_iff {kind : DefKind} :
    kind.documentType? = none ↔ kind.isRetained = false := by
  cases kind <;> decide

end DefKind

namespace AnalysisSource

variable (source : AnalysisSource Id)

/-- Definition `c` is enumerated at place `k` of the children of `d`, and is of a kind that has
documents. -/
def Enumerates (d : Definition) (k : ℕ) (c : Definition) : Prop :=
  ∃ ids id, source.childrenOf d.id = .ok ids ∧ ids[k]? = some id ∧
    source.definition id = .ok c ∧ c.kind ∉ DefKind.dropped

/-- Definition `c` is a child of `d` and is of a kind that has documents. -/
def Child (d c : Definition) : Prop := ∃ k, source.Enumerates d k c

/-- Definition `d` is `root`, or is reached from it through kinds that have documents. -/
def Reached (root d : Definition) : Prop := Relation.ReflTransGen source.Child root d

/-- Definition `d` is reached from `root` through a chain of at least one child, all of kinds that
have documents. -/
def Shown (root d : Definition) : Prop := Relation.TransGen source.Child root d

/-- The definition of an id, if there is one and its kind has documents. -/
def shown? (id : DefId) : Option Definition :=
  match source.definition id with
  | .ok c => if c.kind.isRetained then some c else none
  | .error _ => none

/-- The children of a definition that have documents, in the order of the source. -/
def shownChildren (d : Definition) : List Definition :=
  match source.childrenOf d.id with
  | .ok ids => ids.filterMap source.shown?
  | .error _ => []

/-- The definitions `n` levels below those of a list, in breadth-first order. -/
def level : ℕ → List Definition → List Definition
  | 0, ds => ds
  | n + 1, ds => level n (ds.flatMap source.shownChildren)

/-- The first `n` levels from a list of definitions on, one after the other. -/
def rounds (n : ℕ) (ds : List Definition) : List Definition :=
  (List.range n).flatMap fun k ↦ source.level k ds

/-- The definitions of the first `n` levels below a root, level by level. -/
def below (n : ℕ) (root : Definition) : List Definition :=
  (List.range n).flatMap fun k ↦ source.level (k + 1) [root]

variable {source}

/-! ### Children -/

/-- An id is shown as its definition, unless the kind of that is dropped. -/
theorem shown?_eq_some_iff {id : DefId} {c : Definition} :
    source.shown? id = some c ↔ source.definition id = .ok c ∧ c.kind ∉ DefKind.dropped := by
  rw [shown?]
  rcases h : source.definition id with e | d
  · simp
  · rw [← DefKind.isRetained_iff]
    constructor
    · intro hs
      obtain ⟨hd, hdc⟩ := Option.ite_none_right_eq_some.1 hs
      cases hdc
      exact ⟨rfl, hd⟩
    · rintro ⟨⟨⟩, hc⟩
      exact if_pos hc

/-- The shown children stand in the order in which the source lists them. -/
theorem shownChildren_of_ok {d : Definition} {ids : List DefId}
    (h : source.childrenOf d.id = .ok ids) :
    source.shownChildren d = ids.filterMap source.shown? := by
  rw [shownChildren, h]

/-- A definition whose children are refused shows none. -/
theorem shownChildren_of_error {d : Definition} {e : AnalysisError}
    (h : source.childrenOf d.id = .error e) : source.shownChildren d = [] := by
  rw [shownChildren, h]

/-- The listed children are exactly the children that have documents. -/
theorem mem_shownChildren_iff {d c : Definition} :
    c ∈ source.shownChildren d ↔ source.Child d c := by
  rcases h : source.childrenOf d.id with e | ids
  · rw [shownChildren_of_error h]
    constructor
    · intro hc
      exact absurd hc List.not_mem_nil
    · rintro ⟨k, ids, id, hids, -⟩
      rw [h] at hids
      cases hids
  · rw [shownChildren_of_ok h, List.mem_filterMap]
    constructor
    · rintro ⟨id, hid, hc⟩
      obtain ⟨k, hk⟩ := List.mem_iff_getElem?.1 hid
      exact ⟨k, ids, id, h, hk, shown?_eq_some_iff.1 hc⟩
    · rintro ⟨k, ids', id, hids, hk, hc⟩
      rw [h] at hids
      cases hids
      exact ⟨id, List.mem_of_getElem? hk, shown?_eq_some_iff.2 hc⟩

theorem Child.kind_not_mem_dropped {d c : Definition} (h : source.Child d c) :
    c.kind ∉ DefKind.dropped := by
  obtain ⟨k, ids, id, -, -, -, hc⟩ := h
  exact hc

/-! ### Levels and rounds -/

@[simp]
theorem level_zero (ds : List Definition) : source.level 0 ds = ds :=
  rfl

/-- The next level is that of the children. -/
theorem level_succ (n : ℕ) (ds : List Definition) :
    source.level (n + 1) ds = source.level n (ds.flatMap source.shownChildren) :=
  rfl

/-- A level is also the children of the level above it. -/
theorem level_succ_eq (n : ℕ) (ds : List Definition) :
    source.level (n + 1) ds = (source.level n ds).flatMap source.shownChildren := by
  induction n generalizing ds with
  | zero => rfl
  | succ n ih => rw [level_succ, ih, ← level_succ]

@[simp]
theorem rounds_zero (ds : List Definition) : source.rounds 0 ds = [] :=
  rfl

/-- The first round is the list itself, and the others are the rounds of its children. -/
theorem rounds_succ (n : ℕ) (ds : List Definition) :
    source.rounds (n + 1) ds = ds ++ source.rounds n (ds.flatMap source.shownChildren) := by
  simp only [rounds, List.range_succ_eq_map, List.flatMap_cons, List.flatMap_map, level_succ,
    level_zero]

/-- The rounds of the children are the children of the rounds. -/
theorem rounds_flatMap_shownChildren (n : ℕ) (ds : List Definition) :
    source.rounds n (ds.flatMap source.shownChildren) =
      (source.rounds n ds).flatMap source.shownChildren := by
  simp only [rounds, List.flatMap_assoc, ← level_succ, level_succ_eq]

/-- What a walk has met is its start and the children of all that it met one round earlier. -/
theorem rounds_succ_eq (n : ℕ) (ds : List Definition) :
    source.rounds (n + 1) ds = ds ++ (source.rounds n ds).flatMap source.shownChildren := by
  rw [rounds_succ, rounds_flatMap_shownChildren]

/-- One more round adds one more level at the end. -/
theorem rounds_succ_append (n : ℕ) (ds : List Definition) :
    source.rounds (n + 1) ds = source.rounds n ds ++ source.level n ds := by
  simp only [rounds, List.range_succ, List.flatMap_append, List.flatMap_cons, List.flatMap_nil,
    List.append_nil]

/-- The children of the first `n` levels are the `n` levels below the root. -/
theorem flatMap_shownChildren_rounds (n : ℕ) (root : Definition) :
    (source.rounds n [root]).flatMap source.shownChildren = source.below n root := by
  simp only [rounds, below, List.flatMap_assoc, ← level_succ_eq]

/-- The rounds of a root are the root and the levels below it. -/
theorem rounds_singleton (n : ℕ) (root : Definition) :
    source.rounds (n + 1) [root] = root :: source.below n root := by
  rw [rounds_succ_eq, flatMap_shownChildren_rounds, List.singleton_append]

/-- Going one round deeper adds one level behind what was found. -/
theorem below_succ (n : ℕ) (root : Definition) :
    source.below (n + 1) root = source.below n root ++ source.level (n + 1) [root] := by
  simp only [below, List.range_succ, List.flatMap_append, List.flatMap_cons, List.flatMap_nil,
    List.append_nil]

/-- The rounds hold the levels passed so far. -/
theorem mem_rounds_iff {n : ℕ} {ds : List Definition} {d : Definition} :
    d ∈ source.rounds n ds ↔ ∃ k < n, d ∈ source.level k ds := by
  simp [rounds]

/-- No level follows an empty one. -/
theorem level_eq_nil_of_le {n m : ℕ} {ds : List Definition} (h : source.level n ds = [])
    (hnm : n ≤ m) : source.level m ds = [] := by
  induction hnm with
  | refl => exact h
  | step _ ih => rw [level_succ_eq, ih, List.flatMap_nil]

/-! ### Reachability -/

/-- What is reached is what stands in some level. -/
theorem reached_iff_exists_level {root d : Definition} :
    source.Reached root d ↔ ∃ n, d ∈ source.level n [root] := by
  constructor
  · intro h
    induction h with
    | refl => exact ⟨0, List.mem_singleton_self root⟩
    | @tail b c _ hbc ih =>
      obtain ⟨n, hn⟩ := ih
      refine ⟨n + 1, ?_⟩
      rw [level_succ_eq, List.mem_flatMap]
      exact ⟨b, hn, mem_shownChildren_iff.2 hbc⟩
  · rintro ⟨n, hn⟩
    induction n generalizing d with
    | zero =>
      rw [level_zero, List.mem_singleton] at hn
      exact hn ▸ Relation.ReflTransGen.refl
    | succ n ih =>
      rw [level_succ_eq, List.mem_flatMap] at hn
      obtain ⟨b, hb, hd⟩ := hn
      exact (ih hb).tail (mem_shownChildren_iff.1 hd)

/-- What is shown is a child of something that is reached. -/
theorem shown_iff_exists_reached {root d : Definition} :
    source.Shown root d ↔ ∃ p, source.Reached root p ∧ source.Child p d :=
  Relation.TransGen.tail'_iff

/-- Only what is reached from the root turns up in a round. -/
theorem Reached.of_mem_rounds {n : ℕ} {root d : Definition}
    (h : d ∈ source.rounds n [root]) : source.Reached root d := by
  obtain ⟨k, -, hk⟩ := mem_rounds_iff.1 h
  exact reached_iff_exists_level.2 ⟨k, hk⟩

/-- A walk that has come to an empty level has met exactly what is reached. -/
theorem mem_rounds_iff_reached {n : ℕ} {root d : Definition} (h : source.level n [root] = []) :
    d ∈ source.rounds n [root] ↔ source.Reached root d := by
  refine ⟨Reached.of_mem_rounds, fun hd ↦ ?_⟩
  obtain ⟨k, hk⟩ := reached_iff_exists_level.1 hd
  refine mem_rounds_iff.2 ⟨k, ?_, hk⟩
  by_contra hle
  rw [level_eq_nil_of_le h (by omega)] at hk
  exact List.not_mem_nil hk

/-- A walk that has come to an empty level has enumerated exactly what is shown. -/
theorem mem_below_iff_shown {n : ℕ} {root d : Definition} (h : source.level n [root] = []) :
    d ∈ source.below n root ↔ source.Shown root d := by
  rw [← flatMap_shownChildren_rounds, List.mem_flatMap, shown_iff_exists_reached]
  simp only [mem_rounds_iff_reached h, mem_shownChildren_iff]

/-- Only the root and what is reached from it is shown. -/
theorem Shown.of_mem_below {n : ℕ} {root d : Definition} (h : d ∈ source.below n root) :
    source.Shown root d := by
  rw [← flatMap_shownChildren_rounds, List.mem_flatMap] at h
  obtain ⟨p, hp, hd⟩ := h
  exact shown_iff_exists_reached.2 ⟨p, Reached.of_mem_rounds hp, mem_shownChildren_iff.1 hd⟩

end AnalysisSource

end CrateDoc
