import CrateDoc.Graph
import CrateDoc.Proofs.Graph.Traversal
import CrateDoc.Proofs.Identity
import Mathlib.Data.List.Nodup
import Mathlib.Data.List.Perm.Subperm

/-!
# What can be wrong with the definitions of a crate

Everything that stands in the way of a graph, listed in the order of a breadth-first walk. At each
definition its expansion comes first (`expansionFaults`): its children, and for each child the child
itself, the plain summary of its text, and the parent that a module names. Then each child that has
a document is held against all that were enumerated before it (`clashes`), and only then comes the
next definition (`faults`).

The list of a walk is empty exactly when nothing is wrong with any expansion and all that was
enumerated is distinct (`faults_rounds_eq_nil_iff`). In a source of finitely many definitions a walk
without clashes comes to an empty level within as many rounds (`level_eq_nil_of_distinct`), whatever
the links between the definitions are.
-/

namespace CrateDoc

/-- A source of at most `size` definitions, each of which has the id under which it is found. -/
structure AnalysisSource.Finite (source : AnalysisSource Id) (size : ℕ) : Prop where
  id_beq : ∀ {id d}, source.definition id = .ok d → (d.id == id) = true
  exists_ids : ∃ ids : List DefId, ids.length ≤ size ∧
    ∀ {id d}, source.definition id = .ok d → ids.contains d.id = true

/-- The text of a definition has a plain summary. -/
def Definition.HasPlainSummary (d : Definition) : Prop :=
  ∃ plain, plainSummary d.docs.toList = .ok plain

namespace Graph

/-- What is wrong with the text of a definition that gets a document: it has no plain summary. -/
def summaryFaults (c : Definition) : List GraphError :=
  match plainSummary c.docs.toList with
  | .ok _ => []
  | .error e => [.summary e]

section Definitions

variable (source : AnalysisSource Id) (root : DefId) (crate : String)

/-- What is wrong with the parent of a module: it names one other than the root and the definition
`d` that enumerates it, and there is none. -/
def parentFaults (d c : Definition) : List GraphError :=
  match c.parent with
  | none => []
  | some p =>
    if p == root || p == d.id then []
    else match source.definition p with
      | .ok _ => []
      | .error e => [.analysis e]

/-- What is wrong with an enumerated id. -/
def childFaults (d : Definition) (id : DefId) : List GraphError :=
  match source.definition id with
  | .ok c =>
    if c.kind.isRetained then
      summaryFaults c ++ if c.kind = .module then parentFaults source root d c else []
    else []
  | .error e => [.analysis e]

/-- What is wrong with the children of a definition. -/
def expansionFaults (d : Definition) : List GraphError :=
  match source.childrenOf d.id with
  | .ok ids => ids.flatMap (childFaults source root d)
  | .error e => [.analysis e]

/-- What is wrong with a definition after all those that were enumerated earlier: its id, or else
the id of its document, is the root's or an earlier one's. -/
def clash (earlier : List Definition) (c : Definition) : List GraphError :=
  if (root :: earlier.map (·.id)).contains c.id then [.duplicateDefinition c.id]
  else if c.qualifiedName ∈ crate :: earlier.map (·.qualifiedName) then
    [.duplicateDocument c.qualifiedName]
  else []

/-- What is wrong with definitions that are enumerated one after the other. -/
def clashes : List Definition → List Definition → List GraphError
  | _, [] => []
  | earlier, c :: rest => clash root crate earlier c ++ clashes (earlier ++ [c]) rest

/-- Everything that is wrong when definitions are expanded one after the other. -/
def faults : List Definition → List Definition → List GraphError
  | _, [] => []
  | earlier, d :: rest =>
    expansionFaults source root d ++ clashes root crate earlier (source.shownChildren d) ++
      faults (earlier ++ source.shownChildren d) rest

/-- The ids of some definitions differ from each other and from the root's, and so do the ids of
their documents. -/
structure Distinct (cs : List Definition) : Prop where
  ids : (root.key :: cs.map (·.id.key)).Nodup
  names : (crate :: cs.map (·.qualifiedName)).Nodup

end Definitions

variable {source : AnalysisSource Id} {root : DefId} {crate : String}

/-! ### Clashes -/

theorem clash_eq_nil_iff {earlier : List Definition} {c : Definition} :
    clash root crate earlier c = [] ↔
      c.id.key ∉ root.key :: earlier.map (·.id.key) ∧
        c.qualifiedName ∉ crate :: earlier.map (·.qualifiedName) := by
  have hmem : (root :: earlier.map (·.id)).contains c.id = true ↔
      c.id.key ∈ root.key :: earlier.map (·.id.key) := by
    rw [DefId.contains_iff_key_mem, List.map_cons, List.map_map]
    rfl
  rw [clash, ← hmem]
  split_ifs with hid hname
  · simp [hid]
  · simp [hname]
  · exact ⟨fun _ ↦ ⟨hid, hname⟩, fun _ ↦ rfl⟩

theorem clashes_append (earlier xs ys : List Definition) :
    clashes root crate earlier (xs ++ ys) =
      clashes root crate earlier xs ++ clashes root crate (earlier ++ xs) ys := by
  induction xs generalizing earlier with
  | nil => simp [clashes]
  | cons x xs ih => simp [clashes, ih]

theorem distinct_nil : Distinct root crate [] :=
  ⟨List.nodup_singleton _, List.nodup_singleton _⟩

theorem Distinct.sublist {cs ds : List Definition} (h : Distinct root crate ds)
    (hsub : cs.Sublist ds) : Distinct root crate cs :=
  ⟨h.ids.sublist ((hsub.map _).cons_cons _), h.names.sublist ((hsub.map _).cons_cons _)⟩

/-- One more definition is distinct from the earlier ones when it does not clash with them. -/
theorem distinct_concat_iff {earlier : List Definition} {c : Definition} :
    Distinct root crate (earlier ++ [c]) ↔
      Distinct root crate earlier ∧ clash root crate earlier c = [] := by
  have hconcat : ∀ {α : Type} (f : Definition → α) (x : α), (x :: (earlier ++ [c]).map f).Nodup ↔
      f c ∉ x :: earlier.map f ∧ (x :: earlier.map f).Nodup := by
    intro α f x
    rw [← List.nodup_concat, List.concat_eq_append, List.map_append, List.map_singleton,
      List.cons_append]
  rw [clash_eq_nil_iff]
  constructor
  · rintro ⟨hids, hnames⟩
    obtain ⟨hid, hids⟩ := (hconcat (·.id.key) root.key).1 hids
    obtain ⟨hname, hnames⟩ := (hconcat (·.qualifiedName) crate).1 hnames
    exact ⟨⟨hids, hnames⟩, hid, hname⟩
  · rintro ⟨⟨hids, hnames⟩, hid, hname⟩
    exact ⟨(hconcat (·.id.key) root.key).2 ⟨hid, hids⟩,
      (hconcat (·.qualifiedName) crate).2 ⟨hname, hnames⟩⟩

/-- Nothing clashes exactly when all that is enumerated is distinct. -/
theorem clashes_eq_nil_iff {earlier cs : List Definition} (h : Distinct root crate earlier) :
    clashes root crate earlier cs = [] ↔ Distinct root crate (earlier ++ cs) := by
  induction cs generalizing earlier with
  | nil => simpa [clashes] using h
  | cons c cs ih =>
    rw [clashes, List.append_eq_nil_iff, List.append_cons earlier c cs]
    constructor
    · rintro ⟨hc, hcs⟩
      exact (ih (distinct_concat_iff.2 ⟨h, hc⟩)).1 hcs
    · intro hd
      have hc : Distinct root crate (earlier ++ [c]) := hd.sublist (List.sublist_append_left _ _)
      exact ⟨(distinct_concat_iff.1 hc).2, (ih hc).2 hd⟩

/-- What clashes among definitions of different ids: one that has the id of the root, or one that
has the name of the crate or of another one. -/
theorem of_mem_clashes {earlier cs : List Definition}
    (hids : ((earlier ++ cs).map (·.id.key)).Nodup) {e : GraphError}
    (he : e ∈ clashes root crate earlier cs) :
    ∃ c ∈ cs, (c.id == root) = true ∧ e = .duplicateDefinition c.id ∨
      e = .duplicateDocument c.qualifiedName ∧ (c.qualifiedName = crate ∨
        ∃ c' ∈ earlier ++ cs, c'.id.key ≠ c.id.key ∧ c'.qualifiedName = c.qualifiedName) := by
  induction cs generalizing earlier with
  | nil => cases he
  | cons c cs ih =>
    rw [clashes, List.mem_append] at he
    rcases he with he | he
    · -- ids are distinct, so an id that was met can only be that of the root
      have hearlier : ∀ c' ∈ earlier, c'.id.key ≠ c.id.key := by
        rw [List.map_append, List.nodup_append] at hids
        exact fun c' hc' ↦ hids.2.2 _ (List.mem_map_of_mem hc') _
          (List.mem_map_of_mem List.mem_cons_self)
      refine ⟨c, List.mem_cons_self, ?_⟩
      rw [clash] at he
      split_ifs at he with hid hname
      · rw [DefId.contains_iff_key_mem, List.map_cons, List.mem_cons, List.map_map] at hid
        rcases hid with hid | hid
        · exact .inl ⟨DefId.beq_iff_key_eq.2 hid, List.mem_singleton.1 he⟩
        · obtain ⟨c', hc', hkey⟩ := List.mem_map.1 hid
          exact absurd hkey (hearlier c' hc')
      · refine .inr ⟨List.mem_singleton.1 he, ?_⟩
        rcases List.mem_cons.1 hname with hname | hname
        · exact .inl hname
        · obtain ⟨c', hc', hname⟩ := List.mem_map.1 hname
          exact .inr ⟨c', List.mem_append_left _ hc', hearlier c' hc', hname⟩
      · cases he
    · rw [List.append_cons] at hids ⊢
      obtain ⟨d, hd, h⟩ := ih hids he
      exact ⟨d, List.mem_cons_of_mem _ hd, h⟩

/-! ### Faults -/

theorem summaryFaults_eq_nil_iff {c : Definition} : summaryFaults c = [] ↔ c.HasPlainSummary := by
  rw [summaryFaults, Definition.HasPlainSummary]
  rcases plainSummary c.docs.toList with e | plain
  · simp
  · simp

theorem mem_summaryFaults_iff {c : Definition} {e : GraphError} :
    e ∈ summaryFaults c ↔ ∃ s, plainSummary c.docs.toList = .error s ∧ e = .summary s := by
  rw [summaryFaults]
  rcases plainSummary c.docs.toList with s | plain
  · simp
  · simp

/-- What is wrong with an expansion: a child has no plain summary, or something is looked up in
vain, which is the children, one of them, or the parent that one of them names. -/
theorem of_mem_expansionFaults {d : Definition} {e : GraphError}
    (he : e ∈ expansionFaults source root d) :
    (∃ c, source.Child d c ∧ e ∈ summaryFaults c) ∨
      (∃ a, source.childrenOf d.id = .error a ∧ e = .analysis a) ∨
      ∃ ids, source.childrenOf d.id = .ok ids ∧ ∃ i ∈ ids,
        (∃ a, source.definition i = .error a ∧ e = .analysis a) ∨
          ∃ c, source.definition i = .ok c ∧ c.kind = .module ∧
            e ∈ parentFaults source root d c := by
  rw [expansionFaults] at he
  rcases hids : source.childrenOf d.id with a | ids
  · rw [hids, List.mem_singleton] at he
    exact .inr (.inl ⟨a, rfl, he⟩)
  rw [hids] at he
  obtain ⟨i, hi, he⟩ := List.mem_flatMap.1 he
  rw [childFaults] at he
  rcases hc : source.definition i with a | c
  · rw [hc, List.mem_singleton] at he
    exact .inr (.inr ⟨ids, rfl, i, hi, .inl ⟨a, hc, he⟩⟩)
  rw [hc] at he
  have hchild : c.kind.isRetained = true → source.Child d c := by
    intro hkind
    obtain ⟨k, hk⟩ := List.mem_iff_getElem?.1 hi
    exact ⟨k, ids, i, hids, hk, hc, DefKind.isRetained_iff.1 hkind⟩
  dsimp only at he
  -- a kept child has faults of its text, and a module those of its parent besides
  split_ifs at he with hkind hmodule
  · rcases List.mem_append.1 he with he | he
    · exact .inl ⟨c, hchild hkind, he⟩
    · exact .inr (.inr ⟨ids, rfl, i, hi, .inr ⟨c, hc, hmodule, he⟩⟩)
  · rw [List.append_nil] at he
    exact .inl ⟨c, hchild hkind, he⟩
  · cases he

/-- A fault of some definitions is met in an expansion, or is a clash among their children. -/
theorem of_mem_faults {earlier ds : List Definition} {e : GraphError}
    (he : e ∈ faults source root crate earlier ds) :
    (∃ d ∈ ds, e ∈ expansionFaults source root d) ∨
      e ∈ clashes root crate earlier (ds.flatMap source.shownChildren) := by
  induction ds generalizing earlier with
  | nil => cases he
  | cons d ds ih =>
    rw [faults, List.mem_append, List.mem_append] at he
    rw [List.flatMap_cons, clashes_append, List.mem_append]
    rcases he with (he | he) | he
    · exact .inl ⟨d, List.mem_cons_self, he⟩
    · exact .inr (.inl he)
    · rcases ih he with ⟨d', hd', he⟩ | he
      · exact .inl ⟨d', List.mem_cons_of_mem d hd', he⟩
      · exact .inr (.inr he)

theorem faults_append (earlier xs ys : List Definition) :
    faults source root crate earlier (xs ++ ys) =
      faults source root crate earlier xs ++
        faults source root crate (earlier ++ xs.flatMap source.shownChildren) ys := by
  induction xs generalizing earlier with
  | nil => simp [faults]
  | cons x xs ih => simp [faults, ih]

/-- Nothing is wrong with a walk exactly when nothing is with its expansions, and nothing
clashes. -/
theorem faults_rounds_eq_nil_iff {n : ℕ} {d : Definition} :
    faults source root crate [] (source.rounds n [d]) = [] ↔
      (∀ c ∈ source.rounds n [d], expansionFaults source root c = []) ∧
        Distinct root crate (source.below n d) := by
  have key : ∀ ds earlier, faults source root crate earlier ds = [] ↔
      (∀ d ∈ ds, expansionFaults source root d = []) ∧
        clashes root crate earlier (ds.flatMap source.shownChildren) = [] := by
    intro ds
    induction ds with
    | nil => simp [faults, clashes]
    | cons d ds ih =>
      intro earlier
      simp only [faults, List.append_eq_nil_iff, ih, List.forall_mem_cons, List.flatMap_cons,
        clashes_append]
      tauto
  rw [key, clashes_eq_nil_iff distinct_nil, List.nil_append,
    AnalysisSource.flatMap_shownChildren_rounds]

theorem expansionFaults_eq_nil_iff {d : Definition} :
    expansionFaults source root d = [] ↔
      ∃ ids, source.childrenOf d.id = .ok ids ∧
        ∀ id ∈ ids, childFaults source root d id = [] := by
  rw [expansionFaults]
  rcases h : source.childrenOf d.id with e | ids
  · simp
  · rw [List.flatMap_eq_nil_iff]
    constructor
    · intro hids
      exact ⟨ids, rfl, hids⟩
    · rintro ⟨_, ⟨⟩, hids⟩
      exact hids

/-! ### The end of the walk -/

/-- A level that is not empty stands at the end of as many rounds, none of which is empty. -/
theorem lt_length_rounds {n : ℕ} {ds : List Definition} (h : source.level n ds ≠ []) :
    n < (source.rounds (n + 1) ds).length := by
  induction n generalizing ds with
  | zero =>
    rw [AnalysisSource.rounds_succ, AnalysisSource.rounds_zero, List.append_nil]
    exact List.length_pos_iff.2 h
  | succ n ih =>
    have hds : ds ≠ [] := by
      rintro rfl
      exact h (AnalysisSource.level_eq_nil_of_le (n := 0) rfl (by omega))
    have hlt : n < (source.rounds (n + 1) (ds.flatMap source.shownChildren)).length := ih h
    have hpos := List.length_pos_iff.2 hds
    rw [AnalysisSource.rounds_succ, List.length_append]
    omega

/-- A walk over a finite source that meets nothing twice ends: the ids that it meets are among
those of the source, so there are no more rounds than definitions. -/
theorem level_eq_nil_of_distinct {size n : ℕ} (hfin : source.Finite size) (hn : size ≤ n)
    {d : Definition} (hroot : source.definition root = .ok d)
    (h : Distinct root crate (source.below n d)) : source.level n [d] = [] := by
  by_contra hne
  -- With one more level that is not empty, more ids would have been met than the source has.
  obtain ⟨ids, hlen, hids⟩ := hfin.exists_ids
  have hkey : d.id.key = root.key := DefId.beq_iff_key_eq.1 (hfin.id_beq hroot)
  have hmet : ((source.rounds (n + 1) [d]).map (·.id.key)).Nodup := by
    rw [AnalysisSource.rounds_singleton, List.map_cons, hkey]
    exact h.ids
  have hsub : (source.rounds (n + 1) [d]).map (·.id.key) ⊆ ids.map DefId.key := by
    intro k hk
    obtain ⟨c, hc, rfl⟩ := List.mem_map.1 hk
    rw [AnalysisSource.rounds_singleton, List.mem_cons] at hc
    refine DefId.contains_iff_key_mem.1 ?_
    rcases hc with rfl | hc
    · exact hids hroot
    · obtain ⟨p, -, k, ids, id, -, -, hid, -⟩ :=
        AnalysisSource.shown_iff_exists_reached.1 (AnalysisSource.Shown.of_mem_below hc)
      exact hids hid
  have hle := (hmet.subperm hsub).length_le
  have hlt := lt_length_rounds hne
  rw [List.length_map, List.length_map] at hle
  omega

end Graph

end CrateDoc
