import CrateDoc.Proofs.Graph.Faults
import Mathlib.Data.List.Pairwise

/-!
# Sources that have a graph

`WellFormed` is the condition on the shape of a crate that has a graph, without any walk: all
look-ups succeed, nothing is enumerated twice, and names are distinct. Nothing is said of the links
between definitions; a cycle is ruled out because it would enumerate a definition twice.

`faults_eq_nil_iff_wellFormed` ties it to the walk: as many rounds as there are definitions meet no
fault exactly when the crate is well formed and the texts of all that is shown have plain
summaries. One direction reads the condition off a walk that has come to its end. In the other, each
round is distinct because the one before it was (`nodup_keys_below`).
-/

namespace CrateDoc

/-- A definition with a document is enumerated in one place only. -/
def AnalysisSource.EnumeratesOnce (source : AnalysisSource Id) (root : Definition) : Prop :=
  ∀ d d' k k' c c', source.Reached root d → source.Reached root d' →
    source.Enumerates d k c → source.Enumerates d' k' c' → (c.id == c'.id) = true →
      d = d' ∧ k = k'

namespace Graph

/-- The shape of a crate with root `root` that has a graph. -/
structure WellFormed (source : AnalysisSource Id) (crate : String) (id : DefId)
    (root : Definition) : Prop where
  /-- The name of the crate leads to an id. -/
  resolved : source.resolveRoot crate = .ok id
  /-- The id leads to the root. -/
  found : source.definition id = .ok root
  /-- The children of all that is reached are there, also those of kinds without documents. -/
  children : ∀ d, source.Reached root d → ∃ ids, source.childrenOf d.id = .ok ids ∧
    ∀ i ∈ ids, ∃ c, source.definition i = .ok c
  /-- The parent that a module names is there, unless it is the root or lists the module. -/
  parents : ∀ d, source.Reached root d → ∀ ids, source.childrenOf d.id = .ok ids →
    ∀ i ∈ ids, ∀ c p, source.definition i = .ok c → c.kind = .module → c.parent = some p →
      (p == id) = false → (p == d.id) = false → ∃ owner, source.definition p = .ok owner
  /-- A definition with a document is enumerated in one place only. -/
  once : ∀ d d' k k' c c', source.Reached root d → source.Reached root d' →
    source.Enumerates d k c → source.Enumerates d' k' c' → (c.id == c'.id) = true →
      d = d' ∧ k = k'
  /-- The root is not enumerated. -/
  root_once : ∀ c, source.Shown root c → (c.id == id) = false
  /-- Definitions with documents have different names. -/
  names : ∀ c c', source.Shown root c → source.Shown root c' →
    c.qualifiedName = c'.qualifiedName → c = c'
  /-- None has the name of the crate. -/
  crate_name : ∀ c, source.Shown root c → c.qualifiedName ≠ crate

variable {source : AnalysisSource Id} {id : DefId} {crate : String} {root : Definition}

/-! ### Look-ups -/

theorem parentFaults_eq_nil_iff {d c : Definition} :
    parentFaults source id d c = [] ↔ ∀ p, c.parent = some p → (p == id) = false →
      (p == d.id) = false → ∃ owner, source.definition p = .ok owner := by
  rw [parentFaults]
  rcases c.parent with - | p
  · simp
  · simp only [Option.some.injEq, forall_eq']
    rcases hid : p == id with - | -
    · rcases hd : p == d.id with - | -
      · rcases source.definition p with e | owner
        · simp
        · simp
      · simp
    · simp

theorem childFaults_eq_nil_iff {d : Definition} {i : DefId} :
    childFaults source id d i = [] ↔ ∃ c, source.definition i = .ok c ∧
      (c.kind.isRetained = true → c.HasPlainSummary) ∧
      (c.kind = .module → ∀ p, c.parent = some p → (p == id) = false → (p == d.id) = false →
        ∃ owner, source.definition p = .ok owner) := by
  rw [childFaults]
  rcases source.definition i with e | c
  · constructor
    · intro h
      cases h
    · rintro ⟨c, ⟨⟩, -⟩
  · -- A module has a document, so what is wrong with its parent is looked at.
    have hmodule : c.kind = .module → c.kind.isRetained = true := by
      intro h
      rw [h]
      rfl
    simp only [ite_eq_right_iff, List.append_eq_nil_iff, summaryFaults_eq_nil_iff,
      parentFaults_eq_nil_iff, forall_and]
    constructor
    · rintro ⟨hplain, hparent⟩
      exact ⟨c, rfl, hplain, fun h ↦ hparent (hmodule h) h⟩
    · rintro ⟨_, ⟨⟩, hplain, hparent⟩
      exact ⟨hplain, fun _ ↦ hparent⟩

/-- A child with a document has a plain summary when nothing is wrong with the expansion that finds
it. -/
theorem hasPlainSummary_of_child {d c : Definition} (h : expansionFaults source id d = [])
    (hc : source.Child d c) : c.HasPlainSummary := by
  obtain ⟨ids, hids, hall⟩ := expansionFaults_eq_nil_iff.1 h
  obtain ⟨k, ids', i, hids', hi, hci, hkind⟩ := hc
  rw [hids] at hids'
  cases hids'
  obtain ⟨c', hc', hplain, -⟩ := childFaults_eq_nil_iff.1 (hall i (List.mem_of_getElem? hi))
  rw [hci] at hc'
  cases hc'
  exact hplain (DefKind.isRetained_iff.2 hkind)

/-- A walk without faults has made a plain summary of all that it enumerated. -/
theorem hasPlainSummary_of_mem_below {n : ℕ}
    (h : faults source id crate [] (source.rounds n [root]) = []) :
    ∀ c ∈ source.below n root, c.HasPlainSummary := by
  intro c hc
  rw [← AnalysisSource.flatMap_shownChildren_rounds] at hc
  obtain ⟨d, hd, hchild⟩ := List.mem_flatMap.1 hc
  exact hasPlainSummary_of_child ((faults_rounds_eq_nil_iff.1 h).1 d hd)
    (AnalysisSource.mem_shownChildren_iff.1 hchild)

/-! ### Enumeration -/

/-- The children of one definition are distinct when each stands at one place only. -/
theorem pairwise_shownChildren_iff {d : Definition} :
    (source.shownChildren d).Pairwise (fun a b ↦ a.id.key ≠ b.id.key) ↔
      ∀ k k' c c', source.Enumerates d k c → source.Enumerates d k' c' →
        (c.id == c'.id) = true → k = k' := by
  rcases hids : source.childrenOf d.id with e | ids
  · rw [AnalysisSource.shownChildren_of_error hids]
    refine ⟨fun _ k k' c c' hc ↦ ?_, fun _ ↦ List.Pairwise.nil⟩
    obtain ⟨_, _, hok, -⟩ := hc
    rw [hids] at hok
    cases hok
  rw [AnalysisSource.shownChildren_of_ok hids, List.pairwise_filterMap, List.pairwise_iff_getElem]
  -- positions among the shown children are positions among the listed ids
  have henum : ∀ {k c}, source.Enumerates d k c →
      ∃ h : k < ids.length, source.shown? ids[k] = some c := by
    rintro k c ⟨ids', i, hok, hi, hc⟩
    rw [hids] at hok
    cases hok
    obtain ⟨h, rfl⟩ := List.getElem?_eq_some_iff.1 hi
    exact ⟨h, AnalysisSource.shown?_eq_some_iff.2 hc⟩
  constructor
  · intro h k k' c c' hc hc' hbeq
    obtain ⟨hk, hc⟩ := henum hc
    obtain ⟨hk', hc'⟩ := henum hc'
    have hkey := DefId.beq_iff_key_eq.1 hbeq
    rcases Nat.lt_trichotomy k k' with hlt | heq | hgt
    · exact absurd hkey (h k k' hk hk' hlt c hc c' hc')
    · exact heq
    · exact absurd hkey.symm (h k' k hk' hk hgt c' hc' c hc)
  · intro h i j hi hj hij c hc c' hc' hkey
    have hone := h i j c c'
      ⟨ids, ids[i], hids, List.getElem?_eq_getElem hi, AnalysisSource.shown?_eq_some_iff.1 hc⟩
      ⟨ids, ids[j], hids, List.getElem?_eq_getElem hj, AnalysisSource.shown?_eq_some_iff.1 hc'⟩
      (DefId.beq_iff_key_eq.2 hkey)
    omega

/-- What is enumerated within one more round is distinct if what was met before is. -/
theorem nodup_keys_below_succ (honce : source.EnumeratesOnce root) {n : ℕ}
    (h : (root.id.key :: (source.below n root).map (·.id.key)).Nodup) :
    ((source.below (n + 1) root).map (·.id.key)).Nodup := by
  rw [← AnalysisSource.flatMap_shownChildren_rounds, List.Nodup, List.pairwise_map,
    List.pairwise_flatMap]
  have hreached : ∀ {d}, d ∈ source.rounds (n + 1) [root] → source.Reached root d :=
    AnalysisSource.Reached.of_mem_rounds
  constructor
  · intro d hd
    refine pairwise_shownChildren_iff.2 fun k k' c c' hc hc' hbeq ↦ ?_
    exact (honce d d k k' c c' (hreached hd) (hreached hd) hc hc' hbeq).2
  · have hrounds : (source.rounds (n + 1) [root]).Pairwise fun d d' ↦ d.id.key ≠ d'.id.key := by
      rw [AnalysisSource.rounds_singleton, ← List.pairwise_map, List.map_cons]
      exact h
    -- A definition that is met twice would be listed by two definitions of earlier rounds.
    refine hrounds.imp_of_mem fun {d d'} hd hd' hne c hc c' hc' hck ↦ hne ?_
    obtain ⟨k, hc⟩ := AnalysisSource.mem_shownChildren_iff.1 hc
    obtain ⟨k', hc'⟩ := AnalysisSource.mem_shownChildren_iff.1 hc'
    rw [(honce d d' k k' c c' (hreached hd) (hreached hd') hc hc'
      (DefId.beq_iff_key_eq.2 hck)).1]

/-- What is enumerated within some rounds is distinct, each round because of the one before. -/
theorem nodup_keys_below (hwf : WellFormed source crate id root)
    (hkey : root.id.key = id.key) (n : ℕ) :
    (id.key :: (source.below n root).map (·.id.key)).Nodup := by
  induction n with
  | zero => exact List.nodup_singleton _
  | succ n ih =>
    refine List.nodup_cons.2 ⟨fun hmem ↦ ?_, nodup_keys_below_succ hwf.once (hkey ▸ ih)⟩
    obtain ⟨c, hc, hck⟩ := List.mem_map.1 hmem
    exact DefId.beq_eq_false_iff.1 (hwf.root_once c (AnalysisSource.Shown.of_mem_below hc)) hck

/-- What is enumerated within some rounds is distinct, with the names of its documents. -/
theorem WellFormed.distinct_below (hwf : WellFormed source crate id root)
    (hkey : root.id.key = id.key) (n : ℕ) : Distinct id crate (source.below n root) := by
  have hids := nodup_keys_below hwf hkey n
  refine ⟨hids, List.nodup_cons.2 ⟨fun hmem ↦ ?_, ?_⟩⟩
  · obtain ⟨c, hc, hname⟩ := List.mem_map.1 hmem
    exact hwf.crate_name c (AnalysisSource.Shown.of_mem_below hc) hname
  · refine (List.Nodup.of_map _ (List.nodup_cons.1 hids).2).map_on fun c hc c' hc' ↦ ?_
    exact hwf.names c c' (AnalysisSource.Shown.of_mem_below hc)
      (AnalysisSource.Shown.of_mem_below hc')

/-- A walk that meets nothing twice has enumerated each definition in one place only. -/
theorem enumerates_once_of_distinct {n : ℕ} (hdistinct : Distinct id crate (source.below n root))
    {d d' c c' : Definition} {k k' : ℕ} (hd : d ∈ source.rounds n [root])
    (hd' : d' ∈ source.rounds n [root]) (hc : source.Enumerates d k c)
    (hc' : source.Enumerates d' k' c') (hbeq : (c.id == c'.id) = true) : d = d' ∧ k = k' := by
  have hids := (List.nodup_cons.1 hdistinct.ids).2
  rw [← AnalysisSource.flatMap_shownChildren_rounds, List.Nodup, List.pairwise_map,
    List.pairwise_flatMap] at hids
  have hsymm : Std.Symm fun d d' : Definition ↦ ∀ c ∈ source.shownChildren d,
      ∀ c' ∈ source.shownChildren d', c.id.key ≠ c'.id.key :=
    ⟨fun _ _ h c hc c' hc' ↦ (h c' hc' c hc).symm⟩
  have heq : d = d' := by
    by_contra hne
    exact hids.2.forall hd hd' hne c (AnalysisSource.mem_shownChildren_iff.2 ⟨k, hc⟩) c'
      (AnalysisSource.mem_shownChildren_iff.2 ⟨k', hc'⟩) (DefId.beq_iff_key_eq.1 hbeq)
  subst heq
  exact ⟨rfl, pairwise_shownChildren_iff.1 (hids.1 d hd) k k' c c' hc hc' hbeq⟩

/-! ### The condition and the walk -/

/-- A walk meets no fault in as many rounds as there are definitions exactly when its crate is well
formed and all that is shown has plain summaries. -/
theorem faults_eq_nil_iff_wellFormed {size n : ℕ} (hfin : source.Finite size) (hn : size ≤ n)
    (hid : source.resolveRoot crate = .ok id) (hroot : source.definition id = .ok root) :
    faults source id crate [] (source.rounds n [root]) = [] ↔
      WellFormed source crate id root ∧ ∀ c, source.Shown root c → c.HasPlainSummary := by
  have hkey : root.id.key = id.key := DefId.beq_iff_key_eq.1 (hfin.id_beq hroot)
  constructor
  · intro hfaults
    obtain ⟨hexpansions, hdistinct⟩ := faults_rounds_eq_nil_iff.1 hfaults
    have hlevel := level_eq_nil_of_distinct hfin hn hroot hdistinct
    -- without faults no level repeats a definition, so the rounds reach everything
    have hrounds : ∀ {d}, source.Reached root d → d ∈ source.rounds n [root] :=
      (AnalysisSource.mem_rounds_iff_reached hlevel).2
    have hbelow : ∀ {c}, source.Shown root c → c ∈ source.below n root :=
      (AnalysisSource.mem_below_iff_shown hlevel).2
    have hnodup := List.Nodup.of_map _ (List.nodup_cons.1 hdistinct.names).2
    refine ⟨?_, fun c hc ↦ hasPlainSummary_of_mem_below hfaults c (hbelow hc)⟩
    exact {
      resolved := hid
      found := hroot
      children := fun d hd ↦ by
        obtain ⟨ids, hids, hall⟩ := expansionFaults_eq_nil_iff.1 (hexpansions d (hrounds hd))
        refine ⟨ids, hids, fun i hi ↦ ?_⟩
        obtain ⟨c, hc, -⟩ := childFaults_eq_nil_iff.1 (hall i hi)
        exact ⟨c, hc⟩
      parents := fun d hd ids hids i hi c p hc hmodule hp ↦ by
        obtain ⟨ids', hids', hall⟩ := expansionFaults_eq_nil_iff.1 (hexpansions d (hrounds hd))
        rw [hids] at hids'
        cases hids'
        obtain ⟨c', hc', -, hparent⟩ := childFaults_eq_nil_iff.1 (hall i hi)
        rw [hc] at hc'
        cases hc'
        exact hparent hmodule p hp
      once := fun d d' k k' c c' hd hd' ↦
        enumerates_once_of_distinct hdistinct (hrounds hd) (hrounds hd')
      root_once := fun c hc ↦ by
        refine DefId.beq_eq_false_iff.2 fun hck ↦ (List.nodup_cons.1 hdistinct.ids).1 ?_
        exact List.mem_map.2 ⟨c, hbelow hc, hck⟩
      names := fun c c' hc hc' ↦
        (List.nodup_map_iff_inj_on hnodup).1 (List.nodup_cons.1 hdistinct.names).2 c (hbelow hc) c'
          (hbelow hc')
      crate_name := fun c hc hname ↦
        (List.nodup_cons.1 hdistinct.names).1 (List.mem_map.2 ⟨c, hbelow hc, hname⟩) }
  · rintro ⟨hwf, hplain⟩
    refine faults_rounds_eq_nil_iff.2 ⟨fun d hd ↦ ?_, hwf.distinct_below hkey n⟩
    have hreached := AnalysisSource.Reached.of_mem_rounds hd
    obtain ⟨ids, hids, hall⟩ := hwf.children d hreached
    refine expansionFaults_eq_nil_iff.2 ⟨ids, hids, fun i hi ↦ childFaults_eq_nil_iff.2 ?_⟩
    obtain ⟨c, hc⟩ := hall i hi
    refine ⟨c, hc, fun hkind ↦ hplain c ?_, fun hmodule p hp ↦
      hwf.parents d hreached ids hids i hi c p hc hmodule hp⟩
    -- a child is shown at its place in the list of its parent
    obtain ⟨k, hk⟩ := List.mem_iff_getElem?.1 hi
    exact AnalysisSource.shown_iff_exists_reached.2
      ⟨d, hreached, k, ids, i, hids, hk, hc, DefKind.isRetained_iff.1 hkind⟩

end Graph

end CrateDoc
