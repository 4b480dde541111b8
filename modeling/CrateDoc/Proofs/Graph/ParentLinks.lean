import CrateDoc.Proofs.Graph.Termination

/-!
# Graphs of sources that follow parents

In a source that follows parents, the children of a definition are those that name it as their
parent (`AnalysisSource.FollowsParents`), as in every source in memory
(`InMemorySource.followsParents`). There is nothing to look up in vain, and nothing is enumerated in
two places, since each definition names one parent. Only three things can be in the way of a graph:
the root may be a child of its own, names may collide, or a text may have no plain summary
(`exists_obstacle_of_head?_faults`).

A root that names no parent is nobody's child, so `build_fails_only_on_collisions`: without explicit
roots, a build over definitions in memory fails exactly if names collide or a text has no plain
summary.
-/

namespace CrateDoc

/-- The children of a definition are told by parents: they are found, their ids are different, and
each names the definition as its parent. -/
structure AnalysisSource.FollowsParents (source : AnalysisSource Id) : Prop where
  id_beq : ∀ {id d}, source.definition id = .ok d → (d.id == id) = true
  unique : ∀ {id id' d d'}, source.definition id = .ok d → source.definition id' = .ok d' →
    (id == id') = true → d = d'
  children : ∀ {id d}, source.definition id = .ok d → ∃ ids, source.childrenOf d.id = .ok ids ∧
    (ids.map DefId.key).Nodup ∧
      ∀ i ∈ ids, ∃ c p, source.definition i = .ok c ∧ c.parent = some p ∧ (p == d.id) = true

/-- Definitions in memory follow parents. -/
theorem InMemorySource.followsParents {definitions : List Definition}
    {roots : Option (Entries String DefId)} {source : InMemorySource}
    (h : ofDefinitions definitions roots = .ok source) : source.toSource.FollowsParents := by
  have hids := (exists_ofDefinitions_iff.1 ⟨source, h⟩).1
  rw [(toSource_eq_listed h).2.2]
  refine ⟨fun hd ↦ (mem_of_definition_listed hd).2, fun {id id' d d'} hd hd' hid ↦ ?_,
    fun {id d} hd ↦ ?_⟩
  · obtain ⟨hmem, hbeq⟩ := mem_of_definition_listed hd
    obtain ⟨hmem', hbeq'⟩ := mem_of_definition_listed hd'
    refine List.inj_on_of_nodup_map hids hmem hmem' (DefId.beq_iff_key_eq.1 ?_)
    exact PartialEquivBEq.trans (PartialEquivBEq.trans hbeq hid) (PartialEquivBEq.symm hbeq')
  · have hself : (listed definitions (roots.getD (defaultRoots definitions))).definition d.id =
        .ok d :=
      definition_listed_of_mem hids (mem_of_definition_listed hd).1 (beq_self_eq_true d.id)
    refine ⟨childIds definitions d.id, childrenOf_listed hself, ?_, fun i hi ↦ ?_⟩
    · rw [childIds, List.map_map]
      exact hids.sublist ((List.filter_sublist ..).map _)
    · obtain ⟨c, hc, rfl, p, hp, hbeq⟩ := mem_childIds_iff.1 hi
      exact ⟨c, p, definition_listed_of_mem hids hc (beq_self_eq_true c.id), hp, hbeq⟩

namespace AnalysisSource.FollowsParents

variable {source : AnalysisSource Id} {id : DefId} {root d d' c : Definition}

/-- Definitions of equal ids are the same. -/
theorem eq_of_id_beq (h : source.FollowsParents) {i i' : DefId}
    (hd : source.definition i = .ok d) (hd' : source.definition i' = .ok d')
    (hid : (d.id == d'.id) = true) : d = d' := by
  refine h.unique hd hd' ?_
  have hi := PartialEquivBEq.trans (PartialEquivBEq.symm (h.id_beq hd)) hid
  exact PartialEquivBEq.trans hi (h.id_beq hd')

/-- The children of what is reached are there. -/
theorem exists_childrenOf (h : source.FollowsParents) (hd : source.definition id = .ok d) :
    ∃ ids, source.childrenOf d.id = .ok ids ∧ ∀ i ∈ ids, ∃ c, source.definition i = .ok c := by
  obtain ⟨ids, hids, -, hall⟩ := h.children hd
  refine ⟨ids, hids, fun i hi ↦ ?_⟩
  obtain ⟨c, -, hc, -⟩ := hall i hi
  exact ⟨c, hc⟩

/-- What is listed names the definition that lists it. -/
theorem parent_of_mem_childrenOf (h : source.FollowsParents) (hd : source.definition id = .ok d)
    {ids : List DefId} (hids : source.childrenOf d.id = .ok ids) {i : DefId} (hi : i ∈ ids)
    (hc : source.definition i = .ok c) : ∃ p, c.parent = some p ∧ (p == d.id) = true := by
  obtain ⟨ids', hids', -, hall⟩ := h.children hd
  rw [hids] at hids'
  cases hids'
  obtain ⟨c', p, hc', hp⟩ := hall i hi
  rw [hc] at hc'
  cases hc'
  exact ⟨p, hp⟩

/-- What is enumerated is found, and names the definition that enumerates it. -/
theorem of_enumerates (h : source.FollowsParents) (hd : source.definition id = .ok d) {k : ℕ}
    (hc : source.Enumerates d k c) :
    (∃ i, source.definition i = .ok c) ∧ ∃ p, c.parent = some p ∧ (p == d.id) = true := by
  obtain ⟨ids, i, hids, hi, hci, -⟩ := hc
  exact ⟨⟨i, hci⟩, h.parent_of_mem_childrenOf hd hids (List.mem_of_getElem? hi) hci⟩

/-- What is reached is found. -/
theorem exists_of_reached (h : source.FollowsParents) (hroot : source.definition id = .ok root)
    (hd : source.Reached root d) : ∃ i, source.definition i = .ok d := by
  induction hd with
  | refl => exact ⟨id, hroot⟩
  | tail _ hchild ih =>
    obtain ⟨i, hi⟩ := ih
    obtain ⟨k, hk⟩ := hchild
    exact (h.of_enumerates hi hk).1

/-- A child names the definition whose child it is. -/
theorem parent_of_child (h : source.FollowsParents) (hroot : source.definition id = .ok root)
    (hd : source.Reached root d) (hc : source.Child d c) :
    ∃ p, c.parent = some p ∧ (p == d.id) = true := by
  obtain ⟨i, hi⟩ := h.exists_of_reached hroot hd
  obtain ⟨k, hk⟩ := hc
  exact (h.of_enumerates hi hk).2

/-- Each definition names one parent, so it is enumerated in one place only. -/
theorem enumeratesOnce (h : source.FollowsParents) (hroot : source.definition id = .ok root) :
    source.EnumeratesOnce root := by
  intro d d' k k' c c' hd hd' hc hc' hbeq
  obtain ⟨i, hi⟩ := h.exists_of_reached hroot hd
  obtain ⟨i', hi'⟩ := h.exists_of_reached hroot hd'
  obtain ⟨⟨j, hj⟩, p, hp, hpd⟩ := h.of_enumerates hi hc
  obtain ⟨⟨j', hj'⟩, p', hp', hpd'⟩ := h.of_enumerates hi' hc'
  obtain rfl := h.eq_of_id_beq hj hj' hbeq
  rw [hp, Option.some.injEq] at hp'
  subst hp'
  obtain rfl := h.eq_of_id_beq hi hi' (PartialEquivBEq.trans (PartialEquivBEq.symm hpd) hpd')
  obtain ⟨ids, m, hids, hm, hcm, -⟩ := hc
  obtain ⟨ids', m', hids', hm', hcm', -⟩ := hc'
  rw [hids] at hids'
  cases hids'
  obtain ⟨ids', hids', hnodup, -⟩ := h.children hi
  rw [hids] at hids'
  cases hids'
  -- Both places hold an id of the same definition, and the ids of the children are different.
  have hkey : m.key = m'.key :=
    (DefId.beq_iff_key_eq.1 (h.id_beq hcm)).symm.trans (DefId.beq_iff_key_eq.1 (h.id_beq hcm'))
  have hplace : (ids.map DefId.key)[k]? = (ids.map DefId.key)[k']? := by
    rw [List.getElem?_map, List.getElem?_map, hm, hm', Option.map_some, Option.map_some, hkey]
  obtain ⟨hlt, -⟩ := List.getElem?_eq_some_iff.1 hm
  exact ⟨rfl, (List.getElem?_inj (by simpa using hlt) hnodup).1 hplace⟩

/-- A root that names no parent is nobody's child. -/
theorem id_beq_root_eq_false (h : source.FollowsParents) (hroot : source.definition id = .ok root)
    (hparent : root.parent = none) (hc : source.Shown root c) : (c.id == id) = false := by
  obtain ⟨d, hd, hchild⟩ := shown_iff_exists_reached.1 hc
  obtain ⟨p, hp, -⟩ := h.parent_of_child hroot hd hchild
  obtain ⟨i, hi⟩ := h.exists_of_reached hroot hc.to_reflTransGen
  rw [← Bool.not_eq_true]
  intro hbeq
  have hself := PartialEquivBEq.trans hbeq (PartialEquivBEq.symm (h.id_beq hroot))
  obtain rfl := h.eq_of_id_beq hi hroot hself
  rw [hparent] at hp
  cases hp

end AnalysisSource.FollowsParents

namespace Graph

variable {source : AnalysisSource Id} {crate : String} {id : DefId} {root : Definition}

/-- No look-up below a root fails: the children are there, and the parent of each is the definition
that lists it. So what is wrong with an expansion is the text of a child. -/
theorem exists_child_of_mem_expansionFaults (h : source.FollowsParents)
    (hroot : source.definition id = .ok root) {d : Definition} (hd : source.Reached root d)
    {e : GraphError} (he : e ∈ expansionFaults source id d) :
    ∃ c, source.Child d c ∧ e ∈ summaryFaults c := by
  obtain ⟨j, hj⟩ := h.exists_of_reached hroot hd
  obtain ⟨ids, hids, hall⟩ := h.exists_childrenOf hj
  rcases of_mem_expansionFaults he with hchild | ⟨a, herror, -⟩ | ⟨ids', hids', i, hi, he⟩
  · exact hchild
  · rw [hids] at herror
    cases herror
  rw [hids] at hids'
  cases hids'
  rcases he with ⟨a, herror, -⟩ | ⟨c, hc, -, he⟩
  · obtain ⟨c, hc⟩ := hall i hi
    rw [hc] at herror
    cases herror
  · obtain ⟨p, hp, hbeq⟩ := h.parent_of_mem_childrenOf hj hids hi hc
    have hnone : parentFaults source id d c = [] := by
      refine parentFaults_eq_nil_iff.2 fun p' hp' _ hne ↦ ?_
      rw [hp, Option.some.injEq] at hp'
      rw [← hp', hbeq] at hne
      cases hne
    rw [hnone] at he
    cases he

/-- What is in the way of a graph, at a definition that a root shows. -/
inductive Obstacle (source : AnalysisSource Id) (crate : String) (id : DefId) (root : Definition)
    (c : Definition) : GraphError → Prop
  /-- It is the root. -/
  | root (h : (c.id == id) = true) : Obstacle source crate id root c (.duplicateDefinition c.id)
  /-- Its name is that of the crate, or that of something else that is shown. -/
  | name (h : c.qualifiedName = crate ∨
      ∃ c', source.Shown root c' ∧ c' ≠ c ∧ c'.qualifiedName = c.qualifiedName) :
      Obstacle source crate id root c (.duplicateDocument c.qualifiedName)
  /-- Its text has no plain summary. -/
  | text {error : Html.PageError} (h : plainSummary c.docs.toList = .error error) :
      Obstacle source crate id root c (.summary error)

/-- What is wrong first with a source that follows parents: the root is enumerated, a name is that
of the crate or comes twice, or a text has no plain summary. -/
theorem exists_obstacle_of_head?_faults (h : source.FollowsParents)
    (hroot : source.definition id = .ok root) {n : ℕ} {e : GraphError}
    (he : (faults source id crate [] (source.rounds n [root])).head? = some e) :
    ∃ c, source.Shown root c ∧ Obstacle source crate id root c e := by
  have hkey : root.id.key = id.key := DefId.beq_iff_key_eq.1 (h.id_beq hroot)
  induction n with
  | zero => cases he
  | succ n ih =>
    rcases hfaults : faults source id crate [] (source.rounds n [root]) with - | ⟨e', es⟩
    -- The fault is met in the last of the rounds, so all that was enumerated before is distinct.
    · have hids := (faults_rounds_eq_nil_iff.1 hfaults).2.ids
      rw [← hkey] at hids
      have hnodup := nodup_keys_below_succ (h.enumeratesOnce hroot) hids
      rcases of_mem_faults (List.mem_of_mem_head? he) with ⟨d, hd, he⟩ | he
      · have hreached := AnalysisSource.Reached.of_mem_rounds hd
        obtain ⟨c, hchild, he⟩ := exists_child_of_mem_expansionFaults h hroot hreached he
        obtain ⟨error, herror, rfl⟩ := mem_summaryFaults_iff.1 he
        exact ⟨c, AnalysisSource.shown_iff_exists_reached.2 ⟨d, hreached, hchild⟩, .text herror⟩
      · rw [AnalysisSource.flatMap_shownChildren_rounds] at he
        obtain ⟨c, hc, ⟨hbeq, rfl⟩ | ⟨rfl, hname⟩⟩ := of_mem_clashes (by simpa using hnodup) he
        · exact ⟨c, AnalysisSource.Shown.of_mem_below hc, .root hbeq⟩
        · refine ⟨c, AnalysisSource.Shown.of_mem_below hc, .name (hname.imp_right ?_)⟩
          rintro ⟨c', hc', hne, hsame⟩
          refine ⟨c', AnalysisSource.Shown.of_mem_below hc', ?_, hsame⟩
          rintro rfl
          exact hne rfl
    · refine ih ?_
      rw [AnalysisSource.rounds_succ_append, faults_append, hfaults] at he
      rw [hfaults]
      exact he

/-- What a build over a source that follows parents reports, if the root is found: that nobody does
the work, or what is wrong first. -/
theorem exists_obstacle_of_build_eq_error {size : ℕ} (hfin : source.Finite size)
    (h : source.FollowsParents) (hid : source.resolveRoot crate = .ok id)
    (hroot : source.definition id = .ok root) {workers : Option Int} {e : GraphError}
    (he : (build source size workers crate).1 = .error e) :
    (e = .noWorkers ∧ workers.any (· < 1) = true) ∨
      ∃ c, source.Shown root c ∧ Obstacle source crate id root c e := by
  cases (build_eq_error_iff hfin).1 he with
  | unresolved hid' =>
    rw [hid] at hid'
    cases hid'
  | rootless hid' hroot' =>
    rw [hid] at hid'
    cases hid'
    rw [hroot] at hroot'
    cases hroot'
  | noWorkers _ _ hnone => exact .inl ⟨rfl, hnone⟩
  | walk hid' hroot' _ hwalk =>
    rw [hid] at hid'
    cases hid'
    rw [hroot] at hroot'
    cases hroot'
    exact .inr (exists_obstacle_of_head?_faults h hroot hwalk)

/-- A crate of a source that follows parents, whose root names no parent, is well formed exactly if
names are different. -/
theorem wellFormed_iff_of_followsParents (h : source.FollowsParents)
    (hid : source.resolveRoot crate = .ok id) (hroot : source.definition id = .ok root)
    (hparent : root.parent = none) :
    WellFormed source crate id root ↔
      (∀ c c', source.Shown root c → source.Shown root c' →
        c.qualifiedName = c'.qualifiedName → c = c') ∧
      ∀ c, source.Shown root c → c.qualifiedName ≠ crate := by
  refine ⟨fun hwf ↦ ⟨hwf.names, hwf.crate_name⟩, fun ⟨hnames, hcrate⟩ ↦ ?_⟩
  exact {
    resolved := hid
    found := hroot
    children := fun d hd ↦ by
      obtain ⟨i, hi⟩ := h.exists_of_reached hroot hd
      exact h.exists_childrenOf hi
    -- a listed child has the listing definition as its parent, so none is elsewhere
    parents := fun d hd ids hids i hi c p hc _ hp _ hne ↦ by
      obtain ⟨j, hj⟩ := h.exists_of_reached hroot hd
      obtain ⟨p', hp', hbeq⟩ := h.parent_of_mem_childrenOf hj hids hi hc
      rw [hp, Option.some.injEq] at hp'
      rw [hp', hbeq] at hne
      cases hne
    once := h.enumeratesOnce hroot
    root_once := fun c ↦ h.id_beq_root_eq_false hroot hparent
    names := hnames
    crate_name := hcrate }

end Graph

namespace InMemorySource

open CrateDoc.Graph

/-- With a root that is found, a build over definitions in memory does not fail in a look-up, and it
reports no duplicate definition but the root. -/
theorem of_build_eq_error {definitions : List Definition} {roots : Option (Entries String DefId)}
    {source : InMemorySource} (h : ofDefinitions definitions roots = .ok source) {crate : String}
    {root : Definition} (hid : source.toSource.resolveRoot crate = .ok root.id)
    (hroot : source.toSource.definition root.id = .ok root) {workers : Option Int} {e : GraphError}
    (he : (Graph.build source.toSource source.definitions.length workers crate).1 = .error e) :
    (∀ a, e ≠ .analysis a) ∧ ∀ i, e = .duplicateDefinition i → i = root.id := by
  have hfollows := followsParents h
  rcases exists_obstacle_of_build_eq_error (finite_toSource h []) hfollows hid hroot he with
    ⟨rfl, -⟩ | ⟨c, hc, hobstacle⟩
  · exact ⟨nofun, nofun⟩
  cases hobstacle with
  | root hbeq =>
    obtain ⟨i, hi⟩ := hfollows.exists_of_reached hroot hc.to_reflTransGen
    obtain rfl := hfollows.eq_of_id_beq hi hroot hbeq
    refine ⟨nofun, ?_⟩
    rintro _ ⟨⟩
    rfl
  | name _ => exact ⟨nofun, nofun⟩
  | text _ => exact ⟨nofun, nofun⟩

/-- **Without explicit roots, only names and texts can be in the way of a graph.** The name of a
crate leads to a root without a parent. The build ends, and it gives a graph exactly if what is
shown of the root has different names, none of which is the crate's, and texts with plain summaries.
Otherwise it reports the name of something that is shown, which is the crate's or that of another
one, or what is wrong with the text of something that is shown. -/
theorem build_fails_only_on_collisions {definitions : List Definition} {source : InMemorySource}
    (h : ofDefinitions definitions none = .ok source) {name : String}
    (hname : name ∈ source.crateNames) {workers : Option Int}
    (hworkers : workers.any (· < 1) = false) :
    ∃ root ∈ definitions, root.parent = none ∧ root.qualifiedName = name ∧
      source.toSource.resolveRoot name = .ok root.id ∧
      source.toSource.definition root.id = .ok root ∧
      ∃ outcome, (Graph.build source.toSource source.definitions.length workers name).1 = outcome ∧
        Runs source.toSource workers name outcome ∧
        ((∃ graph, outcome = .ok graph) ↔
          (∀ c c', source.toSource.Shown root c → source.toSource.Shown root c' →
            c.qualifiedName = c'.qualifiedName → c = c') ∧
          (∀ c, source.toSource.Shown root c → c.qualifiedName ≠ name) ∧
          ∀ c, source.toSource.Shown root c → c.HasPlainSummary) ∧
        ∀ e, outcome = .error e → ∃ c, source.toSource.Shown root c ∧
          (e = .duplicateDocument c.qualifiedName ∧ (c.qualifiedName = name ∨
            ∃ c', source.toSource.Shown root c' ∧ c' ≠ c ∧
              c'.qualifiedName = c.qualifiedName) ∨
            ∃ error, plainSummary c.docs.toList = .error error ∧ e = .summary error) := by
  obtain ⟨root, hmem, hparent, hrootName, hid, hroot⟩ := exists_root_of_mem_crateNames h hname
  have hfin := finite_toSource h []
  have hfollows := followsParents h
  refine ⟨root, hmem, hparent, hrootName, hid, hroot, _, rfl, runs_build hfin, ?_, fun e he ↦ ?_⟩
  · rw [exists_build_eq_ok_iff hfin, ← and_assoc,
      ← wellFormed_iff_of_followsParents hfollows hid hroot hparent]
    constructor
    · -- a name has one root, so the well-formed source is the one built from it
      rintro ⟨-, id, root', hwf, hplain⟩
      obtain rfl : root.id = id := Except.ok.inj (hid.symm.trans hwf.resolved)
      obtain rfl : root = root' := Except.ok.inj (hroot.symm.trans hwf.found)
      exact ⟨hwf, hplain⟩
    · intro hwf
      exact ⟨hworkers, root.id, root, hwf⟩
  · rcases exists_obstacle_of_build_eq_error hfin hfollows hid hroot he with
      ⟨-, hnone⟩ | ⟨c, hc, hobstacle⟩
    · rw [hworkers] at hnone
      cases hnone
    refine ⟨c, hc, ?_⟩
    -- that the root turns up below itself is excluded by the parents
    cases hobstacle with
    | root hbeq =>
      rw [hfollows.id_beq_root_eq_false hroot hparent hc] at hbeq
      cases hbeq
    | name hsame => exact .inl ⟨rfl, hsame⟩
    | text herror => exact .inr ⟨_, herror, rfl⟩

/-- A crate whose definitions come before their parents, with two modules of one name below the root
and two that are each other's parents. -/
def collidingDefinitions : List Definition :=
  [⟨.int 3, .struct, "c::m::S", "S", "", some (.int 2)⟩,
    ⟨.int 2, .module, "c::m", "m", "", some (.int 1)⟩,
    ⟨.int 8, .module, "c::x", "x", "", some (.int 9)⟩,
    ⟨.int 9, .module, "c::y", "y", "", some (.int 8)⟩,
    ⟨.int 1, .module, "c", "c", "", none⟩,
    ⟨.int 4, .module, "c::m", "m", "", some (.int 1)⟩]

/-- The build ends although parents form a cycle, and reports the name that comes twice. -/
theorem build_collidingDefinitions :
    ∃ source, ofDefinitions collidingDefinitions none = .ok source ∧ "c" ∈ source.crateNames ∧
      (Graph.build source.toSource source.definitions.length none "c").1 =
        .error (.duplicateDocument "c::m") ∧
      ∃ root ∈ collidingDefinitions, ∃ c, source.toSource.Shown root c ∧
        c.qualifiedName = "c::m" := by
  have h : ofDefinitions collidingDefinitions none = .ok _ := rfl
  have hname : ∀ source, ofDefinitions collidingDefinitions none = .ok source →
      "c" ∈ source.crateNames := by
    rintro _ ⟨⟩
    exact List.mem_mergeSort.2 List.mem_cons_self
  refine ⟨_, h, hname _ h, rfl, ?_⟩
  obtain ⟨root, hmem, -, -, -, -, _, houtcome, -, -, herror⟩ :=
    @build_fails_only_on_collisions _ _ h _ (hname _ h) none rfl
  obtain ⟨c, hc, ⟨heq, -⟩ | ⟨_, -, ⟨⟩⟩⟩ := herror (.duplicateDocument "c::m") houtcome.symm
  exact ⟨root, hmem, c, hc, (GraphError.duplicateDocument.inj heq).symm⟩

/-- Names do not collide, and yet there is no graph. -/
theorem not_build_fails_only_on_collisions :
    ¬ ∀ (definitions : List Definition) (source : InMemorySource) (name : String)
        (root : Definition), ofDefinitions definitions none = .ok source →
      name ∈ source.crateNames → source.toSource.resolveRoot name = .ok root.id →
      source.toSource.definition root.id = .ok root →
      (∀ c c', source.toSource.Shown root c → source.toSource.Shown root c' →
        c.qualifiedName = c'.qualifiedName → c = c') →
      (∀ c, source.toSource.Shown root c → c.qualifiedName ≠ name) →
      ∃ graph, (Graph.build source.toSource source.definitions.length none name).1 = .ok graph := by
  intro h
  have hname : "c" ∈ markedSource.crateNames := List.mem_mergeSort.2 List.mem_cons_self
  obtain ⟨graph, hgraph⟩ := h _ _ "c" markedRoot ofDefinitions_marked hname rfl rfl
    wellFormed_markedSource.names wellFormed_markedSource.crate_name
  cases build_markedSource.symm.trans hgraph

end InMemorySource

end CrateDoc
